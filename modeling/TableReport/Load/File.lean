import TableReport.Load.Csv.Table
import TableReport.Load.Json.Table
import TableReport.Load.Options
/-!
# Loading files

What stands at a path is loaded in the format that the options or else the extension determine.
-/
namespace TableReport

/-- What stands at a path. -/
inductive FileContent where
  | bytes (bs : List UInt8)
  | directory
  | workbook (w : Workbook)

namespace FileContent

/-- The table of a CSV file. The bytes of a workbook are no UTF-8 from the first field on. -/
def loadCsv (content : FileContent) (schema : Option Schema) : Except LoadError Table :=
  match content with
  | .bytes bs => Csv.loadTable bs schema
  | .directory => .error (.csv .isDirectory)
  | .workbook _ => .error (.csv (.notUtf8 ⟨0, 1, 0⟩ 0 0))

/-- The table of a JSON file. The bytes of a workbook are no UTF-8. -/
def loadJson (content : FileContent) (schema : Option Schema) : Except LoadError Table :=
  match content with
  | .bytes bs => match Text.decodeUtf8 bs with
    | .ok text => Json.loadTable text schema
    | .error _ => .error (.read .notUtf8)
  | .directory => .error (.read .isDirectory)
  | .workbook _ => .error (.read .notUtf8)

/-- The workbook of a workbook file. An extension that promises a container is taken at its word. -/
def readWorkbook (content : FileContent) (extension : String) : Except WorkbookFailure Workbook :=
  match content, Container.ofExtension? extension with
  | .workbook w, none => .ok w
  | .workbook w, some container => if w.container = container then .ok w else .error .undecodable
  | .directory, some _ => .error .isDirectory
  | .directory, none => .error .undecodable
  | .bytes _, _ => .error .undecodable

/-- The table of a workbook file. -/
def loadWorkbook (content : FileContent) (extension : String) (selection : SheetSelection)
    (schema : Option Schema) : Except LoadError Table := do
  let w ← (content.readWorkbook extension).mapError .workbook
  w.table selection schema

/-- The table of a file in a format. -/
def load (content : FileContent) (path : String) (options : LoadOptions) :
    Format → Except LoadError Table
  | .csv => content.loadCsv options.schema
  | .json => content.loadJson options.schema
  | .workbook => content.loadWorkbook (Path.extension path) options.sheets options.schema

end FileContent

/-- The format that an extension stands for. -/
def formatOfPath (path : String) : Except LoadError Format :=
  let extension := Path.extension path
  match Format.ofExtension? extension with
  | some format => .ok format
  | none => .error (.unsupportedFileType (if extension == "" then "(none)" else s!".{extension}"))

/-- What stands at a path, and its format. -/
def resolveFile (content : Option FileContent) (path : String) (options : LoadOptions) :
    Except LoadError (FileContent × Format) :=
  match content with
  | none => .error (.fileNotFound path)
  | some content => match options.format with
    | some format => .ok (content, format)
    | none => (formatOfPath path).map (content, ·)

/-- The table of the file at a path, given what stands there. -/
def loadFile (content : Option FileContent) (path : String) (options : LoadOptions) :
    Except LoadError Table := do
  let (content, format) ← resolveFile content path options
  content.load path options format

end TableReport

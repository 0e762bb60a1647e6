import TableReport.Load.File
/-!
# Folders of files

Files by their names, and the walk along a path from the folder they are in.
-/
namespace TableReport

/-- Files with the names on the way to each of them. A file makes all the directories on its way. -/
structure Folder where
  entries : List (List String × FileContent)

namespace Folder

/-- The folder of files with given relative names. -/
def ofFiles (files : List (String × FileContent)) : Folder :=
  ⟨files.map fun (name, content) => (Path.names name, content)⟩

/-- What stands at the end of a way of names from the folder. -/
def at? (f : Folder) (way : List String) : Option FileContent :=
  match f.entries.find? (·.1 == way) with
  | some (_, content) => some content
  | none =>
    if way.isEmpty || f.entries.any (fun (name, _) => way.isPrefixOf name) then some .directory
    else none

/-- Whether a directory stands at the end of a way. -/
def isDirectory (f : Folder) (way : List String) : Bool :=
  match f.at? way with
  | some .directory => true
  | _ => false

/-- The way to where the parts of a path lead, from where another way has led. Every part but the last
has to lead to a directory; two dots lead back, but never out of the folder. -/
def walk? (f : Folder) : List String → List String → Option (List String)
  | way, [] => some way
  | way, part :: parts =>
    if !f.isDirectory way then none
    else if part == "" || part == "." then f.walk? way parts
    else if part == ".." then (if way.isEmpty then none else f.walk? way.dropLast parts)
    else f.walk? (way ++ [part]) parts

/-- What stands at a path. Nothing stands at the empty path, nor at one that begins with a slash. -/
def find? (f : Folder) (path : String) : Option FileContent :=
  if path == "" || path.startsWith "/" then none
  else (f.walk? [] (Text.pieces '/' path)).bind f.at?

end Folder

end TableReport

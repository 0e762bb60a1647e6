import TableReport.Load.Json.Table
import TableReport.Proofs.Json.Following
import TableReport.Proofs.Outcome
import TableReport.Proofs.Text.Blank
/-!
# Objects on lines of their own

A text with one object on a line is loaded just as the array of these objects is. The text is tried as a
single value first: one object alone is one, and more of them are not, since what follows the first one
is not blank. Then the lines are read, where blank ones do not count.
-/
namespace TableReport.Json

open Text

/-- What a line holds: nothing if it is blank, or the value that its text denotes when blanks around it are
left out. A carriage return before the end of the line is such a blank. -/
inductive Line (line : List Char) : List Json → Prop
  | blank (h : AllBlank line) : Line line []
  | value {v : Json} (h : parse? (String.ofList (trimChars line)) = some v) : Line line [v]

/-- A text that has given values on lines of their own, in order, with any blank lines among them. -/
inductive OnLines : List Char → List Json → Prop
  | last {line : List Char} {values : List Json} (one_line : '\n' ∉ line) (h : Line line values) :
    OnLines line values
  | next {line rest : List Char} {values more : List Json} (one_line : '\n' ∉ line)
    (h : Line line values) (hrest : OnLines rest more) :
    OnLines (line ++ '\n' :: rest) (values ++ more)

variable {line cs : List Char} {values more : List Json} {v : Json}

namespace Line

theorem allBlank_iff (h : Line line values) : AllBlank line ↔ values = [] := by
  cases h with
  | blank h => exact iff_of_true h rfl
  | value h =>
    refine iff_of_false (fun hline => ?_) (List.cons_ne_nil _ _)
    rw [trimChars_eq_nil_iff.2 hline] at h
    exact Option.some_ne_none _ (h.symm.trans parse?_nil)

theorem of_trimChars_eq (h : Line line values) {line' : List Char}
    (htrim : trimChars line' = trimChars line) : Line line' values := by
  cases h with
  | blank h =>
    refine .blank ?_
    rwa [← trimChars_eq_nil_iff, htrim, trimChars_eq_nil_iff]
  | value h =>
    refine .value ?_
    rwa [htrim]

end Line

theorem allBlank_line_end {rest : List Char} : AllBlank ('\n' :: rest) ↔ AllBlank rest := by
  rw [AllBlank, List.forall_mem_cons]
  exact and_iff_right (by decide)

namespace OnLines

theorem allBlank_iff (h : OnLines cs values) : AllBlank cs ↔ values = [] := by
  induction h with
  | last one_line h => exact h.allBlank_iff
  | @next line rest values more one_line h hrest ih =>
    rw [AllBlank, List.forall_mem_append, ← AllBlank, ← AllBlank, allBlank_line_end, h.allBlank_iff,
      ih, List.append_eq_nil_iff]

theorem trimLeft (h : OnLines cs values) : OnLines (trimLeft cs) values := by
  induction h with
  | @last line values one_line h =>
    exact .last (not_mem_trimLeft one_line) (h.of_trimChars_eq (trimChars_trimLeft line))
  | @next line rest values more one_line h hrest ih =>
    by_cases hline : AllBlank line
    · rw [h.allBlank_iff.1 hline, List.nil_append, List.append_cons,
        trimLeft_append_of_allBlank (hline.append (allBlank_line_end.2 (List.forall_mem_nil _)))]
      exact ih
    · rw [trimLeft_append hline]
      exact .next (not_mem_trimLeft one_line) (h.of_trimChars_eq (trimChars_trimLeft line)) hrest

theorem rdropWhile (h : OnLines cs values) : OnLines (cs.rdropWhile isBlank) values := by
  induction h with
  | @last line values one_line h =>
    exact .last (not_mem_rdropWhile one_line) (h.of_trimChars_eq (trimChars_rdropWhile line))
  | @next line rest values more one_line h hrest ih =>
    by_cases hblank : AllBlank rest
    · rw [hrest.allBlank_iff.1 hblank, List.append_nil,
        rdropWhile_append_of_allBlank (allBlank_line_end.2 hblank)]
      exact .last (not_mem_rdropWhile one_line) (h.of_trimChars_eq (trimChars_rdropWhile line))
    · rw [List.append_cons, rdropWhile_append hblank, ← List.append_cons]
      exact .next one_line h ih

/-- Blanks around the whole text do not count. -/
theorem trimChars (h : OnLines cs values) : OnLines (trimChars cs) values := h.trimLeft.rdropWhile

/-- The first value, on its line. What comes after the line is blank unless there are more values. -/
theorem exists_first (h : OnLines cs (v :: more)) : ∃ before line after,
    cs = before ++ (line ++ after) ∧ AllBlank before ∧
      parse? (String.ofList (Text.trimChars line)) = some v ∧ (AllBlank after ↔ more = []) := by
  generalize hvalues : v :: more = values at h
  induction h with
  | @last line values one_line h =>
    cases h with
    | blank => cases hvalues
    | value h =>
      obtain ⟨rfl, rfl⟩ := List.cons.inj hvalues
      exact ⟨[], line, [], by simp, List.forall_mem_nil _, h, iff_of_true (List.forall_mem_nil _) rfl⟩
  | @next line rest values more' one_line h hrest ih =>
    cases h with
    | blank h =>
      obtain ⟨before, line', after, rfl, hbefore, hv, hafter⟩ := ih hvalues
      refine ⟨line ++ '\n' :: before, line', after, by simp, ?_, hv, hafter⟩
      exact h.append (allBlank_line_end.2 hbefore)
    | value h =>
      obtain ⟨rfl, rfl⟩ := List.cons.inj hvalues
      exact ⟨[], line, '\n' :: rest, rfl, List.forall_mem_nil _, h,
        allBlank_line_end.trans hrest.allBlank_iff⟩

theorem parse?_single (h : OnLines cs [v]) :
    parse? (String.ofList (Text.trimChars cs)) = some v := by
  obtain ⟨before, line, after, rfl, hbefore, hv, hafter⟩ := h.exists_first
  rwa [trimChars_append_left hbefore, trimChars_append_right (hafter.2 rfl)]

theorem isBlank_of_isSpace {c : Char} (h : isSpace c = true) : isBlank c = true := by
  simp only [isSpace, Bool.or_eq_true, beq_iff_eq] at h
  rcases h with ((rfl | rfl) | rfl) | rfl <;> decide

/-- Two objects or more are not one value. -/
theorem parse?_several {members : Members} (h : OnLines cs (.object members :: more)) (hmore : more ≠ []) :
    parse? (String.ofList (Text.trimChars cs)) = none := by
  obtain ⟨before, line, after, rfl, hbefore, hv, hafter⟩ := h.exists_first
  have hline : ¬ AllBlank line := fun hblank =>
    List.cons_ne_nil _ _ ((Line.value hv).allBlank_iff.1 hblank)
  have htail : ¬ AllBlank after := mt hafter.1 hmore
  obtain ⟨between, -, hbetween⟩ := exists_rdropWhile (Text.trimLeft line)
  have htrim : Text.trimChars (before ++ (line ++ after)) =
      Text.trimChars line ++ (between ++ after.rdropWhile isBlank) := by
    rw [trimChars_append_left hbefore, trimChars_eq, trimLeft_append hline, rdropWhile_append htail,
      trimChars_eq, ← List.append_assoc, ← hbetween]
  rw [htrim]
  refine parse?_append_eq_none hv fun hspace => htail ?_
  obtain ⟨blanks, hblanks, hsplit⟩ := exists_rdropWhile after
  rw [hsplit]
  refine AllBlank.append (fun c hc => isBlank_of_isSpace ?_) hblanks
  exact List.dropWhile_eq_nil_iff.1 hspace c (List.mem_append_right between hc)

end OnLines

/-! ### Reading line by line -/

/-- The value of a numbered line. -/
def lineValue (line : String × Nat) : Except ShapeProblem Json :=
  match parse? line.1 with
  | some v => .ok v
  | none => .error (.invalidLine line.2)

/-- The values of numbered lines, blank ones left out. -/
def lineValues (lines : List (String × Nat)) : Except ShapeProblem (List Json) :=
  (lines.filter (·.1 != "")).mapM lineValue

theorem readLines_eq (s : String) :
    readLines s = lineValues (((splitOn (· == '\n') s.toList).map (trim ∘ String.ofList)).zipIdx 1) := by
  rw [readLines, pieces, List.map_map]
  rfl

theorem lineValues_cons (h : Line line values) {number : Nat} {lines : List (String × Nat)}
    (hlines : lineValues lines = .ok more) :
    lineValues ((trim (String.ofList line), number) :: lines) = .ok (values ++ more) := by
  unfold lineValues at hlines ⊢
  rw [trim, String.toList_ofList]
  cases h with
  | blank h =>
    rw [trimChars_eq_nil_iff.2 h]
    exact hlines
  | @value v h =>
    have hne : String.ofList (trimChars line) ≠ "" := by
      intro hempty
      rw [hempty, parse?_nil] at h
      cases h
    rw [List.filter_cons_of_pos (by simpa using hne), List.mapM_cons, hlines, lineValue, h]
    rfl

theorem ne_lineEnd (h : '\n' ∉ line) : ∀ c ∈ line, (c == '\n') = false :=
  fun _ hc => beq_eq_false_iff_ne.2 fun heq => h (heq ▸ hc)

theorem OnLines.lineValues (h : OnLines cs values) (number : Nat) :
    lineValues (((splitOn (· == '\n') cs).map (trim ∘ String.ofList)).zipIdx number) =
      .ok values := by
  induction h generalizing number with
  | @last line values one_line h =>
    rw [splitOn_eq_singleton (ne_lineEnd one_line)]
    rw [← List.append_nil values]
    exact lineValues_cons h rfl
  | @next line rest values more one_line h hrest ih =>
    rw [splitOn_append_cons (ne_lineEnd one_line) rfl]
    exact lineValues_cons h (ih (number + 1))

theorem OnLines.readRecords {s : String} {members : Members} {objects : List Json}
    (h : OnLines s.toList (.object members :: objects)) :
    readRecords s = .ok (.object members :: objects) := by
  have hne : trim s ≠ "" := fun hempty =>
    List.cons_ne_nil _ _ (h.allBlank_iff.1 (trim_eq_empty_iff.1 hempty))
  unfold Json.readRecords
  dsimp only
  rw [if_neg (by simpa using hne)]
  cases objects with
  | nil =>
    rw [trim, h.parse?_single]
  | cons v objects =>
    rw [trim, h.parse?_several (List.cons_ne_nil _ _)]
    dsimp only
    rw [readLines_eq, String.toList_ofList]
    exact h.trimChars.lineValues 1

theorem readRecords_of_list {s : String} {items : List Json} (h : parse? (trim s) = some (.list items)) :
    readRecords s = .ok items := by
  have hne : trim s ≠ "" := by
    intro hempty
    rw [hempty, parse?_nil] at h
    cases h
  unfold readRecords
  dsimp only
  rw [if_neg (by simpa using hne), h]

/-- Objects on lines of their own and the array of the same objects give the same table, or fail in the
same way. -/
theorem lines_load_as_array {lines array : String} {objects : List Members} (hne : objects ≠ [])
    (hlines : OnLines lines.toList (objects.map .object))
    (harray : parse? (trim array) = some (.list (objects.map .object))) (schema : Option Schema) :
    loadTable lines schema = loadTable array schema := by
  obtain ⟨members, objects, rfl⟩ := List.exists_cons_of_ne_nil hne
  have hrecords := readRecords_of_list harray
  rw [List.map_cons] at hlines
  rw [loadTable, loadTable, hlines.readRecords, hrecords, List.map_cons]

/-- Two objects with blank lines and carriage returns around them, and an array on two lines. -/
theorem lines_load_as_array_of_two :
    let lines := "\n \x7b\"a\":\"x\"\x7d \r\n\t\r\n\x7b\"a\":null\x7d"
    let array := "[\x7b\"a\":\"x\"\x7d,\n\x7b\"a\":null\x7d]"
    loadTable lines none = loadTable array none := by
  intro lines array
  let first := ['\x7b', '"', 'a', '"', ':', '"', 'x', '"', '\x7d']
  let second := ['\x7b', '"', 'a', '"', ':', 'n', 'u', 'l', 'l', '\x7d']
  let objects : List Members := [[("a", .text "x")], [("a", .null)]]
  have hfirst : Line (' ' :: first ++ [' ', '\r']) [.object [("a", .text "x")]] :=
    .value (parse?_of_chars (by decide +kernel : _ = first) rfl)
  have hsecond : Line second [.object [("a", .null)]] :=
    .value (parse?_of_chars (by decide +kernel : _ = second) rfl)
  have htext : lines.toList = [] ++ '\n' :: (' ' :: first ++ [' ', '\r'] ++ '\n' ::
      (['\t', '\r'] ++ '\n' :: second)) := by decide +kernel
  have hlines : OnLines lines.toList (objects.map .object) := by
    rw [htext]
    refine .next (by decide) (.blank (by decide)) (.next (by decide) hfirst ?_)
    exact .next (by decide) (.blank (by decide)) (.last (by decide) hsecond)
  have harray : parse? (trim array) = some (.list (objects.map .object)) :=
    parse?_of_chars (by decide +kernel : _ = '[' :: first ++ [',', '\n'] ++ second ++ [']']) rfl
  exact lines_load_as_array (List.cons_ne_nil _ _) hlines harray none

end TableReport.Json

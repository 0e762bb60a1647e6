import Mathlib.Tactic.SplitIfs
import TableReport.Json.Printer
/-!
# Compact text is one line

Line ends inside quotes are escaped, and numbers and words have none, so the compact text of a value stands
on a line of its own.
-/
namespace TableReport

theorem lineEnd_not_mem_toDigits (n : Nat) : '\n' ∉ Nat.toDigits 10 n := by
  intro h
  have hdigit : ('\n' : Char).isDigit = true := Nat.isDigit_of_mem_toDigits (by decide) (by decide) h
  exact absurd hdigit (by decide)

theorem lineEnd_not_mem_toString (i : Int) : '\n' ∉ (toString i).toList := by
  rw [Int.toString_eq_repr, Int.repr_eq_if]
  split <;> simp [Nat.toList_repr, lineEnd_not_mem_toDigits]

namespace NumberLayout

variable (layout : NumberLayout) (d : Decimal)

theorem lineEnd_not_mem_positionalText : '\n' ∉ layout.positionalText d := by
  have hds : '\n' ∉ d.text := lineEnd_not_mem_toDigits d.digits
  unfold positionalText
  dsimp only
  split_ifs
  all_goals simp [hds, mt List.mem_of_mem_take hds, mt List.mem_of_mem_drop hds]

theorem lineEnd_not_mem_exponentText : '\n' ∉ layout.exponentText d := by
  have hds : '\n' ∉ d.text := lineEnd_not_mem_toDigits d.digits
  have hexponent := lineEnd_not_mem_toDigits d.leading.natAbs
  unfold exponentText
  dsimp only
  generalize d.text = ds at hds
  rcases ds with _ | ⟨c, _ | ⟨c', more⟩⟩
  all_goals
    split_ifs
    all_goals simp_all

theorem lineEnd_not_mem_decimalText : '\n' ∉ layout.decimalText d := by
  unfold decimalText
  split
  · exact layout.lineEnd_not_mem_positionalText d
  · split_ifs
    · exact layout.lineEnd_not_mem_positionalText d
    · exact layout.lineEnd_not_mem_exponentText d

end NumberLayout

theorem Binary64.lineEnd_not_mem_text (layout : NumberLayout) (x : Binary64) :
    '\n' ∉ (x.text layout).toList := by
  unfold Binary64.text
  split_ifs
  all_goals simp [NumberLayout.lineEnd_not_mem_decimalText]

namespace Json

theorem lineEnd_not_mem_controlDigits : ∀ n < 0x20, '\n' ∉ Nat.toDigits 16 n := by
  decide

theorem lineEnd_not_mem_escape (c : Char) : '\n' ∉ escape c := by
  unfold escape
  dsimp only
  split_ifs with hquote hslash hback htab hend hform hreturn hcontrol
  any_goals decide
  · have hdigits := lineEnd_not_mem_controlDigits _ hcontrol
    rw [List.mem_append, List.mem_append, not_or, not_or]
    exact ⟨⟨by decide, fun h => absurd (List.eq_of_mem_replicate h) (by decide)⟩, hdigits⟩
  · rw [List.mem_singleton]
    rintro rfl
    exact hend rfl

theorem lineEnd_not_mem_quote (s : String) : '\n' ∉ quote s := by
  simp [quote, lineEnd_not_mem_escape]

theorem lineEnd_not_mem_leafText (v : Json) : '\n' ∉ leafText v := by
  cases v with
  | int i => exact lineEnd_not_mem_toString i
  | float x =>
    simp only [leafText]
    split_ifs
    · exact x.lineEnd_not_mem_text .json
    · decide
  | text s => exact lineEnd_not_mem_quote s
  | bool v => cases v <;> decide
  | null => decide
  | list items | object members => simp [leafText]

mutual

theorem lineEnd_not_mem_compactChars : ∀ v : Json, '\n' ∉ v.compactChars
  | .list items => by simp [compactChars, lineEnd_not_mem_compactItems items]
  | .object members => by simp [compactChars, lineEnd_not_mem_compactMembers members]
  | .null | .bool _ | .int _ | .float _ | .text _ => by
    simpa only [compactChars] using lineEnd_not_mem_leafText _

theorem lineEnd_not_mem_compactItems : ∀ items : List Json, '\n' ∉ compactItems items
  | [] => by simp [compactItems]
  | [v] => lineEnd_not_mem_compactChars v
  | v :: w :: rest => by
    simp [compactItems, lineEnd_not_mem_compactChars v, lineEnd_not_mem_compactItems (w :: rest)]

theorem lineEnd_not_mem_compactMembers : ∀ members : List (String × Json),
    '\n' ∉ compactMembers members
  | [] => by simp [compactMembers]
  | [(name, v)] => by simp [compactMembers, lineEnd_not_mem_quote, lineEnd_not_mem_compactChars v]
  | (name, v) :: w :: rest => by
    simp [compactMembers, lineEnd_not_mem_quote, lineEnd_not_mem_compactChars v,
      lineEnd_not_mem_compactMembers (w :: rest)]

end

theorem lineEnd_not_mem_compact (v : Json) : '\n' ∉ v.compact.toList := by
  rw [compact, String.toList_ofList]
  exact v.lineEnd_not_mem_compactChars

end Json

end TableReport

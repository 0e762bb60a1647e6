import Mathlib.Tactic.SplitIfs
import TableReport.Json.Parser
/-!
# Text that follows a value

What is read from the front of a text is read just the same when more text follows, unless it is a number
that goes on. So an object with anything but blanks after it is no JSON text.
-/
namespace TableReport.Json

variable {cs more rest : List Char}

theorem skipSpace_append {c : Char} (h : skipSpace cs = c :: rest) :
    skipSpace (cs ++ more) = c :: (rest ++ more) := by
  unfold skipSpace at h ⊢
  rw [List.dropWhile_append, h, if_neg (by simp), List.cons_append]

/-! ### Texts -/

theorem expect?_append {word : List Char} (h : expect? word cs = some rest) :
    expect? word (cs ++ more) = some (rest ++ more) := by
  induction word generalizing cs with
  | nil =>
    obtain rfl := Option.some.inj h
    rfl
  | cons w word ih =>
    cases cs with
    | nil => cases h
    | cons c cs =>
      rw [expect?] at h
      rw [List.cons_append, expect?]
      split at h
      case isFalse => cases h
      case isTrue hw =>
        rw [if_pos hw]
        exact ih h

theorem word_append {word : List Char} {v w : Json}
    (h : (expect? word cs).map (v, ·) = some (w, rest)) :
    (expect? word (cs ++ more)).map (v, ·) = some (w, rest ++ more) := by
  obtain ⟨last, hlast, h⟩ := Option.map_eq_some_iff.1 h
  obtain ⟨rfl, rfl⟩ := Prod.mk.inj h
  rw [expect?_append hlast, Option.map_some]

theorem hexUnit?_append {n : Nat} (h : hexUnit? cs = some (n, rest)) :
    hexUnit? (cs ++ more) = some (n, rest ++ more) := by
  unfold hexUnit? at h
  split at h
  case h_2 => cases h
  case h_1 a b c d tail =>
    simp only [bind, Option.bind_eq_some_iff] at h
    obtain ⟨i, hi, j, hj, k, hk, l, hl, h⟩ := h
    obtain ⟨rfl, rfl⟩ := Prod.mk.inj (Option.some.inj h)
    simp [hexUnit?, hi, hj, hk, hl]

theorem escaped?_append {c : Char} (h : escaped? cs = some (c, rest)) :
    escaped? (cs ++ more) = some (c, rest ++ more) := by
  cases cs with
  | nil => cases h
  | cons d tail =>
    rw [List.cons_append]
    by_cases hd : d = 'u'
    · subst hd
      obtain ⟨⟨n, tail'⟩, hn, h⟩ := Option.bind_eq_some_iff.1 h
      refine Option.bind_eq_some_iff.2 ⟨(n, tail' ++ more), hexUnit?_append hn, ?_⟩
      dsimp only at h ⊢
      split_ifs at h ⊢
      · -- The first of a pair of surrogates: the second one has to come next.
        split at h
        case h_2 => cases h
        case h_1 pair =>
          obtain ⟨⟨low, last⟩, hlow, h⟩ := Option.bind_eq_some_iff.1 h
          refine Option.bind_eq_some_iff.2 ⟨(low, last ++ more), hexUnit?_append hlow, ?_⟩
          dsimp only at h ⊢
          split_ifs at h ⊢
          obtain ⟨rfl, rfl⟩ := Prod.mk.inj (Option.some.inj h)
          rfl
      · obtain ⟨rfl, rfl⟩ := Prod.mk.inj (Option.some.inj h)
        rfl
    · unfold escaped? at h ⊢
      simp only at h ⊢
      split_ifs at h ⊢
      all_goals
        obtain ⟨rfl, rfl⟩ := Prod.mk.inj (Option.some.inj h)
        rfl

theorem quotedChars?_append {fuel fuel' : Nat} {ds : List Char} (hfuel : fuel ≤ fuel')
    (h : quotedChars? fuel cs = some (ds, rest)) :
    quotedChars? fuel' (cs ++ more) = some (ds, rest ++ more) := by
  induction fuel generalizing fuel' cs ds with
  | zero => cases h
  | succ fuel ih =>
    obtain ⟨fuel', rfl⟩ := Nat.exists_eq_succ_of_ne_zero (Nat.ne_zero_of_lt hfuel)
    have hfuel := Nat.le_of_succ_le_succ hfuel
    cases cs with
    | nil => cases h
    | cons c tail =>
      rw [quotedChars?] at h
      rw [List.cons_append, quotedChars?]
      split at h
      case isTrue hquote =>
        obtain ⟨rfl, rfl⟩ := Prod.mk.inj (Option.some.inj h)
        rw [if_pos hquote]
      case isFalse hquote =>
        rw [if_neg hquote]
        split at h
        case isTrue hescape =>
          rw [if_pos hescape]
          obtain ⟨⟨d, after⟩, hd, h⟩ := Option.bind_eq_some_iff.1 h
          obtain ⟨⟨ds', last⟩, hds, h⟩ := Option.bind_eq_some_iff.1 h
          obtain ⟨rfl, rfl⟩ := Prod.mk.inj (Option.some.inj h)
          simp [escaped?_append hd, ih hfuel hds]
        case isFalse hescape =>
          rw [if_neg hescape]
          split at h
          case isTrue => cases h
          case isFalse hcontrol =>
            rw [if_neg hcontrol]
            obtain ⟨⟨ds', last⟩, hds, h⟩ := Option.bind_eq_some_iff.1 h
            obtain ⟨rfl, rfl⟩ := Prod.mk.inj (Option.some.inj h)
            simp [ih hfuel hds]

theorem readQuoted?_append {s : String} (h : readQuoted? cs = some (s, rest)) :
    readQuoted? (cs ++ more) = some (s, rest ++ more) := by
  obtain ⟨⟨ds, rest'⟩, hds, h⟩ := Option.map_eq_some_iff.1 h
  obtain ⟨rfl, rfl⟩ := Prod.mk.inj h
  rw [readQuoted?, quotedChars?_append (by simp) hds, Option.map_some]

/-! ### Numbers -/

theorem spanDigits_append (h : (spanDigits cs).2 ≠ []) :
    spanDigits (cs ++ more) = ((spanDigits cs).1, (spanDigits cs).2 ++ more) := by
  unfold spanDigits at h ⊢
  have hlength : (cs.takeWhile Char.isDigit).length ≠ cs.length := by
    intro heq
    apply h
    have hsum := congrArg List.length (List.takeWhile_append_dropWhile (p := Char.isDigit) (l := cs))
    rw [List.length_append] at hsum
    exact List.length_eq_zero_iff.1 (by dsimp only; omega)
  rw [List.dropWhile_append, List.takeWhile_append, if_neg hlength, if_neg (by simpa using h)]

/-- Something made of leading digits, of which there has to be one. -/
theorem digits_append {α : Type} (read : List Char → α) {a : α}
    (h : (if (spanDigits cs).1.isEmpty then none
      else some (read (spanDigits cs).1, (spanDigits cs).2)) = some (a, rest)) (hrest : rest ≠ []) :
    (if (spanDigits (cs ++ more)).1.isEmpty then none
      else some (read (spanDigits (cs ++ more)).1, (spanDigits (cs ++ more)).2)) =
      some (a, rest ++ more) := by
  split_ifs at h with hempty
  obtain ⟨rfl, rfl⟩ := Prod.mk.inj (Option.some.inj h)
  rw [spanDigits_append hrest, if_neg hempty]

theorem wholeDigits?_append {ds : List Char} (h : wholeDigits? cs = some (ds, rest))
    (hrest : rest ≠ []) : wholeDigits? (cs ++ more) = some (ds, rest ++ more) := by
  unfold wholeDigits? at h
  split at h
  case h_1 c tail =>
    split_ifs at h with hdigit
    obtain ⟨rfl, rfl⟩ := Prod.mk.inj (Option.some.inj h)
    simp [wholeDigits?, hdigit]
  case h_2 hzero =>
    unfold wholeDigits?
    split
    case h_1 c tail hcs =>
      -- A zero with nothing after it leaves nothing.
      exfalso
      cases cs with
      | nil => cases h
      | cons d tail' =>
        cases tail' with
        | nil =>
          obtain rfl : d = '0' := (List.cons.inj hcs).1
          exact hrest (Prod.mk.inj (Option.some.inj h)).2.symm
        | cons d' tail' =>
          obtain rfl : d = '0' := (List.cons.inj hcs).1
          exact hzero d' tail' rfl
    case h_2 => exact digits_append id h hrest

theorem fractionDigits?_append {ds : List Char} (h : fractionDigits? cs = some (ds, rest))
    (hrest : rest ≠ []) : fractionDigits? (cs ++ more) = some (ds, rest ++ more) := by
  cases cs with
  | nil => exact absurd (Prod.mk.inj (Option.some.inj h)).2.symm hrest
  | cons c tail =>
    by_cases hpoint : c = '.'
    · subst hpoint
      exact digits_append id h hrest
    · unfold fractionDigits? at h ⊢
      simp only [List.cons_append, List.cons.injEq, hpoint, false_and, imp_self, implies_true] at h ⊢
      obtain ⟨rfl, rfl⟩ := Prod.mk.inj (Option.some.inj h)
      rfl

/-- The exponent that digits after a sign stand for. -/
def exponentOf (negative : Bool) (ds : List Char) : Option Int :=
  some (if negative then -(digitsValue ds : Int) else digitsValue ds)

theorem exponentPart?_append {e : Option Int} (h : exponentPart? cs = some (e, rest))
    (hrest : rest ≠ []) : exponentPart? (cs ++ more) = some (e, rest ++ more) := by
  cases cs with
  | nil => exact absurd (Prod.mk.inj (Option.some.inj h)).2.symm hrest
  | cons c tail =>
    unfold exponentPart? at h ⊢
    dsimp only [List.cons_append] at h ⊢
    split at h
    case isFalse hletter =>
      obtain ⟨rfl, rfl⟩ := Prod.mk.inj (Option.some.inj h)
      rw [if_neg hletter, List.cons_append]
    case isTrue hletter =>
      rw [if_pos hletter]
      cases tail with
      | nil => cases h
      | cons d tail =>
        by_cases hminus : d = '-'
        · subst hminus
          exact digits_append (exponentOf true) h hrest
        · by_cases hplus : d = '+'
          · subst hplus
            exact digits_append (exponentOf false) h hrest
          · simp only [List.cons_append, List.cons.injEq, hminus, hplus, false_and, imp_self,
              implies_true] at h ⊢
            exact digits_append (exponentOf false) h hrest

theorem unsignedNumber?_append {negative : Bool} {v : Json}
    (h : unsignedNumber? negative cs = some (v, rest)) (hrest : rest ≠ []) :
    unsignedNumber? negative (cs ++ more) = some (v, rest ++ more) := by
  unfold unsignedNumber? at h ⊢
  obtain ⟨⟨whole, afterWhole⟩, hwhole, h⟩ := Option.bind_eq_some_iff.1 h
  obtain ⟨⟨fraction, afterFraction⟩, hfraction, h⟩ := Option.bind_eq_some_iff.1 h
  obtain ⟨⟨exponent, last⟩, hexponent, h⟩ := Option.bind_eq_some_iff.1 h
  have hlast : last = rest := by
    dsimp only at h
    split at h
    · exact (Prod.mk.inj (Option.some.inj h)).2
    · obtain ⟨x, -, h⟩ := Option.bind_eq_some_iff.1 h
      exact (Prod.mk.inj (Option.some.inj h)).2
  subst hlast
  -- The parts before leave something too.
  have hfractionRest : afterFraction ≠ [] := by
    rintro rfl
    exact hrest (Prod.mk.inj (Option.some.inj hexponent)).2.symm
  have hwholeRest : afterWhole ≠ [] := by
    rintro rfl
    exact hfractionRest (Prod.mk.inj (Option.some.inj hfraction)).2.symm
  rw [wholeDigits?_append hwhole hwholeRest]
  dsimp only [bind, Option.bind_some]
  rw [fractionDigits?_append hfraction hfractionRest]
  dsimp only [Option.bind_some]
  rw [exponentPart?_append hexponent hrest]
  dsimp only [Option.bind_some] at h ⊢
  split at h
  · obtain rfl := (Prod.mk.inj (Option.some.inj h)).1
    rfl
  · obtain ⟨x, hx, h⟩ := Option.bind_eq_some_iff.1 h
    obtain rfl := (Prod.mk.inj (Option.some.inj h)).1
    rw [hx]
    rfl

theorem number?_of_ne {c : Char} {tail : List Char} (h : c ≠ '-') :
    number? (c :: tail) = unsignedNumber? false (c :: tail) := by
  simp [number?, h]

theorem number?_append {v : Json} (h : number? cs = some (v, rest)) (hrest : rest ≠ []) :
    number? (cs ++ more) = some (v, rest ++ more) := by
  cases cs with
  | nil => cases h
  | cons c tail =>
    by_cases hsign : c = '-'
    · subst hsign
      exact unsignedNumber?_append h hrest
    · rw [number?_of_ne hsign] at h
      rw [List.cons_append, number?_of_ne hsign]
      exact unsignedNumber?_append h hrest

/-! ### Values -/

theorem value?_nil (fuel depth : Nat) : value? fuel depth [] = none := by
  cases fuel <;> rfl

theorem items?_nil (fuel depth : Nat) : items? fuel depth [] = none := by
  cases fuel <;> simp [items?, value?_nil]

theorem entries?_nil (fuel depth : Nat) : entries? fuel depth [] = none := by
  cases fuel <;> rfl

/-- What a first character other than a blank says about the value. -/
theorem value?_succ (fuel depth : Nat) (cs : List Char) :
    value? (fuel + 1) depth cs = match skipSpace cs with
      | [] => none
      | c :: rest =>
        if c = '"' then (readQuoted? rest).map fun (s, tail) => (.text s, tail)
        else if c = '[' then match depth with
          | 0 => none
          | depth + 1 => match skipSpace rest with
            | [] => none
            | d :: tail => if d = ']' then some (.list [], tail)
              else (items? fuel depth (d :: tail)).map fun (vs, after) => (.list vs, after)
        else if c = '\x7b' then match depth with
          | 0 => none
          | depth + 1 => match skipSpace rest with
            | [] => none
            | d :: tail => if d = '\x7d' then some (.object [], tail)
              else (entries? fuel depth (d :: tail)).map fun (ms, after) => (.ofPairs ms, after)
        else if c = 'n' then (expect? ['u', 'l', 'l'] rest).map (.null, ·)
        else if c = 't' then (expect? ['r', 'u', 'e'] rest).map (.bool true, ·)
        else if c = 'f' then (expect? ['a', 'l', 's', 'e'] rest).map (.bool false, ·)
        else number? (c :: rest) := by
  unfold value?
  cases hcs : skipSpace cs with
  | nil => rfl
  | cons c rest =>
    dsimp only
    split
    case h_1 h => cases h
    case h_2 tail h =>
      cases h
      rfl
    case h_3 tail h =>
      cases h
      cases depth with
      | zero => rfl
      | succ depth =>
        simp only [Char.reduceEq, if_true, if_false]
        cases htail : skipSpace rest with
        | nil => simp [items?_nil]
        | cons d tail =>
          by_cases hd : d = ']' <;> simp [hd]
    case h_4 tail h =>
      cases h
      cases depth with
      | zero => rfl
      | succ depth =>
        simp only [Char.reduceEq, if_true, if_false]
        cases htail : skipSpace rest with
        | nil => simp [entries?_nil]
        | cons d tail =>
          by_cases hd : d = '\x7d' <;> simp [hd]
    case h_5 c' tail hquote hlist hobject h =>
      cases h
      simp_all

theorem items?_succ (fuel depth : Nat) (cs : List Char) :
    items? (fuel + 1) depth cs = (value? fuel depth cs).bind fun (v, rest) =>
      match skipSpace rest with
      | [] => none
      | c :: tail =>
        if c = ',' then (items? fuel depth tail).bind fun (vs, after) => some (v :: vs, after)
        else if c = ']' then some ([v], tail)
        else none := by
  rw [items?]
  congr 1
  funext (v, rest)
  dsimp only
  cases skipSpace rest with
  | nil => rfl
  | cons c tail =>
    by_cases hcomma : c = ','
    · subst hcomma
      rfl
    · by_cases hend : c = ']' <;> simp [hcomma, hend]

theorem entries?_succ (fuel depth : Nat) (cs : List Char) :
    entries? (fuel + 1) depth cs = match skipSpace cs with
      | [] => none
      | c :: rest => if c = '"' then (readQuoted? rest).bind fun (name, tail) =>
          match skipSpace tail with
          | [] => none
          | d :: tail => if d = ':' then (value? fuel depth tail).bind fun (v, after) =>
              match skipSpace after with
              | [] => none
              | e :: more =>
                if e = ',' then (entries? fuel depth more).bind fun (ms, last) => some ((name, v) :: ms, last)
                else if e = '\x7d' then some ([(name, v)], more)
                else none
            else none
        else none := by
  rw [entries?]
  cases skipSpace cs with
  | nil => rfl
  | cons c rest =>
    by_cases hquote : c = '"'
    case neg => simp [hquote]
    subst hquote
    refine congrArg (Option.bind (readQuoted? rest)) (funext fun (name, tail) => ?_)
    dsimp only
    cases skipSpace tail with
    | nil => rfl
    | cons d tail =>
      by_cases hcolon : d = ':'
      case neg => simp [hcolon]
      subst hcolon
      refine congrArg (Option.bind (value? fuel depth tail)) (funext fun (v, after) => ?_)
      dsimp only
      cases skipSpace after with
      | nil => rfl
      | cons e more =>
        by_cases hcomma : e = ','
        · subst hcomma
          rfl
        · by_cases hend : e = '\x7d' <;> simp [hcomma, hend]

theorem members?_of_unsignedNumber {negative : Bool} {v : Json}
    (h : unsignedNumber? negative cs = some (v, rest)) : v.members? = none := by
  unfold unsignedNumber? at h
  obtain ⟨⟨whole, afterWhole⟩, -, h⟩ := Option.bind_eq_some_iff.1 h
  obtain ⟨⟨fraction, afterFraction⟩, -, h⟩ := Option.bind_eq_some_iff.1 h
  obtain ⟨⟨exponent, last⟩, -, h⟩ := Option.bind_eq_some_iff.1 h
  dsimp only at h
  split at h
  · obtain ⟨rfl, -⟩ := Prod.mk.inj (Option.some.inj h)
    unfold ofInteger
    split_ifs <;> rfl
  · obtain ⟨x, -, h⟩ := Option.bind_eq_some_iff.1 h
    obtain ⟨rfl, -⟩ := Prod.mk.inj (Option.some.inj h)
    rfl

theorem members?_of_number {v : Json} (h : number? cs = some (v, rest)) : v.members? = none := by
  unfold number? at h
  split at h
  all_goals exact members?_of_unsignedNumber h

/-- With some number of steps, or more, the same is read when more text follows. A number has to be
followed by something already. -/
structure Steady (fuel : Nat) : Prop where
  value : ∀ {fuel' depth cs more v rest}, fuel ≤ fuel' → value? fuel depth cs = some (v, rest) →
    (rest ≠ [] ∨ v.members?.isSome = true) → value? fuel' depth (cs ++ more) = some (v, rest ++ more)
  items : ∀ {fuel' depth cs more vs rest}, fuel ≤ fuel' → items? fuel depth cs = some (vs, rest) →
    items? fuel' depth (cs ++ more) = some (vs, rest ++ more)
  entries : ∀ {fuel' depth cs more ms rest}, fuel ≤ fuel' → entries? fuel depth cs = some (ms, rest) →
    entries? fuel' depth (cs ++ more) = some (ms, rest ++ more)

namespace Steady

variable {fuel fuel' depth : Nat}

theorem value_succ (h : Steady fuel) (hfuel : fuel ≤ fuel') {v : Json}
    (hv : value? (fuel + 1) depth cs = some (v, rest))
    (hrest : rest ≠ [] ∨ v.members?.isSome = true) :
    value? (fuel' + 1) depth (cs ++ more) = some (v, rest ++ more) := by
  rw [value?_succ] at hv ⊢
  cases hcs : skipSpace cs with
  | nil => simp [hcs] at hv
  | cons c tail =>
    rw [skipSpace_append hcs]
    rw [hcs] at hv
    dsimp only [List.cons_append] at hv ⊢
    split_ifs at hv ⊢
    · obtain ⟨⟨s, last⟩, hs, hv⟩ := Option.map_eq_some_iff.1 hv
      obtain ⟨rfl, rfl⟩ := Prod.mk.inj hv
      rw [readQuoted?_append hs, Option.map_some]
    · cases depth with
      | zero => cases hv
      | succ depth =>
        dsimp only at hv ⊢
        cases htail : skipSpace tail with
        | nil => simp [htail] at hv
        | cons d tail =>
          rw [skipSpace_append htail]
          rw [htail] at hv
          dsimp only [List.cons_append] at hv ⊢
          split_ifs at hv ⊢
          · obtain ⟨rfl, rfl⟩ := Prod.mk.inj (Option.some.inj hv)
            rfl
          · obtain ⟨⟨vs, last⟩, hvs, hv⟩ := Option.map_eq_some_iff.1 hv
            obtain ⟨rfl, rfl⟩ := Prod.mk.inj hv
            rw [← List.cons_append, h.items hfuel hvs, Option.map_some]
    · cases depth with
      | zero => cases hv
      | succ depth =>
        dsimp only at hv ⊢
        cases htail : skipSpace tail with
        | nil => simp [htail] at hv
        | cons d tail =>
          rw [skipSpace_append htail]
          rw [htail] at hv
          dsimp only [List.cons_append] at hv ⊢
          split_ifs at hv ⊢
          · obtain ⟨rfl, rfl⟩ := Prod.mk.inj (Option.some.inj hv)
            rfl
          · obtain ⟨⟨ms, last⟩, hms, hv⟩ := Option.map_eq_some_iff.1 hv
            obtain ⟨rfl, rfl⟩ := Prod.mk.inj hv
            rw [← List.cons_append, h.entries hfuel hms, Option.map_some]
    · exact word_append hv
    · exact word_append hv
    · exact word_append hv
    · refine number?_append hv (hrest.resolve_right ?_)
      simp [members?_of_number hv]

/-- Any value, a number too, when something other than blanks comes after it. -/
theorem value_append (h : Steady fuel) (hfuel : fuel ≤ fuel') {v : Json} {c : Char} {after : List Char}
    (hv : value? fuel depth cs = some (v, after)) (hafter : skipSpace after = c :: rest) :
    value? fuel' depth (cs ++ more) = some (v, after ++ more) := by
  have hne : after ≠ [] := by
    rintro rfl
    cases hafter
  exact h.value hfuel hv (.inl hne)

theorem items_succ (h : Steady fuel) (hfuel : fuel ≤ fuel') {vs : List Json}
    (hvs : items? (fuel + 1) depth cs = some (vs, rest)) :
    items? (fuel' + 1) depth (cs ++ more) = some (vs, rest ++ more) := by
  rw [items?_succ] at hvs ⊢
  obtain ⟨⟨v, after⟩, hv, hvs⟩ := Option.bind_eq_some_iff.1 hvs
  dsimp only at hvs
  cases hafter : skipSpace after with
  | nil => simp [hafter] at hvs
  | cons c tail =>
    rw [h.value_append hfuel hv hafter, Option.bind_some]
    dsimp only
    rw [skipSpace_append hafter]
    rw [hafter] at hvs
    dsimp only [List.cons_append] at hvs ⊢
    split_ifs at hvs ⊢
    · obtain ⟨⟨vs', last⟩, hvs', hvs⟩ := Option.bind_eq_some_iff.1 hvs
      obtain ⟨rfl, rfl⟩ := Prod.mk.inj (Option.some.inj hvs)
      rw [h.items hfuel hvs', Option.bind_some]
    · obtain ⟨rfl, rfl⟩ := Prod.mk.inj (Option.some.inj hvs)
      rfl

theorem entries_succ (h : Steady fuel) (hfuel : fuel ≤ fuel') {ms : List (String × Json)}
    (hms : entries? (fuel + 1) depth cs = some (ms, rest)) :
    entries? (fuel' + 1) depth (cs ++ more) = some (ms, rest ++ more) := by
  rw [entries?_succ] at hms ⊢
  cases hcs : skipSpace cs with
  | nil => simp [hcs] at hms
  | cons c tail =>
    rw [skipSpace_append hcs]
    rw [hcs] at hms
    dsimp only [List.cons_append] at hms ⊢
    split_ifs at hms ⊢
    obtain ⟨⟨name, afterName⟩, hname, hms⟩ := Option.bind_eq_some_iff.1 hms
    rw [readQuoted?_append hname, Option.bind_some]
    dsimp only at hms ⊢
    cases hcolon : skipSpace afterName with
    | nil => simp [hcolon] at hms
    | cons d tail =>
      rw [skipSpace_append hcolon]
      rw [hcolon] at hms
      dsimp only [List.cons_append] at hms ⊢
      split_ifs at hms ⊢
      obtain ⟨⟨v, after⟩, hv, hms⟩ := Option.bind_eq_some_iff.1 hms
      dsimp only at hms
      cases hafter : skipSpace after with
      | nil => simp [hafter] at hms
      | cons e tail =>
        rw [h.value_append hfuel hv hafter, Option.bind_some]
        dsimp only
        rw [skipSpace_append hafter]
        rw [hafter] at hms
        dsimp only [List.cons_append] at hms ⊢
        split_ifs at hms ⊢
        · obtain ⟨⟨ms', last⟩, hms', hms⟩ := Option.bind_eq_some_iff.1 hms
          obtain ⟨rfl, rfl⟩ := Prod.mk.inj (Option.some.inj hms)
          rw [h.entries hfuel hms', Option.bind_some]
        · obtain ⟨rfl, rfl⟩ := Prod.mk.inj (Option.some.inj hms)
          rfl

end Steady

theorem steady (fuel : Nat) : Steady fuel := by
  induction fuel with
  | zero => constructor <;> intros <;> contradiction
  | succ fuel ih =>
    constructor
    all_goals
      intro fuel' depth cs more result rest hfuel
      obtain ⟨fuel', rfl⟩ := Nat.exists_eq_succ_of_ne_zero (Nat.ne_zero_of_lt hfuel)
      have hfuel := Nat.le_of_succ_le_succ hfuel
    · exact ih.value_succ hfuel
    · exact ih.items_succ hfuel
    · exact ih.entries_succ hfuel

theorem parse?_nil : parse? "" = none := by
  decide +kernel

theorem parse?_of_chars {s : String} {v : Json} (hs : s.toList = cs)
    (hv : readValue? cs = some (v, [])) : parse? s = some v := by
  rw [parse?, hs, hv]
  rfl

/-- An object and something after it other than blanks are not one value. -/
theorem parse?_append_eq_none {members : Members}
    (h : parse? (String.ofList cs) = some (.object members)) (hmore : skipSpace more ≠ []) :
    parse? (String.ofList (cs ++ more)) = none := by
  obtain ⟨⟨v, rest⟩, hv, h⟩ := Option.bind_eq_some_iff.1 h
  dsimp only at h
  split_ifs at h with hrest
  obtain rfl := Option.some.inj h
  rw [String.toList_ofList] at hv
  have hlength : stepsFor cs.length ≤ stepsFor (cs ++ more).length := by
    simp only [stepsFor, List.length_append]
    omega
  have hread : readValue? (cs ++ more) = some (.object members, rest ++ more) :=
    (steady _).value hlength hv (.inr rfl)
  have hblank : skipSpace (rest ++ more) = skipSpace more := by
    unfold skipSpace at hrest ⊢
    rw [List.dropWhile_append, if_pos hrest]
  rw [parse?, String.toList_ofList, hread]
  dsimp only [bind, Option.bind_some]
  rw [hblank, if_neg (by simpa using hmore)]

end TableReport.Json

import Mathlib.Data.List.Forall2
import TableReport.Load.ObserverTree
import TableReport.Proofs.Json.OneLine
import TableReport.Proofs.Outcome
/-!
# What observers hear of a run of loads

A composite passes every notice to each of its parts, so a leaf hears the notices of a whole run just as if
it were the only observer, wherever it stands in a tree. A journal has a line for each of them.
-/
namespace TableReport

variable {ε δ : Type}

/-! ### Calls -/

namespace LoadCall

/-- What there is to tell of a call: its success with the size of the table, or its failure, and then an
alert if the failure is grave enough. -/
def ToldBy (c : LoadCall) (attempt : Attempt) (ns : List Notice) : Prop :=
  match c.result with
  | .ok t => ns = [.success attempt t.size t.schema.width]
  | .error e =>
    c.options.alertFrom.weight ≤ e.severity.weight ∧
        ns = [.failure attempt e.severity e, .alert attempt e.severity e] ∨
      e.severity.weight < c.options.alertFrom.weight ∧ ns = [.failure attempt e.severity e]

/-- The attempt that observers are told of. -/
def attempt (c : LoadCall) : Attempt := (Loading.ofFile c.content c.path c.options).attempt

theorem path_attempt (c : LoadCall) : c.attempt.path = c.path := by
  unfold attempt Loading.ofFile
  dsimp only
  split <;> rfl

theorem toldBy_notices (c : LoadCall) : c.ToldBy c.attempt c.notices := by
  unfold ToldBy notices Loading.notices
  cases hresult : c.result with
  | ok t =>
    have h : (Loading.ofFile c.content c.path c.options).result = .ok t := hresult
    rw [h]
    rfl
  | error e =>
    have h : (Loading.ofFile c.content c.path c.options).result = .error e := hresult
    rw [h]
    dsimp only
    split
    case isTrue hweight => exact .inl ⟨hweight, rfl⟩
    case isFalse hweight => exact .inr ⟨Nat.lt_of_not_le hweight, rfl⟩

end LoadCall

/-! ### Composites -/

namespace Observer

theorem hear_all (observers : List (Observer ε)) (n : Notice) :
    (Observer.all observers).hear n = observers.flatMap (·.hear n) := by
  cases n <;> rfl

theorem hear_map (f : ε → δ) (o : Observer ε) (n : Notice) : (o.map f).hear n = (o.hear n).map f := by
  cases n <;> rfl

/-- A run is heard notice by notice. -/
theorem overRun_eq (o : Observer ε) (calls : List LoadCall) :
    o.overRun calls = (calls.flatMap LoadCall.notices).flatMap o.hear := by
  rw [List.flatMap_assoc]
  rfl

end Observer

/-- The records that were made at a place. -/
def recordsAt (place : List Nat) (records : List (List Nat × ε)) : List ε :=
  records.filterMap fun r => if r.1 = place then some r.2 else none

theorem recordsAt_append (place : List Nat) (records more : List (List Nat × ε)) :
    recordsAt place (records ++ more) = recordsAt place records ++ recordsAt place more :=
  List.filterMap_append

theorem recordsAt_flatMap {α : Type} (place : List Nat) (f : α → List (List Nat × ε)) (as : List α) :
    recordsAt place (as.flatMap f) = as.flatMap fun a => recordsAt place (f a) := by
  induction as with
  | nil => rfl
  | cons a as ih =>
    rw [List.flatMap_cons, List.flatMap_cons, ← ih, recordsAt_append]

/-- Below a part, the records are those of the part. -/
theorem recordsAt_map_cons (i j : Nat) (place : List Nat) (records : List (List Nat × ε)) :
    recordsAt (j :: place) (records.map fun (place, r) => (i :: place, r)) =
      if i = j then recordsAt place records else [] := by
  unfold recordsAt
  rw [List.filterMap_map]
  split
  case isTrue h =>
    congr 1
    funext r
    simp [h]
  case isFalse h => simp [h]

namespace ObserverTree

variable {tree : ObserverTree ε} {place : List Nat} {o : Observer ε}

theorem recordsAt_placedFrom (n : Notice) (j : Nat) (place : List Nat) (parts : List (ObserverTree ε))
    (i : Nat) : recordsAt (j :: place) ((placedFrom i parts).flatMap (·.hear n)) =
      if i ≤ j then (parts[j - i]?).elim [] fun t => recordsAt place (t.placed.hear n) else [] := by
  induction parts generalizing i with
  | nil => simp [placedFrom, recordsAt]
  | cons t parts ih =>
    rw [placedFrom, List.flatMap_cons, recordsAt_append, ih, Observer.hear_map, recordsAt_map_cons]
    obtain hlt | rfl | hgt := Nat.lt_trichotomy i j
    · -- The part at the front is another one.
      have hindex : j - i = (j - (i + 1)) + 1 := by omega
      rw [if_neg (Nat.ne_of_lt hlt), if_pos (Nat.succ_le_of_lt hlt), if_pos (Nat.le_of_lt hlt), hindex,
        List.getElem?_cons_succ, List.nil_append]
    · rw [if_pos rfl, if_neg (Nat.not_succ_le_self i), if_pos (Nat.le_refl i), Nat.sub_self,
        List.append_nil]
      rfl
    · rw [if_neg (Nat.ne_of_gt hgt), if_neg (by omega), if_neg (Nat.not_le_of_lt hgt)]
      rfl

/-- A composite has no records of its own. -/
theorem recordsAt_nil_placedFrom (n : Notice) (parts : List (ObserverTree ε)) (i : Nat) :
    recordsAt [] ((placedFrom i parts).flatMap (·.hear n)) = [] := by
  induction parts generalizing i with
  | nil => rfl
  | cons t parts ih =>
    rw [placedFrom, List.flatMap_cons, recordsAt_append, ih, Observer.hear_map]
    simp [recordsAt, List.filterMap_map]

/-- A leaf makes the records of its observer, and no other records are made at its place. -/
theorem recordsAt_placed (n : Notice) (tree : ObserverTree ε) (place : List Nat) :
    recordsAt place (tree.placed.hear n) = (tree.leafAt? place).elim [] (·.hear n) := by
  induction place generalizing tree with
  | nil =>
    cases tree with
    | leaf o =>
      rw [placed, Observer.hear_map, recordsAt, List.filterMap_map]
      exact List.filterMap_some
    | all parts =>
      rw [placed, Observer.hear_all, recordsAt_nil_placedFrom]
      rfl
  | cons i place ih =>
    cases tree with
    | leaf o => simp [placed, Observer.hear_map, recordsAt, List.filterMap_map, leafAt?]
    | all parts =>
      rw [placed, Observer.hear_all, recordsAt_placedFrom, if_pos (Nat.zero_le i), leafAt?,
        Nat.sub_zero]
      cases parts[i]? with
      | none => rfl
      | some t => exact ih t

mutual

/-- Without their places, the records are those of the tree. -/
theorem map_placed (n : Notice) : ∀ tree : ObserverTree ε,
    (tree.placed.hear n).map Prod.snd = tree.observer.hear n
  | leaf o => by
    rw [placed, observer, Observer.hear_map, List.map_map]
    exact List.map_id _
  | all parts => by
    rw [placed, observer, Observer.hear_all, Observer.hear_all, map_placedFrom n 0 parts]

theorem map_placedFrom (n : Notice) (i : Nat) : ∀ parts : List (ObserverTree ε),
    ((placedFrom i parts).flatMap (·.hear n)).map Prod.snd = (observers parts).flatMap (·.hear n)
  | [] => rfl
  | t :: parts => by
    rw [placedFrom, observers, List.flatMap_cons, List.flatMap_cons, List.map_append, Observer.hear_map,
      List.map_map, map_placedFrom n (i + 1) parts, ← map_placed n t]
    rfl

end

theorem map_placed_overRun (tree : ObserverTree ε) (calls : List LoadCall) :
    (tree.placed.overRun calls).map Prod.snd = tree.observer.overRun calls := by
  rw [Observer.overRun_eq, Observer.overRun_eq, List.map_flatMap]
  simp only [map_placed]

theorem recordsAt_overRun (h : tree.leafAt? place = some o) (calls : List LoadCall) :
    recordsAt place (tree.placed.overRun calls) = o.overRun calls := by
  rw [Observer.overRun_eq, Observer.overRun_eq, recordsAt_flatMap]
  simp only [recordsAt_placed, h, Option.elim_some]

/-- Every record is that of some leaf. -/
theorem exists_leaf_of_mem {n : Notice} {r : List Nat × ε} (h : r ∈ tree.placed.hear n) :
    ∃ o, tree.leafAt? r.1 = some o ∧ r.2 ∈ o.hear n := by
  have hrecord : r.2 ∈ recordsAt r.1 (tree.placed.hear n) :=
    List.mem_filterMap.2 ⟨r, h, if_pos rfl⟩
  rw [recordsAt_placed] at hrecord
  cases hleaf : tree.leafAt? r.1 with
  | none =>
    rw [hleaf] at hrecord
    cases hrecord
  | some o =>
    rw [hleaf] at hrecord
    exact ⟨o, rfl, hrecord⟩

end ObserverTree

/-! ### Journals in files -/

/-- The entry about a notice. -/
def JournalEntry.ofNotice : Notice → JournalEntry
  | .success attempt rows columns =>
    { event := "ok", attempt := attempt, rows := rows, columns := columns }
  | .failure attempt severity error =>
    { event := "failure", attempt := attempt, severity := severity, error := error.message }
  | .alert attempt severity error =>
    { event := "alert", attempt := attempt, severity := severity, error := error.message }

theorem JournalEntry.lineEnd_not_mem_line (e : JournalEntry) (time : Nat) :
    '\n' ∉ (e.line time).toList :=
  Json.lineEnd_not_mem_compact _

theorem Observer.hear_journalIn (file : String) (n : Notice) :
    (Observer.journalIn file : Observer (LogRecord ε)).hear n = [.entry file (.ofNotice n)] := by
  cases n <;> rfl

/-- The entry that a record is for the journal in a file. -/
def LogRecord.entryIn? (file : String) : LogRecord ε → Option JournalEntry
  | .entry file' e => if file' = file then some e else none
  | .other _ => none

theorem LogRecord.entryIn?_self (file : String) (e : JournalEntry) :
    (LogRecord.entry file e : LogRecord ε).entryIn? file = some e := if_pos rfl

theorem LogRecord.entryIn?_of_ne {file file' : String} (h : file' ≠ file) (e : JournalEntry) :
    (LogRecord.entry file' e : LogRecord ε).entryIn? file = none := if_neg h

/-- The lines that are added to a file are those of the entries for it. -/
theorem Written.exists_lines {files files' : FileTexts} {records : List (LogRecord ε)}
    (h : Written files records files') (file : String) : ∃ lines : List String,
      List.Forall₂ (fun e line => ∃ time, line = JournalEntry.line e time)
        (records.filterMap (LogRecord.entryIn? file)) lines ∧
      (files' file).toList =
        (files file).toList ++ lines.flatMap fun line => line.toList ++ ['\n'] := by
  induction h with
  | done files => exact ⟨[], .nil, (List.append_nil _).symm⟩
  | @entry files files' other e records time rest ih =>
    obtain ⟨lines, hlines, htext⟩ := ih
    by_cases hfile : other = file
    · subst hfile
      refine ⟨e.line time :: lines, ?_, ?_⟩
      · rw [List.filterMap_cons_some (LogRecord.entryIn?_self _ e)]
        exact .cons ⟨time, rfl⟩ hlines
      · rw [htext, FileTexts.addLine, if_pos rfl]
        simp
    · refine ⟨lines, ?_, ?_⟩
      · rwa [List.filterMap_cons_none (LogRecord.entryIn?_of_ne hfile e)]
      · rw [htext, FileTexts.addLine, if_neg (Ne.symm hfile)]
  | other rest ih => exact ih

/-- Whatever the records are, they can be written. -/
theorem Written.exists_files (files : FileTexts) (records : List (LogRecord ε)) :
    ∃ files', Written files records files' := by
  induction records generalizing files with
  | nil => exact ⟨files, .done files⟩
  | cons r records ih =>
    cases r with
    | entry file e =>
      obtain ⟨files', h⟩ := ih (files.addLine file (e.line 0))
      exact ⟨files', .entry 0 h⟩
    | other r =>
      obtain ⟨files', h⟩ := ih files
      exact ⟨files', .other h⟩

namespace ObserverTree

variable {tree : ObserverTree (LogRecord ε)} {place : List Nat} {file : String}

/-- The journal in a file is kept by the leaf at a place, and no other leaf has entries for that file. -/
structure OnlyJournal (tree : ObserverTree (LogRecord ε)) (place : List Nat) (file : String) : Prop where
  leaf : tree.leafAt? place = some (.journalIn file)
  others : ∀ place' o, place' ≠ place → tree.leafAt? place' = some o →
    ∀ n e, LogRecord.entry file e ∉ o.hear n

theorem OnlyJournal.entries_hear (h : tree.OnlyJournal place file) (n : Notice) :
    (tree.observer.hear n).filterMap (LogRecord.entryIn? file) = [.ofNotice n] := by
  have hplace : ∀ r ∈ tree.placed.hear n, LogRecord.entryIn? file r.2 =
      (if r.1 = place then some r.2 else none).bind (LogRecord.entryIn? file) := by
    intro r hr
    split
    case isTrue => rfl
    case isFalse hne =>
      obtain ⟨o, ho, hmem⟩ := exists_leaf_of_mem hr
      cases hrecord : r.2 with
      | other => rfl
      | entry file' e =>
        refine LogRecord.entryIn?_of_ne (fun hfile => h.others r.1 o hne ho n e ?_) e
        rwa [← hfile, ← hrecord]
  rw [← map_placed, List.filterMap_map]
  calc (tree.placed.hear n).filterMap (LogRecord.entryIn? file ∘ Prod.snd)
      = (recordsAt place (tree.placed.hear n)).filterMap (LogRecord.entryIn? file) := by
        rw [recordsAt, List.filterMap_filterMap]
        exact List.filterMap_congr hplace
    _ = [.ofNotice n] := by
        rw [recordsAt_placed, h.leaf, Option.elim_some, Observer.hear_journalIn]
        exact List.filterMap_cons_some (LogRecord.entryIn?_self _ _)

theorem OnlyJournal.entries_overRun (h : tree.OnlyJournal place file) (calls : List LoadCall) :
    (tree.observer.overRun calls).filterMap (LogRecord.entryIn? file) =
      (calls.flatMap LoadCall.notices).map .ofNotice := by
  rw [Observer.overRun_eq, List.filterMap_flatMap]
  simp only [h.entries_hear]
  exact List.flatMap_pure_eq_map _ _

end ObserverTree

/-- Every leaf of a tree of observers hears the same notices of a run: one success or one failure for each
call, and after a failure that is grave enough one alert. A journal that nothing else writes to has one more
line for each notice, after all that was there before. -/
theorem leaves_hear_every_load (tree : ObserverTree (LogRecord ε)) (calls : List LoadCall) :
    ∃ heard : List (List Notice),
      List.Forall₂ (fun c ns => ∃ attempt : Attempt, attempt.path = c.path ∧ c.ToldBy attempt ns) calls
        heard ∧
      (tree.placed.overRun calls).map Prod.snd = tree.observer.overRun calls ∧
      (∀ place o, tree.leafAt? place = some o →
        recordsAt place (tree.placed.overRun calls) = o.hearAll heard.flatten) ∧
      ∀ place file, tree.OnlyJournal place file →
        ∀ files files', Written files (tree.observer.overRun calls) files' → ∃ lines : List String,
          List.Forall₂ (fun n line => '\n' ∉ line.toList ∧
            ∃ time, line = (JournalEntry.ofNotice n).line time) heard.flatten lines ∧
          (files' file).toList =
            (files file).toList ++ lines.flatMap fun line => line.toList ++ ['\n'] := by
  refine ⟨calls.map LoadCall.notices, ?_, tree.map_placed_overRun calls, ?_, ?_⟩
  · rw [List.forall₂_map_right_iff, List.forall₂_same]
    exact fun c _ => ⟨c.attempt, c.path_attempt, c.toldBy_notices⟩
  · intro place o ho
    rw [ObserverTree.recordsAt_overRun ho, Observer.overRun_eq, ← List.flatMap_def]
    rfl
  · intro place file h files files' hwritten
    obtain ⟨lines, hlines, htext⟩ := hwritten.exists_lines file
    rw [h.entries_overRun, List.forall₂_map_left_iff] at hlines
    rw [← List.flatMap_def]
    refine ⟨lines, hlines.imp ?_, htext⟩
    rintro n line ⟨time, rfl⟩
    exact ⟨JournalEntry.lineEnd_not_mem_line _ time, time, rfl⟩

/-- A file that is loaded and one that is missing, under a composite in a composite. -/
theorem leaves_hear_two_loads :
    let tree : ObserverTree (LogRecord Event) :=
      .all [.leaf (Observer.tracer.map .other), .all [.leaf (.journalIn "log")]]
    let calls : List LoadCall :=
      [⟨some (.bytes (Text.encodeUtf8 "a\n1\n2\n")), "t.csv", {}⟩, ⟨none, "none.csv", {}⟩]
    ∃ (later : FileTexts) (lines : List String) (first second : Attempt),
      Written (fun _ => "old\n") (tree.observer.overRun calls) later ∧
      List.Forall₂ (fun n line => '\n' ∉ line.toList ∧ ∃ time, line = (JournalEntry.ofNotice n).line time)
        [.success first 2 1, .failure second .critical (.fileNotFound "none.csv"),
          .alert second .critical (.fileNotFound "none.csv")] lines ∧
      (later "log").toList = "old\n".toList ++ lines.flatMap fun line => line.toList ++ ['\n'] := by
  intro tree calls
  have honly : tree.OnlyJournal [1, 0] "log" := by
    refine ⟨rfl, fun place' o hne ho n e hmem => ?_⟩
    match place', ho with
    | [0], ho =>
      obtain rfl := Option.some.inj ho
      rw [Observer.hear_map] at hmem
      obtain ⟨r, -, h⟩ := List.mem_map.1 hmem
      cases h
    | [1, 0], ho => exact hne rfl
  obtain ⟨heard, htold, -, -, hjournal⟩ := leaves_hear_every_load tree calls
  obtain ⟨later, hwritten⟩ := Written.exists_files (fun _ => "old\n") (tree.observer.overRun calls)
  obtain ⟨lines, hlines, htext⟩ := hjournal [1, 0] "log" honly _ later hwritten
  obtain ⟨_, _, ⟨first, -, hfirst⟩, hrest, rfl⟩ := List.forall₂_cons_left_iff.1 htold
  obtain ⟨_, _, ⟨second, -, hsecond⟩, hnone, rfl⟩ := List.forall₂_cons_left_iff.1 hrest
  obtain rfl := List.forall₂_nil_left_iff.1 hnone
  have hloaded : LoadCall.result ⟨some (.bytes (Text.encodeUtf8 "a\n1\n2\n")), "t.csv", {}⟩ =
      .ok ⟨⟨[⟨"a", .int64⟩]⟩, [[.int 1], [.int 2]]⟩ := by decide +kernel
  rw [LoadCall.ToldBy, hloaded] at hfirst
  obtain rfl := hfirst
  obtain ⟨-, rfl⟩ | ⟨hweight, -⟩ := hsecond
  · exact ⟨later, lines, first, second, hwritten, hlines, htext⟩
  · exact absurd hweight (by decide)

end TableReport

import TableReport.Proofs.Load.Grid
import TableReport.Proofs.Load.Missing
/-!
# What is read of a sheet

Blank rows above and below the cells of a sheet are not read, and neither are blank columns to the left
and to the right of them. Such a column has no name, so all columns with a name are read.
-/
namespace TableReport

theorem SheetCell.isEmpty_iff {c : SheetCell} : c.isEmpty = true ↔ c = .empty := by
  cases c <;> simp [isEmpty]

/-- A test that rejects everything outside a range of numbers keeps the same of the range alone. -/
theorem filter_map_range {β : Type} {f : Nat → β} {p : β → Bool} {first count bound : Nat}
    (hbound : first + count ≤ bound) (hbelow : ∀ i < first, p (f i) = false)
    (habove : ∀ i, first + count ≤ i → p (f i) = false) :
    ((List.range bound).map f).filter p = ((List.range' first count).map f).filter p := by
  obtain ⟨more, rfl⟩ := Nat.exists_eq_add_of_le hbound
  have hsplit : List.range (first + count + more) =
      List.range' 0 first ++ (List.range' first count ++ List.range' (first + count) more) := by
    have hstart := @List.range'_append_1 0 first (count + more)
    rw [Nat.zero_add] at hstart
    rw [List.range'_append_1, hstart, ← Nat.add_assoc, List.range_eq_range']
  have hbefore : ((List.range' 0 first).map f).filter p = [] := by
    simp only [List.filter_eq_nil_iff, List.mem_map, List.mem_range'_1]
    rintro _ ⟨i, ⟨-, hi⟩, rfl⟩
    simp [hbelow i (by omega)]
  have hafter : ((List.range' (first + count) more).map f).filter p = [] := by
    simp only [List.filter_eq_nil_iff, List.mem_map, List.mem_range'_1]
    rintro _ ⟨i, ⟨hi, -⟩, rfl⟩
    simp [habove i hi]
  simp only [hsplit, List.map_append, List.filter_append, hbefore, hafter, List.nil_append,
    List.append_nil]

namespace Sheet

variable {s : Sheet} {row : List SheetCell} {i : Nat}

theorem mem_rows_of_mem_usedRows (h : row ∈ s.usedRows) : row ∈ s.rows := by
  have hmem := (List.dropWhile_sublist _).subset (List.mem_reverse.1 h)
  exact (List.dropWhile_sublist _).subset (List.mem_reverse.1 hmem)

theorem leftEdge_le (hrow : row ∈ s.rows) (h : row.findIdx? (!SheetCell.isEmpty ·) = some i) :
    s.leftEdge ≤ i := by
  have hmem : i ∈ s.rows.filterMap fun row => row.findIdx? (!SheetCell.isEmpty ·) :=
    List.mem_filterMap.2 ⟨row, hrow, h⟩
  unfold leftEdge
  cases hmin : (s.rows.filterMap fun row => row.findIdx? (!SheetCell.isEmpty ·)).min? with
  | none => exact Nat.zero_le i
  | some first => exact (List.min?_eq_some_iff.1 hmin).2 i hmem

theorem rowEnd_le_rightEdge (hrow : row ∈ s.rows) : rowEnd row ≤ s.rightEdge := by
  have hmem : rowEnd row ∈ s.rows.map rowEnd := List.mem_map_of_mem hrow
  unfold rightEdge
  cases hmax : (s.rows.map rowEnd).max? with
  | none =>
    rw [List.max?_eq_none_iff.1 hmax] at hmem
    cases hmem
  | some last => exact (List.max?_eq_some_iff.1 hmax).2 _ hmem

/-- A cell that is not empty is not left of the left edge. -/
theorem getD_of_lt_leftEdge (hrow : row ∈ s.rows) (hi : i < s.leftEdge) :
    row.getD i .empty = .empty := by
  by_cases hlength : i < row.length
  case neg => simp [Nat.le_of_not_lt hlength]
  rw [List.getD_eq_getElem?_getD, List.getElem?_eq_getElem hlength, Option.getD_some,
    ← SheetCell.isEmpty_iff]
  by_contra hcell
  cases hfirst : row.findIdx? (!SheetCell.isEmpty ·) with
  | none =>
    have hempty := List.findIdx?_eq_none_iff.1 hfirst _ (List.getElem_mem hlength)
    simp [hcell] at hempty
  | some j =>
    obtain ⟨_, -, hbefore⟩ := List.findIdx?_eq_some_iff_getElem.1 hfirst
    have hj := leftEdge_le hrow hfirst
    exact hbefore i (by omega) (by simpa using hcell)

/-- The cells of a row after the last one that is not empty are. -/
theorem getD_of_rowEnd_le (h : rowEnd row ≤ i) : row.getD i .empty = .empty := by
  let kept := (row.reverse.dropWhile SheetCell.isEmpty).reverse
  let blank := (row.reverse.takeWhile SheetCell.isEmpty).reverse
  have hsplit : row = kept ++ blank := by
    rw [← List.reverse_append, List.takeWhile_append_dropWhile, List.reverse_reverse]
  have hkept : kept.length ≤ i := by simpa [kept, rowEnd] using h
  rw [hsplit, List.getD_eq_getElem?_getD, List.getElem?_append_right hkept]
  cases hcell : blank[i - kept.length]? with
  | none => rfl
  | some c =>
    have hmem := List.mem_reverse.1 (List.mem_of_getElem? hcell)
    exact SheetCell.isEmpty_iff.1 (List.mem_takeWhile_imp hmem)

/-- The rows of a sheet from the first that is not blank to the last, the first one being the header. -/
def asGrid (s : Sheet) : Grid SheetCell :=
  ⟨(s.usedRows.headD []).map SheetCell.headerText, s.usedRows.tail⟩

/-- What is read of these rows, where no blank columns stand on the left and on the right. -/
def readGrid (s : Sheet) : Grid SheetCell := ⟨s.headers, s.body⟩

section Columns

variable {names : List String} {header : List SheetCell} {rest : List (List SheetCell)}

/-- The name and the cells at a position. -/
def columnAt (header : List SheetCell) (rest : List (List SheetCell)) (i : Nat) :
    String × List SheetCell :=
  ((header.getD i .empty).headerText, rest.map (·.getD i .empty))

theorem columns_asGrid (h : s.usedRows = header :: rest) :
    s.asGrid.columns .empty = (List.range' 0 header.length).map (columnAt header rest) := by
  apply List.ext_getElem
  · simp [asGrid, h, Grid.columns]
  · intro i hi hi'
    have hlength : i < header.length := by simpa using hi'
    simp [asGrid, h, Grid.columns, Grid.column, columnAt, hlength]

theorem columns_readGrid (h : s.usedRows = header :: rest) : s.readGrid.columns .empty =
    (List.range' s.leftEdge (s.rightEdge - s.leftEdge)).map (columnAt header rest) := by
  apply List.ext_getElem
  · simp [readGrid, headers, grid, h, Grid.columns]
  · intro i hi hi'
    have hlength : i < s.rightEdge - s.leftEdge := by simpa using hi'
    simp [readGrid, headers, body, grid, h, Grid.columns, Grid.column, columnAt, hlength]

/-- The columns that are not read are blank, and so have no name. -/
theorem columnsNamed_readGrid (hnames : "" ∉ names) :
    s.readGrid.columnsNamed names .empty = s.asGrid.columnsNamed names .empty := by
  cases hused : s.usedRows with
  | nil => simp [readGrid, asGrid, headers, grid, hused, Grid.columnsNamed, Grid.columns]
  | cons header rest =>
    have hheader : header ∈ s.rows := mem_rows_of_mem_usedRows (hused ▸ List.mem_cons_self)
    have hblank : ∀ i, header.getD i .empty = .empty →
        decide ((columnAt header rest i).1 ∈ names) = false := by
      intro i hi
      have hname : SheetCell.empty.headerText = "" := by decide +kernel
      rw [columnAt, hi, hname]
      exact decide_eq_false hnames
    let bound := s.leftEdge + (s.rightEdge - s.leftEdge) + header.length
    rw [Grid.columnsNamed, Grid.columnsNamed, columns_asGrid hused, columns_readGrid hused,
      ← filter_map_range (show _ ≤ bound by omega), ← filter_map_range (show _ ≤ bound by omega)]
    · exact fun i hi => absurd hi i.not_lt_zero
    · intro i hi
      have hlength : header.length ≤ i := by omega
      exact hblank i (by simp [hlength])
    · exact fun i hi => hblank i (getD_of_lt_leftEdge hheader hi)
    · exact fun i hi => hblank i (getD_of_rowEnd_le ((rowEnd_le_rightEdge hheader).trans (by omega)))

end Columns

theorem grid_eq_nil_iff : s.grid = [] ↔ s.usedRows = [] := List.map_eq_nil_iff

theorem length_readGrid (s : Sheet) : s.readGrid.records.length = s.asGrid.records.length := by
  simp [readGrid, asGrid, body, Sheet.grid]

/-- Wanted cells are selected from what is read. -/
theorem select_some_eq (names : List String) (hheader : s.grid ≠ []) : s.select (some names) =
    ((findColumns s.headers names).map (s.readGrid.rows .empty (some s.name))).map (names, ·) := by
  rw [select_eq]
  cases hgrid : s.grid with
  | nil => exact absurd hgrid hheader
  | cons header body =>
    dsimp only [List.head?_cons, Option.getD_some]
    cases findColumns s.headers names <;> rfl

end Sheet

end TableReport

/-
Module: Occupancy.Proofs.SheetPlaces
Purpose: Where the cells of a sheet stand, and what they hold.
Main exports: Sheet.Cell.place, Sheet.map_place_layout, Sheet.place_eq_of_address_eq,
  Sheet.FirstAverage, Sheet.SheetFilled, Sheet.sheetFilled_of_layout
-/
import Mathlib
import Occupancy.Proofs.ColumnLabel
import Occupancy.Proofs.ReportAgreement

namespace Occupancy.Sheet

/-!
A sheet is laid out column by column, and the list of its places is known in advance
(`map_place_layout`): the first column leaves out the second row, and every other one has all rows
down to that of the averages. How many cells there are, and that no two stand in one place, is read
off this list.

An address tells the place as well. Its letters end where its digits begin, the letters tell the
column because labels are numerals without a zero, and the digits tell the row.
-/

/-! ### Places -/

/-- The place of a cell: its row and its column. -/
def Cell.place (cell : Cell) : Nat × Nat := (cell.row, cell.column)

/-- The rows from that of the first benchmark to that of the averages. -/
def lowerRows (benchmarks : List String) : List Nat :=
  (List.range (benchmarks.length + 1)).map (firstBenchmarkRow + ·)

/-- The places of a sheet, in the order in which it is laid out. -/
def places (runs : Nat) (benchmarks : List String) : List (Nat × Nat) :=
  (0 :: lowerRows benchmarks).map (·, 0) ++
    (List.range runs).flatMap fun i => (0 :: 1 :: lowerRows benchmarks).map (·, i + 1)

section Layout

variable {benchmarks : List String} {runs : List RunSummary} {cells : List Cell}

/-- A view of a list that shows of every item its index alone. -/
theorem map_mapIdx_of_index {α β γ : Type} {make : Nat → α → β} {view : β → γ} {index : Nat → γ}
    {items : List α} (shown : ∀ i, ∀ item ∈ items, view (make i item) = index i) :
    (items.mapIdx make).map view = (List.range items.length).map index := by
  apply List.ext_getElem
  · simp
  · intro i inMade inRange
    simp only [List.getElem_map, List.getElem_mapIdx, List.getElem_range]
    exact shown i _ (List.getElem_mem _)

theorem two_le_of_mem_lowerRows {row : Nat} (member : row ∈ lowerRows benchmarks) : 2 ≤ row := by
  obtain ⟨k, -, rfl⟩ := List.mem_map.mp member
  exact Nat.le_add_right _ _

theorem nodup_lowerRows (benchmarks : List String) : (lowerRows benchmarks).Nodup :=
  List.nodup_range.map fun _ _ same => Nat.add_left_cancel same

/-- The lower rows are those of the benchmarks and the one of the averages. -/
theorem lowerRows_eq (benchmarks : List String) :
    lowerRows benchmarks =
      (List.range benchmarks.length).map (firstBenchmarkRow + ·) ++ [averageRow benchmarks] := by
  rw [lowerRows, List.range_succ, List.map_append]
  rfl

theorem map_place_labelColumn (benchmarks : List String) :
    (labelColumn benchmarks).map Cell.place = (0 :: lowerRows benchmarks).map (·, 0) := by
  have names :
      (benchmarks.mapIdx fun i b => textCell (firstBenchmarkRow + i) 0 b false).map Cell.place =
        (List.range benchmarks.length).map fun i => (firstBenchmarkRow + i, 0) :=
    map_mapIdx_of_index fun _ _ _ => rfl
  simp only [labelColumn, lowerRows_eq, List.map_append, List.map_cons, names, List.map_map]
  rfl

theorem map_place_runColumn {column : Nat} {run : RunSummary} (averaged : run.average ≠ none) :
    (runColumn benchmarks column run).map Cell.place =
      (0 :: 1 :: lowerRows benchmarks).map (·, column) := by
  obtain ⟨x, average⟩ := Option.ne_none_iff_exists'.mp averaged
  have entries :
      (benchmarks.mapIdx fun j b =>
        numberCell (firstBenchmarkRow + j) column (cellAverage run b)).map Cell.place =
        (List.range benchmarks.length).map fun j => (firstBenchmarkRow + j, column) :=
    map_mapIdx_of_index fun _ _ _ => rfl
  simp only [runColumn, average, Option.toList_some, lowerRows_eq, List.map_append, List.map_cons,
    entries, List.map_map]
  rfl

/-- The places of a sheet that is laid out are known in advance. -/
theorem map_place_layout (fits : runs.length < columnLimit)
    (laidOut : layout runs benchmarks = .ok cells) :
    cells.map Cell.place = places runs.length benchmarks := by
  obtain ⟨averaged, rfl⟩ := (layout_eq_ok_iff fits).mp laidOut
  have columns :
      (runs.mapIdx fun i run => runColumn benchmarks (i + 1) run).map (List.map Cell.place) =
        (List.range runs.length).map fun i => (0 :: 1 :: lowerRows benchmarks).map (·, i + 1) :=
    map_mapIdx_of_index fun i run member => map_place_runColumn (averaged run member)
  rw [List.map_append, map_place_labelColumn, List.map_flatten, columns, ← List.flatMap_def,
    places]

theorem length_places (runs : Nat) (benchmarks : List String) :
    (places runs benchmarks).length =
      (benchmarks.length + 2) + runs * (benchmarks.length + 3) := by
  have lower : (lowerRows benchmarks).length = benchmarks.length + 1 := by simp [lowerRows]
  simp only [places, List.length_append, List.length_map, List.length_cons, lower,
    List.length_flatMap, List.map_const', List.length_range, List.sum_replicate, smul_eq_mul]

/-- No place comes twice: inside a column the rows are distinct, and every column has its own
number. -/
theorem nodup_places (runs : Nat) (benchmarks : List String) : (places runs benchmarks).Nodup := by
  have column (rows : List Nat) (nodup : rows.Nodup) (column : Nat) :
      (rows.map (·, column)).Nodup := nodup.map fun _ _ same => congrArg Prod.fst same
  have below : 0 ∉ lowerRows benchmarks ∧ 1 ∉ lowerRows benchmarks :=
    ⟨fun member => absurd (two_le_of_mem_lowerRows member) (by decide),
      fun member => absurd (two_le_of_mem_lowerRows member) (by decide)⟩
  -- The first column, each column of a run, two of those, and the first one against them.
  refine List.Nodup.append ?_ (List.nodup_flatMap.mpr ⟨?_, ?_⟩) ?_
  · exact column _ (List.nodup_cons.mpr ⟨below.1, nodup_lowerRows benchmarks⟩) 0
  · intro i _
    refine column _ ?_ (i + 1)
    simp [below, nodup_lowerRows]
  · refine List.pairwise_lt_range.imp fun {i k} before => ?_
    intro place first second
    obtain ⟨_, -, rfl⟩ := List.mem_map.mp first
    obtain ⟨_, -, same⟩ := List.mem_map.mp second
    have columns := congrArg Prod.snd same
    dsimp only at columns
    omega
  · intro place first second
    obtain ⟨_, -, rfl⟩ := List.mem_map.mp first
    obtain ⟨i, -, inColumn⟩ := List.mem_flatMap.mp second
    obtain ⟨_, -, same⟩ := List.mem_map.mp inColumn
    exact absurd (congrArg Prod.snd same) (Nat.succ_ne_zero i)

end Layout

/-! ### Addresses -/

/-- Letters in front of digits are told apart from them. -/
theorem columnLabel_append_repr_inj {column other row line : Nat}
    (same : columnLabel column ++ row.repr = columnLabel other ++ line.repr) :
    column = other ∧ row = line := by
  -- Which characters are letters splits every address in the same way.
  have split (column row : Nat) :
      (columnLabel column ++ row.repr).toList.filter (fun c => decide (IsLetter c)) =
        (columnLabel column).toList ∧
      (columnLabel column ++ row.repr).toList.filter (fun c => !decide (IsLetter c)) =
        row.repr.toList := by
    have letters : ∀ c ∈ (columnLabel column).toList, IsLetter c :=
      isLetter_of_mem_columnLabel column
    have digits : ∀ c ∈ row.repr.toList, ¬IsLetter c := by
      intro c member
      rw [Nat.toList_repr] at member
      have digit := Char.isDigit_iff_toNat.mp
        (Nat.isDigit_of_mem_toDigits (by decide) (by decide) member)
      rw [isLetter_iff]
      simp only [Char.reduceToNat] at digit
      omega
    rw [String.toList_append, List.filter_append, List.filter_append]
    refine ⟨?_, ?_⟩
    · rw [List.filter_eq_self.mpr (by simpa using letters),
        List.filter_eq_nil_iff.mpr (by simpa using digits), List.append_nil]
    · rw [List.filter_eq_nil_iff.mpr (by simpa using letters),
        List.filter_eq_self.mpr (by simpa using digits), List.nil_append]
  obtain ⟨letters, digits⟩ := split column row
  obtain ⟨letters', digits'⟩ := split other line
  rw [same] at letters digits
  exact ⟨columnLabel_injective (String.toList_inj.mp (letters.symm.trans letters')),
    Nat.repr_inj.mp (String.toList_inj.mp (digits.symm.trans digits'))⟩

/-- The cell as it is once its row has been put into a word of 32 bits and its column into one of
16. -/
def Cell.inWords (cell : Cell) : Cell :=
  { cell with row := (UInt32.ofNat cell.row).toNat, column := (UInt16.ofNat cell.column).toNat }

/-- The address of a cell if the row is counted from one in a word of 32 bits. -/
def Cell.addressInWords (cell : Cell) : String :=
  columnLabel (UInt16.ofNat cell.column).toNat ++ (UInt32.ofNat cell.row + 1).toNat.repr

/-- The address tells the place. -/
theorem place_eq_of_address_eq {cell other : Cell} (same : cell.address = other.address) :
    cell.place = other.place := by
  obtain ⟨column, row⟩ := columnLabel_append_repr_inj same
  exact Prod.ext (Nat.succ.inj row) column

/-- So does the one in words if the cells fit into them, although the last row may count zero. -/
theorem place_eq_of_addressInWords_eq {cell other : Cell} (fits : cell.inWords = cell)
    (otherFits : other.inWords = other) (same : cell.addressInWords = other.addressInWords) :
    cell.place = other.place := by
  obtain ⟨column, row⟩ := columnLabel_append_repr_inj same
  have rows : UInt32.ofNat cell.row = UInt32.ofNat other.row :=
    (UInt32.add_left_inj 1).mp (UInt32.toNat_inj.mp row)
  rw [← fits, ← otherFits]
  exact Prod.ext (congrArg UInt32.toNat rows) column

/-- A view that tells the place is distinct on cells in distinct places. -/
theorem nodup_map_of_place {β : Type} {view : Cell → β} {cells : List Cell}
    (tells : ∀ cell ∈ cells, ∀ other ∈ cells, view cell = view other → cell.place = other.place)
    (nodup : (cells.map Cell.place).Nodup) : (cells.map view).Nodup := by
  refine (List.nodup_map_iff_inj_on nodup.of_map).mpr fun cell member other otherMember same => ?_
  exact List.inj_on_of_nodup_map nodup member otherMember
    (tells cell member other otherMember same)

/-! ### What the places hold -/

/-- What the first entry for a benchmark says, and zero if there is none. -/
inductive FirstAverage (benchmark : String) : List BenchmarkAverage → Float → Prop where
  | found (before after : List BenchmarkAverage) (entry : BenchmarkAverage)
      (first : ∀ earlier ∈ before, earlier.benchmark ≠ benchmark)
      (named : entry.benchmark = benchmark) :
      FirstAverage benchmark (before ++ entry :: after) entry.average
  | absent (entries : List BenchmarkAverage)
      (none : ∀ entry ∈ entries, entry.benchmark ≠ benchmark) :
      FirstAverage benchmark entries 0.0

theorem firstAverage_cellAverage (run : RunSummary) (benchmark : String) :
    FirstAverage benchmark run.benchmarks (cellAverage run benchmark) := by
  rw [cellAverage]
  cases found : run.benchmarks.find? (·.benchmark == benchmark) with
  | none =>
    rw [List.find?_eq_none] at found
    exact .absent _ fun entry member => by simpa using found entry member
  | some entry =>
    obtain ⟨named, before, after, split, first⟩ := List.find?_eq_some_iff_append.mp found
    rw [split]
    exact .found before after entry (fun earlier member => by simpa using first earlier member)
      (beq_iff_eq.mp named)

/-- What the cells hold of a run whose column is given. -/
structure ColumnFilled (cells : List Cell) (benchmarks : List String) (column : Nat)
    (run : RunSummary) : Prop where
  name : ⟨0, column, .text run.name, false⟩ ∈ cells
  label : ⟨1, column, .text "Occupancy", false⟩ ∈ cells
  entries : ∀ j benchmark, benchmarks[j]? = some benchmark →
    ∃ x, FirstAverage benchmark run.benchmarks x ∧ ⟨2 + j, column, .number x, false⟩ ∈ cells
  average : ∃ x, run.average = some x ∧
    ⟨benchmarks.length + 2, column, .number x, false⟩ ∈ cells

/-- The cells are those of a sheet of the runs: there are as many as it has, in distinct places
inside of it, with distinct addresses, and each of its places holds what it should. -/
structure SheetFilled (cells : List Cell) (runs : List RunSummary) (benchmarks : List String) :
    Prop where
  count : cells.length = (benchmarks.length + 2) + runs.length * (benchmarks.length + 3)
  places : (cells.map Cell.place).Nodup
  addresses : (cells.map Cell.address).Nodup
  addressesInWords : (cells.map Cell.addressInWords).Nodup
  bounded : ∀ cell ∈ cells, cell.row ≤ benchmarks.length + 2 ∧ cell.column ≤ 16383
  inWords : ∀ cell ∈ cells, cell.inWords = cell
  bold : ∀ cell ∈ cells, cell.bold = true ↔
    cell.place = (0, 0) ∨ cell.place = (benchmarks.length + 2, 0)
  corner : ⟨0, 0, .text "Benchmarks", true⟩ ∈ cells
  labels : ∀ j benchmark, benchmarks[j]? = some benchmark →
    ⟨2 + j, 0, .text benchmark, false⟩ ∈ cells
  foot : ⟨benchmarks.length + 2, 0, .text "Average", true⟩ ∈ cells
  columns : ∀ i run, runs[i]? = some run → ColumnFilled cells benchmarks (i + 1) run

section Filled

variable {benchmarks : List String} {runs : List RunSummary} {cells : List Cell}

theorem averageRow_eq (benchmarks : List String) : averageRow benchmarks = benchmarks.length + 2 :=
  Nat.add_comm _ _

/-- The only bold cells are the first one and the last one of the labels. -/
theorem bold_of_mem_labelColumn {cell : Cell} (member : cell ∈ labelColumn benchmarks) :
    cell.bold = true ↔ cell.place = (0, 0) ∨ cell.place = (averageRow benchmarks, 0) := by
  rw [labelColumn, List.mem_append, List.mem_cons, List.mem_mapIdx, List.mem_singleton] at member
  rcases member with (rfl | ⟨i, bound, rfl⟩) | rfl
  · simp [textCell, Cell.place]
  · simp only [textCell, Cell.place, averageRow, firstBenchmarkRow, Prod.mk.injEq,
      Bool.false_eq_true, false_iff]
    omega
  · simp [textCell, Cell.place]

theorem bold_of_mem_runColumn {column : Nat} {run : RunSummary} {cell : Cell}
    (member : cell ∈ runColumn benchmarks column run) : cell.bold = false := by
  rw [runColumn, List.mem_append, List.mem_cons, List.mem_cons, List.mem_mapIdx,
    List.mem_map] at member
  rcases member with (rfl | rfl | ⟨i, bound, rfl⟩) | ⟨x, -, rfl⟩ <;> rfl

theorem bold_of_layout (fits : runs.length < columnLimit)
    (laidOut : layout runs benchmarks = .ok cells) {cell : Cell} (member : cell ∈ cells) :
    cell.bold = true ↔ cell.place = (0, 0) ∨ cell.place = (averageRow benchmarks, 0) := by
  obtain ⟨-, rfl⟩ := (layout_eq_ok_iff fits).mp laidOut
  rcases List.mem_append.mp member with label | inRuns
  · exact bold_of_mem_labelColumn label
  · obtain ⟨column, columnMember, inColumn⟩ := List.mem_flatten.mp inRuns
    obtain ⟨i, bound, rfl⟩ := List.mem_mapIdx.mp columnMember
    have behind := (column_of_mem_runColumn inColumn).1
    simp only [bold_of_mem_runColumn inColumn, Cell.place, Prod.mk.injEq, Bool.false_eq_true,
      false_iff]
    omega

/-- The column of a run is filled wherever all its cells are. -/
theorem columnFilled_of_subset {column : Nat} {run : RunSummary} (averaged : run.average ≠ none)
    (subset : runColumn benchmarks column run ⊆ cells) :
    ColumnFilled cells benchmarks column run := by
  obtain ⟨x, average⟩ := Option.ne_none_iff_exists'.mp averaged
  refine ⟨subset ?_, subset ?_, fun j benchmark there => ?_, x, average, subset ?_⟩
  · exact List.mem_cons_self
  · exact List.mem_cons_of_mem _ List.mem_cons_self
  · obtain ⟨bound, rfl⟩ := List.getElem?_eq_some_iff.mp there
    refine ⟨_, firstAverage_cellAverage run _, subset ?_⟩
    refine List.mem_append_left _ (List.mem_cons_of_mem _ (List.mem_cons_of_mem _ ?_))
    exact List.mem_mapIdx.mpr ⟨j, bound, rfl⟩
  · rw [runColumn, average, ← averageRow_eq]
    exact List.mem_append_right _ List.mem_cons_self

theorem sheetFilled_of_layout (small : benchmarks.length + 2 < 2 ^ 32)
    (fits : runs.length < columnLimit) (laidOut : layout runs benchmarks = .ok cells) :
    SheetFilled cells runs benchmarks := by
  have placed := map_place_layout fits laidOut
  have places : (cells.map Cell.place).Nodup := placed ▸ nodup_places runs.length benchmarks
  have bounded : ∀ cell ∈ cells, cell.row ≤ benchmarks.length + 2 ∧ cell.column ≤ 16383 := by
    intro cell member
    obtain ⟨row, column⟩ := bounded_of_layout fits laidOut member
    rw [averageRow_eq] at row
    exact ⟨row, Nat.le_of_lt_succ (column.trans_lt fits)⟩
  have inWords : ∀ cell ∈ cells, cell.inWords = cell := by
    intro cell member
    obtain ⟨row, column⟩ := bounded cell member
    rw [Cell.inWords, UInt32.toNat_ofNat_of_lt' (row.trans_lt small),
      UInt16.toNat_ofNat_of_lt' (column.trans_lt (by decide))]
  obtain ⟨averaged, rfl⟩ := (layout_eq_ok_iff fits).mp laidOut
  refine ⟨?_, places, ?_, ?_, bounded, inWords, ?_, ?_, ?_, ?_, ?_⟩
  · rw [← List.length_map Cell.place, placed, length_places]
  · exact nodup_map_of_place (fun _ _ _ _ same => place_eq_of_address_eq same) places
  · refine nodup_map_of_place (fun cell member other otherMember same => ?_) places
    exact place_eq_of_addressInWords_eq (inWords cell member) (inWords other otherMember) same
  · intro cell member
    rw [← averageRow_eq]
    exact bold_of_layout fits laidOut member
  · exact List.mem_append_left _ List.mem_cons_self
  · intro j benchmark there
    obtain ⟨bound, rfl⟩ := List.getElem?_eq_some_iff.mp there
    refine List.mem_append_left _ (List.mem_append_left _ (List.mem_cons_of_mem _ ?_))
    exact List.mem_mapIdx.mpr ⟨j, bound, rfl⟩
  · rw [← averageRow_eq]
    exact List.mem_append_left _ (List.mem_append_right _ List.mem_cons_self)
  · intro i run there
    obtain ⟨bound, rfl⟩ := List.getElem?_eq_some_iff.mp there
    refine columnFilled_of_subset (averaged _ (List.getElem_mem bound)) fun cell member => ?_
    refine List.mem_append_right _ (List.mem_flatten.mpr ⟨_, ?_, member⟩)
    exact List.mem_mapIdx.mpr ⟨i, bound, rfl⟩

end Filled

/-! ### Refusals -/

section Outcomes

variable {runs : List RunSummary} {benchmarks : List String}

/-- The runs are counted before anything else. -/
theorem layout_of_columnLimit_le (many : columnLimit ≤ runs.length) :
    layout runs benchmarks = .error (.tooManyRuns runs.length) := if_pos many

theorem lt_columnLimit_of_layout {cells : List Cell} (laidOut : layout runs benchmarks = .ok cells) :
    runs.length < columnLimit := by
  by_contra many
  rw [layout_of_columnLimit_le (Nat.le_of_not_lt many)] at laidOut
  cases laidOut

theorem layout_eq_tooManyRuns_iff {n : Nat} :
    layout runs benchmarks = .error (.tooManyRuns n) ↔
      columnLimit ≤ runs.length ∧ n = runs.length := by
  rcases Nat.lt_or_ge runs.length columnLimit with fits | many
  · rw [layout_eq_error_iff fits]
    refine iff_of_false ?_ fun many => absurd many.1 (Nat.not_le.mpr fits)
    rintro ⟨before, run, after, -, -, -, other⟩
    cases other
  · rw [layout_of_columnLimit_le many, Except.error.injEq, LayoutError.tooManyRuns.injEq, eq_comm]
    exact (and_iff_right many).symm

theorem layout_eq_noKernels_iff {name : String} :
    layout runs benchmarks = .error (.noKernels name) ↔
      runs.length < columnLimit ∧ ∃ before run after, runs = before ++ run :: after ∧
        (∀ earlier ∈ before, earlier.average ≠ none) ∧ run.average = none ∧ name = run.name := by
  rcases Nat.lt_or_ge runs.length columnLimit with fits | many
  · rw [layout_eq_error_iff fits, and_iff_right fits]
    simp only [LayoutError.noKernels.injEq]
  · rw [layout_of_columnLimit_le many]
    refine iff_of_false ?_ fun few => absurd few.1 (Nat.not_lt.mpr many)
    intro other
    cases other

theorem exists_layout_eq_ok_iff :
    (∃ cells, layout runs benchmarks = .ok cells) ↔
      runs.length < columnLimit ∧ ∀ run ∈ runs, run.average ≠ none := by
  constructor
  · rintro ⟨cells, laidOut⟩
    have fits := lt_columnLimit_of_layout laidOut
    exact ⟨fits, ((layout_eq_ok_iff fits).mp laidOut).1⟩
  · rintro ⟨fits, averaged⟩
    exact ⟨_, (layout_eq_ok_iff fits).mpr ⟨averaged, rfl⟩⟩

end Outcomes

end Occupancy.Sheet

/-
Module: Occupancy.Proofs.WorkbookCells
Purpose: What a workbook keeps of the cells of its sheet.
Main exports: Sheet.StoresGiven, Sheet.Stands, Sheet.stands_of_foldlM, Sheet.Keeps,
  Sheet.keeps_of_workbook, Sheet.layout_fills_sheet
-/
import Occupancy.Proofs.Folds
import Occupancy.Proofs.ReportRoundTrip
import Occupancy.Proofs.SheetPlaces

namespace Occupancy.Sheet

/-!
A workbook is written cell by cell, and a cell that is written to a place replaces what is there.
As no place comes twice, nothing is replaced: every cell stands where it was written, but for the
empty plain texts, which are not stored. That takes nothing from what writes the cells except that
it writes to the place of the cell and to no other (`StoresGiven`).

A number that is not finite is stored as a text. The numbers of a sheet of summaries are finite, since
averages are quotients of counts and there is no average of no kernels.
-/

/-! ### What is stored of a cell -/

/-- Whether the cell has an empty plain text. -/
def Cell.isBlank (cell : Cell) : Bool :=
  match cell.value with
  | .text text => text.isEmpty && !cell.bold
  | .number _ => false

/-- The cell as it is stored, with a text for a number that is not finite. -/
def Cell.asStored (cell : Cell) : Cell := { cell with value := storedValue cell.value }

/-- The number of the cell is finite, if it has one. -/
def Cell.Finite (cell : Cell) : Prop :=
  ∀ x, cell.value = .number x → x.isNaN = false ∧ x.isInf = false

theorem Cell.Finite.asStored_eq {cell : Cell} (finite : cell.Finite) : cell.asStored = cell := by
  obtain ⟨row, column, value, bold⟩ := cell
  cases value with
  | text _ => rfl
  | number x =>
    obtain ⟨number, bounded⟩ := finite x rfl
    simp only [Cell.asStored, storedValue, number, bounded]
    rfl

/-- A cell that can be stored is stored as a whole, unless it is an empty plain text. -/
theorem store_eq_ok {cell : Cell} {out : Option Cell} (stores : store cell = .ok out) :
    out = if cell.isBlank then none else some cell.asStored := by
  obtain ⟨row, column, value, bold⟩ := cell
  cases value with
  | text text =>
    simp only [store] at stores
    simp only [Cell.isBlank, Cell.asStored, storedValue]
    split at stores
    case isTrue blank =>
      cases stores
      exact (if_pos blank).symm
    case isFalse visible =>
      split at stores
      · cases stores
      · split at stores
        · cases stores
        · cases stores
          exact (if_neg visible).symm
  | number x =>
    simp only [store] at stores
    split at stores
    · cases stores
    · cases stores
      rfl

/-! ### Writing cells in turn -/

/-- What stands in each place of a sheet. -/
abbrev Standing := Nat × Nat → Option Cell

/-- What is stored is what is given: a cell is written to its place and to no other, as it is, except
that an empty plain text leaves the sheet as it was. Nothing is said of the place of a number that is
not finite. -/
structure StoresGiven {ε : Type} (put : Standing → Cell → Except ε Standing) : Prop where
  given : ∀ sheet cell next, put sheet cell = .ok next → cell.Finite →
    next cell.place = if cell.isBlank then sheet cell.place else some cell
  others : ∀ sheet cell next, put sheet cell = .ok next →
    ∀ place, place ≠ cell.place → next place = sheet place

/-- Every cell stands in its place, and nothing in any other. -/
structure Stands (cells : List Cell) (sheet : Standing) : Prop where
  own : ∀ cell ∈ cells, cell.Finite →
    sheet cell.place = if cell.isBlank then none else some cell
  nowhereElse : ∀ place, place ∉ cells.map Cell.place → sheet place = none

/-- If no place comes twice, no cell is overwritten. -/
theorem stands_of_foldlM {ε : Type} {put : Standing → Cell → Except ε Standing}
    (stores : StoresGiven put) {cells : List Cell} {sheet : Standing}
    (ran : cells.foldlM put (fun _ => none) = .ok sheet) (nodup : (cells.map Cell.place).Nodup) :
    Stands cells sheet := by
  -- The places of the cells that are written so far are distinct as long as all are.
  refine foldlM_invariant (fun done sheet => (done.map Cell.place).Nodup → Stands done sheet)
    ?_ ?_ ran nodup
  · intro done cell sheet next holds written nodup
    rw [List.map_append, List.map_singleton, List.nodup_append_comm, List.singleton_append,
      List.nodup_cons] at nodup
    obtain ⟨fresh, earlier⟩ := nodup
    have stood := holds earlier
    -- An earlier cell stands elsewhere, and nothing stood in the place of the last one.
    refine ⟨fun other member finite => ?_, fun place absent => ?_⟩
    · rcases List.mem_append.mp member with before | last
      · have ne : other.place ≠ cell.place := fun same => fresh (same ▸ List.mem_map_of_mem before)
        rw [stores.others _ _ _ written _ ne, stood.own other before finite]
      · obtain rfl := List.mem_singleton.mp last
        rw [stores.given _ _ _ written finite, stood.nowhereElse _ fresh]
    · rw [List.map_append, List.mem_append, not_or] at absent
      have ne : place ≠ cell.place := fun same => absent.2 (same ▸ List.mem_cons_self)
      rw [stores.others _ _ _ written _ ne, stood.nowhereElse _ absent.1]
  · exact fun _ => ⟨fun _ member => absurd member List.not_mem_nil, fun _ _ => rfl⟩

/-- Store a cell and let it replace what stands in its place. -/
def storeAt (sheet : Standing) (cell : Cell) : Except SheetError Standing := do
  let kept ← store cell
  return Function.update sheet cell.place (kept.or (sheet cell.place))

theorem storesGiven_storeAt : StoresGiven storeAt := by
  refine ⟨fun sheet cell next written finite => ?_, fun sheet cell next written place ne => ?_⟩
  · obtain ⟨kept, stores, rest⟩ := bind_eq_ok_iff.mp written
    cases rest
    rw [Function.update_self, store_eq_ok stores, finite.asStored_eq]
    cases cell.isBlank <;> rfl
  · obtain ⟨kept, stores, rest⟩ := bind_eq_ok_iff.mp written
    cases rest
    exact Function.update_of_ne ne ..

/-! ### Workbooks -/

/-- The stored cells are the given ones without the empty plain texts, each in a place of its own,
and a cell comes unchanged unless its number is not finite. -/
structure Keeps (cells stored : List Cell) : Prop where
  places : (stored.map Cell.place).Nodup
  asStored : stored.Perm ((cells.filter fun cell => !cell.isBlank).map Cell.asStored)
  unchanged : ∀ cell ∈ cells, cell.isBlank = false → cell.Finite → cell ∈ stored

/-- A loop that succeeds on every item gives what it gives on each. -/
theorem eq_map_of_mapM_ok {ε α β : Type} {f : α → Except ε β} {g : α → β}
    (each : ∀ item out, f item = .ok out → out = g item) {items : List α} {outs : List β}
    (ran : items.mapM f = .ok outs) : outs = items.map g := by
  induction items generalizing outs with
  | nil =>
    cases ran
    rfl
  | cons item items inductionHypothesis =>
    rw [List.mapM_cons] at ran
    obtain ⟨out, first, rest⟩ := bind_eq_ok_iff.mp ran
    obtain ⟨others, second, done⟩ := bind_eq_ok_iff.mp rest
    cases done
    rw [each item out first, inductionHypothesis second, List.map_cons]

theorem keeps_of_perm {cells stored : List Cell} (nodup : (cells.map Cell.place).Nodup)
    (perm : stored.Perm ((cells.filter fun cell => !cell.isBlank).map Cell.asStored)) :
    Keeps cells stored := by
  refine ⟨?_, perm, fun cell member visible finite => ?_⟩
  · refine (perm.map Cell.place).nodup_iff.mpr ?_
    rw [List.map_map]
    exact (List.filter_sublist.map Cell.place).nodup nodup
  · refine perm.mem_iff.mpr (List.mem_map.mpr ⟨cell, ?_, finite.asStored_eq⟩)
    exact List.mem_filter.mpr ⟨member, by rw [visible]; rfl⟩

theorem keeps_of_workbook {runs : List RunSummary} {benchmarks : List String}
    {cells stored : List Cell} (laidOut : layout runs benchmarks = .ok cells)
    (made : workbook runs benchmarks = .ok stored) (nodup : (cells.map Cell.place).Nodup) :
    Keeps cells stored := by
  rw [workbook, laidOut] at made
  obtain ⟨_, same, rest⟩ := bind_eq_ok_iff.mp made
  obtain ⟨outs, ran, done⟩ := bind_eq_ok_iff.mp rest
  cases same
  cases done
  refine keeps_of_perm nodup ((List.mergeSort_perm _ _).trans (List.Perm.of_eq ?_))
  rw [eq_map_of_mapM_ok (fun _ _ => store_eq_ok) ran, List.filterMap_map, ← List.filterMap_eq_map,
    List.filterMap_filter]
  refine List.filterMap_congr fun cell _ => ?_
  cases blank : cell.isBlank <;> simp [blank]

/-! ### Sheets of summaries -/

/-- Averages are finite. -/
theorem finite_of_isAverage {x : Float} (average : Json.IsAverage x) :
    x.isNaN = false ∧ x.isInf = false := by
  rcases average with rfl | ⟨m, e, double, -, -⟩
  · decide
  · refine ⟨?_, double.isInf⟩
    obtain ⟨pos, unpacked⟩ := double.unpack
    change x.toModel.unpack.isNaN = false
    rw [unpacked]
    rfl

section Summaries

variable {s : Store} {cells : List Cell} {cell : Cell}

/-- The numbers of a sheet are averages of its runs, or zeros. -/
theorem number_of_layout {runs : List RunSummary} {benchmarks : List String}
    (fits : runs.length < columnLimit) (laidOut : layout runs benchmarks = .ok cells)
    (member : cell ∈ cells) {x : Float} (number : cell.value = .number x) :
    x = 0.0 ∨ ∃ run ∈ runs, x ∈ run.averages := by
  obtain ⟨-, rfl⟩ := (layout_eq_ok_iff fits).mp laidOut
  rcases List.mem_append.mp member with label | inRuns
  · rw [labelColumn, List.mem_append, List.mem_cons, List.mem_mapIdx, List.mem_singleton] at label
    rcases label with (rfl | ⟨i, bound, rfl⟩) | rfl <;> cases number
  · obtain ⟨column, columnMember, inColumn⟩ := List.mem_flatten.mp inRuns
    obtain ⟨i, bound, rfl⟩ := List.mem_mapIdx.mp columnMember
    rw [runColumn, List.mem_append, List.mem_cons, List.mem_cons, List.mem_mapIdx,
      List.mem_map] at inColumn
    rcases inColumn with (rfl | rfl | ⟨j, benchmarkBound, rfl⟩) | ⟨y, own, rfl⟩
    · cases number
    · cases number
    · cases number
      rw [cellAverage]
      cases found : runs[i].benchmarks.find? (·.benchmark == benchmarks[j]) with
      | none => exact .inl rfl
      | some entry =>
        refine .inr ⟨runs[i], List.getElem_mem bound, List.mem_append_right _ ?_⟩
        exact List.mem_map_of_mem (List.mem_of_find?_eq_some found)
    · cases number
      exact .inr ⟨runs[i], List.getElem_mem bound, List.mem_append_left _ own⟩

theorem finite_of_summarize {benchmarks : List String} (fits : (summarize s).length < columnLimit)
    (laidOut : layout (summarize s) benchmarks = .ok cells) (member : cell ∈ cells) :
    cell.Finite := by
  intro x number
  rcases number_of_layout fits laidOut member number with rfl | ⟨summary, summarized, own⟩
  · exact finite_of_isAverage (.inl rfl)
  · obtain ⟨run, -, rfl⟩ := mem_summarize.mp summarized
    exact finite_of_isAverage (isAverage_of_mem_averages own)

end Summaries

/-! ### Every sheet -/

/-- Runs are refused if they are too many, and otherwise only for the first of them that has no
average. A sheet that is laid out has one cell for each of its places, which holds what belongs
there, and no row, column or address is cut off. So whatever stores the cells that it is given
overwrites none of them, and the workbook stores every cell as it was laid out unless it is an empty
plain text or its number is not finite; the numbers of summaries are. -/
theorem layout_fills_sheet (runs : List RunSummary) (benchmarks : List String)
    (small : benchmarks.length + 2 < 2 ^ 32) :
    (∀ n, layout runs benchmarks = .error (.tooManyRuns n) ↔
      16384 ≤ runs.length ∧ n = runs.length) ∧
    (∀ name, layout runs benchmarks = .error (.noKernels name) ↔
      runs.length < 16384 ∧ ∃ before run after, runs = before ++ run :: after ∧
        (∀ earlier ∈ before, earlier.average ≠ none) ∧ run.average = none ∧ name = run.name) ∧
    ((∃ cells, layout runs benchmarks = .ok cells) ↔
      runs.length < 16384 ∧ ∀ run ∈ runs, run.average ≠ none) ∧
    ∀ cells, layout runs benchmarks = .ok cells →
      SheetFilled cells runs benchmarks ∧
      (∀ (ε : Type) (put : Standing → Cell → Except ε Standing), StoresGiven put →
        ∀ sheet, cells.foldlM put (fun _ => none) = .ok sheet → Stands cells sheet) ∧
      (∀ stored, workbook runs benchmarks = .ok stored → Keeps cells stored) ∧
      ∀ s, runs = summarize s → ∀ cell ∈ cells, cell.Finite := by
  refine ⟨fun _ => layout_eq_tooManyRuns_iff, fun _ => layout_eq_noKernels_iff,
    exists_layout_eq_ok_iff, fun cells laidOut => ?_⟩
  have fits := lt_columnLimit_of_layout laidOut
  have filled := sheetFilled_of_layout small fits laidOut
  refine ⟨filled, fun ε put stores sheet ran => stands_of_foldlM stores ran filled.places,
    fun stored made => keeps_of_workbook laidOut made filled.places, ?_⟩
  rintro s rfl cell member
  exact finite_of_summarize fits laidOut member

theorem exists_eq_ok_of_isOk {ε α : Type} {outcome : Except ε α} (isOk : outcome.isOk = true) :
    ∃ result, outcome = .ok result := by
  cases outcome with
  | ok result => exact ⟨result, rfl⟩
  | error _ => cases isOk

/-- A run with an average for one of two benchmarks is laid out, stored, and made a workbook. -/
theorem layout_fills_sheet_of_one_run :
    let run : RunSummary := ⟨"run", [⟨"first", 1, 2, 0.5⟩], 1, 2, some 0.5⟩
    ∃ cells stored sheet, layout [run] ["first", ""] = .ok cells ∧
      workbook [run] ["first", ""] = .ok stored ∧
      cells.foldlM storeAt (fun _ => none) = .ok sheet ∧ cells.length = 9 ∧
      SheetFilled cells [run] ["first", ""] ∧ Stands cells sheet ∧ Keeps cells stored := by
  intro run
  obtain ⟨-, -, succeeds, whole⟩ := layout_fills_sheet [run] ["first", ""] (by decide)
  obtain ⟨cells, laidOut⟩ := succeeds.mpr ⟨by decide, by simp [run]⟩
  obtain ⟨filled, stands, keeps, -⟩ := whole cells laidOut
  obtain ⟨stored, made⟩ : ∃ stored, workbook [run] ["first", ""] = .ok stored :=
    exists_eq_ok_of_isOk (by decide +kernel)
  obtain ⟨sheet, ran⟩ : ∃ sheet, cells.foldlM storeAt (fun _ => none) = .ok sheet := by
    obtain ⟨-, rfl⟩ := (layout_eq_ok_iff (by decide)).mp laidOut
    exact exists_eq_ok_of_isOk (by decide +kernel)
  exact ⟨cells, stored, sheet, laidOut, made, ran, filled.count, filled,
    stands _ storeAt storesGiven_storeAt sheet ran, keeps stored made⟩

end Occupancy.Sheet

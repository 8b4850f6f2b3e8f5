/-
Module: Occupancy.Proofs.WorkbookPath
Purpose: The path of a workbook is the given one with its end made to name the kind of file.
Main exports: Sheet.NamesWorkbook, Sheet.mentionsSheet_iff, Sheet.tail_append_extension,
  Sheet.outputPath_of_names, Sheet.outputPath_of_not_names, CommandLine.writeSheet_eq_ok_iff,
  outputPath_normalises
-/
import Mathlib.Data.List.DropRight
import Occupancy.Proofs.LossyText
import Occupancy.Proofs.RunEffects

namespace Occupancy

/-!
Whether a path names the kind of file is read off its last characters, while the name is put behind
its bytes. The two meet at the dot. It is a byte of ASCII, so it ends whatever a path that is no text
breaks off with, and what follows it is read as if it stood alone. A path that the name was put
behind hence ends in the four letters of the name, however short or broken it was, and it is left
alone when it is given again.
-/

namespace Sheet

/-- Among the last four characters of a path, as it is shown, the letters of a sheet stand side by
side. -/
def NamesWorkbook (path : Bytes) : Prop :=
  "xls".toList <:+: (Text.decodeLossy path).rtake 4

instance : DecidablePred NamesWorkbook := fun path =>
  inferInstanceAs (Decidable ("xls".toList <:+: (Text.decodeLossy path).rtake 4))

theorem mentionsSheet_iff {cs : List Char} :
    mentionsSheet cs = true ↔ "xls".toList <:+: cs := by
  fun_induction mentionsSheet cs with
  | case1 rest => simpa using List.infix_append [] "xls".toList rest
  | case2 c rest otherwise inductionHypothesis =>
      rw [inductionHypothesis, List.infix_cons_iff]
      have notHere : ¬"xls".toList <+: c :: rest := by
        rintro ⟨behind, split⟩
        exact otherwise behind (List.cons.inj split).1.symm (List.cons.inj split).2.symm
      exact (or_iff_right notHere).symm
  | case3 => simp

theorem tail_eq_rtake (path : Bytes) : tail path = (Text.decodeLossy path).rtake 4 :=
  (List.rtake_eq_reverse_take_reverse _ _).symm

theorem mentionsSheet_tail_iff {path : Bytes} :
    mentionsSheet (tail path) = true ↔ NamesWorkbook path := by
  rw [mentionsSheet_iff, tail_eq_rtake, NamesWorkbook]

/-- The name of the kind of file is read as itself, whatever the path in front of it breaks off
with. -/
theorem decodeLossy_append_extension (path : Bytes) :
    Text.decodeLossy (path ++ Path.ofString extension) =
      Text.decodeLossy path ++ extension.toList :=
  Text.decodeLossy_append_ascii path (Path.ofString "xlsx") (by decide)

/-- It has one character more than are looked at, so that nothing else is seen. -/
theorem tail_append_extension (path : Bytes) :
    tail (path ++ Path.ofString extension) = "xlsx".toList := by
  have cut : Text.decodeLossy path ++ extension.toList =
      (Text.decodeLossy path ++ ['.']) ++ "xlsx".toList := by
    rw [List.append_assoc]
    rfl
  rw [tail_eq_rtake, decodeLossy_append_extension, cut, List.rtake, List.length_append]
  exact List.drop_left

theorem namesWorkbook_append_extension (path : Bytes) :
    NamesWorkbook (path ++ Path.ofString extension) := by
  rw [← mentionsSheet_tail_iff, tail_append_extension]
  rfl

theorem outputPath_of_names {path : Bytes} (names : NamesWorkbook path) : outputPath path = path :=
  if_pos (mentionsSheet_tail_iff.mpr names)

theorem outputPath_of_not_names {path : Bytes} (unnamed : ¬NamesWorkbook path) :
    outputPath path = path ++ Path.ofString extension :=
  if_neg fun mentioned => unnamed (mentionsSheet_tail_iff.mp mentioned)

theorem append_extension_ne (path : Bytes) : path ++ Path.ofString extension ≠ path := by
  rw [ne_eq, List.append_right_eq_self]
  decide

theorem outputPath_eq_self_iff {path : Bytes} : outputPath path = path ↔ NamesWorkbook path := by
  constructor
  · intro same
    by_contra unnamed
    rw [outputPath_of_not_names unnamed] at same
    exact append_extension_ne path same
  · exact outputPath_of_names

theorem namesWorkbook_outputPath (path : Bytes) : NamesWorkbook (outputPath path) := by
  by_cases names : NamesWorkbook path
  · rwa [outputPath_of_names names]
  · rw [outputPath_of_not_names names]
    exact namesWorkbook_append_extension path

/-- Two paths have the same output path only if the name was put behind one of them and makes it
the other. -/
theorem outputPath_eq_iff {path other : Bytes} :
    outputPath path = outputPath other ↔
      path = other ∨ (path = other ++ Path.ofString extension ∧ ¬NamesWorkbook other) ∨
        (other = path ++ Path.ofString extension ∧ ¬NamesWorkbook path) := by
  by_cases names : NamesWorkbook path
  · by_cases otherNames : NamesWorkbook other
    · simp [outputPath_of_names, names, otherNames]
    · have ne : path ≠ other := by
        rintro rfl
        exact otherNames names
      simp [outputPath_of_names, outputPath_of_not_names, names, otherNames, ne]
  · by_cases otherNames : NamesWorkbook other
    · have ne : path ≠ other := by
        rintro rfl
        exact names otherNames
      simp [outputPath_of_names, outputPath_of_not_names, names, otherNames, ne, eq_comm]
    · rw [outputPath_of_not_names names, outputPath_of_not_names otherNames,
        List.append_left_inj]
      constructor
      · exact Or.inl
      · rintro (same | ⟨rfl, unnamed⟩ | ⟨rfl, unnamed⟩)
        · exact same
        · exact absurd (namesWorkbook_append_extension other) names
        · exact absurd (namesWorkbook_append_extension path) otherNames

end Sheet

/-- A workbook is written if it can be built, and its cells can be put at the output path. -/
theorem CommandLine.writeSheet_eq_ok_iff {tree after : FileTree} {here : Location}
    {runs : List RunSummary} {benchmarks : List String} {output path : Bytes} :
    writeSheet tree here runs benchmarks output = .ok (after, path) ↔
      path = Sheet.outputPath output ∧ ∃ cells, Sheet.workbook runs benchmarks = .ok cells ∧
        tree.write here (Sheet.outputPath output) (.workbook cells) = .ok after := by
  rw [writeSheet, bind_eq_ok_iff]
  simp only [mapError_eq_ok_iff, bind_eq_ok_iff, pure, Except.pure, Except.ok.injEq, Prod.mk.injEq]
  constructor
  · rintro ⟨cells, built, made, written, rfl, rfl⟩
    exact ⟨rfl, cells, built, written⟩
  · rintro ⟨rfl, cells, built, written⟩
    exact ⟨cells, built, after, written, rfl, rfl⟩

/-- The output path of any bytes. It is the path itself or the path with `.xlsx` put behind its bytes;
it is the path itself exactly if `xls` stands among the last four characters that the path is read
as; and `xls` always stands among the last four characters of the output path, which is therefore its
own output path. Two paths have the same one only if they are the same or one of them is the other
with `.xlsx` behind it. So a workbook that is written once more, with the path that it was written
to, goes to the same place. -/
theorem outputPath_normalises (path : Bytes) :
    (Sheet.outputPath path = path ∨
      Sheet.outputPath path = path ++ Path.ofString ".xlsx") ∧
    (Sheet.outputPath path = path ↔ "xls".toList <:+: (Text.decodeLossy path).rtake 4) ∧
    "xls".toList <:+: (Text.decodeLossy (Sheet.outputPath path)).rtake 4 ∧
    Sheet.outputPath (Sheet.outputPath path) = Sheet.outputPath path ∧
    (∀ other, Sheet.outputPath path = Sheet.outputPath other → path ≠ other →
      path = other ++ Path.ofString ".xlsx" ∨ other = path ++ Path.ofString ".xlsx") ∧
    ∀ (tree : FileTree) (here : Location) (runs : List RunSummary) (benchmarks : List String)
      (written : FileTree × Bytes),
      CommandLine.writeSheet tree here runs benchmarks (Sheet.outputPath path) = .ok written ↔
        CommandLine.writeSheet tree here runs benchmarks path = .ok written := by
  have again := Sheet.outputPath_of_names (Sheet.namesWorkbook_outputPath path)
  refine ⟨?_, Sheet.outputPath_eq_self_iff, Sheet.namesWorkbook_outputPath path, again, ?_, ?_⟩
  · by_cases names : Sheet.NamesWorkbook path
    · exact Or.inl (Sheet.outputPath_of_names names)
    · exact Or.inr (Sheet.outputPath_of_not_names names)
  · intro other same different
    rcases Sheet.outputPath_eq_iff.mp same with equal | ⟨longer, -⟩ | ⟨longer, -⟩
    · exact absurd equal different
    · exact Or.inl longer
    · exact Or.inr longer
  · rintro tree here runs benchmarks ⟨after, place⟩
    rw [CommandLine.writeSheet_eq_ok_iff, CommandLine.writeSheet_eq_ok_iff, again]

/-- Three bytes of a character of four, which are one replacement: the name is read behind it. -/
example : Sheet.outputPath [0xF0, 0x9F, 0x98] = [0xF0, 0x9F, 0x98] ++ Path.ofString ".xlsx" ∧
    Sheet.tail (Sheet.outputPath [0xF0, 0x9F, 0x98]) = "xlsx".toList := by decide

end Occupancy

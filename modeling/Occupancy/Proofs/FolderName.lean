/-
Module: Occupancy.Proofs.FolderName
Purpose: What the name of a folder says of its run, and which names an exclude list leaves out.
Main exports: splitAtLastDash_eq_some_iff, splitAtLastDash_eq_none_iff, Parted,
  RunFolder.parted_ofFolder, RunFolder.ofFolder_of_parted, RunFolder.SameParts,
  RunFolder.sameParts_iff, AgreeToLastDash, RunFolder.runName_eq_iff_agree, Excludes,
  RunFolder.isNamedBy_ofFolder_iff
-/
import Mathlib.Data.List.TakeWhile
import Occupancy.RunFolder

namespace Occupancy

theorem splitAtLastDash_concat {name number : List Char} (dashless : '-' ∉ number) :
    splitAtLastDash (name ++ '-' :: number) = some (name, number) := by
  have kept : ∀ c ∈ number.reverse, (c != '-') = true := by
    intro c member
    rw [bne_iff_ne]
    rintro rfl
    exact dashless (List.mem_reverse.mp member)
  have backwards : (name ++ '-' :: number).reverse = number.reverse ++ '-' :: name.reverse := by
    simp
  rw [splitAtLastDash, backwards, List.dropWhile_append_of_pos kept,
    List.takeWhile_append_of_pos kept]
  simp

theorem splitAtLastDash_of_dashless {cs : List Char} (dashless : '-' ∉ cs) :
    splitAtLastDash cs = none := by
  have nothing : cs.reverse.dropWhile (· != '-') = [] := by
    rw [List.dropWhile_eq_nil_iff]
    intro c member
    rw [bne_iff_ne]
    rintro rfl
    exact dashless (List.mem_reverse.mp member)
  rw [splitAtLastDash, nothing]

/-- A text with a dash in it has a last one. -/
theorem exists_lastDash {cs : List Char} (dashed : '-' ∈ cs) :
    ∃ name number, cs = name ++ '-' :: number ∧ '-' ∉ number := by
  induction cs with
  | nil => cases dashed
  | cons c rest inductionHypothesis =>
      by_cases later : '-' ∈ rest
      · obtain ⟨name, number, split, dashless⟩ := inductionHypothesis later
        exact ⟨c :: name, number, by rw [split, List.cons_append], dashless⟩
      · obtain rfl : '-' = c := (List.mem_cons.mp dashed).resolve_right later
        exact ⟨[], rest, rfl, later⟩

/-- A text is cut at a dash with no dash behind it, and nothing of it is lost. -/
theorem splitAtLastDash_eq_some_iff {cs name number : List Char} :
    splitAtLastDash cs = some (name, number) ↔ cs = name ++ '-' :: number ∧ '-' ∉ number := by
  constructor
  · intro cut
    by_cases dashed : '-' ∈ cs
    · obtain ⟨front, back, split, dashless⟩ := exists_lastDash dashed
      rw [split, splitAtLastDash_concat dashless] at cut
      cases cut
      exact ⟨split, dashless⟩
    · rw [splitAtLastDash_of_dashless dashed] at cut
      cases cut
  · rintro ⟨rfl, dashless⟩
    exact splitAtLastDash_concat dashless

theorem splitAtLastDash_eq_none_iff {cs : List Char} : splitAtLastDash cs = none ↔ '-' ∉ cs := by
  constructor
  · intro whole dashed
    obtain ⟨name, number, split, dashless⟩ := exists_lastDash dashed
    rw [split, splitAtLastDash_concat dashless] at whole
    cases whole
  · exact splitAtLastDash_of_dashless

@[simp] theorem RunFolder.folder_ofFolder (path : Bytes) (folder : String) :
    (RunFolder.ofFolder path folder).folder = folder := by
  rw [ofFolder]
  split <;> rfl

@[simp] theorem RunFolder.path_ofFolder (path : Bytes) (folder : String) :
    (RunFolder.ofFolder path folder).path = path := by
  rw [ofFolder]
  split <;> rfl

/-! ### The parts of a name

The parts tell the name, but for one thing: a run name that is empty stands for a dash at the front,
with no dash behind it, and also for no dash at all. -/

/-- The parts of the name of a folder are what stands in front of its last dash and what stands behind
it. A name without a dash has nothing in front. -/
inductive Parted : String → String → String → Prop where
  | dashed {name number : String} (dashless : '-' ∉ number.toList) :
      Parted (name ++ "-" ++ number) name number
  | whole {number : String} (dashless : '-' ∉ number.toList) : Parted number "" number

theorem toList_dashed (name number : String) :
    (name ++ "-" ++ number).toList = name.toList ++ '-' :: number.toList := by
  simp

namespace Parted

variable {folder other name number : String}

theorem dashless_number (parts : Parted folder name number) : '-' ∉ number.toList := by
  cases parts with
  | dashed dashless => exact dashless
  | whole dashless => exact dashless

theorem eq_of_dash (parts : Parted folder name number) (dash : '-' ∈ folder.toList) :
    name ++ "-" ++ number = folder := by
  cases parts with
  | dashed _ => rfl
  | whole dashless => exact absurd dash dashless

theorem eq_of_dashless (parts : Parted folder name number) (dashless : '-' ∉ folder.toList) :
    name = "" ∧ number = folder := by
  cases parts with
  | dashed _ =>
      rw [toList_dashed] at dashless
      exact absurd (List.mem_append_right _ List.mem_cons_self) dashless
  | whole _ => exact ⟨rfl, rfl⟩

/-- The parts told letter by letter. -/
theorem of_toList {behind : List Char} (split : folder.toList = name.toList ++ '-' :: behind)
    (dashless : '-' ∉ behind) : Parted folder name (String.ofList behind) := by
  have joined : folder = name ++ "-" ++ String.ofList behind := by
    rw [← String.toList_inj, toList_dashed, String.toList_ofList, split]
  rw [joined]
  exact dashed (by rwa [String.toList_ofList])

/-- A dash in front of a name without one does not change its parts. -/
theorem of_frontDash (dashless : '-' ∉ number.toList) : Parted ("-" ++ number) "" number := by
  have parts : Parted ("" ++ "-" ++ number) "" number := dashed dashless
  rwa [String.empty_append] at parts

/-- Different names with the same parts are one and the same text without a dash, once as it is and
once with a dash in front of it. -/
theorem collision (one : Parted folder name number) (two : Parted other name number) :
    folder = other ∨ (folder = "-" ++ other ∧ '-' ∉ other.toList) ∨
      (other = "-" ++ folder ∧ '-' ∉ folder.toList) := by
  cases one with
  | dashed dashless =>
      cases two with
      | dashed _ => exact Or.inl rfl
      | whole _ =>
          rw [String.empty_append]
          exact Or.inr (Or.inl ⟨rfl, dashless⟩)
  | whole dashless =>
      cases two with
      | dashed _ =>
          rw [String.empty_append]
          exact Or.inr (Or.inr ⟨rfl, dashless⟩)
      | whole _ => exact Or.inl rfl

end Parted

namespace RunFolder

/-- A folder has the parts of its name. -/
theorem parted_ofFolder (path : Bytes) (folder : String) :
    Parted folder (ofFolder path folder).runName (ofFolder path folder).runNumber := by
  rw [ofFolder]
  cases cut : splitAtLastDash folder.toList with
  | none => exact .whole (splitAtLastDash_eq_none_iff.mp cut)
  | some parts =>
      obtain ⟨split, dashless⟩ := splitAtLastDash_eq_some_iff.mp cut
      exact .of_toList (by rwa [String.toList_ofList]) dashless

/-- No other texts are the parts of its name. -/
theorem ofFolder_of_parted {folder name number : String} (parts : Parted folder name number)
    (path : Bytes) :
    (ofFolder path folder).runName = name ∧ (ofFolder path folder).runNumber = number := by
  cases parts with
  | dashed dashless =>
      rw [ofFolder, toList_dashed, splitAtLastDash_concat dashless]
      exact ⟨String.ofList_toList, String.ofList_toList⟩
  | whole dashless =>
      rw [ofFolder, splitAtLastDash_of_dashless dashless]
      exact ⟨rfl, rfl⟩

/-- Only the last dash cuts a name, also where nothing stands behind it. -/
example :
    (ofFolder [] "a--").runName = "a-" ∧ (ofFolder [] "a--").runNumber = "" := by
  decide

/-- Two folders have the same parts: the same run name and the same run number. -/
def SameParts (first second : RunFolder) : Prop :=
  first.runName = second.runName ∧ first.runNumber = second.runNumber

theorem sameParts_of_parted {first second name number : String} (one : Parted first name number)
    (two : Parted second name number) (path other : Bytes) :
    SameParts (ofFolder path first) (ofFolder other second) := by
  obtain ⟨oneName, oneNumber⟩ := ofFolder_of_parted one path
  obtain ⟨twoName, twoNumber⟩ := ofFolder_of_parted two other
  exact ⟨oneName.trans twoName.symm, oneNumber.trans twoNumber.symm⟩

/-- Which different names have the same parts. -/
theorem sameParts_iff (path other : Bytes) {first second : String} (different : first ≠ second) :
    SameParts (ofFolder path first) (ofFolder other second) ↔
      (first = "-" ++ second ∧ '-' ∉ second.toList) ∨
        (second = "-" ++ first ∧ '-' ∉ first.toList) := by
  constructor
  · rintro ⟨sameName, sameNumber⟩
    have parts := parted_ofFolder path first
    rw [sameName, sameNumber] at parts
    exact (parts.collision (parted_ofFolder other second)).resolve_left different
  · rintro (⟨rfl, dashless⟩ | ⟨rfl, dashless⟩)
    · exact sameParts_of_parted (.of_frontDash dashless) (.whole dashless) path other
    · exact sameParts_of_parted (.whole dashless) (.of_frontDash dashless) path other

end RunFolder

/-- Two names are the same up to their last dash. What stands in front of a dash that is missing is
empty. -/
def AgreeToLastDash (first second : String) : Prop :=
  ∃ name number other, Parted first name number ∧ Parted second name other

theorem RunFolder.runName_eq_iff_agree (path other : Bytes) {first second : String} :
    (ofFolder path first).runName = (ofFolder other second).runName ↔
      AgreeToLastDash first second := by
  constructor
  · intro same
    have parts := parted_ofFolder path first
    rw [same] at parts
    exact ⟨_, _, _, parts, parted_ofFolder other second⟩
  · rintro ⟨name, number, behind, one, two⟩
    rw [(ofFolder_of_parted one path).1, (ofFolder_of_parted two other).1]

instance : DecidableRel AgreeToLastDash := fun _ _ =>
  decidable_of_iff _ (RunFolder.runName_eq_iff_agree [] [])

/-- The run of a folder has a name that is not empty if this name and a dash stand in front of the
last part of the folder's name. -/
theorem RunFolder.runName_ofFolder_eq_iff {path : Bytes} {folder name : String}
    (named : name ≠ "") :
    (RunFolder.ofFolder path folder).runName = name ↔
      ∃ number, folder.toList = name.toList ++ '-' :: number ∧ '-' ∉ number := by
  constructor
  · rintro rfl
    have parts := parted_ofFolder path folder
    have dash : '-' ∈ folder.toList := by
      by_contra dashless
      exact named (parts.eq_of_dashless dashless).1
    have joined := congrArg String.toList (parts.eq_of_dash dash)
    rw [toList_dashed] at joined
    exact ⟨_, joined.symm, parts.dashless_number⟩
  · rintro ⟨number, split, dashless⟩
    exact (ofFolder_of_parted (.of_toList split dashless) path).1

/-- An exclude list leaves a folder out if an item of it that is not empty is the name of the folder
or what stands in front of the last dash of that name. -/
def Excludes (exclude : List String) (folder : String) : Prop :=
  ∃ item ∈ exclude, item ≠ "" ∧
    (item = folder ∨ ∃ number, folder.toList = item.toList ++ '-' :: number ∧ '-' ∉ number)

theorem RunFolder.isNamedBy_ofFolder_iff {path : Bytes} {folder : String} {exclude : List String} :
    (RunFolder.ofFolder path folder).isNamedBy exclude = true ↔ Excludes exclude folder := by
  rw [isNamedBy, List.any_eq_true, Excludes]
  apply exists_congr
  intro item
  apply and_congr_right
  intro _
  rw [Bool.and_eq_true, bne_iff_ne, Bool.or_eq_true, beq_iff_eq, beq_iff_eq,
    folder_ofFolder]
  apply and_congr_right
  intro named
  rw [eq_comm (b := (ofFolder path folder).runName), runName_ofFolder_eq_iff named]

instance (exclude : List String) : DecidablePred (Excludes exclude) := fun folder =>
  decidable_of_iff ((RunFolder.ofFolder [] folder).isNamedBy exclude = true)
    RunFolder.isNamedBy_ofFolder_iff

/-- Only the items that are not empty matter, and neither their order nor their number does. -/
theorem excludes_congr {exclude other : List String}
    (same : ∀ item, item ≠ "" → (item ∈ exclude ↔ item ∈ other)) (folder : String) :
    Excludes exclude folder ↔ Excludes other folder := by
  rw [Excludes, Excludes]
  apply exists_congr
  intro item
  by_cases named : item = ""
  · simp [named]
  · rw [same item named]

theorem not_excludes_nil (folder : String) : ¬Excludes [] folder := by
  rintro ⟨item, listed, -⟩
  cases listed

end Occupancy

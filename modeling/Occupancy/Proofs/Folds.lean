/-
Module: Occupancy.Proofs.Folds
Purpose: Invariants of loops that may fail, lists without their repetitions, and lists in pieces.
Main exports: bind_eq_ok_iff, foldlM_invariant, orFail, foldlM_eq_orFail, eraseDups_concat,
  nodup_eraseDups, eq_splitOn_of_cuts, not_mem_of_mem_splitOn
-/
import Mathlib.Data.List.Induction

namespace Occupancy

/-- Two steps succeed if the second one does on what the first one gives. -/
theorem bind_eq_ok_iff {ε α β : Type} {first : Except ε α} {second : α → Except ε β} {result : β} :
    first >>= second = .ok result ↔ ∃ value, first = .ok value ∧ second value = .ok result := by
  cases first <;> simp [bind, Except.bind]

/-- A loop that can fail keeps what every step of it keeps. The invariant may speak of the items
that have been taken so far, so that at the end it speaks of all of them. -/
theorem foldlM_invariant {ε σ α : Type} {f : σ → α → Except ε σ} (invariant : List α → σ → Prop)
    (step : ∀ done item state next, invariant done state → f state item = .ok next →
      invariant (done ++ [item]) next)
    {items : List α} {state final : σ} (start : invariant [] state)
    (ran : items.foldlM f state = .ok final) : invariant items final := by
  suffices general : ∀ (rest done : List α) (state : σ), invariant done state →
      rest.foldlM f state = .ok final → invariant (done ++ rest) final by
    simpa using general items [] state start ran
  intro rest
  induction rest with
  | nil =>
      intro done state holds ran
      cases ran
      simpa using holds
  | cons item rest inductionHypothesis =>
      intro done state holds ran
      rw [List.foldlM_cons] at ran
      cases taken : f state item with
      | error e =>
          rw [taken] at ran
          cases ran
      | ok next =>
          rw [taken] at ran
          have held := step done item state next holds taken
          simpa using inductionHypothesis (done ++ [item]) next held ran

/-- A result, unless there is an error. -/
def orFail {ε σ : Type} (fault : Option ε) (result : σ) : Except ε σ :=
  fault.elim (.ok result) .error

section OrFail

variable {ε σ α : Type} {fault : Option ε} {result : σ}

@[simp] theorem orFail_none (result : σ) : orFail (none : Option ε) result = .ok result := rfl

@[simp] theorem orFail_some (error : ε) (result : σ) :
    orFail (some error) result = .error error := rfl

theorem orFail_eq_ok_iff {final : σ} :
    orFail fault result = .ok final ↔ fault = none ∧ result = final := by
  cases fault <;> simp

theorem orFail_eq_error_iff {error : ε} :
    orFail fault result = .error error ↔ fault = some error := by
  cases fault <;> simp

/-- Where it does not depend on the state whether a step fails, a loop is one that cannot fail,
unless there is an item at which it does. -/
theorem foldlM_eq_orFail {f : σ → α → Except ε σ} {faultOf : α → Option ε} {next : σ → α → σ}
    (step : ∀ state item, f state item = orFail (faultOf item) (next state item))
    (items : List α) (state : σ) :
    items.foldlM f state = orFail (items.findSome? faultOf) (items.foldl next state) := by
  induction items generalizing state with
  | nil => rfl
  | cons item rest inductionHypothesis =>
      rw [List.foldlM_cons, step, List.findSome?_cons]
      cases faultOf item with
      | some error => rfl
      | none => exact inductionHypothesis (next state item)

/-- The first fault in a list of lists is the first one in the first list that has one. -/
theorem findSome?_flatMap {β : Type} (faultOf : β → Option ε) (parts : α → List β)
    (items : List α) :
    (items.flatMap parts).findSome? faultOf =
      items.findSome? fun item => (parts item).findSome? faultOf := by
  induction items with
  | nil => rfl
  | cons item rest inductionHypothesis =>
      rw [List.flatMap_cons, List.findSome?_append, inductionHypothesis, List.findSome?_cons]
      cases (parts item).findSome? faultOf <;> rfl

end OrFail

section Distinct

variable {α : Type} [DecidableEq α]

/-- One more item is one more distinct item unless it has been there. -/
theorem eraseDups_concat (items : List α) (item : α) :
    (items ++ [item]).eraseDups =
      if item ∈ items then items.eraseDups else items.eraseDups ++ [item] := by
  rw [List.eraseDups_append]
  by_cases member : item ∈ items <;> simp [member, List.removeAll, List.eraseDups_cons]

theorem nodup_eraseDups (items : List α) : items.eraseDups.Nodup := by
  induction items using List.reverseRecOn with
  | nil => simp
  | append_singleton items item inductionHypothesis =>
      rw [eraseDups_concat]
      split
      · exact inductionHypothesis
      · next fresh =>
          rw [List.nodup_append]
          refine ⟨inductionHypothesis, List.pairwise_singleton _ _, ?_⟩
          intro other member last lastMember
          obtain rfl := List.mem_singleton.mp lastMember
          rintro rfl
          exact fresh (List.mem_eraseDups.mp member)

end Distinct

section Cutting

variable {α : Type} [DecidableEq α] {separator : α}

/-- A loop that cuts a list at a separator, with the piece that it has begun kept backwards, cuts it
at every one of them. -/
theorem eq_splitOn_of_cuts {cut : List α → List α → List (List α)}
    (last : ∀ piece, cut piece [] = [piece.reverse])
    (turn : ∀ piece item rest, cut piece (item :: rest) =
      if item = separator then piece.reverse :: cut [] rest else cut (item :: piece) rest)
    (items : List α) : cut [] items = items.splitOn separator := by
  suffices general : ∀ piece, cut piece items = items.splitOnPPrepend (· == separator) piece by
    rw [general, List.splitOnPPrepend_nil_right, ← List.splitOn_eq_splitOnP]
  induction items with
  | nil =>
      intro piece
      rw [last, List.splitOnPPrepend_nil]
  | cons item rest inductionHypothesis =>
      intro piece
      rw [turn, List.splitOnPPrepend_cons_eq_if, inductionHypothesis, inductionHypothesis,
        List.splitOnPPrepend_nil_right]
      simp only [beq_iff_eq]

/-- No piece has the separator in it. -/
theorem not_mem_of_mem_splitOn {items piece : List α} (member : piece ∈ items.splitOn separator) :
    separator ∉ piece := by
  induction items generalizing piece with
  | nil =>
      rw [List.splitOn_nil, List.mem_singleton] at member
      rw [member]
      exact List.not_mem_nil
  | cons item rest inductionHypothesis =>
      rw [List.splitOn_cons_eq_if_modifyHead] at member
      by_cases cut : item = separator
      · rw [if_pos (beq_iff_eq.mpr cut)] at member
        rcases List.mem_cons.mp member with rfl | later
        · exact List.not_mem_nil
        · exact inductionHypothesis later
      · rw [if_neg (by simpa using cut)] at member
        cases pieces : rest.splitOn separator with
        | nil => exact absurd pieces (List.splitOn_ne_nil _ _)
        | cons first others =>
            rw [pieces] at member inductionHypothesis
            rcases List.mem_cons.mp member with rfl | later
            · exact List.not_mem_cons_of_ne_of_not_mem (Ne.symm cut)
                (inductionHypothesis List.mem_cons_self)
            · exact inductionHypothesis (List.mem_cons_of_mem _ later)

end Cutting
end Occupancy

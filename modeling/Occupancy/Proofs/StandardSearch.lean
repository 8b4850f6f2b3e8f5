/-
Module: Occupancy.Proofs.StandardSearch
Purpose: What the search for the usual rule's pattern goes through, thread by thread, and where its
  marks end up.
Main exports: CharSet.holds_iff, IsDecimalDigit, lead, standardProgram, Pending,
  settleAt_threads, advance_waiting, lastCandidate?, search_threads, find?_lead_append,
  find?_of_differs
-/
import Occupancy.Sample

namespace Occupancy.Pattern

/-!
The program of the usual rule is small enough to say which threads it has. While the first words are
read there is one, and it dies at the first character that differs. Behind them there is the thread
of the dot, which lives to the end of the line, and at most one more: a thread that has just taken a
colon, or one that is in the digits behind a colon. A colon ends both of these and starts the first
anew, so at every place the second thread belongs to the last colon that could still be the one.

A match is found at each place inside or behind such digits, and every match found replaces the one
before. Nothing is ever found behind the thread of the dot that the dot's thread does not outlive,
so the last match found is that of the last colon with a digit behind it, at the last of its digits.
-/

namespace CharSet

/-- In ascending ranges a look-up finds what is in one of them. -/
theorem holds_iff {ranges : List (Nat × Nat)} (ascending : ranges.Pairwise (·.1 ≤ ·.1)) (n : Nat) :
    holds n ranges = true ↔ ∃ range ∈ ranges, range.1 ≤ n ∧ n ≤ range.2 := by
  induction ranges with
  | nil => simp [holds]
  | cons range rest inductionHypothesis =>
      obtain ⟨low, high⟩ := range
      rw [List.pairwise_cons] at ascending
      rw [holds]
      split
      · rename_i below
        refine iff_of_false Bool.false_ne_true ?_
        rintro ⟨other, member, lowEnd, -⟩
        rcases List.mem_cons.mp member with rfl | later
        · exact absurd lowEnd (Nat.not_le.mpr below)
        · have order := ascending.1 other later
          simp only at order
          omega
      · rename_i above
        rw [Bool.or_eq_true, decide_eq_true_iff, inductionHypothesis ascending.2]
        simp only [List.mem_cons, exists_eq_or_imp, Nat.not_lt.mp above, true_and]

theorem contains_single (c other : Char) : (single c).contains other = decide (other = c) := by
  rw [Bool.eq_iff_iff, contains, single, holds_iff (List.pairwise_singleton _ _),
    decide_eq_true_iff]
  simp only [List.mem_singleton, exists_eq_left]
  constructor
  · intro between
    exact Char.toNat_inj.mp (by omega)
  · rintro rfl
    exact ⟨Nat.le_refl _, Nat.le_refl _⟩

end CharSet

section Search

variable {p : Program} {offset : Nat} {before : Option Char} {threads : List Thread}
  {found : Option Marks} {settled : Settled}

/-- A search at the end of a text. -/
theorem search_nil
    (settles : p.settleAt ⟨offset, before, none⟩ threads found = settled) :
    search p offset before threads found [] = settled.accepted.or found := by
  rw [search, settles, Option.orElse_eq_orElse, Option.orElse_eq_or]

/-- One step of a search. -/
theorem search_cons {c : Char} (text : List Char)
    (settles : p.settleAt ⟨offset, before, some c⟩ threads found = settled) :
    search p offset before threads found (c :: text) =
      if settled.waiting.isEmpty && (settled.accepted.or found).isSome then
        settled.accepted.or found
      else
        search p (offset + 1) (some c) (advance c settled.waiting) (settled.accepted.or found)
          text := by
  rw [search, settles, Option.orElse_eq_orElse, Option.orElse_eq_or]

end Search

/-- A decimal digit of any script. -/
def IsDecimalDigit (c : Char) : Prop :=
  ∃ range ∈ Unicode.decimalDigitRanges, range.1 ≤ c.toNat ∧ c.toNat ≤ range.2

theorem digitSet_contains_iff (c : Char) : digitSet.contains c = true ↔ IsDecimalDigit c :=
  CharSet.holds_iff (by decide +kernel) c.toNat

theorem notLineEndSet_contains (c : Char) : notLineEndSet.contains c = decide (c ≠ '\n') := by
  have bound : c.toNat < 0x110000 := by
    change c.val.toNat < 0x110000
    rcases c.valid with low | high <;> omega
  have lineFeed : c = '\n' ↔ c.toNat = 10 := Char.toNat_inj.symm
  rw [Bool.eq_iff_iff, CharSet.contains, CharSet.holds_iff (by decide), decide_eq_true_iff, ne_eq,
    lineFeed]
  simp only [notLineEndSet, List.mem_cons, List.not_mem_nil, or_false, exists_eq_or_imp,
    exists_eq_left]
  omega

/-- The text that sample lines begin with. -/
def lead : List Char := "Final occupancy for function ".toList

/-- The program of the usual rule. The characters of the first words come in front of the part for
the two groups, the last of them next to it. -/
def standardProgram : Program where
  code :=
    #[.accept, .mark 3 0, .fork 3 1, .one digitSet 2, .mark 2 3, .one (.single ':') 4, .mark 1 5,
        .fork 8 6, .one notLineEndSet 7, .mark 0 7] ++
      (lead.reverse.mapIdx fun place c => Instr.one (.single c) (9 + place)).toArray ++
      #[.look .textStart 38]
  entry := 39
  slots := 4

theorem standard_program : LineRule.standard.pattern.program = standardProgram := rfl

theorem standard_names :
    LineRule.standard.pattern.names = [("value".toList, 1), ("kernel".toList, 0)] := rfl

/-- What is open beside the thread of the dot: a colon just taken, or digits behind a colon. -/
inductive Pending where
  | nothing
  | atColon (place : Nat)
  | inDigits (place : Nat)

namespace Pending

/-- The marks of the dot's thread. -/
def dotMarks : Marks := [some lead.length, none, none, none]

/-- The threads behind a character. -/
def threads : Pending → List Thread
  | nothing => [⟨7, dotMarks⟩]
  | atColon place => [⟨7, dotMarks⟩, ⟨4, [some lead.length, some place, none, none]⟩]
  | inDigits place => [⟨7, dotMarks⟩, ⟨2, [some lead.length, some place, some (place + 1), none]⟩]

/-- What waits for the next character at an offset, the dot's thread first. -/
def waiting (offset : Nat) (pending : Pending) : List Waiting :=
  ⟨notLineEndSet, 7, dotMarks⟩ :: ⟨.single ':', 4, [some lead.length, some offset, none, none]⟩ ::
    match pending with
    | nothing => []
    | atColon place => [⟨digitSet, 2, [some lead.length, some place, some offset, none]⟩]
    | inDigits place => [⟨digitSet, 2, [some lead.length, some place, some (place + 1), none]⟩]

/-- What is found at an offset. -/
def accepted (offset : Nat) : Pending → Option Marks
  | inDigits place => some [some lead.length, some place, some (place + 1), some offset]
  | _ => none

/-- What is open behind one more character, which is not a line feed. -/
def next (offset : Nat) (c : Char) (pending : Pending) : Pending :=
  if c = ':' then atColon offset
  else if digitSet.contains c then
    match pending with
    | nothing => nothing
    | atColon place | inDigits place => inDigits place
  else nothing

end Pending

/-- At every offset but the first the threads settle as they should, whether a match may still begin
or not: the pattern only matches at the start of a text. -/
theorem settleAt_threads (offset : Nat) (before : Char) (after : Option Char) (pending : Pending)
    (found : Option Marks) :
    standardProgram.settleAt ⟨offset, some before, after⟩ pending.threads found =
      ⟨pending.waiting offset, pending.accepted offset⟩ := by
  -- All addresses are known, so each case is one run of the loop.
  cases pending <;> cases found <;> rfl

/-- A colon that has been taken stands right before the present offset. -/
def Pending.Recent (offset : Nat) : Pending → Prop
  | .atColon place => place + 1 = offset
  | _ => True

theorem Pending.recent_next (offset : Nat) (c : Char) (pending : Pending) :
    (pending.next offset c).Recent (offset + 1) := by
  unfold next
  split
  · rfl
  · split
    · cases pending <;> trivial
    · trivial

/-- A line feed ends all threads, and any other character leaves those of what is open behind it. -/
theorem advance_waiting {offset : Nat} (c : Char) {pending : Pending}
    (recent : pending.Recent offset) :
    advance c (pending.waiting offset) =
      if c = '\n' then [] else (pending.next offset c).threads := by
  have colonNoDigit : digitSet.contains ':' = false := by decide +kernel
  have lineFeedNoDigit : digitSet.contains '\n' = false := by decide +kernel
  by_cases lineFeed : c = '\n'
  · subst lineFeed
    cases pending <;>
      simp [advance, Pending.waiting, notLineEndSet_contains, CharSet.contains_single,
        lineFeedNoDigit]
  · by_cases colon : c = ':'
    · subst colon
      cases pending <;>
        simp [advance, Pending.waiting, Pending.next, Pending.threads, notLineEndSet_contains,
          CharSet.contains_single, colonNoDigit]
    · by_cases digit : digitSet.contains c = true
      · cases pending with
        | nothing =>
            simp [advance, Pending.waiting, Pending.next, Pending.threads, notLineEndSet_contains,
              CharSet.contains_single, lineFeed, colon, digit]
        | atColon place =>
            -- The digits begin at the present offset, which is the one behind the colon.
            have behind : place + 1 = offset := recent
            simp [advance, Pending.waiting, Pending.next, Pending.threads, notLineEndSet_contains,
              CharSet.contains_single, lineFeed, colon, digit, behind]
        | inDigits place =>
            simp [advance, Pending.waiting, Pending.next, Pending.threads, notLineEndSet_contains,
              CharSet.contains_single, lineFeed, colon, digit]
      · cases pending <;>
          simp [advance, Pending.waiting, Pending.next, Pending.threads, notLineEndSet_contains,
            CharSet.contains_single, lineFeed, colon, digit]

/-- Without threads nothing more is found. -/
theorem search_dead (offset : Nat) (before : Char) (found : Option Marks) (text : List Char) :
    search standardProgram offset (some before) [] found text = found := by
  have settled (offset : Nat) (before : Char) (after : Option Char) :
      standardProgram.settleAt ⟨offset, some before, after⟩ [] found = ⟨[], none⟩ := by
    cases found <;> rfl
  induction text generalizing offset before with
  | nil => rw [search_nil (settled offset before none), Option.none_or]
  | cons c text inductionHypothesis =>
      rw [search_cons text (settled offset before (some c)), Option.none_or]
      split
      · rfl
      · exact inductionHypothesis (offset + 1) c

/-- What is found behind the first words: what stands before the last colon that has a digit behind
it, and all the digits there. -/
def lastCandidate? : List Char → Option (List Char × List Char)
  | [] => none
  | c :: rest =>
    match lastCandidate? rest with
    | some (kernel, digits) => some (c :: kernel, digits)
    | none =>
      let digits := rest.takeWhile digitSet.contains
      if c = ':' ∧ digits ≠ [] then some ([], digits) else none

/-- The marks of a match with its colon and its end at the given offsets. -/
def matchMarks (colon stop : Nat) : Marks :=
  [some lead.length, some colon, some (colon + 1), some stop]

/-- What is found from an offset on, in the rest of the line: the last candidate there, or else what
is open and goes on with the rest. -/
def Pending.found (offset : Nat) (pending : Pending) (rest : List Char) : Option Marks :=
  match lastCandidate? rest with
  | some (kernel, digits) =>
    some (matchMarks (offset + kernel.length) (offset + kernel.length + 1 + digits.length))
  | none =>
    let digits := rest.takeWhile digitSet.contains
    match pending with
    | .nothing => none
    | .atColon place =>
      if digits = [] then none else some (matchMarks place (offset + digits.length))
    | .inDigits place => some (matchMarks place (offset + digits.length))

theorem Pending.found_nil (offset : Nat) (pending : Pending) :
    pending.found offset [] = pending.accepted offset := by
  cases pending <;> rfl

/-- Reading one more character: what is found behind it comes before what is found in front. -/
theorem Pending.found_cons {offset : Nat} (c : Char) {pending : Pending} (rest : List Char) :
    pending.found offset (c :: rest) =
      ((pending.next offset c).found (offset + 1) rest).or (pending.accepted offset) := by
  have colonNoDigit : digitSet.contains ':' = false := by decide +kernel
  unfold found
  rw [lastCandidate?]
  cases later : lastCandidate? rest with
  | some candidate =>
      obtain ⟨kernel, digits⟩ := candidate
      simp only [List.length_cons, Option.some_or, Option.some.injEq]
      congr 1 <;> omega
  | none =>
      by_cases colon : c = ':'
      · subst colon
        by_cases digits : rest.takeWhile digitSet.contains = []
        · cases pending <;> simp [next, accepted, digits, colonNoDigit, matchMarks]
        · simp [next, digits, matchMarks]
      · by_cases digit : digitSet.contains c = true
        · cases pending <;> simp [next, accepted, digit, colon, matchMarks] <;> omega
        · cases pending <;> simp [next, accepted, digit, colon, matchMarks]

/-- The search behind the first words. -/
theorem search_threads {offset : Nat} (before : Char) {pending : Pending}
    (recent : pending.Recent offset) (found : Option Marks) (text : List Char) :
    search standardProgram offset (some before) pending.threads found text =
      (pending.found offset (text.takeWhile (· ≠ '\n'))).or found := by
  induction text generalizing offset before pending found with
  | nil =>
      rw [search_nil (settleAt_threads offset before none pending found), List.takeWhile_nil,
        Pending.found_nil]
  | cons c text inductionHypothesis =>
      have busy : (pending.waiting offset).isEmpty = false := rfl
      rw [search_cons text (settleAt_threads offset before (some c) pending found), busy,
        Bool.false_and, if_neg Bool.false_ne_true, advance_waiting c recent]
      by_cases lineFeed : c = '\n'
      · subst lineFeed
        rw [if_pos rfl, search_dead, List.takeWhile_cons_of_neg (by decide), Pending.found_nil]
      · rw [if_neg lineFeed, inductionHypothesis c (pending.recent_next offset c),
          List.takeWhile_cons_of_pos (by simpa using lineFeed), Pending.found_cons, Option.or_assoc]

/-- The marks before anything is marked. -/
def blankMarks : Marks := [none, none, none, none]

/-- The instruction for a character of the first words, by how many of them come behind it. -/
theorem code_lead {done rest : List Char} {c : Char} (split : lead = done ++ c :: rest) :
    standardProgram.code[10 + rest.length]? = some (.one (.single c) (9 + rest.length)) := by
  have backwards : lead.reverse[rest.length]? = some c := by
    rw [split, List.reverse_append, List.reverse_cons, List.append_assoc,
      List.getElem?_append_right (by simp)]
    simp
  have bound : rest.length < lead.reverse.length := (List.getElem?_eq_some_iff.mp backwards).1
  rw [standardProgram, Array.getElem?_append_left (by simp at bound ⊢; omega),
    Array.getElem?_append_right (by simp), List.getElem?_toArray, List.getElem?_mapIdx]
  change lead.reverse[10 + rest.length - 10]?.map (fun c =>
    Instr.one (.single c) (9 + (10 + rest.length - 10))) = _
  rw [Nat.add_sub_cancel_left, backwards]
  rfl

/-- In the middle of the first words one thread waits for the next character of them. -/
theorem settleAt_lead {done rest : List Char} {c : Char} (split : lead = done ++ c :: rest)
    (offset : Nat) (before : Char) (after : Option Char) :
    standardProgram.settleAt ⟨offset, some before, after⟩ [⟨10 + rest.length, blankMarks⟩] none =
      ⟨[⟨.single c, 9 + rest.length, blankMarks⟩], none⟩ := by
  have fuel : 2 + 2 * standardProgram.code.size = 80 + 2 := rfl
  have entry : standardProgram.code[39]? = some (.look .textStart 38) := rfl
  have behind : Look.textStart.holds ⟨offset, some before, after⟩ = false := rfl
  have start : standardProgram.start = ⟨39, blankMarks⟩ := rfl
  simp only [Program.settleAt, Option.isSome_none, Bool.false_eq_true, if_false, start,
    List.cons_append, List.nil_append, List.length_cons, List.length_nil, Nat.zero_add]
  rw [fuel, settle, Nat.zero_testBit, if_neg Bool.false_ne_true, code_lead split]
  simp only [settle, entry, behind]
  split <;> rfl

/-- A thread that waits for one character goes on behind it, and dies at any other. -/
theorem search_single {offset next : Nat} {before : Option Char} {threads : List Thread}
    {c other : Char} {marks : Marks} (text : List Char)
    (settles : standardProgram.settleAt ⟨offset, before, some other⟩ threads none =
      ⟨[⟨.single c, next, marks⟩], none⟩) :
    search standardProgram offset before threads none (other :: text) =
      if other = c then search standardProgram (offset + 1) (some other) [⟨next, marks⟩] none text
      else none := by
  rw [search_cons text settles]
  by_cases same : other = c
  · simp [advance, CharSet.contains_single, same]
  · simp [advance, CharSet.contains_single, same, search_dead]

/-- The rest of the first words is there. -/
theorem search_lead_append {done remaining : List Char} (split : lead = done ++ remaining)
    (before : Char) (text : List Char) :
    search standardProgram done.length (some before) [⟨9 + remaining.length, blankMarks⟩] none
        (remaining ++ text) =
      Pending.nothing.found lead.length (text.takeWhile (· ≠ '\n')) := by
  induction remaining generalizing done before with
  | nil =>
      rw [List.append_nil] at split
      -- The thread that begins the first group settles as the dot's thread does.
      have entered (after : Option Char) :
          standardProgram.settleAt ⟨lead.length, some before, after⟩ [⟨9, blankMarks⟩] none =
            standardProgram.settleAt ⟨lead.length, some before, after⟩ Pending.nothing.threads
              none := rfl
      have same : search standardProgram lead.length (some before) [⟨9, blankMarks⟩] none text =
          search standardProgram lead.length (some before) Pending.nothing.threads none text := by
        cases text with
        | nil => rw [search_nil (entered none), search_nil rfl]
        | cons c text => rw [search_cons text (entered (some c)), search_cons text rfl]
      have fresh : Pending.nothing.Recent lead.length := trivial
      rw [← split, List.length_nil, Nat.add_zero, List.nil_append, same,
        search_threads before fresh, Option.or_none]
  | cons c rest inductionHypothesis =>
      have moved : lead = (done ++ [c]) ++ rest := by rw [split, List.append_assoc]; rfl
      have next := inductionHypothesis moved c
      rw [List.length_append, List.length_singleton] at next
      rw [List.length_cons, List.cons_append, Nat.add_comm rest.length 1, ← Nat.add_assoc,
        search_single _ (settleAt_lead split _ before (some c)), if_pos rfl, next]

/-- The rest of the first words is not there. -/
theorem search_lead_of_differs {done remaining : List Char} (split : lead = done ++ remaining)
    (before : Char) {text : List Char} (differs : ¬remaining <+: text) :
    search standardProgram done.length (some before) [⟨9 + remaining.length, blankMarks⟩] none
        text = none := by
  induction remaining generalizing done before text with
  | nil => exact absurd List.nil_prefix differs
  | cons c rest inductionHypothesis =>
      rw [List.length_cons, Nat.add_comm rest.length 1, ← Nat.add_assoc]
      cases text with
      | nil =>
          rw [search_nil (settleAt_lead split _ before none), Option.or_none]
      | cons other text =>
          rw [search_single text (settleAt_lead split _ before (some other))]
          split
          · rename_i same
            subst same
            have moved : lead = (done ++ [other]) ++ rest := by rw [split, List.append_assoc]; rfl
            have next := inductionHypothesis moved other fun (rests : rest <+: text) =>
              differs (List.cons_prefix_cons.mpr ⟨rfl, rests⟩)
            rwa [List.length_append, List.length_singleton] at next
          · rfl

/-- At the start of a text the first of the first words waits. -/
theorem settleAt_start (after : Option Char) :
    standardProgram.settleAt ⟨0, none, after⟩ [] none =
      ⟨[⟨.single 'F', 9 + lead.tail.length, blankMarks⟩], none⟩ := rfl

/-- A text that begins with the first words. -/
theorem find?_lead_append (text : List Char) :
    standardProgram.find? (lead ++ text) =
      Pending.nothing.found lead.length (text.takeWhile (· ≠ '\n')) := by
  have split : lead = ['F'] ++ lead.tail := rfl
  have first : lead ++ text = 'F' :: (lead.tail ++ text) := rfl
  rw [first, Program.find?, search_single _ (settleAt_start (some 'F')), if_pos rfl]
  exact search_lead_append split 'F' text

/-- A text that does not begin with the first words. -/
theorem find?_of_differs {text : List Char} (differs : ¬lead <+: text) :
    standardProgram.find? text = none := by
  have split : lead = ['F'] ++ lead.tail := rfl
  cases text with
  | nil => rfl
  | cons c text =>
      rw [Program.find?, search_single text (settleAt_start (some c))]
      by_cases same : c = 'F'
      · rw [if_pos same, same]
        refine search_lead_of_differs split 'F' fun rests => differs ?_
        rw [split, List.singleton_append, same]
        exact List.cons_prefix_cons.mpr ⟨rfl, rests⟩
      · rw [if_neg same]

end Occupancy.Pattern

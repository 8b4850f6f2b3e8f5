/-
Module: Occupancy.Proofs.LossyText
Purpose: Reading bytes with replacements commutes with cutting them at a byte of ASCII.
Main exports: Unfinished.PastAscii, Decoder.step_ascii, decodeLossy_append_ascii,
  lineFeed_not_mem_decodeLossy, lineInduction, splitOn_decodeLossy
-/
import Occupancy.Text.Utf8

namespace Occupancy.Text

/-!
Bytes may be cut into lines before they are read, or the text may be cut behind the reading, and
both give the same lines. Two facts carry this. A byte of ASCII is a character of its own wherever
it stands: no sequence goes on with one, so it ends whatever has begun, and the machine goes on as
from its beginning. And nothing but its own byte is read as a line feed, neither the replacement of
a broken sequence nor the end of a finished one.

The second fact needs more of a begun sequence than its bounds. The two leads that give no bits to
the value, one of three bytes and one of four, raise the lower bound of the next byte instead, so
that the value is positive before the last byte is added to it.
-/

/-- A sequence that has begun goes on with bytes past ASCII only, and its value is positive before
its last byte comes. -/
structure Unfinished.PastAscii (u : Unfinished) : Prop where
  low : 0x80 ≤ u.low
  grows : 0 < u.value ∨ 0x80 < u.low ∧ 1 < u.owed

theorem Lead.pastAscii_of_ofByte {b : UInt8} {u : Unfinished} (opens : Lead.ofByte b = .opens u) :
    u.PastAscii := by
  -- What the lead leaves to the value.
  have bits {base : UInt8} (above : ¬b < base) (other : b ≠ base) : base.toNat < b.toNat := by
    rw [UInt8.lt_iff_toNat_lt] at above
    rw [ne_eq, ← UInt8.toNat_inj] at other
    omega
  unfold Lead.ofByte at opens
  repeat' split at opens
  all_goals simp only [reduceCtorEq, Lead.opens.injEq] at opens
  all_goals subst opens
  · next notStray _ =>
      have above : 0xC2 ≤ b.toNat := by
        rwa [UInt8.lt_iff_toNat_lt, Nat.not_lt] at notStray
      exact ⟨UInt8.le_refl _, .inl (by dsimp only; omega)⟩
  · exact ⟨by decide, .inr (by decide)⟩
  · exact ⟨by decide, .inl (by decide)⟩
  · next notTwo notE0 _ _ =>
      exact ⟨UInt8.le_refl _, .inl (Nat.sub_pos_of_lt (bits notTwo notE0))⟩
  · exact ⟨by decide, .inr (by decide)⟩
  · next notThree notF0 _ =>
      exact ⟨UInt8.le_refl _, .inl (Nat.sub_pos_of_lt (bits notThree notF0))⟩
  · exact ⟨by decide, .inl (by decide)⟩

/-- A byte that goes on with a sequence makes its value positive. -/
theorem Unfinished.PastAscii.value_pos {u : Unfinished} (past : u.PastAscii) {b : UInt8}
    (above : u.low ≤ b) : 0 < u.value * 64 + (b.toNat - 0x80) := by
  rcases past.grows with value | ⟨raised, -⟩
  · omega
  · have above : 0x80 < b := UInt8.lt_of_lt_of_le raised above
    rw [UInt8.lt_iff_toNat_lt] at above
    exact Nat.add_pos_right _ (Nat.sub_pos_of_lt above)

namespace Decoder

/-- The machine in the middle of a sequence, or at the start of one, with no text behind it. -/
def fresh (pending : Option Unfinished) : Decoder := ⟨pending, #[], true⟩

/-- Whatever sequence has begun is past ASCII. -/
def Expecting (d : Decoder) : Prop := ∀ u, d.pending = some u → u.PastAscii

theorem expecting_init : init.Expecting := by
  intro u begun
  cases begun

theorem expecting_start (d : Decoder) (b : UInt8) : (d.start b).Expecting := by
  intro u begun
  unfold start at begun
  cases lead : Lead.ofByte b with
  | character c => simp [lead] at begun
  | stray => simp [lead] at begun
  | opens opened =>
      obtain rfl : opened = u := by simpa [lead] using begun
      exact Lead.pastAscii_of_ofByte lead

theorem expecting_step {d : Decoder} (expecting : d.Expecting) (b : UInt8) :
    (d.step b).Expecting := by
  cases begun : d.pending with
  | none =>
      rw [step, begun]
      exact d.expecting_start b
  | some u =>
      simp only [step, begun]
      split
      · next bounds =>
          split
          · intro next nothing
            simp at nothing
          · intro next goesOn
            obtain rfl : _ = next := by simpa using goesOn
            exact ⟨UInt8.le_refl _, .inl ((expecting u begun).value_pos bounds.1)⟩
      · exact d.giveUp.expecting_start b

theorem expecting_foldl {d : Decoder} (expecting : d.Expecting) (bytes : Bytes) :
    (bytes.foldl step d).Expecting := by
  induction bytes generalizing d with
  | nil => exact expecting
  | cons b bytes inductionHypothesis => exact inductionHypothesis (expecting_step expecting b)

/-! ### What the machine does next does not hang on the text behind it -/

theorem pending_step (d : Decoder) (b : UInt8) :
    (d.step b).pending = ((fresh d.pending).step b).pending := by
  cases begun : d.pending with
  | none =>
      simp only [step, start, fresh, begun]
      cases Lead.ofByte b <;> rfl
  | some u =>
      simp only [step, start, giveUp, fresh, begun]
      split
      · split <;> rfl
      · cases Lead.ofByte b <;> rfl

theorem text_step (d : Decoder) (b : UInt8) :
    (d.step b).text.toList = d.text.toList ++ ((fresh d.pending).step b).text.toList := by
  cases begun : d.pending with
  | none =>
      simp only [step, start, fresh, begun]
      cases Lead.ofByte b <;> simp
  | some u =>
      simp only [step, start, giveUp, fresh, begun]
      split
      · split <;> simp
      · cases Lead.ofByte b <;> simp

theorem text_finish (d : Decoder) :
    d.finish.text.toList = d.text.toList ++ (fresh d.pending).finish.text.toList := by
  cases begun : d.pending <;> simp [finish, giveUp, fresh, begun]

/-- What the machine makes of bytes comes behind the text that it already has. -/
theorem text_finish_foldl (d : Decoder) (bytes : Bytes) :
    (bytes.foldl step d).finish.text.toList =
      d.text.toList ++ (bytes.foldl step (fresh d.pending)).finish.text.toList := by
  induction bytes generalizing d with
  | nil => exact text_finish d
  | cons b bytes inductionHypothesis =>
      rw [List.foldl_cons, List.foldl_cons, inductionHypothesis (d.step b),
        inductionHypothesis ((fresh d.pending).step b), text_step, pending_step, List.append_assoc]

/-! ### Bytes of ASCII -/

theorem start_ascii (d : Decoder) {b : UInt8} (ascii : b < 0x80) :
    d.start b = { d with pending := none, text := d.text.push (Char.ofNat b.toNat) } := by
  rw [start, Lead.ofByte, if_pos ascii]

/-- A byte of ASCII ends whatever has begun and then stands for itself. -/
theorem step_ascii {d : Decoder} (expecting : d.Expecting) {b : UInt8} (ascii : b < 0x80) :
    d.step b =
      { d.finish with pending := none, text := d.finish.text.push (Char.ofNat b.toNat) } := by
  cases begun : d.pending with
  | none =>
      simp only [step, begun, start_ascii _ ascii, finish, Option.isSome_none, Bool.false_eq_true,
        if_false]
  | some u =>
      have below : ¬u.low ≤ b := by
        intro reaches
        exact UInt8.not_le.mpr ascii (UInt8.le_trans (expecting u begun).low reaches)
      simp only [step, begun, below, false_and, if_false, start_ascii _ ascii, finish,
        Option.isSome_some, if_true]

end Decoder

/-- A byte of ASCII is read as its character, and what stands before it and behind it is read as if
it stood alone. -/
theorem decodeLossy_append_ascii (before behind : Bytes) {b : UInt8} (ascii : b < 0x80) :
    decodeLossy (before ++ b :: behind) =
      decodeLossy before ++ Char.ofNat b.toNat :: decodeLossy behind := by
  have expecting := Decoder.expecting_foldl Decoder.expecting_init before
  rw [decodeLossy, Decoder.run, List.foldl_append, List.foldl_cons,
    Decoder.step_ascii expecting ascii, Decoder.text_finish_foldl]
  simp [decodeLossy, Decoder.run, Decoder.init, Decoder.fresh]

/-- The line feed at the end of a line is read as the last character, whatever stands before it. -/
theorem decodeLossy_append_lineFeed (bytes : Bytes) :
    decodeLossy (bytes ++ [0x0A]) = decodeLossy bytes ++ ['\n'] :=
  decodeLossy_append_ascii bytes [] (by decide)

/-! ### Line feeds -/

/-- The code point of the line feed is its own alone, also among numbers that are none. -/
theorem ofNat_ne_lineFeed {n : Nat} (other : n ≠ 0x0A) : Char.ofNat n ≠ '\n' := by
  intro same
  have code := congrArg Char.toNat same
  by_cases valid : n.isValidChar
  · rw [Char.ofNat, dif_pos valid] at code
    exact other code
  · rw [Char.ofNat, dif_neg valid] at code
    cases code

namespace Decoder

theorem lineFeed_not_mem_start {d : Decoder} (none : '\n' ∉ d.text) {b : UInt8} (other : b ≠ 0x0A) :
    '\n' ∉ (d.start b).text := by
  unfold start
  cases lead : Lead.ofByte b with
  | character c =>
      have read : c = Char.ofNat b.toNat := by
        unfold Lead.ofByte at lead
        split at lead
        · exact (Lead.character.inj lead).symm
        · repeat' split at lead
          all_goals cases lead
      have code : b.toNat ≠ 0x0A := fun same => other (UInt8.toNat_inj.mp same)
      simp [none, read, (ofNat_ne_lineFeed code).symm]
  | opens u => simpa using none
  | stray => simp [none, replacement]

/-- A byte that is no line feed adds none to the text, whatever has begun. -/
theorem lineFeed_not_mem_step {d : Decoder} (expecting : d.Expecting) (none : '\n' ∉ d.text)
    {b : UInt8} (other : b ≠ 0x0A) : '\n' ∉ (d.step b).text := by
  cases begun : d.pending with
  | none =>
      rw [step, begun]
      exact lineFeed_not_mem_start none other
  | some u =>
      simp only [step, begun]
      split
      · split
        · next last =>
            have value : 0 < u.value := by
              rcases (expecting u begun).grows with value | ⟨-, more⟩
              · exact value
              · omega
            have code : u.value * 64 + (b.toNat - 0x80) ≠ 0x0A := by omega
            simp [none, (ofNat_ne_lineFeed code).symm]
        · exact none
      · apply lineFeed_not_mem_start _ other
        simp [giveUp, none, replacement]

theorem lineFeed_not_mem_foldl {d : Decoder} (expecting : d.Expecting) (none : '\n' ∉ d.text)
    {bytes : Bytes} (absent : 0x0A ∉ bytes) : '\n' ∉ (bytes.foldl step d).finish.text := by
  induction bytes generalizing d with
  | nil =>
      rw [List.foldl_nil, finish]
      split
      · simp [giveUp, none, replacement]
      · exact none
  | cons b bytes inductionHypothesis =>
      rw [List.mem_cons, not_or] at absent
      exact inductionHypothesis (expecting_step expecting b)
        (lineFeed_not_mem_step expecting none (Ne.symm absent.1)) absent.2

end Decoder

/-- Bytes without a line feed are read without one, however broken they are. -/
theorem lineFeed_not_mem_decodeLossy {bytes : Bytes} (absent : 0x0A ∉ bytes) :
    '\n' ∉ decodeLossy bytes := by
  rw [decodeLossy, Array.mem_toList_iff]
  exact Decoder.lineFeed_not_mem_foldl Decoder.expecting_init (Array.not_mem_empty _) absent

/-- Induction on the lines of some bytes: a last line without a line feed, or a line with one in
front of others. -/
theorem lineInduction {motive : Bytes → Prop}
    (last : ∀ line, 0x0A ∉ line → motive line)
    (line : ∀ line rest, 0x0A ∉ line → motive rest → motive (line ++ 0x0A :: rest))
    (bytes : Bytes) : motive bytes := by
  by_cases feed : 0x0A ∈ bytes
  · obtain ⟨first, rest, split, absent⟩ := List.eq_append_cons_of_mem feed
    have shorter : rest.length < bytes.length := by
      rw [split, List.length_append, List.length_cons]
      omega
    rw [split]
    exact line first rest absent (lineInduction last line rest)
  · exact last bytes feed
termination_by bytes.length

/-- The lines of the text are the lines of the bytes, each read on its own. -/
theorem splitOn_decodeLossy (bytes : Bytes) :
    (decodeLossy bytes).splitOn '\n' = (bytes.splitOn 0x0A).map decodeLossy := by
  induction bytes using lineInduction with
  | last line absent =>
      rw [List.splitOn_eq_singleton absent,
        List.splitOn_eq_singleton (lineFeed_not_mem_decodeLossy absent), List.map_singleton]
  | line line rest absent inductionHypothesis =>
      have cut : decodeLossy (line ++ 0x0A :: rest) = decodeLossy line ++ '\n' :: decodeLossy rest :=
        decodeLossy_append_ascii line rest (by decide)
      rw [cut, List.splitOn_append_cons_self, List.splitOn_append_cons_self, List.map_append,
        inductionHypothesis, List.splitOn_eq_singleton absent,
        List.splitOn_eq_singleton (lineFeed_not_mem_decodeLossy absent), List.map_singleton]

/-- A sequence of three bytes that breaks off in front of a line feed is one replacement. -/
example : decodeLossy [0xE2, 0x82, 0x0A, 0x41] = [replacement, '\n', 'A'] := by decide

end Occupancy.Text

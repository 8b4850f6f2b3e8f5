/-
Module: Occupancy.Proofs.JsonDocument
Purpose: Values read back from the text that is written of them, with all that is inside them.
Main exports: Reads, Reads.checked, Reads.natural, Reads.null, Reads.nullable, Reads.list, Entry,
  Reads.record, Reads.readAll
-/
import Mathlib
import Occupancy.Proofs.JsonTokens

namespace Occupancy.Json

open Decimal

/-!
What is read may differ from what was written, since a double need not come back as it was. So a
reader is put in relation to two values: the one that was written and the one that it makes of the
text. Arrays and objects carry this relation from their parts to the whole, at any depth and
whatever stands behind them.
-/

/-! ### Blanks -/

/-- The blanks that are written between tokens. -/
def Gap (gap : List Char) : Prop := ∀ c ∈ gap, c = ' ' ∨ c = '\n'

/-- A character that a value can begin with: no blank, and no end of an array. -/
def Opens (c : Char) : Prop := c ∉ [' ', '\n', '\t', '\r', ']']

instance (c : Char) : Decidable (Opens c) := inferInstanceAs (Decidable (c ∉ _))

/-- A digit can begin a value. -/
theorem Opens.of_isDigit {c : Char} (digit : c.isDigit) : Opens c := by
  intro blank
  simp only [List.mem_cons, List.not_mem_nil, or_false] at blank
  rcases blank with rfl | rfl | rfl | rfl | rfl <;> exact absurd digit (by decide)

/-- There is nothing in front of a character that begins a value. -/
theorem skipBlank_of_opens {c : Char} (opens : Opens c) (rest : List Char) :
    skipBlank (c :: rest) = c :: rest := by
  simp only [Opens, List.mem_cons, List.not_mem_nil, or_false, not_or] at opens
  rcases opens with ⟨space, line, tab, carriage, -⟩
  simp [skipBlank, space, line, tab, carriage]

/-- Blanks are passed over. -/
theorem skipBlank_gap_append {gap : List Char} (blank : Gap gap) (cs : List Char) :
    skipBlank (gap ++ cs) = skipBlank cs := by
  refine List.dropWhile_append_of_pos fun c c_mem => ?_
  rcases blank c c_mem with rfl | rfl <;> rfl

/-- No blanks are a gap. -/
theorem Gap.nil : Gap [] := fun _ c_mem => absurd c_mem List.not_mem_nil

/-- A space is a gap. -/
theorem Gap.space : Gap [' '] := fun _ c_mem => .inl (List.mem_singleton.mp c_mem)

/-- A new line is a gap. -/
theorem Gap.newline (depth : Nat) : Gap (newline depth) := by
  intro c c_mem
  rcases List.mem_cons.mp c_mem with line | space
  · exact .inr line
  · exact .inl (List.eq_of_mem_replicate space)

/-! ### The relation -/

/-- Of the text of a written value, at any depth and whatever follows that ends a number, a reader
makes the read one and leaves what follows. -/
structure Reads (reader : Reader) (written read : Json) : Prop where
  opens : ∀ depth, ∃ c rest, write depth written = c :: rest ∧ Opens c
  reads : ∀ (depth : Nat) {gap rest : List Char}, Gap gap → NumberEnds rest →
    reader (gap ++ write depth written ++ rest) = .ok (read, rest)

namespace Reads

variable {reader : Reader} {written read : Json}

/-- Where a reader looks for a value, it finds its first character. -/
theorem skipBlank_write (reads : Reads reader written read) (depth : Nat) {gap : List Char}
    (blank : Gap gap) (rest : List Char) :
    skipBlank (gap ++ write depth written ++ rest) = write depth written ++ rest := by
  rcases reads.opens depth with ⟨c, tail, text, opens⟩
  rw [List.append_assoc, skipBlank_gap_append blank, text, List.cons_append,
    skipBlank_of_opens opens]

/-- A whole text that is one value is read. -/
theorem readAll (reads : Reads reader written read) : readAll reader written.pretty = .ok read := by
  have whole : reader ([] ++ write 0 written ++ []) = .ok (read, []) :=
    reads.reads 0 Gap.nil fun _ head => nomatch head
  rw [List.nil_append, List.append_nil] at whole
  rw [Json.readAll, pretty, whole]
  rfl

/-! ### Strings, numbers and nulls -/

/-- A string that passes a test comes back. -/
theorem checked {test : String → Bool} {text : String} (passes : test text) :
    Reads (Read.checked test) (.string text) (.string text) := by
  refine ⟨fun _ => ⟨'"', _, rfl, by decide⟩, fun depth gap rest blank _ => ?_⟩
  have found : skipBlank (gap ++ write depth (.string text) ++ rest) =
      '"' :: (text.toList.flatMap escaped ++ '"' :: rest) := by
    rw [List.append_assoc, skipBlank_gap_append blank, write, quoted]
    simp only [List.cons_append, List.append_assoc]
    exact skipBlank_of_opens (by decide) _
  simp only [Read.checked, found, readString_escaped, bind, Except.bind, String.ofList_toList,
    if_pos passes]
  rfl

/-- A string comes back. -/
theorem string (text : String) : Reads Read.string (.string text) (.string text) := checked rfl

/-- A digit begins a number without a sign. -/
theorem number_of_isDigit {c : Char} {cs rest : List Char} (found : skipBlank cs = c :: rest)
    (digit : c.isDigit) : number cs = readNumber false (c :: rest) := by
  rw [number, found]
  split
  case h_1 same =>
    rw [(List.cons.inj same).1] at digit
    exact absurd digit (by decide)
  case h_2 same => cases same
  case h_3 same =>
    rcases List.cons.inj same with ⟨rfl, rfl⟩
    exact if_pos digit

/-- The first of the digits of a number. -/
theorem opens_digits (n : Nat) : ∃ c rest, digits n = c :: rest ∧ c.isDigit := by
  rcases List.exists_cons_of_ne_nil (digits_ne_nil n) with ⟨c, rest, text⟩
  exact ⟨c, rest, text, isDigit_of_mem_digits (n := n) (by rw [text]; exact List.mem_cons_self)⟩

/-- A natural number below the bound comes back. -/
theorem natural {bound n : Nat} (small : n < bound) (word : n < significandLimit) :
    Reads (Read.natural bound) (.natural n) (.natural n) := by
  rcases opens_digits n with ⟨c, tail, text, digit⟩
  refine ⟨fun _ => ⟨c, tail, text, .of_isDigit digit⟩, fun depth gap rest blank ends => ?_⟩
  have begins : skipBlank (gap ++ write depth (.natural n) ++ rest) = c :: (tail ++ rest) := by
    rw [List.append_assoc, skipBlank_gap_append blank, write, text, List.cons_append,
      skipBlank_of_opens (.of_isDigit digit)]
  have found : number (gap ++ write depth (.natural n) ++ rest) = .ok (.natural n, rest) := by
    rw [number_of_isDigit begins digit, ← List.cons_append, ← text]
    exact readNumber_digits word ends
  simp only [Read.natural, found, bind, Except.bind, if_pos small]
  rfl

/-- A null comes back where one is allowed. -/
theorem null (reader : Reader) : Reads (Read.nullable reader) .null .null := by
  refine ⟨fun _ => ⟨'n', _, rfl, by decide⟩, fun depth gap rest blank _ => ?_⟩
  have found : skipBlank (gap ++ write depth .null ++ rest) = 'n' :: ("ull".toList ++ rest) := by
    rw [List.append_assoc, skipBlank_gap_append blank]
    exact skipBlank_of_opens (c := 'n') (by decide) _
  simp only [Read.nullable, found]
  rfl

/-- What does not begin like a null is read as it would be without one. -/
theorem nullable_of_ne (reader : Reader) {c : Char} {cs rest : List Char}
    (found : skipBlank cs = c :: rest) (other : c ≠ 'n') :
    Read.nullable reader cs = reader (c :: rest) := by
  rw [Read.nullable, found]
  split
  · rename_i same
    exact absurd (List.cons.inj same).1 other
  · rfl

/-- Where a null is allowed, all others come back that do without it and do not begin like it. -/
theorem nullable (reads : Reads reader written read)
    (differs : ∀ depth, (write depth written).head? ≠ some 'n') :
    Reads (Read.nullable reader) written read := by
  refine ⟨reads.opens, fun depth gap rest blank ends => ?_⟩
  have inside := reads.reads depth Gap.nil ends
  rcases reads.opens depth with ⟨c, tail, text, _⟩
  have other : c ≠ 'n' := by
    intro null
    exact differs depth (by rw [text, null]; rfl)
  have found := reads.skipBlank_write depth blank rest
  rw [text, List.cons_append] at found
  rw [List.nil_append, text, List.cons_append] at inside
  rw [text, nullable_of_ne reader found other, inside]

/-! ### Arrays -/

/-- The first item of an array is there as soon as a value begins. -/
theorem nextItem_first {c : Char} {cs rest : List Char} (found : skipBlank cs = c :: rest)
    (opens : Opens c) : nextItem true cs = .ok (true, c :: rest) := by
  rw [nextItem, found]
  split
  case h_1 same => cases same
  case h_2 same => exact absurd (by simp [(List.cons.inj same).1]) opens
  case h_3 same =>
    rcases List.cons.inj same with ⟨rfl, rfl⟩
    rfl

/-- Any other item is there if a value begins behind its comma. -/
theorem nextItem_comma {c : Char} {cs rest : List Char} (found : skipBlank cs = c :: rest)
    (opens : Opens c) : nextItem false (',' :: cs) = .ok (true, c :: rest) := by
  have comma : skipBlank (',' :: cs) = ',' :: cs := rfl
  rw [nextItem, comma]
  split
  case h_1 same => cases same
  case h_2 same => exact absurd (List.cons.inj same).1 (by decide)
  case h_3 same =>
    rcases List.cons.inj same with ⟨rfl, rfl⟩
    rw [if_neg (by decide), if_pos rfl, found]
    split
    case h_1 same => cases same
    case h_2 same => exact absurd (by simp [(List.cons.inj same).1]) opens
    case h_3 => rfl

/-- Behind an item a number ends, whether another one follows or not. -/
theorem ends_writeItems (depth outer : Nat) (items : List Json) (rest : List Char) :
    NumberEnds (writeItems depth items ++ (newline outer ++ rest)) := by
  intro c head
  cases items with
  | nil => exact .inr (Option.some.inj head).symm
  | cons _ _ => exact .inl (Option.some.inj head).symm

/-- Each item takes a character. -/
theorem length_le_writeItems (depth : Nat) (items : List Json) :
    items.length ≤ (writeItems depth items).length := by
  induction items with
  | nil => exact Nat.zero_le _
  | cons item items inductionHypothesis =>
    simp only [writeItems, List.length_cons, List.length_append]
    omega

/-- The items behind the first come back. -/
theorem readItems {items done : List Json} {itemsRead : List Json}
    (each : List.Forall₂ (Reads reader) items itemsRead) (depth outer : Nat) (rest : List Char)
    {fuel : Nat} (enough : items.length < fuel) :
    readItems reader fuel false done (writeItems depth items ++ (newline outer ++ ']' :: rest)) =
      .ok (.array (done.reverse ++ itemsRead), rest) := by
  induction each generalizing done fuel with
  | nil =>
    rcases fuel with _ | fuel
    · exact absurd enough (Nat.not_lt_zero _)
    have behind : skipBlank (newline outer ++ ']' :: rest) = ']' :: rest :=
      skipBlank_gap_append (Gap.newline outer) _
    simp only [writeItems, List.nil_append, Json.readItems, nextItem, behind, bind, Except.bind,
      endArray, List.append_nil]
    rfl
  | @cons item itemRead items itemsRead first _ inductionHypothesis =>
    rcases fuel with _ | fuel
    · exact absurd enough (Nat.not_lt_zero _)
    have more : nextItem false
        (writeItems depth (item :: items) ++ (newline outer ++ ']' :: rest)) =
        .ok (true,
          write depth item ++ (writeItems depth items ++ (newline outer ++ ']' :: rest))) := by
      rcases first.opens depth with ⟨c, tail, text, opens⟩
      have found := first.skipBlank_write depth (Gap.newline depth)
        (writeItems depth items ++ (newline outer ++ ']' :: rest))
      rw [text, List.cons_append] at found
      simpa only [writeItems, text, List.cons_append, List.append_assoc] using
        nextItem_comma found opens
    have read := first.reads depth Gap.nil (ends_writeItems depth outer items (']' :: rest))
    rw [List.nil_append] at read
    rw [List.length_cons] at enough
    simp only [Json.readItems, more, bind, Except.bind, if_true, read]
    rw [inductionHypothesis (Nat.lt_of_succ_lt_succ enough), List.reverse_cons, List.append_assoc]
    rfl

/-- An array comes back with what each of its items comes back as. -/
theorem list {items itemsRead : List Json} (each : List.Forall₂ (Reads reader) items itemsRead) :
    Reads (Read.list reader) (.array items) (.array itemsRead) := by
  have bracket : ∀ cs, skipBlank ('[' :: cs) = '[' :: cs := skipBlank_of_opens (by decide)
  cases each with
  | nil =>
    refine ⟨fun _ => ⟨'[', _, rfl, by decide⟩, fun depth gap rest blank _ => ?_⟩
    have found : skipBlank (gap ++ write depth (.array []) ++ rest) = '[' :: ']' :: rest := by
      rw [List.append_assoc, skipBlank_gap_append blank]
      exact bracket _
    have close : skipBlank (']' :: rest) = ']' :: rest := rfl
    simp only [Read.list, found, Json.readItems, nextItem, close, bind, Except.bind, endArray]
    rfl
  | @cons item itemRead items itemsRead first others =>
    refine ⟨fun _ => ⟨'[', _, by rw [write]; rfl, by decide⟩, fun depth gap rest blank _ => ?_⟩
    have found : skipBlank (gap ++ write depth (.array (item :: items)) ++ rest) =
        '[' :: (newline (depth + 1) ++ (write (depth + 1) item ++
          (writeItems (depth + 1) items ++ (newline depth ++ ']' :: rest)))) := by
      rw [List.append_assoc, skipBlank_gap_append blank, write]
      simp only [List.cons_append, List.append_assoc, bracket, List.nil_append]
    have more : nextItem true (newline (depth + 1) ++ (write (depth + 1) item ++
        (writeItems (depth + 1) items ++ (newline depth ++ ']' :: rest)))) =
        .ok (true, write (depth + 1) item ++
          (writeItems (depth + 1) items ++ (newline depth ++ ']' :: rest))) := by
      rcases first.opens (depth + 1) with ⟨c, tail, text, opens⟩
      have found := first.skipBlank_write (depth + 1) (Gap.newline (depth + 1))
        (writeItems (depth + 1) items ++ (newline depth ++ ']' :: rest))
      rw [List.append_assoc, text, List.cons_append] at found
      rw [text, List.cons_append]
      exact nextItem_first found opens
    have read := first.reads (depth + 1) Gap.nil
      (ends_writeItems (depth + 1) depth items (']' :: rest))
    rw [List.nil_append] at read
    have enough := length_le_writeItems (depth + 1) items
    simp only [Read.list, found, Json.readItems, more, bind, Except.bind, if_true, read]
    rw [readItems others]
    · rfl
    · simp only [List.length_append, newline, List.length_cons]
      omega

end Reads

/-! ### Objects -/

/-- A field of an object with the value that is written and the one that is read of it. -/
structure Entry where
  field : Field
  written : Json
  read : Json

namespace Entry

/-- The member that is written. -/
def writtenMember (entry : Entry) : String × Json := (entry.field.name, entry.written)

/-- The member that is read. -/
def readMember (entry : Entry) : String × Json := (entry.field.name, entry.read)

/-- A field whose value is read as it is written. -/
abbrev kept (field : Field) (value : Json) : Entry := ⟨field, value, value⟩

end Entry

/-- Among elements with distinct keys, the search for the key of one finds that one. -/
theorem find?_key {α : Type} {key : α → String} {elements : List α}
    (distinct : (elements.map key).Nodup) {a : α} (a_mem : a ∈ elements) :
    elements.find? (key · == key a) = some a := by
  induction elements with
  | nil => cases a_mem
  | cons b elements inductionHypothesis =>
    rw [List.map_cons, List.nodup_cons] at distinct
    rcases List.mem_cons.mp a_mem with rfl | later
    · simp
    · have differs : key b ≠ key a := fun same => distinct.1 (same ▸ List.mem_map_of_mem later)
      rw [List.find?_cons_of_neg (by simpa using differs), inductionHypothesis distinct.2 later]

/-- All fields were read, so that none is left out. -/
theorem complete_of_found {done : List (String × Json)} {entries : List Entry}
    (found : ∀ entry ∈ entries,
      done.find? (·.1 == entry.field.name) = some entry.readMember) :
    complete done (entries.map (·.field)) = .ok (entries.map Entry.readMember) := by
  induction entries with
  | nil => rfl
  | cons entry entries inductionHypothesis =>
    have rest := inductionHypothesis fun other other_mem =>
      found other (List.mem_cons_of_mem entry other_mem)
    rw [List.map_cons, complete, found entry List.mem_cons_self, rest]
    rfl

namespace Reads

/-- Behind a member a number ends, whether another one follows or not. -/
theorem ends_writeMembers (depth outer : Nat) (members : List (String × Json))
    (rest : List Char) : NumberEnds (writeMembers depth members ++ (newline outer ++ rest)) := by
  intro c head
  cases members with
  | nil => exact .inr (Option.some.inj head).symm
  | cons _ _ => exact .inl (Option.some.inj head).symm

/-- Each member takes a character. -/
theorem length_le_writeMembers (depth : Nat) (members : List (String × Json)) :
    members.length ≤ (writeMembers depth members).length := by
  induction members with
  | nil => exact Nat.zero_le _
  | cons member members inductionHypothesis =>
    simp only [writeMembers, List.length_cons, List.length_append]
    omega

/-- One member behind its opening quote: its name is looked up, and its value is read by the reader
of its field. -/
theorem readMembers_cons {entries before : List Entry}
    (distinct : (entries.map (·.field.name)).Nodup) {entry : Entry} (entry_mem : entry ∈ entries)
    (fresh : entry.field.name ∉ before.map (·.field.name))
    (reads : Reads entry.field.read entry.written entry.read) (depth : Nat) {first : Bool}
    {cs rest : List Char} (ends : NumberEnds rest) {fuel : Nat}
    (more : nextMember first cs = .ok (true, entry.field.name.toList.flatMap escaped ++
      '"' :: ':' :: ' ' :: (write depth entry.written ++ rest))) :
    readMembers (entries.map (·.field)) (fuel + 1) first (before.map Entry.readMember) cs =
      readMembers (entries.map (·.field)) fuel false
        ((before ++ [entry]).map Entry.readMember) rest := by
  have found : (entries.map (·.field)).find? (·.name == entry.field.name) = some entry.field := by
    rw [List.find?_map]
    exact congrArg _ (find?_key distinct entry_mem)
  have unread : (before.map Entry.readMember).any (·.1 == entry.field.name) = false := by
    rw [List.any_eq_false]
    intro member member_mem same
    rcases List.mem_map.mp member_mem with ⟨other, other_mem, rfl⟩
    exact fresh (List.mem_map.mpr ⟨other, other_mem, beq_iff_eq.mp same⟩)
  have colon : ∀ cs, readColon (':' :: cs) = .ok cs := fun _ => rfl
  have value := reads.reads depth Gap.space ends
  rw [List.append_assoc, List.singleton_append] at value
  simp only [readMembers, more, bind, Except.bind, Bool.not_true, Bool.false_eq_true, if_false,
    readString_escaped, String.ofList_toList, found, unread, colon, value, List.map_append,
    List.map_cons, List.map_nil]
  rfl

/-- The end of an object whose fields were all read. -/
theorem readMembers_nil {entries : List Entry} (distinct : (entries.map (·.field.name)).Nodup)
    {first : Bool} {cs rest : List Char} (close : nextMember first cs = .ok (false, '\x7d' :: rest))
    (fuel : Nat) :
    readMembers (entries.map (·.field)) (fuel + 1) first (entries.map Entry.readMember) cs =
      .ok (.object (entries.map Entry.readMember), rest) := by
  have all : complete (entries.map Entry.readMember) (entries.map (·.field)) =
      .ok (entries.map Entry.readMember) := by
    refine complete_of_found fun entry entry_mem => ?_
    rw [List.find?_map]
    exact congrArg _ (find?_key distinct entry_mem)
  simp only [readMembers, close, bind, Except.bind, Bool.not_false, if_true, all]
  rfl

/-- The members behind those that were read come back. -/
theorem readMembers {entries before after : List Entry}
    (distinct : (entries.map (·.field.name)).Nodup) (split : entries = before ++ after)
    (each : ∀ entry ∈ after, Reads entry.field.read entry.written entry.read) (depth outer : Nat)
    (rest : List Char) {fuel : Nat} (enough : after.length < fuel) :
    readMembers (entries.map (·.field)) fuel false (before.map Entry.readMember)
        (writeMembers depth (after.map Entry.writtenMember) ++ (newline outer ++ '\x7d' :: rest)) =
      .ok (.object (entries.map Entry.readMember), rest) := by
  induction after generalizing before fuel with
  | nil =>
    rcases fuel with _ | fuel
    · exact absurd enough (Nat.not_lt_zero _)
    rw [List.append_nil] at split
    subst split
    refine readMembers_nil distinct ?_ fuel
    have behind : skipBlank (newline outer ++ '\x7d' :: rest) = '\x7d' :: rest :=
      skipBlank_gap_append (Gap.newline outer) _
    simp only [List.map_nil, writeMembers, List.nil_append, nextMember, behind]
  | cons entry after inductionHypothesis =>
    rcases fuel with _ | fuel
    · exact absurd enough (Nat.not_lt_zero _)
    rw [List.length_cons] at enough
    have entry_mem : entry ∈ entries := by
      rw [split]
      exact List.mem_append_right before List.mem_cons_self
    have fresh : entry.field.name ∉ before.map (·.field.name) := by
      rw [split, List.map_append, List.map_cons] at distinct
      exact fun early => (List.nodup_append.mp distinct).2.2 _ early _ List.mem_cons_self rfl
    rw [readMembers_cons distinct entry_mem fresh (each entry List.mem_cons_self) depth
      (ends_writeMembers depth outer _ _)]
    · exact inductionHypothesis (by rw [split, List.append_assoc]; rfl)
        (fun other other_mem => each other (List.mem_cons_of_mem entry other_mem))
        (Nat.lt_of_succ_lt_succ enough)
    · have comma : ∀ cs, skipBlank (',' :: cs) = ',' :: cs := skipBlank_of_opens (by decide)
      have quote : ∀ cs, skipBlank ('"' :: cs) = '"' :: cs := skipBlank_of_opens (by decide)
      simp only [List.map_cons, Entry.writtenMember, writeMembers, quoted, List.cons_append,
        List.append_assoc, nextMember, comma, skipBlank_gap_append (Gap.newline depth), quote,
        List.nil_append]
      rfl

/-- An object comes back with what each of its members comes back as, if it is written with the
fields that are read, in their order. -/
theorem record (entries : List Entry) (distinct : (entries.map (·.field.name)).Nodup)
    (each : ∀ entry ∈ entries, Reads entry.field.read entry.written entry.read) :
    Reads (Read.record (entries.map (·.field))) (.object (entries.map Entry.writtenMember))
      (.object (entries.map Entry.readMember)) := by
  have brace : ∀ cs, skipBlank ('\x7b' :: cs) = '\x7b' :: cs := skipBlank_of_opens (by decide)
  cases entries with
  | nil =>
    refine ⟨fun _ => ⟨'\x7b', _, rfl, by decide⟩, fun depth gap rest blank _ => ?_⟩
    have found : skipBlank (gap ++ write depth (.object []) ++ rest) =
        '\x7b' :: '\x7d' :: rest := by
      rw [List.append_assoc, skipBlank_gap_append blank]
      exact brace _
    simp only [List.map_nil, Read.record, found]
    exact @readMembers_nil [] distinct _ _ _ rfl _
  | cons entry entries =>
    refine ⟨fun _ => ⟨'\x7b', _, by rw [List.map_cons, Entry.writtenMember, write]; rfl, by decide⟩,
      fun depth gap rest blank _ => ?_⟩
    have found : skipBlank
        (gap ++ write depth (.object ((entry :: entries).map Entry.writtenMember)) ++ rest) =
        '\x7b' :: (newline (depth + 1) ++ '"' :: (entry.field.name.toList.flatMap escaped ++
          '"' :: ':' :: ' ' :: (write (depth + 1) entry.written ++
            (writeMembers (depth + 1) (entries.map Entry.writtenMember) ++
              (newline depth ++ '\x7d' :: rest))))) := by
      rw [List.append_assoc, skipBlank_gap_append blank, List.map_cons, Entry.writtenMember, write,
        quoted]
      simp only [List.cons_append, List.append_assoc, brace, List.nil_append]
    have enough := length_le_writeMembers (depth + 1) (entries.map Entry.writtenMember)
    rw [List.length_map] at enough
    simp only [Read.record, found]
    rw [← List.map_nil (f := Entry.readMember),
      readMembers_cons distinct List.mem_cons_self (by simp) (each entry List.mem_cons_self)
        (depth + 1) (ends_writeMembers (depth + 1) depth _ _)]
    · refine readMembers distinct rfl
        (fun other other_mem => each other (List.mem_cons_of_mem entry other_mem)) _ _ _ ?_
      simp only [List.length_append, List.length_cons]
      omega
    · have quote : ∀ cs, skipBlank ('"' :: cs) = '"' :: cs := skipBlank_of_opens (by decide)
      simp only [nextMember, skipBlank_gap_append (Gap.newline (depth + 1)), quote, if_true]

end Reads
end Occupancy.Json

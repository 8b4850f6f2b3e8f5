/-
Module: Occupancy.Proofs.LogValues
Purpose: A log as the list of the values that it adds.
Main exports: Text.filterMap_lines, LineRule.parse_nil, Collector.value?, Collector.values,
  Collector.scan_eq_foldl_record
-/
import Occupancy.Collection
import Occupancy.Proofs.LossyText

namespace Occupancy

/-!
A scan reads lines that still have their line feed and passes over an empty last line. The values of
a log are told without either: its bytes are split at the line feeds, and each piece adds a value or
none. Both agree because a line feed is a character of its own wherever it stands, also behind a
broken sequence, and because an empty line holds no sample under any rule.
-/

namespace Text

/-- The lines of a file are the pieces between its line feeds, as far as a reader of lines can tell
that makes nothing of an empty line and takes no notice of a line feed at the end. -/
theorem filterMap_linesFrom {β : Type} {read : Bytes → Option β} (blank : read [] = none)
    (ended : ∀ line, read (line ++ [0x0A]) = read line) (line : Bytes) (done : List Bytes)
    (bytes : Bytes) :
    (linesFrom line done bytes).filterMap read =
      done.reverse.filterMap read ++
        (List.splitOnPPrepend (· == 0x0A) bytes line).filterMap read := by
  induction bytes generalizing line done with
  | nil =>
      rw [linesFrom, List.splitOnPPrepend_nil]
      cases line with
      | nil => simp [blank]
      | cons b line => simp
  | cons b bytes inductionHypothesis =>
      rw [linesFrom, List.splitOnPPrepend_cons_eq_if]
      by_cases feed : b = 0x0A
      · subst feed
        rw [if_pos rfl, inductionHypothesis, List.splitOnPPrepend_nil_right]
        simp only [List.reverse_cons, List.filterMap_append, List.filterMap_cons,
          List.filterMap_nil, ended, List.append_assoc, beq_self_eq_true, if_true]
        cases read line.reverse <;> rfl
      · simp [feed, inductionHypothesis]

theorem filterMap_lines {β : Type} {read : Bytes → Option β} (blank : read [] = none)
    (ended : ∀ line, read (line ++ [0x0A]) = read line) (bytes : Bytes) :
    (lines bytes).filterMap read = (bytes.splitOn 0x0A).filterMap read := by
  rw [lines, filterMap_linesFrom blank ended, List.splitOn_eq_splitOnP,
    List.splitOnP_eq_splitOnPPrepend]
  simp

end Text

theorem trimLineEnd_append_lineFeed (line : List Char) :
    trimLineEnd (line ++ ['\n']) = trimLineEnd line := by
  simp [trimLineEnd, Text.dropEndWhile]

/-- A group of an empty text is empty. -/
theorem Pattern.eq_nil_of_groupText_nil {marks : Marks} {index : Nat} {text : List Char}
    (group : groupText marks [] index = some text) : text = [] := by
  simp only [groupText, Option.bind_eq_bind, Option.bind_eq_some_iff, pure,
    Option.some.injEq] at group
  obtain ⟨start, -, stop, -, rfl⟩ := group
  simp

/-- An empty line holds no sample, whatever the rule: an occupancy has a digit at least. -/
theorem LineRule.parse_nil (rule : LineRule) : rule.parse [] = none := by
  rw [Option.eq_none_iff_forall_not_mem]
  intro sample parsed
  simp only [Option.mem_def, LineRule.parse, Pattern.captures?, Option.bind_eq_bind,
    Option.bind_eq_some_iff, Option.map_eq_some_iff] at parsed
  obtain ⟨_, ⟨marks, -, rfl⟩, _, -, raw, rawEq, value, valueEq, -⟩ := parsed
  simp only [Option.bind_eq_some_iff] at rawEq
  obtain ⟨group, -, captured⟩ := rawEq
  obtain rfl := Pattern.eq_nil_of_groupText_nil captured
  simp [occupancy?, decimalValue?] at valueEq

namespace Collector

/-- The value that a piece of a log between two line feeds adds, if it adds one. -/
def value? (c : Collector) (piece : Bytes) : Option UInt32 :=
  c.counted? (trimLineEnd (Text.decodeLossy piece))

theorem value?_nil (c : Collector) : c.value? [] = none := by
  show c.counted? [] = none
  rw [counted?, LineRule.parse_nil]
  rfl

theorem value?_append_lineFeed (c : Collector) (piece : Bytes) :
    c.value? (piece ++ [0x0A]) = c.value? piece := by
  rw [value?, value?, Text.decodeLossy_append_lineFeed, trimLineEnd_append_lineFeed]

/-- The values that a log adds: those of its lines that hold a sample of a kernel that counts. -/
def values (c : Collector) (log : Bytes) : List UInt32 :=
  (log.splitOn 0x0A).filterMap c.value?

/-- The values of two logs with a line feed between them. -/
theorem values_append_lineFeed_append (c : Collector) (first second : Bytes) :
    c.values (first ++ 0x0A :: second) = c.values first ++ c.values second := by
  rw [values, List.splitOn_append_cons_self, List.filterMap_append]
  rfl

theorem values_nil (c : Collector) : c.values [] = [] := by
  simp [values, value?_nil]

theorem filterMap_value?_lines (c : Collector) (log : Bytes) :
    (Text.lines log).filterMap c.value? = c.values log :=
  Text.filterMap_lines c.value?_nil c.value?_append_lineFeed log

theorem foldl_scanLine (c : Collector) (bucket : Bucket) (lines : List Bytes) :
    lines.foldl c.scanLine bucket = (lines.filterMap c.value?).foldl Bucket.record bucket := by
  induction lines generalizing bucket with
  | nil => rfl
  | cons line lines inductionHypothesis =>
      have step : c.scanLine bucket line = (c.value? line).elim bucket bucket.record := by
        rw [scanLine, ← value?]
        cases c.value? line <;> rfl
      rw [List.foldl_cons, inductionHypothesis, step, List.filterMap_cons]
      cases c.value? line <;> rfl

/-- Scanning a log records its values one after the other. -/
theorem scan_eq_foldl_record (c : Collector) (log : Bytes) :
    c.scan log = (c.values log).foldl Bucket.record .empty := by
  rw [scan, foldl_scanLine, filterMap_value?_lines]

end Collector
end Occupancy

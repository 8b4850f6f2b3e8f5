/-
Module: Occupancy.Proofs.LogText
Purpose: A log told as one text, and what the ends of its lines matter.
Main exports: Collector.samplesOfText, Collector.scanText, withCarriageReturns,
  Collector.values_eq_samplesOfText, Collector.values_withCarriageReturns, scan_eq_scanText
-/
import Occupancy.Proofs.BucketSums
import Occupancy.Proofs.Folds
import Occupancy.Proofs.LogValues

namespace Occupancy

/-!
A scan cuts raw bytes behind every line feed, reads each piece with replacements, and takes off any
line feeds and carriage returns at its end. The reference has the whole log as one text, which it
cuts at the line feeds, and takes off carriage returns only. Of a piece there is at most one line
feed to take off, the one that it was cut behind, because a piece without the byte of a line feed is
never read as a text with one. The pieces that a cut behind line feeds leaves out, or a cut at line
feeds adds, are empty lines, and these hold no sample.
-/

namespace Collector

/-- The samples of a text that count: those of its lines, each without the carriage returns at its
end, less those of kernels that are to be ignored. -/
def samplesOfText (c : Collector) (text : List Char) : List Sample :=
  let lines := (text.splitOn '\n').map (Text.dropEndWhile (· == '\r'))
  (lines.filterMap c.rule.parse).filter fun sample => sample.kernel ∉ c.ignoredKernels

/-- The bucket of a text: its samples counted one after the other, less those that the sums have no
room for. -/
def scanText (c : Collector) (text : List Char) : Bucket :=
  (c.samplesOfText text).foldl (fun bucket sample =>
    if bucket.Takes sample.value.toUInt64 1 then
      .ofSums (bucket.total + sample.value.toUInt64) (bucket.kernels + 1)
    else bucket) .empty

end Collector

/-- The log with a carriage return in front of every line feed. -/
def withCarriageReturns (log : Bytes) : Bytes :=
  log.flatMap fun b => if b = 0x0A then [0x0D, 0x0A] else [b]

theorem withCarriageReturns_of_line {line : Bytes} (absent : 0x0A ∉ line) :
    withCarriageReturns line = line := by
  induction line with
  | nil => rfl
  | cons b line inductionHypothesis =>
      rw [List.mem_cons, not_or] at absent
      have rest := inductionHypothesis absent.2
      rw [withCarriageReturns] at rest ⊢
      rw [List.flatMap_cons, if_neg (Ne.symm absent.1), rest, List.singleton_append]

theorem withCarriageReturns_append_lineFeed (first rest : Bytes) :
    withCarriageReturns (first ++ 0x0A :: rest) =
      (withCarriageReturns first ++ [0x0D]) ++ 0x0A :: withCarriageReturns rest := by
  simp [withCarriageReturns]

/-! ### Single lines -/

/-- In a text without a line feed only carriage returns are taken off its end. -/
theorem trimLineEnd_of_line {line : List Char} (absent : '\n' ∉ line) :
    trimLineEnd line = Text.dropEndWhile (· == '\r') line := by
  have same (backwards : List Char) (absent : '\n' ∉ backwards) :
      backwards.dropWhile (fun c => c == '\n' || c == '\r') = backwards.dropWhile (· == '\r') := by
    induction backwards with
    | nil => rfl
    | cons c rest inductionHypothesis =>
        rw [List.mem_cons, not_or] at absent
        have noFeed : (c == '\n') = false := beq_false_of_ne (Ne.symm absent.1)
        rw [List.dropWhile_cons, List.dropWhile_cons, inductionHypothesis absent.2, noFeed,
          Bool.false_or]
  rw [trimLineEnd, Text.dropEndWhile, Text.dropEndWhile, same line.reverse (by simpa using absent)]

theorem trimLineEnd_append_carriageReturn (line : List Char) :
    trimLineEnd (line ++ ['\r']) = trimLineEnd line := by
  simp [trimLineEnd, Text.dropEndWhile]

namespace Collector

/-- A line gives at most one value. -/
theorem values_of_line (c : Collector) {line : Bytes} (absent : 0x0A ∉ line) :
    c.values line = (c.value? line).toList := by
  rw [values, List.splitOn_eq_singleton absent]
  cases value : c.value? line with
  | none => rw [List.filterMap_cons_none value, List.filterMap_nil, Option.toList_none]
  | some value' => rw [List.filterMap_cons_some value, List.filterMap_nil, Option.toList_some]

theorem value?_append_carriageReturn (c : Collector) (line : Bytes) :
    c.value? (line ++ [0x0D]) = c.value? line := by
  have read : Text.decodeLossy (line ++ [0x0D]) = Text.decodeLossy line ++ ['\r'] :=
    Text.decodeLossy_append_ascii line [] (by decide)
  rw [value?, value?, read, trimLineEnd_append_carriageReturn]

/-! ### Whole logs -/

/-- Samples are read, those that do not count are left out, and their values are taken: that is what
is counted of each line. -/
theorem map_value_samplesOfText (c : Collector) (text : List Char) :
    (c.samplesOfText text).map (·.value) =
      ((text.splitOn '\n').map (Text.dropEndWhile (· == '\r'))).filterMap c.counted? := by
  rw [samplesOfText]
  induction (text.splitOn '\n').map (Text.dropEndWhile (· == '\r')) with
  | nil => rfl
  | cons line lines inductionHypothesis =>
      cases parsed : c.rule.parse line with
      | none =>
          have nothing : c.counted? line = none := by rw [counted?, parsed, Option.bind_none]
          rw [List.filterMap_cons_none parsed, List.filterMap_cons_none nothing,
            inductionHypothesis]
      | some sample =>
          by_cases ignored : sample.kernel ∈ c.ignoredKernels
          · have nothing : c.counted? line = none := by simp [counted?, parsed, ignores, ignored]
            rw [List.filterMap_cons_some parsed, List.filterMap_cons_none nothing,
              List.filter_cons_of_neg (by simpa using ignored), inductionHypothesis]
          · have value : c.counted? line = some sample.value := by
              simp [counted?, parsed, ignores, ignored]
            rw [List.filterMap_cons_some parsed, List.filterMap_cons_some value,
              List.filter_cons_of_pos (by simpa using ignored), List.map_cons, inductionHypothesis]

/-- The values of a log are those of the samples of its text. -/
theorem values_eq_samplesOfText (c : Collector) (log : Bytes) :
    c.values log = (c.samplesOfText (Text.decodeLossy log)).map (·.value) := by
  rw [map_value_samplesOfText, Text.splitOn_decodeLossy, values, List.map_map, List.filterMap_map]
  apply List.filterMap_congr
  intro line member
  have absent := not_mem_of_mem_splitOn member
  rw [value?, trimLineEnd_of_line (Text.lineFeed_not_mem_decodeLossy absent)]
  rfl

/-- Carriage returns in front of the line feeds change no value. -/
theorem values_withCarriageReturns (c : Collector) (log : Bytes) :
    c.values (withCarriageReturns log) = c.values log := by
  induction log using Text.lineInduction with
  | last line absent => rw [withCarriageReturns_of_line absent]
  | line line rest absent inductionHypothesis =>
      have ended : 0x0A ∉ line ++ [0x0D] := by simp [absent]
      rw [withCarriageReturns_append_lineFeed, withCarriageReturns_of_line absent,
        values_append_lineFeed_append, values_append_lineFeed_append, inductionHypothesis,
        values_of_line c ended, value?_append_carriageReturn, values_of_line c absent]

/-- A line feed at the end changes no value. -/
theorem values_append_lineFeed (c : Collector) (log : Bytes) :
    c.values (log ++ [0x0A]) = c.values log := by
  rw [values_append_lineFeed_append, values_nil, List.append_nil]

end Collector

/-- Scanning the bytes of a log line by line gives the bucket of its text, which is read as a whole
and then cut at its line feeds, whatever the rule, the kernels to be ignored and the bytes. So it
makes no difference whether lines end with a carriage return or not, and whether the last line ends
with a line feed or not. -/
theorem scan_eq_scanText (c : Collector) (log : Bytes) :
    c.scan log = c.scanText (Text.decodeLossy log) ∧
      c.scan (withCarriageReturns log) = c.scan log ∧
      c.scan (log ++ [0x0A]) = c.scan log := by
  refine ⟨?_, ?_, ?_⟩
  · rw [Collector.scan_eq_foldl_record, Collector.values_eq_samplesOfText, List.foldl_map,
      Collector.scanText]
    simp only [Bucket.record_eq_ite]
  · rw [Collector.scan_eq_foldl_record, Collector.values_withCarriageReturns,
      ← Collector.scan_eq_foldl_record]
  · rw [Collector.scan_eq_foldl_record, Collector.values_append_lineFeed,
      ← Collector.scan_eq_foldl_record]

end Occupancy

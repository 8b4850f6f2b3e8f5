/-
Module: Occupancy.Text.Utf8
Purpose: Bytes and characters: UTF-8 written, read strictly, and read with replacements.
Main exports: Bytes, encode, Decoder, decodeLossy, decode?, display
-/

namespace Occupancy

/-- File contents, names and paths are bytes; nothing promises that they are text. -/
abbrev Bytes := List UInt8

namespace Text

/-!
Reading is one machine that takes a byte at a time. `Decoder.step` either completes a character,
waits for the bytes that a sequence still owes, or gives the sequence up: then one replacement
character stands for its valid beginning and the byte that broke it is looked at again as the start
of something new. So each maximal ill-formed part becomes exactly one replacement character.
-/

/-- The UTF-8 bytes of a text. -/
def encode (cs : List Char) : Bytes :=
  cs.flatMap String.utf8EncodeChar

/-- Stands in a decoded text for bytes that are no character. -/
def replacement : Char := '\uFFFD'

/-- A sequence that has begun: its value so far, how many bytes it owes, and the bounds within
which the next of them must lie. The bounds keep overlong forms, surrogates and values past the
last code point out at the second byte. -/
structure Unfinished where
  value : Nat
  owed : Nat
  low : UInt8
  high : UInt8
deriving DecidableEq, Repr

/-- What a byte means at the start of a sequence. -/
inductive Lead where
  | character (c : Char)
  | opens (u : Unfinished)
  | stray
deriving DecidableEq, Repr

/-- Classify the first byte of a sequence. -/
def Lead.ofByte (b : UInt8) : Lead :=
  if b < 0x80 then .character (Char.ofNat b.toNat)
  else if b < 0xC2 then .stray
  else if b < 0xE0 then .opens ⟨b.toNat - 0xC0, 1, 0x80, 0xBF⟩
  else if b = 0xE0 then .opens ⟨0, 2, 0xA0, 0xBF⟩
  else if b = 0xED then .opens ⟨0xD, 2, 0x80, 0x9F⟩
  else if b < 0xF0 then .opens ⟨b.toNat - 0xE0, 2, 0x80, 0xBF⟩
  else if b = 0xF0 then .opens ⟨0, 3, 0x90, 0xBF⟩
  else if b < 0xF4 then .opens ⟨b.toNat - 0xF0, 3, 0x80, 0xBF⟩
  else if b = 0xF4 then .opens ⟨4, 3, 0x80, 0x8F⟩
  else .stray

/-- The reading machine: the sequence it is in, the characters so far, and whether every byte so far
belonged to a character. -/
structure Decoder where
  pending : Option Unfinished
  text : Array Char
  clean : Bool
deriving Repr

/-- Before the first byte. -/
def Decoder.init : Decoder := ⟨none, #[], true⟩

/-- Take a byte at the start of a sequence. -/
def Decoder.start (d : Decoder) (b : UInt8) : Decoder :=
  match Lead.ofByte b with
  | .character c => { d with pending := none, text := d.text.push c }
  | .opens u => { d with pending := some u }
  | .stray => ⟨none, d.text.push replacement, false⟩

/-- Give the open sequence up. -/
def Decoder.giveUp (d : Decoder) : Decoder :=
  ⟨none, d.text.push replacement, false⟩

/-- Take one byte. -/
def Decoder.step (d : Decoder) (b : UInt8) : Decoder :=
  match d.pending with
  | none => d.start b
  | some u =>
    if u.low ≤ b ∧ b ≤ u.high then
      let value := u.value * 64 + (b.toNat - 0x80)
      if u.owed ≤ 1 then { d with pending := none, text := d.text.push (Char.ofNat value) }
      else { d with pending := some ⟨value, u.owed - 1, 0x80, 0xBF⟩ }
    else d.giveUp.start b

/-- The end of the bytes: a sequence that is still open is given up. -/
def Decoder.finish (d : Decoder) : Decoder :=
  if d.pending.isSome then d.giveUp else d

/-- Run the machine over all bytes. -/
def Decoder.run (bytes : Bytes) : Decoder :=
  (bytes.foldl Decoder.step Decoder.init).finish

/-- The text of any bytes, with a replacement character for each maximal ill-formed part. -/
def decodeLossy (bytes : Bytes) : List Char :=
  (Decoder.run bytes).text.toList

/-- The text of bytes that are UTF-8 throughout. -/
def decode? (bytes : Bytes) : Option (List Char) :=
  let d := Decoder.run bytes
  if d.clean then some d.text.toList else none

/-- How bytes are shown in a message. -/
def display (bytes : Bytes) : String :=
  String.ofList (decodeLossy bytes)

/-- The bytes of a string. -/
def bytes (s : String) : Bytes :=
  encode s.toList

end Text
end Occupancy

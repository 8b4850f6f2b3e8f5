/-
Module: Occupancy.Path
Purpose: Paths as bytes: joining them and their parents.
Main exports: Path.join, Path.parent?, Path.ofString, Path.ofLocation
-/
import Occupancy.Text.Utf8

namespace Occupancy.Path

/-!
A path is any sequence of bytes. Slashes separate its parts; a slash at the beginning makes it
absolute. These functions look at the text alone and never at the files.
-/

/-- The byte between the parts of a path. -/
def slash : UInt8 := 0x2F

/-- The byte of the part that stands for where one is. -/
def dot : UInt8 := 0x2E

/-- The path with the bytes of a text. -/
def ofString (s : String) : Bytes := Text.bytes s

/-- Whether a path begins at the top. -/
def isAbsolute (path : Bytes) : Bool := path.head? == some slash

/-- Go on from a path. An absolute path replaces it, and going on by nothing leaves a slash at the
end. -/
def join (path next : Bytes) : Bytes :=
  if isAbsolute next then next
  else if path.isEmpty || path.getLast? == some slash then path ++ next
  else path ++ slash :: next

/-- The absolute path of the directory that has these names on the way to it. -/
def ofLocation (directory : List Bytes) : Bytes :=
  if directory.isEmpty then [slash] else directory.flatMap (slash :: ·)

/-- A path, given backwards, without the slashes and single dots at its end, which stand for nothing.
The slash of the top stays, and so does a dot that is all there is. -/
def trimBackwards : Bytes → Bytes
  | [] => []
  | [b] => [b]
  | a :: b :: rest =>
    if a = slash then trimBackwards (b :: rest)
    else if a = dot ∧ b = slash then trimBackwards (b :: rest)
    else a :: b :: rest

/-- The path without its last part. The top has no parent, and neither has the empty path. -/
def parent? (path : Bytes) : Option Bytes :=
  let trimmed := trimBackwards path.reverse
  if trimmed.isEmpty ∨ trimmed = [slash] then none
  else some (trimBackwards (trimmed.dropWhile (· != slash))).reverse

end Occupancy.Path

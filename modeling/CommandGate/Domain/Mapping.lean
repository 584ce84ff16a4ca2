import CommandGate.Domain.ImageTable
import CommandGate.Text.GlyphTable
import CommandGate.Text.Lowercase
import CommandGate.Text.Search
/-!
How the characters of a domain name are read. Each stands for itself, for its lower case or for an
image that the table lists; some are left out, and a name with a character that is refused is none.
-/
namespace CommandGate.Domain

open Text

def imageOf? (code : Nat) : Option (List Char) :=
  (imageRuns.takeWhile (·.1 ≤ code)).getLast?.bind fun (first, images) =>
    (splitOn ' ' images.toList)[code - first]?

def isJoiner (c : Char) : Bool := c.val == 0x200C || c.val == 0x200D

def isRefused (c : Char) : Bool :=
  inRanges refusedRanges c.toNat || (inRanges unprintableRanges c.toNat && !isJoiner c)

def mapChar? (c : Char) : Option (List Char) :=
  if c.val < 0x80 then some [c.toLower]
  else if inRanges ignoredRanges c.toNat then some []
  else
    match imageOf? c.toNat with
    | some image => some image
    | none => if isRefused c then none else some (lowerChar c)

def mapText? (text : List Char) : Option (List Char) := (text.mapM mapChar?).map List.flatten

def isValid (c : Char) : Bool := mapChar? c == some [c]

end CommandGate.Domain

import CommandGate.Domain.Composed
import CommandGate.Domain.Mapping
import CommandGate.Domain.Punycode
/-!
The labels of a domain name, the parts between its dots. A label beyond ASCII begins with no mark,
uses joiners only where they show, and is written in one direction; in ASCII it is `xn--` and its
punycode.
-/
namespace CommandGate.Domain

open Text

def isNonspacing (c : Char) : Bool := inRanges nonspacingRanges c.toNat

def isMark (c : Char) : Bool := isNonspacing c || inRanges spacingMarkRanges c.toNat

/-- Marks that suppress the vowel of a consonant have this class. -/
def viramaClass : Nat := 9

def isTransparent (c : Char) : Bool :=
  (isNonspacing c && c.val != 0x1171E) ||
    [0xCBF, 0xCC6, 0x11A07, 0x11A08, 0x11C3F, 0x1E94B].contains c.val

def joinsNext (c : Char) : Bool :=
  inRanges dualJoiningRanges c.toNat || inRanges leftJoiningRanges c.toNat

def joinsPrevious (c : Char) : Bool :=
  inRanges dualJoiningRanges c.toNat || inRanges rightJoiningRanges c.toNat

/-- Whether joiners stand only after a mark that suppresses a vowel or, to keep letters apart,
between letters that would join. `before` are the characters before, the last one first. -/
def joinersShow (before : List Char) : List Char → Bool
  | [] => true
  | c :: text =>
    (!isJoiner c || before.head?.any (combiningClass · == viramaClass) ||
      (c.val == 0x200C && (before.dropWhile isTransparent).head?.any joinsNext &&
        (text.dropWhile isTransparent).head?.any joinsPrevious)) &&
      joinersShow (c :: before) text

inductive Direction where
  | left
  | right
  | arabicNumber
  | europeanNumber
  | neutral
  | nonspacing
  deriving DecidableEq, Repr

def directionOf (c : Char) : Direction :=
  if c.val < 0x80 then
    if c.isAlpha then .left else if c.isDigit then .europeanNumber else .neutral
  else if inRanges rightToLeftRanges c.toNat then .right
  else if inRanges arabicNumberRanges c.toNat then .arabicNumber
  else if inRanges europeanNumberRanges c.toNat then .europeanNumber
  else if inRanges neutralRanges c.toNat then .neutral
  else if isNonspacing c then .nonspacing
  else .left

def isRightward (c : Char) : Bool :=
  match directionOf c with
  | .right | .arabicNumber => true
  | _ => false

/-- Whether a label is written in one direction, which its first character gives. Marks at its end
aside, it ends in a character of that direction or in a number; numbers are of one kind. -/
def isOneWay (label : List Char) : Bool :=
  let directions := label.map directionOf
  let last? := (directions.reverse.dropWhile (· == .nonspacing)).head?
  match directions with
  | [] => true
  | .left :: _ =>
    directions.all (fun d => d != .right && d != .arabicNumber) &&
      last?.any fun d => d == .left || d == .europeanNumber
  | .right :: _ =>
    directions.all (· != .left) &&
      (last?.any fun d => d == .right || d == .europeanNumber || d == .arabicNumber) &&
      !(directions.contains .europeanNumber && directions.contains .arabicNumber)
  | _ => false

def encodedStart : List Char := "xn--".toList

/-- The characters that a label stands for. Punycode has to stand for a composed text that is not all
ASCII. -/
def readLabel? (label : List Char) : Option (List Char) :=
  match dropStart? encodedStart label with
  | none => some label
  | some code =>
    if label.all Punycode.isAscii && !code.isEmpty && code.getLast? != some '-' then
      (Punycode.decode? code).filter fun text => text.all isValid && composed text == text
    else none

def isGoodLabel (label : List Char) : Bool := !label.head?.any isMark && joinersShow [] label

def writeLabel (label : List Char) : List Char :=
  if label.all Punycode.isAscii then label else encodedStart ++ Punycode.encode label

end CommandGate.Domain

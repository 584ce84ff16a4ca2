import CommandGate.Domain.ClassTable
import CommandGate.Domain.CompositionTable
import CommandGate.Text.Lowercase
/-!
The composed form of a text: characters are taken apart as far as possible, marks on one character
are put in the order of their combining classes, and what can be composed is composed again. Texts
that look alike have one composed form.
-/
namespace CommandGate.Domain

def combiningClass (c : Char) : Nat :=
  match combiningClasses.find? fun (first, last, _) => first ≤ c.toNat && c.toNat ≤ last with
  | some (_, _, value) => value
  | none => 0

/-! A syllable of Hangul is composed of a leading letter, a vowel and perhaps a trailing letter. -/

def leadBase : Nat := 0x1100

def vowelBase : Nat := 0x1161

/-- One before the first trailing letter. -/
def trailBase : Nat := 0x11A7

def syllableBase : Nat := 0xAC00

def leadCount : Nat := 19

def vowelCount : Nat := 21

/-- One more than there are trailing letters. -/
def trailCount : Nat := 28

def indexIn? (base count code : Nat) : Option Nat :=
  if base ≤ code ∧ code < base + count then some (code - base) else none

/-- A syllable as a leading letter with a vowel, or such a syllable with a trailing letter. -/
def splitSyllable? (c : Char) : Option (Char × Char) :=
  (indexIn? syllableBase (leadCount * vowelCount * trailCount) c.toNat).map fun index =>
    if index % trailCount = 0 then
      (Char.ofNat (leadBase + index / trailCount / vowelCount),
        Char.ofNat (vowelBase + index / trailCount % vowelCount))
    else (Char.ofNat (c.toNat - index % trailCount), Char.ofNat (trailBase + index % trailCount))

def joinSyllable? (a b : Char) : Option Char :=
  match indexIn? leadBase leadCount a.toNat, indexIn? vowelBase vowelCount b.toNat with
  | some lead, some vowel =>
    some (Char.ofNat (syllableBase + (lead * vowelCount + vowel) * trailCount))
  | _, _ =>
    match indexIn? syllableBase (leadCount * vowelCount * trailCount) a.toNat,
        indexIn? (trailBase + 1) (trailCount - 1) b.toNat with
    | some index, some trail =>
      if index % trailCount = 0 then some (Char.ofNat (a.toNat + trail + 1)) else none
    | _, _ => none

def composedIn? (a : Char) : List Char → Option Char
  | first :: whole :: row => if first = a then some whole else composedIn? a row
  | _ => none

def firstIn? (c : Char) : List Char → Option Char
  | first :: whole :: row => if whole = c then some first else firstIn? c row
  | _ => none

def compose? (a b : Char) : Option Char :=
  (joinSyllable? a b).or <|
    compositionRows.findSome? fun (second, row) =>
      if second = b.toNat then composedIn? a row.toList else none

def split? (c : Char) : Option (Char × Char) :=
  (splitSyllable? c).or <|
    compositionRows.findSome? fun (second, row) =>
      (firstIn? c row.toList).map fun first => (first, Char.ofNat second)

def compositionDepth : Nat := 4

def parts : Nat → Char → List Char
  | 0, c => [c]
  | depth + 1, c =>
    match split? c with
    | some (first, second) => parts depth first ++ [second]
    | none => [c]

def insertMark (c : Char) : List Char → List Char
  | [] => [c]
  | d :: text =>
    if 0 < combiningClass d ∧ combiningClass d < combiningClass c then d :: insertMark c text
    else c :: d :: text

def ordered (text : List Char) : List Char := text.foldr insertMark []

/-- Composes `base` with what follows it; `marks` are those after it that it is not composed with,
the last one first. Such a mark keeps from it the marks of its own class and what is no mark. -/
def composeFrom (base : Char) (marks : List Char) : List Char → List Char
  | [] => base :: marks.reverse
  | c :: text =>
    let isBlocked := marks.head?.any fun mark => combiningClass c ≤ combiningClass mark
    match if isBlocked then none else compose? base c with
    | some whole => composeFrom whole marks text
    | none =>
      if combiningClass c = 0 then base :: marks.reverse ++ composeFrom c [] text
      else composeFrom base (c :: marks) text

def composed (text : List Char) : List Char :=
  match ordered (text.flatMap (parts compositionDepth)) with
  | [] => []
  | c :: text => composeFrom c [] text

end CommandGate.Domain

import CommandGate.Http.Percent
import CommandGate.Text.Search
/-!
Paths of URLs. A rooted path is a list of segments, each written after a slash. Reading one drops
the segments of one dot, and those of two dots together with the segment before, unless that is the
letter of a drive.
-/
namespace CommandGate.Http

open Text

inductive Path where
  /-- A text that is no list of segments. -/
  | rootless (text : List Char)
  | rooted (segments : List (List Char))
  deriving DecidableEq, Repr

def fragmentMarks : List Char := [' ', '"', '<', '>', '\x60']

def pathMarks : List Char := fragmentMarks ++ ['#', '?', '\x7b', '\x7d']

/-- A letter with a colon, or with the bar that may stand for it. -/
def isDriveLetter : List Char → Bool
  | [letter, mark] => letter.isAlpha && (mark == ':' || mark == '|')
  | _ => false

def isDots : Nat → List Char → Bool
  | 0, segment => segment.isEmpty
  | count + 1, '.' :: segment => isDots count segment
  | count + 1, '%' :: '2' :: c :: segment => (c == 'e' || c == 'E') && isDots count segment
  | _, _ => false

/-- The segments without those of dots; `done` are those before, the last one first. For a path of a
file, a drive letter in the first place gets its colon. -/
def resolveDots (isFile : Bool) (done : List (List Char)) : List (List Char) → List (List Char)
  | [] => done.reverse
  | segment :: segments =>
    if isDots 2 segment then
      let done := if done.head?.any isDriveLetter then done else done.drop 1
      resolveDots isFile (if segments.isEmpty then [] :: done else done) segments
    else if isDots 1 segment then
      resolveDots isFile (if segments.isEmpty then [] :: done else done) segments
    else if isFile && done.isEmpty && isDriveLetter segment then
      resolveDots isFile ((segment.take 1 ++ [':']) :: done) segments
    else resolveDots isFile (segment :: done) segments

namespace Path

def write : Path → List Char
  | rootless text => text
  | rooted segments => segments.flatMap ('/' :: ·)

def ofSegments (isFile : Bool) (segments : List (List Char)) : Path :=
  rooted (resolveDots isFile [] (segments.map (percentEncode pathMarks)))

end Path

end CommandGate.Http

import CommandGate.Domain.Label
/-!
Domain names in ASCII. A name is read through the mapping of its characters and put into composed
form; each of its labels must be good, and if a character of it is written from right to left, all
of them must be written in one direction.
-/
namespace CommandGate.Domain

open Text

def isForbidden (c : Char) : Bool :=
  c.val ≤ 0x20 || c.val == 0x7F ||
    ['%', '#', '/', ':', '<', '>', '?', '@', '[', '\\', ']', '^', '|'].contains c

def asciiName? (text : List Char) : Option (List Char) :=
  (mapText? text).bind fun mapped =>
    let labels := splitOn '.' (composed mapped)
    (labels.mapM readLabel?).bind fun read =>
      let isBothWays := read.any fun label => label.any isRightward
      if !read.all isGoodLabel || (isBothWays && !read.all isOneWay) then none
      else
        let name := ['.'].intercalate (labels.map writeLabel)
        if name.any isForbidden then none else some name

end CommandGate.Domain

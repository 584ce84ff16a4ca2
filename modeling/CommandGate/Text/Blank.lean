/-!
Blank characters are those with the Unicode property White_Space; `trim` removes them at both ends.
Zero-width space and the byte order mark are not blank.
-/
namespace CommandGate.Text

def isBlank (c : Char) : Bool :=
  (0x9 ≤ c.val && c.val ≤ 0xD) || c.val == 0x20 || c.val == 0x85 || c.val == 0xA0 ||
    c.val == 0x1680 || (0x2000 ≤ c.val && c.val ≤ 0x200A) || c.val == 0x2028 ||
    c.val == 0x2029 || c.val == 0x202F || c.val == 0x205F || c.val == 0x3000

def trimStart (text : List Char) : List Char := text.dropWhile isBlank

def trimEnd (text : List Char) : List Char := (text.reverse.dropWhile isBlank).reverse

def trim (text : List Char) : List Char := trimEnd (trimStart text)

def isBlankText (text : String) : Bool := text.toList.all isBlank

def trimmed (text : String) : String := String.ofList (trim text.toList)

theorem trimEnd_nil : trimEnd [] = [] := rfl

theorem trim_nil : trim [] = [] := rfl

theorem trimStart_of_head {c : Char} (rest : List Char) (visible : isBlank c = false) :
    trimStart (c :: rest) = c :: rest := by
  simp [trimStart, visible]

theorem trimEnd_of_last {c : Char} (front : List Char) (visible : isBlank c = false) :
    trimEnd (front ++ [c]) = front ++ [c] := by
  simp [trimEnd, visible]

end CommandGate.Text

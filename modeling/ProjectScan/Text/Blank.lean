import ProjectScan.Unicode.Spans

/-!
Blank characters and trimming. Twenty-nine characters are blank: the ASCII separators and spaces,
the next-line and no-break spaces, and the Unicode space separators.
-/

namespace ProjectScan.Text

def blankSpans : List (Nat × Nat) := [
  (0x09, 0x0D), (0x1C, 0x20), (0x85, 0x85), (0xA0, 0xA0), (0x1680, 0x1680), (0x2000, 0x200A),
  (0x2028, 0x2029), (0x202F, 0x202F), (0x205F, 0x205F), (0x3000, 0x3000)]

def isBlank (c : Char) : Bool := Unicode.Spans.contains blankSpans c.toNat

def isAscii (c : Char) : Bool := c.toNat < 0x80

def trimStart (text : List Char) : List Char := text.dropWhile isBlank

def dropEndWhile (drop : Char → Bool) (text : List Char) : List Char :=
  (text.reverse.dropWhile drop).reverse

def trimEnd (text : List Char) : List Char := dropEndWhile isBlank text

def trim (text : List Char) : List Char := trimEnd (trimStart text)

def trimmed (text : String) : String := String.ofList (trim text.toList)

end ProjectScan.Text

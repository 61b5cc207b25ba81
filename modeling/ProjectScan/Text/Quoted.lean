import ProjectScan.Unicode.Printable

/-!
Texts quoted for a message. A single quote encloses the text unless the text holds a single quote
and no double one. The quote in use, the backslash and whatever is not shown are escaped.
-/

namespace ProjectScan.Text

def singleQuote : Char := '\x27'

def doubleQuote : Char := '\x22'

def backslash : Char := '\x5c'

def hexDigit (n : Nat) : Char := if n < 10 then Char.ofNat (0x30 + n) else Char.ofNat (0x57 + n)

def hexValue? (c : Char) : Option Nat :=
  if '0' ≤ c ∧ c ≤ '9' then some (c.toNat - 0x30)
  else if 'a' ≤ c ∧ c ≤ 'f' then some (c.toNat - 0x57)
  else if 'A' ≤ c ∧ c ≤ 'F' then some (c.toNat - 0x37)
  else none

def hexDigits : (width : Nat) → Nat → List Char
  | 0, _ => []
  | width + 1, n => hexDigits width (n / 16) ++ [hexDigit (n % 16)]

/-- The escape of a character that is not shown: the shortest of the three widths. -/
def codeEscape (c : Char) : List Char :=
  if c.toNat < 0x100 then backslash :: 'x' :: hexDigits 2 c.toNat
  else if c.toNat < 0x10000 then backslash :: 'u' :: hexDigits 4 c.toNat
  else backslash :: 'U' :: hexDigits 8 c.toNat

/-- A character inside quotes; `shown` decides which characters stand for themselves. -/
def quotedChar (shown : Char → Bool) (quote c : Char) : List Char :=
  if c = quote ∨ c = backslash then [backslash, c]
  else if c = '\n' then [backslash, 'n']
  else if c = '\r' then [backslash, 'r']
  else if c = '\t' then [backslash, 't']
  else if shown c then [c]
  else codeEscape c

def quoteFor (text : List Char) : Char :=
  if singleQuote ∈ text ∧ doubleQuote ∉ text then doubleQuote else singleQuote

def quotedWith (shown : Char → Bool) (text : List Char) : List Char :=
  quoteFor text :: (text.flatMap (quotedChar shown (quoteFor text)) ++ [quoteFor text])

def quoted (text : String) : String :=
  String.ofList (quotedWith Unicode.isPrintable text.toList)

def asciiQuoted (text : String) : String :=
  String.ofList
    (quotedWith (fun c => c.toNat < 0x80 && Unicode.isPrintable c) text.toList)

theorem hexDigits_length (width n : Nat) : (hexDigits width n).length = width := by
  induction width generalizing n with
  | zero => rfl
  | succ width ih => simp [hexDigits, ih]

end ProjectScan.Text

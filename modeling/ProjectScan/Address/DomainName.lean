import ProjectScan.Address.Punycode
import ProjectScan.Unicode.Compatibility
import ProjectScan.Unicode.NameprepData

/-!
Domain names in ASCII form. A name in ASCII is kept as it is when its labels have a length from 1
to 63, the last of which may be empty. Any other name is cut at the four dots; each label is
prepared (RFC 3491) and, where characters above ASCII are left, written in Punycode.
-/

namespace ProjectScan.Address

open Unicode

def foldings : Std.HashMap Nat (List Nat) := tableOf foldingRows

def mappedForName (c : Char) : List Char :=
  if Spans.contains mappedToNothing c.toNat then []
  else match foldings.get? c.toNat with
    | some folded => folded.map Char.ofNat
    | none => [c]

/-- A label with characters that are written from right to left holds none of the other direction,
and starts and ends with one of its own. -/
def directionsAgree (label : List Char) : Bool :=
  let backward (c : Char) := Spans.contains rightToLeft c.toNat
  if label.any backward then
    !(label.any fun c => Spans.contains leftToRight c.toNat) &&
      (label.head?.map backward).getD false && (label.getLast?.map backward).getD false
  else true

def prepared? (label : List Char) : Option (List Char) :=
  let mapped := compatibilityForm (label.flatMap mappedForName)
  if mapped.any (fun c => Spans.contains prohibited c.toNat) then none
  else if directionsAgree mapped then some mapped
  else none

def encodedMark : List Char := ['x', 'n', '-', '-']

def sized? (label : List Char) : Option (List Char) :=
  if 0 < label.length ∧ label.length < 64 then some label else none

def asciiLabel? (label : List Char) : Option (List Char) :=
  if label.all Text.isAscii then sized? label
  else match prepared? label with
    | none => none
    | some prepared =>
        if prepared.all Text.isAscii then sized? prepared
        else if encodedMark.isPrefixOf prepared then none
        else sized? (encodedMark ++ Punycode.encoded prepared)

def isDot (c : Char) : Bool :=
  c = '.' || c.toNat = 0x3002 || c.toNat = 0xFF0E || c.toNat = 0xFF61

/-- All labels but the last have 1 to 63 characters, the last at most 63. -/
def labelsFit : List (List Char) → Bool
  | [] => true
  | [last] => last.length < 64
  | label :: next :: rest => (0 < label.length && label.length < 64) && labelsFit (next :: rest)

def dotted : List (List Char) → List Char
  | [] => []
  | [last] => last
  | label :: next :: rest => label ++ '.' :: dotted (next :: rest)

def asciiName? (name : List Char) : Option (List Char) :=
  if name.all Text.isAscii then
    if labelsFit (Text.pieces (· == '.') name) then some name else none
  else
    let labels := Text.pieces isDot name
    let closed := labels.getLast? = some []
    let labels := if closed then labels.dropLast else labels
    (labels.mapM asciiLabel?).map fun labels =>
      dotted labels ++ if closed then ['.'] else []

end ProjectScan.Address

import ProjectScan.Number.Whole
import ProjectScan.Text.Cut
import ProjectScan.Text.Quoted

/-!
Addresses of four decimal octets.
-/

namespace ProjectScan.Address

inductive Ipv4Fault where
  | empty
  | octetCount (text : List Char)
  | emptyOctet (text : List Char)
  | octetDigits (octet text : List Char)
  | octetLength (octet text : List Char)
  | leadingZero (octet text : List Char)
  | octetRange (value : Nat) (text : List Char)
  deriving DecidableEq, Repr

def shownText (text : List Char) : String := Text.quoted (String.ofList text)

def Ipv4Fault.message : Ipv4Fault → String
  | .empty => "Address cannot be empty"
  | .octetCount text => "Expected 4 octets in " ++ shownText text
  | .emptyOctet text => "Empty octet not permitted in " ++ shownText text
  | .octetDigits octet text =>
      "Only decimal digits permitted in " ++ shownText octet ++ " in " ++ shownText text
  | .octetLength octet text =>
      "At most 3 characters permitted in " ++ shownText octet ++ " in " ++ shownText text
  | .leadingZero octet text =>
      "Leading zeros are not permitted in " ++ shownText octet ++ " in " ++ shownText text
  | .octetRange value text =>
      "Octet " ++ Number.naturalText value ++ " (> 255) not permitted in " ++ shownText text

def readOctet (text octet : List Char) : Except Ipv4Fault Nat :=
  if octet = [] then .error (.emptyOctet text)
  else if !octet.all Char.isDigit then .error (.octetDigits octet text)
  else if 3 < octet.length then .error (.octetLength octet text)
  else if octet ≠ ['0'] ∧ octet.head? = some '0' then .error (.leadingZero octet text)
  else
    let value := Nat.ofDigitChars 10 octet 0
    if 255 < value then .error (.octetRange value text) else .ok value

def readIpv4 (text : List Char) : Except Ipv4Fault Nat :=
  let octets := Text.pieces (· == '.') text
  if text = [] then .error .empty
  else if octets.length ≠ 4 then .error (.octetCount text)
  else octets.foldlM (fun value octet => (readOctet text octet).map (value * 256 + ·)) 0

end ProjectScan.Address

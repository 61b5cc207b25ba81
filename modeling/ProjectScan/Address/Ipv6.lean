import ProjectScan.Address.Ipv4

/-!
Addresses of eight groups of hexadecimal digits. One run of groups may be left out, the last two
groups may be written as an address of four octets, and a zone may follow after a percent sign.
-/

namespace ProjectScan.Address

inductive Ipv6Fault where
  | zone (text : List Char)
  | empty
  | tooFewParts (text : List Char)
  | octets (fault : Ipv4Fault) (text : List Char)
  | tooManyParts (text : List Char)
  | secondGap (text : List Char)
  | leadingColon (text : List Char)
  | trailingColon (text : List Char)
  | uselessGap (text : List Char)
  | partCount (text : List Char)
  | groupDigits (group text : List Char)
  | groupLength (group text : List Char)
  deriving DecidableEq, Repr

def Ipv6Fault.message : Ipv6Fault → String
  | .zone text => "Invalid IPv6 address: \x22" ++ shownText text ++ "\x22"
  | .empty => "Address cannot be empty"
  | .tooFewParts text => "At least 3 parts expected in " ++ shownText text
  | .octets fault text => fault.message ++ " in " ++ shownText text
  | .tooManyParts text => "At most 8 colons permitted in " ++ shownText text
  | .secondGap text => "At most one '::' permitted in " ++ shownText text
  | .leadingColon text =>
      "Leading ':' only permitted as part of '::' in " ++ shownText text
  | .trailingColon text =>
      "Trailing ':' only permitted as part of '::' in " ++ shownText text
  | .uselessGap text => "Expected at most 7 other parts with '::' in " ++ shownText text
  | .partCount text => "Exactly 8 parts expected without '::' in " ++ shownText text
  | .groupDigits group text =>
      "Only hex digits permitted in " ++ shownText group ++ " in " ++ shownText text
  | .groupLength group text =>
      "At most 4 characters permitted in " ++ shownText group ++ " in " ++ shownText text

def isHexDigit (c : Char) : Bool := (Text.hexValue? c).isSome

/-- A group of up to four hexadecimal digits; an empty one is allowed here. -/
def checkGroup (text group : List Char) : Except Ipv6Fault Unit :=
  if !group.all isHexDigit then .error (.groupDigits group text)
  else if 4 < group.length then .error (.groupLength group text)
  else .ok ()

/-- The parts between colons, an address of four octets at the end counted as two groups. -/
def groupsOf (text : List Char) (parts : List (List Char)) :
    Except Ipv6Fault (List (List Char)) :=
  match parts.getLast? with
  | none => .ok parts
  | some last =>
      if '.' ∈ last then
        match readIpv4 last with
        | .error fault => .error (.octets fault text)
        | .ok value =>
            .ok (parts.dropLast ++
              [Text.hexDigits 4 (value / 0x10000), Text.hexDigits 4 (value % 0x10000)])
      else .ok parts

def gaps (parts : List (List Char)) : List Nat :=
  (List.range parts.length).filter fun place =>
    0 < place && place + 1 < parts.length && parts[place]? == some []

/-- The groups before and after a gap; an empty end part is allowed only next to it. -/
def groupsAround (text : List Char) (parts : List (List Char)) (gap : Nat) :
    Except Ipv6Fault (List (List Char)) :=
  let before := parts.take gap
  let after := parts.drop (gap + 1)
  let leading := before.head? = some []
  let trailing := after.getLast? = some []
  if leading ∧ before.length ≠ 1 then .error (.leadingColon text)
  else if trailing ∧ after.length ≠ 1 then .error (.trailingColon text)
  else
    let before := if leading then [] else before
    let after := if trailing then [] else after
    if 8 ≤ before.length + after.length then .error (.uselessGap text)
    else .ok (before ++ after)

def allGroups (text : List Char) (parts : List (List Char)) :
    Except Ipv6Fault (List (List Char)) :=
  if parts.length ≠ 8 then .error (.partCount text)
  else if parts.head? = some [] then .error (.leadingColon text)
  else if parts.getLast? = some [] then .error (.trailingColon text)
  else .ok parts

def checkGroups (text : List Char) : Except Ipv6Fault Unit :=
  let parts := Text.pieces (· == ':') text
  if text = [] then .error .empty
  else if parts.length < 3 then .error (.tooFewParts text)
  else
    match groupsOf text parts with
    | .error fault => .error fault
    | .ok parts =>
        if 9 < parts.length then .error (.tooManyParts text)
        else
          let groups := match gaps parts with
            | [] => allGroups text parts
            | [gap] => groupsAround text parts gap
            | _ => .error (.secondGap text)
          match groups with
          | .error fault => .error fault
          | .ok groups => groups.forM (checkGroup text)

def checkIpv6 (text : List Char) : Except Ipv6Fault Unit :=
  match Text.cutFirst '%' text with
  | (address, none) => checkGroups address
  | (address, some zone) =>
      if zone = [] ∨ '%' ∈ zone then .error (.zone text) else checkGroups address

end ProjectScan.Address

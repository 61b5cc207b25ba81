import ProjectScan.Address.Ipv6
import ProjectScan.Text.Blank
import ProjectScan.Text.Case

/-!
The five parts of a URI reference. Leading control characters and spaces are dropped, and so are
tabs and line ends anywhere. A scheme needs a letter in front; an authority comes after two
slashes and ends before the next slash, question mark or number sign. Hosts in brackets are
checked here, and so are authorities that look different from what they are.
-/

namespace ProjectScan.Address

structure Parts where
  scheme : List Char
  authority : List Char
  path : List Char
  query : List Char
  fragment : List Char
  deriving DecidableEq, Repr

inductive SplitFault where
  | brackets
  | futureAddress
  | noAddress (host : List Char)
  | octetsInBrackets
  | lookalike (authority : List Char)
  | portText (port : List Char)
  | portLength (digits : Nat)
  | portRange
  deriving DecidableEq, Repr

def SplitFault.message : SplitFault → String
  | .brackets => "Invalid IPv6 URL"
  | .futureAddress => "IPvFuture address is invalid"
  | .noAddress host => shownText host ++ " does not appear to be an IPv4 or IPv6 address"
  | .octetsInBrackets => "An IPv4 address cannot be in brackets"
  | .lookalike authority =>
      "netloc '" ++ String.ofList authority ++
        "' contains invalid characters under NFKC normalization"
  | .portText port => "Port could not be cast to integer value as " ++ shownText port
  | .portLength digits => Number.tooLongText digits
  | .portRange => "Port out of range 0-65535"

def isAsciiLetter (c : Char) : Bool := c.isAlpha

def isSchemeChar (c : Char) : Bool :=
  isAsciiLetter c || c.isDigit || c = '+' || c = '-' || c = '.'

def isControlOrSpace (c : Char) : Bool := c.toNat ≤ 0x20

def isDropped (c : Char) : Bool := c = '\t' || c = '\n' || c = '\r'

def cleaned (text : List Char) : List Char :=
  (text.dropWhile isControlOrSpace).filter fun c => !isDropped c

/-- The scheme in small letters and the text after its colon; no scheme when the text before the
first colon cannot be one. -/
def splitScheme (text : List Char) : List Char × List Char :=
  match Text.cutFirst ':' text with
  | (first :: more, some rest) =>
      if isAsciiLetter first && more.all isSchemeChar then
        ((first :: more).map Char.toLower, rest)
      else ([], text)
  | _ => ([], text)

def endsAuthority (c : Char) : Bool := c = '/' || c = '?' || c = '#'

def splitAuthority : List Char → List Char × List Char
  | '/' :: '/' :: rest =>
      (rest.takeWhile (fun c => !endsAuthority c), rest.dropWhile fun c => !endsAuthority c)
  | text => ([], text)

/-- Host and port of an authority: the text between brackets and what follows the colon after
them, or the texts before and after the first colon. What stands before an at sign is no part. -/
def hostAndPort (authority : List Char) : List Char × List Char :=
  let server := Text.afterLast '@' authority
  match Text.cutFirst '[' server with
  | (_, some bracketed) =>
      let (host, after) := Text.cutFirst ']' bracketed
      (host, ((Text.cutFirst ':' (after.getD [])).2).getD [])
  | (_, none) =>
      let (host, port) := Text.cutFirst ':' server
      (host, port.getD [])

def isFutureAddress (host : List Char) : Bool :=
  match host with
  | 'v' :: rest =>
      match Text.cutFirst '.' rest with
      | (version, some (_ :: _)) => !version.isEmpty && version.all isHexDigit
      | _ => false
  | _ => false

/-- The host of an authority with brackets must be an address of eight groups, or of the form
kept for later versions. -/
def checkBracketedHost (host : List Char) : Except SplitFault Unit :=
  if host.head? = some 'v' then
    if isFutureAddress host then .ok () else .error .futureAddress
  else match readIpv4 host with
    | .ok _ => .error .octetsInBrackets
    | .error _ => match checkIpv6 host with
      | .ok _ => .ok ()
      | .error _ => .error (.noAddress host)

def checkBrackets (authority : List Char) : Except SplitFault Unit :=
  if '[' ∈ authority ∨ ']' ∈ authority then
    if ¬('[' ∈ authority ∧ ']' ∈ authority) then .error .brackets
    else
      let server := Text.afterLast '@' authority
      match Text.cutFirst '[' server with
      | (before, some bracketed) =>
          let (host, after) := Text.cutFirst ']' bracketed
          let after := after.getD []
          if before ≠ [] then .error .brackets
          else if after ≠ [] ∧ after.head? ≠ some ':' then .error .brackets
          else checkBracketedHost host
      | (_, none) => checkBracketedHost (Text.cutFirst ':' server).1
  else .ok ()

/-- The characters whose compatibility form holds a slash, a question mark, a number sign, an at
sign or a colon. -/
def lookalikes : List Nat := [
  0x2047, 0x2048, 0x2049, 0x2100, 0x2101, 0x2105, 0x2106, 0x2A74, 0xFE13, 0xFE16, 0xFE55, 0xFE56,
  0xFE5F, 0xFE6B, 0xFF03, 0xFF0F, 0xFF1A, 0xFF1F, 0xFF20]

def checkLookalikes (authority : List Char) : Except SplitFault Unit :=
  if authority.any fun c => lookalikes.contains c.toNat then .error (.lookalike authority)
  else .ok ()

def split (text : List Char) : Except SplitFault Parts :=
  let (scheme, rest) := splitScheme (cleaned text)
  let (authority, rest) := splitAuthority rest
  match checkBrackets authority with
  | .error fault => .error fault
  | .ok _ =>
      let (rest, fragment) := Text.cutFirst '#' rest
      let (path, query) := Text.cutFirst '?' rest
      match checkLookalikes authority with
      | .error fault => .error fault
      | .ok _ => .ok ⟨scheme, authority, path, query.getD [], fragment.getD []⟩

/-- The host in small letters up to its first percent sign; empty when there is none. -/
def Parts.host (parts : Parts) : List Char :=
  let (name, zone) := Text.cutFirst '%' (hostAndPort parts.authority).1
  Text.small name ++ match zone with
    | none => []
    | some zone => '%' :: zone

def Parts.port (parts : Parts) : Except SplitFault (Option Nat) :=
  match (hostAndPort parts.authority).2 with
  | [] => .ok none
  | port =>
      if !port.all Char.isDigit then .error (.portText port)
      else match Number.readDigits port with
        | .error (.tooLong digits) => .error (.portLength digits)
        | .error .malformed => .error (.portText port)
        | .ok number => if 65535 < number then .error .portRange else .ok (some number)

end ProjectScan.Address

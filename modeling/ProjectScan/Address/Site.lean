import ProjectScan.Address.DomainName
import ProjectScan.Address.Parts
import ProjectScan.Unicode.Printable

/-!
The site that a person means by a server address: scheme, host, port and path. Only plain web
addresses are sites. Query and fragment are checked and dropped, and so are trailing slashes and
the path segment that marks authenticated access.
-/

namespace ProjectScan.Address

inductive Component where
  | path
  | query
  | fragment
  deriving DecidableEq, Repr

def Component.name : Component → String
  | .path => "path"
  | .query => "query"
  | .fragment => "fragment"

inductive SiteFault where
  | blank
  | invisible
  | parts (fault : SplitFault)
  | missingScheme
  | scheme (scheme : List Char)
  | userInfo
  | missingHost
  | brackets
  | groups (fault : Ipv6Fault)
  | host (host : List Char)
  | component (component : Component)
  deriving DecidableEq, Repr

def SiteFault.reason : SiteFault → String
  | .blank => "server URL is blank"
  | .invisible => "contains whitespace or control characters"
  | .parts fault => fault.message
  | .missingScheme => "missing scheme"
  | .scheme found => "unsupported scheme " ++ shownText found ++ ", expected http or https"
  | .userInfo => "user info is not allowed in the server URL"
  | .missingHost => "missing host"
  | .brackets => "invalid IPv6 host"
  | .groups fault => "invalid IPv6 host: " ++ fault.message
  | .host found => "invalid host " ++ shownText found
  | .component found => "invalid character in " ++ found.name

/-- A web server and a path on it. The host is written as in a URI, with brackets where it needs
them. -/
structure Site where
  scheme : List Char
  host : List Char
  port : Option Nat
  path : List Char
  deriving DecidableEq, Repr

def Site.text (site : Site) : List Char :=
  site.scheme ++ ':' :: '/' :: '/' :: (site.host ++ ((match site.port with
    | none => []
    | some port => ':' :: Number.naturalDigits port) ++ site.path))

/-- Letters, digits and the marks that stand for themselves everywhere in a URI. -/
def isPlain (c : Char) : Bool :=
  isAsciiLetter c || c.isDigit ||
    ['-', '.', '_', '~', '!', '$', '&', '\x27', '(', ')', '*', '+', ',', ';', '='].contains c

def isEncoded (allowed : Char → Bool) : List Char → Bool
  | [] => true
  | '%' :: high :: low :: rest => isHexDigit high && isHexDigit low && isEncoded allowed rest
  | c :: rest => c ≠ '%' && allowed c && isEncoded allowed rest

def isRegisteredName (name : List Char) : Bool := !name.isEmpty && isEncoded isPlain name

def isComponentChar (c : Char) : Bool :=
  isPlain c || c = ':' || c = '@' || c = '/' || c = '?'

def isComponent (text : List Char) : Bool := isEncoded isComponentChar text

def isBracketed (authority : List Char) : Bool :=
  match authority with
  | '[' :: rest =>
      match Text.cutFirst ']' rest with
      | (host, some after) =>
          !host.isEmpty && !host.contains '[' &&
            match after with
            | [] => true
            | ':' :: port => port.all Char.isDigit
            | _ => false
      | _ => false
  | _ => false

def siteHost (host : List Char) (bracketed : Bool) : Except SiteFault (List Char) :=
  if bracketed then
    match checkIpv6 host with
    | .error fault => .error (.groups fault)
    | .ok _ => .ok ('[' :: (host ++ [']']))
  else
    match asciiName? host with
    | none => .error (.host host)
    | some name => if isRegisteredName name then .ok host else .error (.host host)

def trimSlashes (path : List Char) : List Char := Text.dropEndWhile (· == '/') path

def accessMark : List Char := ['/', 'a']

/-- The path without trailing slashes and without one mark of authenticated access. -/
def sitePath (path : List Char) : List Char :=
  let path := trimSlashes path
  if accessMark.isSuffixOf path then trimSlashes (path.take (path.length - 2)) else path

def servedSchemes : List (List Char) := [['h', 't', 't', 'p'], ['h', 't', 't', 'p', 's']]

def componentFault? (parts : Parts) : Option Component :=
  if !isComponent parts.path then some .path
  else if !isComponent parts.query then some .query
  else if !isComponent parts.fragment then some .fragment
  else none

def siteOfParts (parts : Parts) (port : Option Nat) : Except SiteFault Site :=
  if parts.scheme = [] then .error .missingScheme
  else if parts.scheme ∉ servedSchemes then .error (.scheme parts.scheme)
  else if '@' ∈ parts.authority then .error .userInfo
  else if parts.host = [] then .error .missingHost
  else if '[' ∈ parts.authority ∧ !isBracketed parts.authority then .error .brackets
  else match siteHost parts.host ('[' ∈ parts.authority) with
    | .error fault => .error fault
    | .ok host => match componentFault? parts with
      | some component => .error (.component component)
      | none => .ok ⟨parts.scheme, host, port, sitePath parts.path⟩

def siteOf (text : List Char) : Except SiteFault Site :=
  if text = [] then .error .blank
  else if text.any fun c => Text.isBlank c || !Unicode.isPrintable c then .error .invisible
  else match split text with
    | .error fault => .error (.parts fault)
    | .ok parts => match parts.port with
      | .error fault => .error (.parts fault)
      | .ok port => siteOfParts parts port

end ProjectScan.Address

import ProjectScan.Address.Site

/-!
The endpoint of a server: the web base that anonymous calls use and the base of authenticated
calls, which is the web base with one path segment more.
-/

namespace ProjectScan

structure Endpoint where
  serverUrl : String
  webUri : String
  apiUri : String
  deriving DecidableEq, Repr

namespace Endpoint

def restUri (endpoint : Endpoint) (authenticated : Bool) : String :=
  if authenticated then endpoint.apiUri else endpoint.webUri

def projectUri (endpoint : Endpoint) (project : String) (authenticated : Bool) : String :=
  endpoint.restUri authenticated ++ "/" ++ project

def ofSite (serverUrl : List Char) (site : Address.Site) : Endpoint :=
  ⟨String.ofList serverUrl, String.ofList site.text,
    String.ofList (site.text ++ Address.accessMark)⟩

/-- Resolves a server address; none given counts as blank. -/
def resolve (url : Option String) : Except Address.SiteFault Endpoint :=
  let text := Text.trim (url.getD "").toList
  (Address.siteOf text).map (ofSite text)

def problem? (url : Option String) : Option String :=
  match resolve url with
  | .ok _ => none
  | .error fault => some fault.reason

theorem problem?_eq_none_iff (url : Option String) :
    problem? url = none ↔ ∃ endpoint, resolve url = .ok endpoint := by
  unfold problem?
  cases resolve url <;> simp

end Endpoint

end ProjectScan

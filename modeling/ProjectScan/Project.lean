import ProjectScan.Failure

/-!
Projects as a listing describes them, and pages of a listing. The entries of a page keep the order
in which the server sent them.
-/

namespace ProjectScan

/-- A project of a listing. What the server says of it is kept as it is. -/
structure Project where
  name : String
  id : Json
  state : Json
  description : Json
  webLinks : List Json
  deriving Repr

namespace Project

/-- The project of a name and the fields of its entry. Links that are empty count as none. -/
def ofInfo (name : String) (info : List (String × Json)) : Except Failure Project :=
  let field (key : String) : Json := (Json.field? info key).getD .null
  let links := field "web_links"
  let project (webLinks : List Json) : Project :=
    ⟨name, field "id", field "state", field "description", webLinks⟩
  if !links.isTrue then .ok (project [])
  else match links.elements? with
    | none => .error (.misfit (.notIterable links.kind))
    | some elements => .ok (project elements)

def same (left right : Project) : Bool :=
  left.name == right.name && left.id.same right.id && left.state.same right.state &&
    left.description.same right.description

end Project

/-- A page of a listing. Only an entry can say that there are more pages. -/
structure Page where
  projects : List Project
  more : Bool
  nonempty_of_more : more = true → projects ≠ []

namespace Page

def moreField : String := "_more_projects"

def withEntry (page : Page) (project : Project) (more : Bool) : Page :=
  ⟨project :: page.projects, more || page.more, fun _ => List.cons_ne_nil _ _⟩

def empty : Page := ⟨[], false, fun more => nomatch more⟩

def ofEntries (number status : Int) : List (String × Json) → Except Failure Page
  | [] => .ok empty
  | (name, .object info) :: rest =>
      match Project.ofInfo name info with
      | .error failure => .error failure
      | .ok project =>
          match ofEntries number status rest with
          | .error failure => .error failure
          | .ok page =>
              .ok (page.withEntry project ((Json.field? info moreField).getD .null).isTrue)
  | (name, _) :: _ => .error (.pageEntry number status name)

def ofAnswer (number status : Int) (value : Json) : Except Failure Page :=
  if status < 200 ∨ 300 ≤ status then .error (.pageStatus number status)
  else match value with
    | .object entries => ofEntries number status entries
    | _ => .error (.pageShape number status)

end Page

end ProjectScan

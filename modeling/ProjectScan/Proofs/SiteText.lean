import Mathlib.Data.List.DropRight
import ProjectScan.Address.Site
import ProjectScan.Proofs.HostText

/-!
Sites as texts. What is split off an address can be put together again, and the text of a site splits
back into its own parts: the same scheme, host, port and path.
-/

namespace ProjectScan.Address

def isInner (c : Char) : Bool :=
  !(endsAuthority c || isDropped c || c == '@' || lookalikes.contains c.toNat)

theorem isInner_iff {c : Char} : isInner c = true ↔ endsAuthority c = false ∧ isDropped c = false ∧
    c ≠ '@' ∧ lookalikes.contains c.toNat = false := by
  unfold isInner
  simp only [Bool.not_eq_true', Bool.or_eq_false_iff, beq_eq_false_iff_ne, ne_eq, and_assoc]

/-- A path as it follows an authority: empty or after a slash, and without query or fragment. -/
structure IsPath (path : List Char) : Prop where
  slash : path = [] ∨ path.head? = some '/'
  inside : ∀ c ∈ path, c ≠ '?' ∧ c ≠ '#' ∧ isDropped c = false

theorem IsPath.append {path more : List Char} (left : IsPath path) (right : IsPath more) :
    IsPath (path ++ more) where
  slash := by
    cases path with
    | nil => exact right.slash
    | cons c rest => exact .inr (left.slash.resolve_left (List.cons_ne_nil c rest))
  inside := by
    intro c member
    rcases List.mem_append.mp member with before | after
    · exact left.inside c before
    · exact right.inside c after

theorem IsPath.of_initial {path whole : List Char} (isPath : IsPath whole) (initial : path <+: whole) :
    IsPath path where
  slash := by
    cases path with
    | nil => exact .inl rfl
    | cons c rest =>
        obtain ⟨more, rfl⟩ := initial
        exact .inr (isPath.slash.resolve_left (List.cons_ne_nil c _))
  inside := fun c member => isPath.inside c (initial.subset member)

structure Parts.IsWritable (parts : Parts) : Prop where
  scheme : parts.scheme ∈ servedSchemes
  authority : ∀ c ∈ parts.authority, isInner c = true
  brackets : checkBrackets parts.authority = .ok ()
  path : IsPath parts.path
  query : parts.query = []
  fragment : parts.fragment = []

def Parts.text (parts : Parts) : List Char :=
  parts.scheme ++ ':' :: '/' :: '/' :: (parts.authority ++ parts.path)

theorem IsPath.ends {path : List Char} (isPath : IsPath path) :
    ∀ c, path.head? = some c → endsAuthority c = true := by
  intro c leads
  rcases isPath.slash with rfl | slash
  · cases leads
  · rw [slash] at leads
    cases leads
    rfl

theorem splitAuthority_append {authority rest : List Char}
    (inside : ∀ c ∈ authority, endsAuthority c = false)
    (ends : ∀ c, rest.head? = some c → endsAuthority c = true) :
    splitAuthority ('/' :: '/' :: (authority ++ rest)) = (authority, rest) := by
  have goes (c : Char) (member : c ∈ authority) : (!endsAuthority c) = true := by
    rw [inside c member]
    rfl
  have stops : rest.takeWhile (fun c => !endsAuthority c) = [] ∧
      rest.dropWhile (fun c => !endsAuthority c) = rest := by
    cases rest with
    | nil => exact ⟨rfl, rfl⟩
    | cons c more =>
        rw [List.takeWhile_cons, List.dropWhile_cons, ends c rfl]
        exact ⟨rfl, rfl⟩
  change (List.takeWhile _ (authority ++ rest), List.dropWhile _ (authority ++ rest)) = _
  rw [List.takeWhile_append_of_pos goes, List.dropWhile_append_of_pos goes, stops.1, stops.2,
    List.append_nil]

theorem served_cases {scheme : List Char} (served : scheme ∈ servedSchemes) :
    scheme = ['h', 't', 't', 'p'] ∨ scheme = ['h', 't', 't', 'p', 's'] := by
  simpa only [servedSchemes, List.mem_cons, List.not_mem_nil, or_false] using served

theorem cleaned_of_served {scheme rest : List Char} (served : scheme ∈ servedSchemes)
    (solid : ∀ c ∈ rest, isDropped c = false) :
    cleaned (scheme ++ ':' :: rest) = scheme ++ ':' :: rest := by
  have letters : (scheme.all fun c => !isDropped c) = true := by
    rcases served_cases served with rfl | rfl <;> rfl
  have starts : (scheme ++ ':' :: rest).dropWhile isControlOrSpace = scheme ++ ':' :: rest := by
    rcases served_cases served with rfl | rfl <;> rfl
  unfold cleaned
  rw [starts, List.filter_eq_self]
  intro c member
  have kept : isDropped c = false := by
    rcases List.mem_append.mp member with letter | after
    · have kept := List.all_eq_true.mp letters c letter
      rwa [Bool.not_eq_true'] at kept
    · rcases List.mem_cons.mp after with rfl | later
      · rfl
      · exact solid c later
  rw [kept]
  rfl

theorem splitScheme_of_served {scheme : List Char} (served : scheme ∈ servedSchemes)
    (rest : List Char) : splitScheme (scheme ++ ':' :: rest) = (scheme, rest) := by
  rcases served_cases served with rfl | rfl <;> rfl

theorem split_text {parts : Parts} (writable : parts.IsWritable) :
    split parts.text = .ok parts := by
  obtain ⟨scheme, authority, path, query, fragment⟩ := parts
  obtain ⟨served, inside, brackets, isPath, noQuery, noFragment⟩ := writable
  dsimp only at served inside brackets isPath noQuery noFragment
  subst noQuery noFragment
  have solid : ∀ c ∈ '/' :: '/' :: (authority ++ path), isDropped c = false := by
    intro c member
    simp only [List.mem_cons, List.mem_append] at member
    rcases member with rfl | rfl | before | after
    · rfl
    · rfl
    · exact (isInner_iff.mp (inside c before)).2.1
    · exact (isPath.inside c after).2.2
  have unlike : checkLookalikes authority = .ok () := by
    have plain : authority.any (fun c => lookalikes.contains c.toNat) = false := by
      rw [List.any_eq_false]
      intro c member
      rw [(isInner_iff.mp (inside c member)).2.2.2]
      exact Bool.false_ne_true
    unfold checkLookalikes
    rw [plain]
    rfl
  have whole : Text.cutFirst '#' path = (path, none) :=
    Text.cutFirst_of_notMem fun member => (isPath.inside '#' member).2.1 rfl
  have queryless : Text.cutFirst '?' path = (path, none) :=
    Text.cutFirst_of_notMem fun member => (isPath.inside '?' member).1 rfl
  have ends (c : Char) (member : c ∈ authority) : endsAuthority c = false :=
    (isInner_iff.mp (inside c member)).1
  unfold split Parts.text
  dsimp only
  rw [cleaned_of_served served solid, splitScheme_of_served served]
  dsimp only
  rw [splitAuthority_append ends isPath.ends]
  dsimp only
  rw [brackets, whole]
  dsimp only
  rw [queryless, unlike]
  rfl

theorem splitAuthority_cases (text : List Char) :
    splitAuthority text = ([], text) ∨
    ∃ authority rest, splitAuthority text = (authority, rest) ∧
      text = '/' :: '/' :: (authority ++ rest) ∧ (∀ c ∈ authority, endsAuthority c = false) ∧
      ∀ c, rest.head? = some c → endsAuthority c = true := by
  unfold splitAuthority
  split
  · rename_i after
    refine .inr ⟨_, _, rfl, ?_, ?_, ?_⟩
    · rw [List.takeWhile_append_dropWhile]
    · intro c member
      have goes := List.mem_takeWhile_imp member
      rwa [Bool.not_eq_true'] at goes
    · intro c leads
      have stops := List.head?_dropWhile_not (fun c => !endsAuthority c) after
      rw [leads] at stops
      simpa only [Bool.not_eq_false'] using stops
  · exact .inl rfl

theorem mem_splitScheme {c : Char} {text : List Char} (member : c ∈ (splitScheme text).2) :
    c ∈ text := by
  unfold splitScheme at member
  split at member
  · rename_i first more rest cut
    split at member
    · rcases Text.cutFirst_cases ':' text with ⟨whole, _⟩ | ⟨before, after, found, _, shape⟩
      · rw [cut] at whole
        cases whole
      · rw [cut] at found
        cases found
        rw [shape]
        exact List.mem_append_right _ (List.mem_cons_of_mem _ member)
    · exact member
  · exact member

theorem isPath_of_rest {rest : List Char} (ends : ∀ c, rest.head? = some c → endsAuthority c = true)
    (solid : ∀ c ∈ rest, isDropped c = false) :
    IsPath (Text.cutFirst '?' (Text.cutFirst '#' rest).1).1 where
  slash := by
    cases rest with
    | nil => exact .inl rfl
    | cons c more =>
        have mark := ends c rfl
        unfold endsAuthority at mark
        simp only [Bool.or_eq_true, decide_eq_true_eq] at mark
        rcases mark with (rfl | rfl) | rfl
        · exact .inr rfl
        · exact .inl rfl
        · exact .inl rfl
  inside := by
    intro c member
    have among := Text.mem_of_mem_cutFirst member
    refine ⟨?_, ?_, solid c (Text.mem_of_mem_cutFirst among)⟩
    · rintro rfl
      exact Text.mark_notMem_cutFirst '?' _ member
    · rintro rfl
      exact Text.mark_notMem_cutFirst '#' _ among

theorem inside_of_splitAuthority {text : List Char} (solid : ∀ c ∈ text, isDropped c = false) :
    (∀ c ∈ (splitAuthority text).1, endsAuthority c = false ∧ isDropped c = false) ∧
    ((splitAuthority text).1 ≠ [] →
      IsPath (Text.cutFirst '?' (Text.cutFirst '#' (splitAuthority text).2).1).1) := by
  rcases splitAuthority_cases text with same | ⟨authority, rest, same, shape, before, ends⟩
  · rw [same]
    exact ⟨fun c member => absurd member List.not_mem_nil, fun some => absurd rfl some⟩
  · have among (c : Char) (member : c ∈ authority ++ rest) : isDropped c = false := by
      apply solid
      rw [shape]
      exact List.mem_cons_of_mem _ (List.mem_cons_of_mem _ member)
    rw [same]
    constructor
    · intro c member
      exact ⟨before c member, among c (List.mem_append_left _ member)⟩
    · intro _
      apply isPath_of_rest ends
      intro c member
      exact among c (List.mem_append_right _ member)

structure Parts.IsSound (parts : Parts) : Prop where
  brackets : checkBrackets parts.authority = .ok ()
  authority : ∀ c ∈ parts.authority, endsAuthority c = false ∧ isDropped c = false ∧
    lookalikes.contains c.toNat = false
  path : parts.authority ≠ [] → IsPath parts.path

theorem isSound_of_split {text : List Char} {parts : Parts} (splits : split text = .ok parts) :
    parts.IsSound := by
  have solid : ∀ c ∈ (splitScheme (cleaned text)).2, isDropped c = false := by
    intro c member
    have kept := (List.mem_filter.mp (mem_splitScheme member)).2
    rwa [Bool.not_eq_true'] at kept
  obtain ⟨inside, isPath⟩ := inside_of_splitAuthority solid
  unfold split checkLookalikes at splits
  dsimp only at splits
  generalize splitScheme (cleaned text) = schemed at splits inside isPath
  obtain ⟨scheme, after⟩ := schemed
  dsimp only at splits inside isPath
  generalize splitAuthority after = cut at splits inside isPath
  obtain ⟨authority, rest⟩ := cut
  dsimp only at splits inside isPath
  cases brackets : checkBrackets authority with
  | error fault =>
      rw [brackets] at splits
      cases splits
  | ok checked =>
      rw [brackets] at splits
      cases unlike : authority.any (fun c => lookalikes.contains c.toNat) with
      | true =>
          rw [unlike] at splits
          cases splits
      | false =>
          rw [unlike] at splits
          cases splits
          refine ⟨brackets, ?_, isPath⟩
          intro c member
          obtain ⟨ends, kept⟩ := inside c member
          exact ⟨ends, kept, Bool.eq_false_iff.mpr (List.any_eq_false.mp unlike c member)⟩

def portDigits : Option Nat → List Char
  | none => []
  | some port => Number.naturalDigits port

def portText : Option Nat → List Char
  | none => []
  | some port => ':' :: Number.naturalDigits port

inductive HostText (name : List Char) : List Char → Prop where
  | bare (port : ':' ∉ name) (opening : '[' ∉ name) (closing : ']' ∉ name) : HostText name name
  | bracketed (closing : ']' ∉ name) (groups : checkIpv6 name = .ok ()) :
      HostText name ('[' :: (name ++ [']']))

theorem isInner_of_isDigit {c : Char} (digit : c.isDigit = true) : isInner c = true := by
  have digits : ∀ code < 0x3A, 0x30 ≤ code → isInner (Char.ofNat code) = true := by decide
  unfold Char.isDigit at digit
  rw [Bool.and_eq_true, decide_eq_true_eq, decide_eq_true_eq] at digit
  obtain ⟨low, high⟩ := digit
  have below : c.toNat < 0x3A := Nat.lt_succ_of_le high
  have inner := digits c.toNat below low
  rwa [Char.ofNat_toNat] at inner

section Authority

variable {name host : List Char} {c : Char} (port : Option Nat)

theorem mem_portText (member : c ∈ portText port) : c = ':' ∨ c.isDigit = true := by
  cases port with
  | none => exact absurd member List.not_mem_nil
  | some port =>
      rcases List.mem_cons.mp member with colon | digit
      · exact .inl colon
      · exact .inr (Number.naturalDigits_isDigit digit)

theorem notMem_ported (colon : c ≠ ':') (digit : c.isDigit = false) (free : c ∉ name) :
    c ∉ name ++ portText port := by
  intro member
  rcases List.mem_append.mp member with before | after
  · exact free before
  · rcases mem_portText port after with same | digits
    · exact colon same
    · rw [digit] at digits
      cases digits

theorem cutFirst_portText (free : ':' ∉ name) :
    (Text.cutFirst ':' (name ++ portText port)).1 = name ∧
      ((Text.cutFirst ':' (name ++ portText port)).2).getD [] = portDigits port := by
  cases port with
  | none =>
      rw [portText, List.append_nil, Text.cutFirst_of_notMem free]
      exact ⟨rfl, rfl⟩
  | some port =>
      rw [portText, Text.cutFirst_append _ free]
      exact ⟨rfl, rfl⟩

theorem cutFirst_bracketed (rest : List Char) :
    Text.cutFirst '[' ('[' :: (name ++ [']']) ++ rest) = ([], some (name ++ ']' :: rest)) := by
  rw [List.cons_append, List.append_assoc]
  exact Text.cutFirst_append _ List.not_mem_nil

theorem HostText.all_isInner (written : HostText name host) (inside : ∀ c ∈ name, isInner c = true) :
    ∀ c ∈ host ++ portText port, isInner c = true := by
  intro c member
  rcases List.mem_append.mp member with before | after
  · cases written with
    | bare => exact inside c before
    | bracketed =>
        simp only [List.mem_cons, List.mem_append, List.not_mem_nil, or_false] at before
        rcases before with rfl | name | rfl
        · rfl
        · exact inside c name
        · rfl
  · rcases mem_portText port after with rfl | digit
    · rfl
    · exact isInner_of_isDigit digit

theorem HostText.afterLast_eq (written : HostText name host)
    (inside : ∀ c ∈ name, isInner c = true) :
    Text.afterLast '@' (host ++ portText port) = host ++ portText port := by
  apply Text.afterLast_of_notMem
  intro member
  exact absurd (written.all_isInner port inside '@' member) (by decide)

theorem HostText.hostAndPort_eq (written : HostText name host)
    (inside : ∀ c ∈ name, isInner c = true) :
    hostAndPort (host ++ portText port) = (name, portDigits port) := by
  unfold hostAndPort
  rw [written.afterLast_eq port inside]
  dsimp only
  cases written with
  | bare free opening =>
      have unopened : '[' ∉ name ++ portText port :=
        notMem_ported port (by decide) (by decide) opening
      obtain ⟨before, after⟩ := cutFirst_portText port free
      rw [Text.cutFirst_of_notMem unopened]
      dsimp only
      rw [before, after]
  | bracketed closing =>
      have bare : ':' ∉ ([] : List Char) := List.not_mem_nil
      obtain ⟨_, after⟩ := cutFirst_portText port bare
      rw [List.nil_append] at after
      rw [cutFirst_bracketed]
      dsimp only
      rw [Text.cutFirst_append _ closing]
      dsimp only [Option.getD_some]
      rw [after]

theorem HostText.checkBrackets_eq (written : HostText name host)
    (inside : ∀ c ∈ name, isInner c = true) :
    checkBrackets (host ++ portText port) = .ok () := by
  have user := written.afterLast_eq port inside
  unfold checkBrackets
  cases written with
  | bare free opening closing =>
      have unopened : '[' ∉ name ++ portText port :=
        notMem_ported port (by decide) (by decide) opening
      have unclosed : ']' ∉ name ++ portText port :=
        notMem_ported port (by decide) (by decide) closing
      rw [if_neg (not_or.mpr ⟨unopened, unclosed⟩)]
  | bracketed closing groups =>
      have opening : '[' ∈ '[' :: (name ++ [']']) ++ portText port := List.mem_cons_self
      have closes : ']' ∈ '[' :: (name ++ [']']) ++ portText port :=
        List.mem_append_left _ (List.mem_cons_of_mem _ List.mem_concat_self)
      -- After the closing bracket comes nothing, or the colon of the port.
      have follows : ¬(portText port ≠ [] ∧ (portText port).head? ≠ some ':') := by
        cases port with
        | none => exact fun both => both.1 rfl
        | some port => exact fun both => both.2 rfl
      rw [if_pos (.inl opening), if_neg (not_not.mpr ⟨opening, closes⟩)]
      rw [user]
      dsimp only
      rw [cutFirst_bracketed]
      dsimp only
      rw [Text.cutFirst_append _ closing]
      dsimp only [Option.getD_some]
      rw [if_neg (not_not.mpr rfl), if_neg follows]
      exact checkBracketedHost_of_checkIpv6 groups

end Authority

/-! ### Sites -/

def Site.authority (site : Site) : List Char := site.host ++ portText site.port

theorem Site.text_eq (site : Site) :
    site.text = site.scheme ++ ':' :: '/' :: '/' :: (site.authority ++ site.path) := by
  unfold Site.text Site.authority
  rw [List.append_assoc]
  cases site.port <;> rfl

structure Site.Written (site : Site) (name : List Char) : Prop where
  scheme : site.scheme ∈ servedSchemes
  host : HostText name site.host
  inside : ∀ c ∈ name, isInner c = true
  small : smallHost name = name
  port : ∀ port, site.port = some port → port ≤ 65535
  path : IsPath site.path

namespace Site.Written

variable {site : Site} {name : List Char} (written : site.Written name)
include written

theorem split_append {more : List Char} (isPath : IsPath more) :
    split (site.text ++ more) =
      .ok ⟨site.scheme, site.authority, site.path ++ more, [], []⟩ := by
  have whole : site.text ++ more =
      Parts.text ⟨site.scheme, site.authority, site.path ++ more, [], []⟩ := by
    unfold Parts.text
    rw [site.text_eq]
    simp only [List.append_assoc, List.cons_append]
  rw [whole]
  exact split_text
    { scheme := written.scheme
      authority := written.host.all_isInner site.port written.inside
      brackets := written.host.checkBrackets_eq site.port written.inside
      path := written.path.append isPath
      query := rfl
      fragment := rfl }

theorem hostAndPort_authority : hostAndPort site.authority = (name, portDigits site.port) :=
  written.host.hostAndPort_eq site.port written.inside

variable {parts : Parts} (same : parts.authority = site.authority)
include same

theorem host_eq : parts.host = name := by
  rw [parts.host_eq, same, written.hostAndPort_authority]
  exact written.small

theorem port_eq : parts.port = .ok site.port := by
  unfold Parts.port
  rw [same, written.hostAndPort_authority]
  cases given : site.port with
  | none => rfl
  | some port =>
      have range := written.port port given
      -- A port has five digits at most, so the limit on numerals does not matter.
      have few : (Number.naturalDigits port).length ≤ Number.digitLimit := by
        have five : (Nat.toDigits 10 port).length ≤ 5 :=
          (Nat.length_toDigits_le_iff (by decide) (by decide)).mpr (by omega)
        exact Nat.le_trans five (by decide)
      have digits : (Number.naturalDigits port).all Char.isDigit = true :=
        List.all_eq_true.mpr fun c member => Number.naturalDigits_isDigit member
      have number := Number.readDigits_naturalDigits port few
      have solid := Number.naturalDigits_ne_nil port
      dsimp only [portDigits]
      generalize Number.naturalDigits port = text at digits number solid
      cases text with
      | nil => exact absurd rfl solid
      | cons first rest =>
          dsimp only
          rw [digits, number]
          exact if_neg (Nat.not_lt.mpr range)

end Site.Written

theorem trimSlashes_concat (path : List Char) : trimSlashes (path ++ ['/']) = trimSlashes path :=
  List.rdropWhile_concat_pos _ _ _ rfl

theorem slash_not_suffix (path : List Char) : ¬['/'] <:+ trimSlashes path := by
  rintro ⟨front, shape⟩
  have again : trimSlashes (trimSlashes path) = trimSlashes path := List.rdropWhile_idempotent _ _
  rw [← shape, trimSlashes_concat] at again
  have shorter : (trimSlashes front).length ≤ front.length :=
    List.IsPrefix.length_le <| List.rdropWhile_prefix _ front
  rw [again, List.length_append, List.length_singleton] at shorter
  omega

theorem trimSlashes_eq_self {path : List Char} (solid : ¬['/'] <:+ path) :
    trimSlashes path = path := by
  apply List.rdropWhile_eq_self_iff.mpr
  intro some slash
  have last : path.getLast some = '/' := beq_iff_eq.mp slash
  apply solid
  rw [← last]
  exact ⟨path.dropLast, List.dropLast_append_getLast some⟩

theorem exists_slashes (path : List Char) :
    ∃ slashes, path = trimSlashes path ++ List.replicate slashes '/' := by
  have all : ∀ c ∈ path.rtakeWhile (· == '/'), c = '/' := by
    intro c member
    have slash := List.mem_rtakeWhile_imp (p := (· == '/')) member
    exact beq_iff_eq.mp slash
  refine ⟨(path.rtakeWhile (· == '/')).length, ?_⟩
  rw [← List.eq_replicate_of_mem all]
  exact List.rdropWhile_append_rtakeWhile.symm

theorem sitePath_cases (path : List Char) :
    ¬accessMark <:+ trimSlashes path ∧ sitePath path = trimSlashes path ∨
    ∃ slashes, ¬['/'] <:+ sitePath path ∧
      trimSlashes path = sitePath path ++ List.replicate slashes '/' ++ accessMark := by
  unfold sitePath
  dsimp only
  by_cases marked : accessMark.isSuffixOf (trimSlashes path) = true
  · right
    obtain ⟨front, shape⟩ := List.isSuffixOf_iff_suffix.mp marked
    have cut : (trimSlashes path).take ((trimSlashes path).length - 2) = front := by
      rw [← shape, List.length_append]
      exact List.take_left
    obtain ⟨slashes, front_eq⟩ := exists_slashes front
    rw [if_pos marked, cut]
    refine ⟨slashes, slash_not_suffix front, ?_⟩
    rw [← front_eq, shape]
  · left
    rw [if_neg marked]
    exact ⟨fun suffix => marked (List.isSuffixOf_iff_suffix.mpr suffix), rfl⟩

theorem slash_not_suffix_sitePath (path : List Char) : ¬['/'] <:+ sitePath path := by
  rcases sitePath_cases path with ⟨_, same⟩ | ⟨_, solid, _⟩
  · rw [same]
    exact slash_not_suffix path
  · exact solid

theorem sitePath_initial (path : List Char) : sitePath path <+: path := by
  have trims (path : List Char) : trimSlashes path <+: path := List.rdropWhile_prefix _ path
  have start := List.take_prefix ((trimSlashes path).length - 2) (trimSlashes path)
  unfold sitePath
  dsimp only
  split
  · exact (trims _).trans (start.trans (trims path))
  · exact trims path

/-! ### What an address is read as -/

structure Site.ReadFrom (site : Site) (parts : Parts) : Prop where
  scheme : parts.scheme ∈ servedSchemes
  noUser : '@' ∉ parts.authority
  named : parts.host ≠ []
  brackets : '[' ∈ parts.authority → isBracketed parts.authority = true
  host : siteHost parts.host ('[' ∈ parts.authority) = .ok site.host
  components : componentFault? parts = none
  same : site = ⟨parts.scheme, site.host, site.port, sitePath parts.path⟩

theorem siteOfParts_eq_ok_iff {parts : Parts} {port : Option Nat} {site : Site} :
    siteOfParts parts port = .ok site ↔ site.ReadFrom parts ∧ site.port = port := by
  constructor
  · intro reads
    unfold siteOfParts at reads
    by_cases missing : parts.scheme = []
    · rw [if_pos missing] at reads
      cases reads
    by_cases served : parts.scheme ∈ servedSchemes
    · rw [if_neg missing, if_neg (not_not.mpr served)] at reads
      by_cases user : '@' ∈ parts.authority
      · rw [if_pos user] at reads
        cases reads
      by_cases unnamed : parts.host = []
      · rw [if_neg user, if_pos unnamed] at reads
        cases reads
      by_cases misplaced : '[' ∈ parts.authority ∧ (!isBracketed parts.authority) = true
      · rw [if_neg user, if_neg unnamed, if_pos misplaced] at reads
        cases reads
      have brackets (opened : '[' ∈ parts.authority) : isBracketed parts.authority = true := by
        by_contra unclosed
        exact misplaced ⟨opened, Bool.not_eq_true' _ ▸ Bool.eq_false_iff.mpr unclosed⟩
      rw [if_neg user, if_neg unnamed, if_neg misplaced] at reads
      cases host : siteHost parts.host ('[' ∈ parts.authority) with
      | error fault =>
          rw [host] at reads
          cases reads
      | ok found =>
          rw [host] at reads
          dsimp only at reads
          cases components : componentFault? parts with
          | some component =>
              rw [components] at reads
              cases reads
          | none =>
              rw [components] at reads
              cases reads
              exact ⟨⟨served, user, unnamed, brackets, host, components, rfl⟩, rfl⟩
    · rw [if_neg missing, if_pos served] at reads
      cases reads
  · rintro ⟨⟨served, user, named, brackets, host, components, same⟩, rfl⟩
    have given : parts.scheme ≠ [] := by
      intro missing
      rw [missing] at served
      exact absurd served (by decide)
    have placed : ¬('[' ∈ parts.authority ∧ (!isBracketed parts.authority) = true) := by
      rintro ⟨opened, unclosed⟩
      rw [brackets opened] at unclosed
      cases unclosed
    unfold siteOfParts
    rw [if_neg given, if_neg (not_not.mpr served), if_neg user, if_neg named, if_neg placed, host]
    dsimp only
    rw [components]
    exact congrArg Except.ok same.symm

theorem exists_parts_of_siteOf {text : List Char} {site : Site} (reads : siteOf text = .ok site) :
    ∃ parts, split text = .ok parts ∧ parts.port = .ok site.port ∧ site.ReadFrom parts := by
  unfold siteOf at reads
  split at reads
  · cases reads
  · split at reads
    · cases reads
    · cases splits : split text with
      | error fault =>
          rw [splits] at reads
          cases reads
      | ok parts =>
          rw [splits] at reads
          dsimp only at reads
          cases ported : parts.port with
          | error fault =>
              rw [ported] at reads
              cases reads
          | ok port =>
              rw [ported] at reads
              obtain ⟨readFrom, rfl⟩ := siteOfParts_eq_ok_iff.mp reads
              exact ⟨parts, rfl, ported, readFrom⟩

theorem isMark_of_not_isInner {c : Char} (outer : ¬isInner c = true) : Text.isMark c = true := by
  unfold isInner at outer
  simp only [Bool.not_eq_true', Bool.not_eq_false, Bool.or_eq_true, beq_iff_eq] at outer
  rcases outer with ((ends | dropped) | rfl) | lookalike
  · unfold endsAuthority at ends
    simp only [Bool.or_eq_true, decide_eq_true_eq] at ends
    rcases ends with (rfl | rfl) | rfl <;> rfl
  · unfold isDropped at dropped
    simp only [Bool.or_eq_true, decide_eq_true_eq] at dropped
    rcases dropped with (rfl | rfl) | rfl <;> rfl
  · rfl
  · have high : ∀ code ∈ lookalikes, ¬code < 0x80 := by decide
    have notAscii : Text.isAscii c = false :=
      decide_eq_false (high _ (List.contains_iff_mem.mp lookalike))
    unfold Text.isMark
    rw [notAscii]
    exact lookalike

theorem hostAndPort_cases {authority : List Char} (noUser : '@' ∉ authority) :
    '[' ∉ authority ∧ (hostAndPort authority).1 = (Text.cutFirst ':' authority).1 ∨
    ∃ before bracketed, authority = before ++ '[' :: bracketed ∧
      (hostAndPort authority).1 = (Text.cutFirst ']' bracketed).1 := by
  unfold hostAndPort
  rw [Text.afterLast_of_notMem noUser]
  dsimp only
  rcases Text.cutFirst_cases '[' authority with ⟨cut, absent⟩ | ⟨before, bracketed, cut, _, shape⟩
  · rw [cut]
    exact .inl ⟨absent, rfl⟩
  · rw [cut]
    exact .inr ⟨before, bracketed, shape, rfl⟩

theorem mem_of_mem_hostAndPort {c : Char} {authority : List Char} (noUser : '@' ∉ authority)
    (member : c ∈ (hostAndPort authority).1) : c ∈ authority := by
  rcases hostAndPort_cases noUser with ⟨_, host⟩ | ⟨before, bracketed, shape, host⟩
  · rw [host] at member
    exact Text.mem_of_mem_cutFirst member
  · rw [host] at member
    rw [shape]
    exact List.mem_append_right _ (List.mem_cons_of_mem _ (Text.mem_of_mem_cutFirst member))

theorem port_le {parts : Parts} {port : Nat} (ported : parts.port = .ok (some port)) :
    port ≤ 65535 := by
  unfold Parts.port at ported
  split at ported
  · cases ported
  · split at ported
    · cases ported
    · split at ported
      · cases ported
      · cases ported
      · rename_i number _
        by_cases large : 65535 < number
        · rw [if_pos large] at ported
          cases ported
        · rw [if_neg large] at ported
          cases ported
          exact Nat.not_lt.mp large

namespace Site.ReadFrom

variable {site : Site} {parts : Parts} (readFrom : site.ReadFrom parts)
include readFrom

theorem scheme_eq : site.scheme = parts.scheme := congrArg Site.scheme readFrom.same

theorem path_eq : site.path = sitePath parts.path := congrArg Site.path readFrom.same

theorem authority_ne_nil : parts.authority ≠ [] := by
  intro empty
  apply readFrom.named
  rw [parts.host_eq, empty]
  rfl

theorem mem_authority {c : Char} (mark : Text.isMark c = true) (member : c ∈ parts.host) :
    c ∈ parts.authority :=
  mem_of_mem_hostAndPort readFrom.noUser (mem_of_mem_smallHost mark member)

theorem bracketed (opened : '[' ∈ parts.authority) : HostText parts.host site.host := by
  have closing : ']' ∉ parts.host := by
    intro member
    have among : ']' ∈ (hostAndPort parts.authority).1 := mem_of_mem_smallHost (by decide) member
    rcases hostAndPort_cases readFrom.noUser with ⟨unopened, _⟩ | ⟨_, bracketed, _, host⟩
    · exact unopened opened
    · rw [host] at among
      exact Text.mark_notMem_cutFirst ']' bracketed among
  have host := readFrom.host
  unfold siteHost at host
  rw [if_pos (decide_eq_true opened)] at host
  cases groups : checkIpv6 parts.host with
  | error fault =>
      rw [groups] at host
      cases host
  | ok checked =>
      rw [groups] at host
      rw [← Except.ok.inj host]
      exact .bracketed closing groups

theorem bare (unopened : '[' ∉ parts.authority) (unclosed : ']' ∉ parts.authority) :
    HostText parts.host site.host := by
  have free : ':' ∉ parts.host := by
    intro member
    have among : ':' ∈ (hostAndPort parts.authority).1 := mem_of_mem_smallHost (by decide) member
    rcases hostAndPort_cases readFrom.noUser with ⟨_, host⟩ | ⟨before, bracketed, shape, _⟩
    · rw [host] at among
      exact Text.mark_notMem_cutFirst ':' parts.authority among
    · apply unopened
      rw [shape]
      exact List.mem_append_right _ List.mem_cons_self
  have host := readFrom.host
  unfold siteHost at host
  rw [if_neg (by rw [decide_eq_true_eq]; exact unopened)] at host
  have same : site.host = parts.host := by
    split at host
    · cases host
    · split at host
      · exact (Except.ok.inj host).symm
      · cases host
  rw [same]
  apply HostText.bare free
  · exact fun member => unopened (readFrom.mem_authority (by decide) member)
  · exact fun member => unclosed (readFrom.mem_authority (by decide) member)

theorem written {text : List Char} (splits : split text = .ok parts)
    (ported : parts.port = .ok site.port) : site.Written parts.host where
  scheme := by
    rw [readFrom.scheme_eq]
    exact readFrom.scheme
  host := by
    by_cases opened : '[' ∈ parts.authority
    · exact readFrom.bracketed opened
    · apply readFrom.bare opened
      intro closing
      have brackets := (isSound_of_split splits).brackets
      unfold checkBrackets at brackets
      rw [if_pos (.inr closing), if_pos (fun both => opened both.1)] at brackets
      cases brackets
  inside := by
    intro c member
    by_contra outer
    -- What is not fit for an authority is a mark, so it was in the authority that was read.
    have among := readFrom.mem_authority (isMark_of_not_isInner outer) member
    obtain ⟨ends, kept, unlike⟩ := (isSound_of_split splits).authority c among
    have user : c ≠ '@' := by
      rintro rfl
      exact readFrom.noUser among
    exact outer (isInner_iff.mpr ⟨ends, kept, user, unlike⟩)
  small := by
    rw [parts.host_eq]
    exact smallHost_smallHost _
  port := by
    intro port given
    rw [given] at ported
    exact port_le ported
  path := by
    have isPath := (isSound_of_split splits).path readFrom.authority_ne_nil
    rw [readFrom.path_eq]
    exact isPath.of_initial (sitePath_initial parts.path)

end Site.ReadFrom

end ProjectScan.Address

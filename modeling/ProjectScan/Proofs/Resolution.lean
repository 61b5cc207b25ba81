import ProjectScan.Proofs.AddressGrammar
import ProjectScan.Proofs.Scope

/-!
Resolved addresses resolved again. The web base that an address resolves to resolves as well, and to the
same endpoint, unless the path of the address ends in two access marks: each time, the path loses one.
The base of authenticated calls, which has a mark more, always resolves to the same endpoint.
-/

namespace ProjectScan

namespace Address

def EndsMarkedTwice (path : List Char) : Prop :=
  ∃ front slashes, path = front ++ accessMark ++ List.replicate slashes '/' ++ accessMark

theorem slash_not_suffix_mark (front : List Char) : ¬['/'] <:+ front ++ accessMark := by
  rintro ⟨more, shape⟩
  have last := congrArg List.getLast? shape
  rw [List.getLast?_append, List.getLast?_append] at last
  cases last

theorem sitePath_of_endsMarkedTwice {path : List Char} (twice : EndsMarkedTwice (trimSlashes path)) :
    ∃ slashes, sitePath path =
      sitePath (sitePath path) ++ List.replicate slashes '/' ++ accessMark := by
  obtain ⟨front, between, shape⟩ := twice
  obtain ⟨after, whole⟩ := exists_slashes path
  obtain ⟨before, frontShape⟩ := exists_slashes front
  have first : sitePath path = front ++ accessMark := by
    apply comesDownTo_iff.mp
    have down := ComesDownTo.marked between after (slash_not_suffix_mark front)
    change ComesDownTo (_ ++ accessMark ++ _) _ at down
    rwa [← shape, ← whole] at down
  have second : sitePath (front ++ accessMark) = trimSlashes front := by
    apply comesDownTo_iff.mp
    have down := ComesDownTo.marked before 0 (slash_not_suffix front)
    rw [← frontShape, List.replicate_zero, List.append_nil] at down
    exact down
  refine ⟨before, ?_⟩
  rw [first, second, ← frontShape]

theorem sitePath_sitePath {path : List Char} (once : ¬EndsMarkedTwice (trimSlashes path)) :
    sitePath (sitePath path) = sitePath path := by
  have stays (unmarked : ¬accessMark <:+ sitePath path) :
      sitePath (sitePath path) = sitePath path := by
    apply comesDownTo_iff.mp
    have down := ComesDownTo.plain 0 (slash_not_suffix_sitePath path) unmarked
    rwa [List.replicate_zero, List.append_nil] at down
  rcases sitePath_cases path with ⟨unmarked, same⟩ | ⟨slashes, _, marked⟩
  · apply stays
    rwa [same]
  · apply stays
    rintro ⟨front, shape⟩
    apply once
    refine ⟨front, slashes, ?_⟩
    rw [marked, shape]

theorem sitePath_append_mark {path : List Char} (solid : ¬['/'] <:+ path) :
    sitePath (path ++ accessMark) = path := by
  apply comesDownTo_iff.mp
  have down := ComesDownTo.marked 0 0 solid
  rwa [List.replicate_zero, List.append_nil, List.append_nil] at down

theorem Encoded.of_append {allowed : Char → Bool} {front rest : List Char}
    (encoded : Encoded allowed (front ++ rest))
    (starts : ∀ c, rest.head? = some c → isHexDigit c = false) : Encoded allowed front := by
  generalize shape : front ++ rest = text at encoded
  induction encoded generalizing front with
  | nil =>
      rw [(List.append_eq_nil_iff.mp shape).1]
      exact .nil
  | char plain _ ih =>
      cases front with
      | nil => exact .nil
      | cons first more =>
          obtain ⟨rfl, same⟩ := List.cons_eq_cons.mp shape
          exact .char plain (ih same)
  | @octet high low more digits _ ih =>
      -- An octet that is cut would leave a rest that starts with one of its digits.
      match front, shape with
      | [], _ => exact .nil
      | [_], shape =>
          obtain ⟨-, rfl⟩ := List.cons_eq_cons.mp shape
          have digit := starts high rfl
          rw [digits.1] at digit
          cases digit
      | [_, _], shape =>
          obtain ⟨-, shape⟩ := List.cons_eq_cons.mp shape
          obtain ⟨-, rfl⟩ := List.cons_eq_cons.mp shape
          have digit := starts low rfl
          rw [digits.2] at digit
          cases digit
      | _ :: _ :: _ :: inner, shape =>
          simp only [List.cons_append, List.cons.injEq] at shape
          obtain ⟨rfl, rfl, rfl, same⟩ := shape
          exact .octet digits (ih same)

theorem ComesDownTo.exists_rest {path base : List Char} (down : ComesDownTo path base) :
    ∃ rest, path = base ++ rest ∧ ∀ c, rest.head? = some c → c = '/' := by
  cases down with
  | plain slashes =>
      refine ⟨List.replicate slashes '/', rfl, fun c leads => ?_⟩
      exact List.eq_of_mem_replicate (List.mem_of_head? leads)
  | marked before after =>
      refine ⟨List.replicate before '/' ++ (['/', 'a'] ++ List.replicate after '/'), ?_, ?_⟩
      · simp only [List.append_assoc]
      · intro c leads
        cases before with
        | zero => exact (Option.some.inj leads).symm
        | succ before => exact (Option.some.inj leads).symm

theorem encoded_sitePath {path : List Char} (encoded : Encoded isQueryChar path) :
    Encoded isQueryChar (sitePath path) := by
  have down : ComesDownTo path (sitePath path) := comesDownTo_iff.mpr rfl
  obtain ⟨rest, shape, slash⟩ := down.exists_rest
  rw [shape] at encoded
  apply encoded.of_append
  intro c leads
  rw [slash c leads]
  decide

/-! ### Sites -/

theorem HostText.closing_notMem {name host : List Char} (written : HostText name host) :
    ']' ∉ name := by
  cases written with
  | bare _ _ closing => exact closing
  | bracketed closing => exact closing

theorem isBracketed_append {name : List Char} (port : Option Nat) (closing : ']' ∉ name)
    (opening : '[' ∉ name) (given : name ≠ []) :
    isBracketed ('[' :: (name ++ ']' :: portText port)) = true := by
  have cut := Text.cutFirst_append (portText port) closing
  have named : name.isEmpty = false := List.isEmpty_eq_false_iff.mpr given
  have inside : name.contains '[' = false := by
    rw [List.contains_eq_mem]
    exact decide_eq_false opening
  simp only [isBracketed, cut, named, inside, Bool.not_false, Bool.true_and]
  cases port with
  | none => rfl
  | some port => exact List.all_eq_true.mpr fun c member => Number.naturalDigits_isDigit member

namespace Site.ReadFrom

variable {site : Site} {parts : Parts} (readFrom : site.ReadFrom parts)
include readFrom

theorem host_cases : '[' ∉ parts.authority ∧ site.host = parts.host ∨
    '[' ∈ parts.authority ∧ site.host = '[' :: (parts.host ++ [']']) := by
  have host := readFrom.host
  unfold siteHost at host
  by_cases opened : '[' ∈ parts.authority
  · rw [if_pos (decide_eq_true opened)] at host
    split at host
    · cases host
    · exact .inr ⟨opened, (Except.ok.inj host).symm⟩
  · rw [if_neg (by rw [decide_eq_true_eq]; exact opened)] at host
    split at host
    · cases host
    · split at host
      · exact .inl ⟨opened, (Except.ok.inj host).symm⟩
      · cases host

theorem opening_notMem : '[' ∉ parts.host := by
  intro member
  have opened := readFrom.mem_authority (by decide) member
  have brackets := readFrom.brackets opened
  have among : '[' ∈ (hostAndPort parts.authority).1 := mem_of_mem_smallHost (by decide) member
  unfold isBracketed at brackets
  split at brackets
  · rename_i rest begins
    split at brackets
    · rename_i host after cut
      simp only [Bool.and_eq_true, Bool.not_eq_true', List.contains_eq_mem] at brackets
      apply of_decide_eq_false brackets.1.2
      unfold hostAndPort at among
      rw [Text.afterLast_of_notMem readFrom.noUser, begins] at among
      change '[' ∈ (Text.cutFirst ']' rest).1 at among
      rwa [cut] at among
    · cases brackets
  · cases brackets

/-- With more of a path behind it, the site of an address can be read from its own parts. -/
theorem below (written : site.Written parts.host) {more : List Char}
    (encoded : Encoded isQueryChar more) :
    Site.ReadFrom { site with path := sitePath (site.path ++ more) }
      ⟨site.scheme, site.authority, site.path ++ more, [], []⟩ := by
  have opens : '[' ∈ site.authority ↔ '[' ∈ parts.authority := by
    unfold Site.authority
    rcases readFrom.host_cases with ⟨unopened, bare⟩ | ⟨opened, bracketed⟩
    · rw [bare]
      exact iff_of_false (notMem_ported site.port (by decide) (by decide) readFrom.opening_notMem)
        unopened
    · rw [bracketed]
      exact iff_of_true List.mem_cons_self opened
  exact {
    scheme := written.scheme
    noUser := by
      intro member
      have inner := written.host.all_isInner site.port written.inside '@' member
      cases inner
    named := by
      rw [written.host_eq rfl]
      exact readFrom.named
    brackets := by
      intro opened
      rcases readFrom.host_cases with ⟨unopened, _⟩ | ⟨_, bracketed⟩
      · exact absurd (opens.mp opened) unopened
      · have whole : site.authority = '[' :: (parts.host ++ ']' :: portText site.port) := by
          unfold Site.authority
          rw [bracketed, List.cons_append, List.append_assoc]
          rfl
        change isBracketed site.authority = true
        rw [whole]
        exact isBracketed_append site.port written.host.closing_notMem readFrom.opening_notMem
          readFrom.named
    host := by
      rw [written.host_eq rfl, decide_eq_decide.mpr opens]
      exact readFrom.host
    components := by
      apply (componentFault?_eq_none_iff _).mpr
      refine ⟨?_, .nil, .nil⟩
      dsimp only
      rw [readFrom.path_eq]
      exact (encoded_sitePath ((componentFault?_eq_none_iff _).mp readFrom.components).1).append encoded
    same := rfl }

end Site.ReadFrom

theorem isShown_of_isDigit {c : Char} (digit : c.isDigit = true) : isShown c = true := by
  have letter : c.isAlphanum = true := by
    unfold Char.isAlphanum
    rw [digit, Bool.or_true]
  have ascii : Text.isAscii c = true := by
    have below : c.toNat ≤ 57 := (Char.isDigit_iff_toNat.mp digit).2
    exact decide_eq_true (by omega)
  exact isShown_of_isAddressChar ascii
    (.inl (isQueryChar_of_isNameChar (isNameChar_of_isAlphanum letter)))

theorem isShown_siteText {text : List Char} {site : Site} (reads : siteOf text = .ok site) :
    ∀ c ∈ site.text, isShown c = true := by
  have shown := (siteOf_eq_ok_iff.mp reads).1
  obtain ⟨spelling, sound, rfl, ported, readFrom⟩ := exists_spelling_of_siteOf reads
  have scheme : ∀ c ∈ site.scheme, isShown c = true := by
    rw [readFrom.scheme_eq]
    rcases served_cases readFrom.scheme with same | same
    · rw [same]
      exact List.all_eq_true.mp (by decide +kernel)
    · rw [same]
      exact List.all_eq_true.mp (by decide +kernel)
  have name : ∀ c ∈ spelling.parts.host, isShown c = true := by
    intro c member
    refine isShown_of_mem_smallHost (fun c member => shown c ?_) member
    have among : c ∈ spelling.authority := mem_of_mem_hostAndPort readFrom.noUser member
    unfold Spelling.text
    simp only [List.mem_append, List.mem_cons]
    tauto
  have host : ∀ c ∈ site.host, isShown c = true := by
    rcases readFrom.host_cases with ⟨_, bare⟩ | ⟨_, bracketed⟩
    · rwa [bare]
    · rw [bracketed]
      intro c member
      simp only [List.mem_cons, List.mem_append, List.not_mem_nil, or_false] at member
      rcases member with rfl | inside | rfl
      · decide
      · exact name c inside
      · decide
  have path : ∀ c ∈ site.path, isShown c = true := by
    intro c member
    rw [readFrom.path_eq] at member
    have among : c ∈ spelling.path := (sitePath_initial _).subset member
    apply shown
    unfold Spelling.text Spelling.tail
    simp only [List.mem_append, List.mem_cons]
    tauto
  intro c member
  rw [Site.text_eq] at member
  unfold Site.authority at member
  simp only [List.mem_append, List.mem_cons] at member
  rcases member with inScheme | rfl | rfl | rfl | (inHost | inPort) | inPath
  · exact scheme c inScheme
  · decide
  · decide
  · decide
  · exact host c inHost
  · rcases mem_portText site.port inPort with rfl | digit
    · decide
    · exact isShown_of_isDigit digit
  · exact path c inPath

theorem siteOf_below {text : List Char} {site : Site} (reads : siteOf text = .ok site)
    {more : List Char} (isPath : IsPath more) (encoded : Encoded isQueryChar more)
    (shown : ∀ c ∈ more, isShown c = true) :
    siteOf (site.text ++ more) = .ok { site with path := sitePath (site.path ++ more) } := by
  obtain ⟨_, parts, splits, ported, readFrom⟩ := siteOf_eq_ok_iff.mp reads
  have written := readFrom.written splits ported
  apply siteOf_eq_ok_iff.mpr
  constructor
  · rw [List.forall_mem_append]
    exact ⟨isShown_siteText reads, shown⟩
  · exact ⟨_, written.split_append isPath, written.port_eq rfl, readFrom.below written encoded⟩

end Address

namespace Endpoint

open Address

def EndsMarkedTwice (address : String) : Prop :=
  ∃ path, Scope.path? address = some path ∧ Address.EndsMarkedTwice path

theorem resolve_below {text : List Char} {site : Site} (reads : siteOf text = .ok site)
    {more : List Char} (isPath : IsPath more) (encoded : Encoded isQueryChar more)
    (shown : ∀ c ∈ more, isShown c = true) :
    resolve (some (String.ofList (site.text ++ more))) =
      .ok (ofSite (site.text ++ more) { site with path := sitePath (site.path ++ more) }) := by
  have solid : ∀ c ∈ site.text ++ more, Text.isBlank c = false := by
    rw [List.forall_mem_append]
    constructor
    · exact fun c member => (isShown_iff.mp (isShown_siteText reads c member)).1
    · exact fun c member => (isShown_iff.mp (shown c member)).1
  have trims : Text.trim (site.text ++ more) = site.text ++ more := by
    have bare : Text.trim ([] ++ (site.text ++ more) ++ []) = site.text ++ more :=
      Text.trim_append nofun solid nofun
    rwa [List.nil_append, List.append_nil] at bare
  apply resolve_eq_ok_iff.mpr
  rw [Option.getD_some, String.toList_ofList, trims]
  exact ⟨_, siteOf_below reads isPath encoded shown, rfl⟩

theorem resolve_siteText {text : List Char} {site : Site} (reads : siteOf text = .ok site) :
    resolve (some (String.ofList site.text)) =
      .ok (ofSite site.text { site with path := sitePath site.path }) := by
  have isPath : IsPath [] := ⟨.inl rfl, nofun⟩
  have again := resolve_below reads isPath .nil nofun
  rwa [List.append_nil, List.append_nil] at again

theorem endsMarkedTwice_iff {text : List Char} {parts : Parts} {port : Option Nat}
    (splits : split text = .ok parts) (ported : parts.port = .ok port) :
    EndsMarkedTwice (String.ofList text) ↔ Address.EndsMarkedTwice (trimSlashes parts.path) := by
  have path : Scope.path? (String.ofList text) = some (trimSlashes parts.path) := by
    unfold Scope.path? Scope.read?
    rw [String.toList_ofList, splits]
    dsimp only
    rw [ported]
    rfl
  unfold EndsMarkedTwice
  rw [path]
  constructor
  · rintro ⟨_, same, twice⟩
    rwa [Option.some.inj same]
  · exact fun twice => ⟨_, rfl, twice⟩

/-- What an address resolves to resolves again, to the same bases exactly if the address does not end
in two access marks; else one mark is lost again. -/
theorem resolve_webUri {url : Option String} {endpoint : Endpoint}
    (resolves : resolve url = .ok endpoint) :
    ∃ again, resolve (some endpoint.webUri) = .ok again ∧ again.serverUrl = endpoint.webUri ∧
      (again.webUri = endpoint.webUri ∧ again.apiUri = endpoint.apiUri ↔
        ¬EndsMarkedTwice (Text.trimmed (url.getD ""))) ∧
      (EndsMarkedTwice (Text.trimmed (url.getD "")) →
        ∃ slashes, endpoint.webUri =
          again.webUri ++ String.ofList (List.replicate slashes '/') ++ "/a") := by
  obtain ⟨site, reads, rfl⟩ := resolve_eq_ok_iff.mp resolves
  obtain ⟨parts, splits, ported, readFrom⟩ := exists_parts_of_siteOf reads
  refine ⟨_, resolve_siteText reads, rfl, ?_⟩
  rw [Text.trimmed, endsMarkedTwice_iff splits ported]
  have text (path : List Char) : Site.text { site with path := path } =
      site.scheme ++ ':' :: '/' :: '/' :: (site.authority ++ path) := Site.text_eq _
  by_cases twice : Address.EndsMarkedTwice (trimSlashes parts.path)
  · obtain ⟨slashes, loses⟩ := sitePath_of_endsMarkedTwice twice
    rw [← readFrom.path_eq] at loses
    have whole : site.text = Site.text { site with path := sitePath site.path } ++
        List.replicate slashes '/' ++ accessMark := by
      rw [text (sitePath site.path), site.text_eq]
      nth_rewrite 1 [loses]
      simp only [List.append_assoc, List.cons_append]
    refine ⟨iff_of_false ?_ (not_not.mpr twice), fun _ => ⟨slashes, ?_⟩⟩
    · rintro ⟨same, -⟩
      have lengths := congrArg List.length (String.ofList_injective same)
      rw [whole, List.length_append, List.length_append] at lengths
      have two : accessMark.length = 2 := rfl
      omega
    · change String.ofList site.text = _
      rw [whole, String.ofList_append, String.ofList_append]
      rfl
  · have stays : sitePath site.path = site.path := by
      rw [readFrom.path_eq]
      exact sitePath_sitePath twice
    rw [stays]
    exact ⟨iff_of_true ⟨rfl, rfl⟩ twice, fun both => absurd both twice⟩

theorem resolve_webUri_gerrit :
    resolve (some " HTTP://[::1]:080/gerrit/a/ ") =
        .ok ⟨"HTTP://[::1]:080/gerrit/a/", "http://[::1]:80/gerrit", "http://[::1]:80/gerrit/a"⟩ ∧
      ∃ again, resolve (some "http://[::1]:80/gerrit") = .ok again ∧
        again.webUri = "http://[::1]:80/gerrit" ∧ again.apiUri = "http://[::1]:80/gerrit/a" := by
  have resolves : resolve (some " HTTP://[::1]:080/gerrit/a/ ") =
      .ok ⟨"HTTP://[::1]:080/gerrit/a/", "http://[::1]:80/gerrit", "http://[::1]:80/gerrit/a"⟩ := by
    decide +kernel
  obtain ⟨again, resolvesAgain, -, same, -⟩ := resolve_webUri resolves
  refine ⟨resolves, again, resolvesAgain, same.mpr ?_⟩
  have path : Scope.path? (Text.trimmed ((some " HTTP://[::1]:080/gerrit/a/ ").getD "")) =
      some "/gerrit/a".toList := by decide +kernel
  rintro ⟨_, known, front, slashes, twice⟩
  rw [path] at known
  cases known
  have first : "/gerrit".toList = front ++ accessMark ++ List.replicate slashes '/' :=
    (List.append_inj' (show "/gerrit".toList ++ accessMark = _ from twice) rfl).1
  cases slashes with
  | zero =>
      rw [List.replicate_zero, List.append_nil] at first
      have last := (List.append_inj' (show "/gerr".toList ++ ['i', 't'] = _ from first) rfl).2
      exact absurd last (by decide)
  | succ slashes =>
      rw [List.replicate_succ', ← List.append_assoc] at first
      have last := (List.append_inj' (show "/gerri".toList ++ ['t'] = _ from first) rfl).2
      exact absurd last (by decide)

/-- The web base of an address with two access marks resolves to another endpoint. -/
theorem webUri_not_fixed : ¬∀ (url : Option String) (endpoint : Endpoint),
    resolve url = .ok endpoint → ∃ again, resolve (some endpoint.webUri) = .ok again ∧
      again.webUri = endpoint.webUri ∧ again.apiUri = endpoint.apiUri := by
  intro fixed
  have resolves : resolve (some "https://h/a/a") =
      .ok ⟨"https://h/a/a", "https://h/a", "https://h/a/a"⟩ := by decide +kernel
  have again : resolve (some "https://h/a") = .ok ⟨"https://h/a", "https://h", "https://h/a"⟩ := by
    decide +kernel
  obtain ⟨found, known, same, -⟩ := fixed _ _ resolves
  rw [again] at known
  cases known
  exact absurd same (by decide)

theorem mem_accessMark {c : Char} (member : c ∈ accessMark) : c = '/' ∨ c = 'a' := by
  simpa [accessMark] using member

/-- The base of authenticated calls resolves to the endpoint that it is the base of. -/
theorem resolve_apiUri {url : Option String} {endpoint : Endpoint}
    (resolves : resolve url = .ok endpoint) :
    resolve (some endpoint.apiUri) = .ok { endpoint with serverUrl := endpoint.apiUri } := by
  obtain ⟨site, reads, rfl⟩ := resolve_eq_ok_iff.mp resolves
  obtain ⟨parts, splits, ported, readFrom⟩ := exists_parts_of_siteOf reads
  have stays : sitePath (site.path ++ accessMark) = site.path := by
    apply sitePath_append_mark
    rw [readFrom.path_eq]
    exact slash_not_suffix_sitePath parts.path
  have isPath : IsPath accessMark := by
    refine ⟨.inr rfl, fun c member => ?_⟩
    rcases mem_accessMark member with rfl | rfl <;> decide
  have encoded : Encoded isQueryChar accessMark := (isComponent_iff accessMark).mp (by decide)
  have shown : ∀ c ∈ accessMark, isShown c = true := by
    intro c member
    rcases mem_accessMark member with rfl | rfl <;> decide
  have again := resolve_below reads isPath encoded shown
  rw [stays] at again
  exact again

theorem resolve_apiUri_zone :
    resolve (some " HTTP://[FE80::1%Eth0]:080//gerrit//a/?q ") =
        .ok ⟨"HTTP://[FE80::1%Eth0]:080//gerrit//a/?q", "http://[fe80::1%Eth0]:80//gerrit",
          "http://[fe80::1%Eth0]:80//gerrit/a"⟩ ∧
      resolve (some "http://[fe80::1%Eth0]:80//gerrit/a") =
        .ok ⟨"http://[fe80::1%Eth0]:80//gerrit/a", "http://[fe80::1%Eth0]:80//gerrit",
          "http://[fe80::1%Eth0]:80//gerrit/a"⟩ := by
  have resolves : resolve (some " HTTP://[FE80::1%Eth0]:080//gerrit//a/?q ") =
      .ok ⟨"HTTP://[FE80::1%Eth0]:080//gerrit//a/?q", "http://[fe80::1%Eth0]:80//gerrit",
        "http://[fe80::1%Eth0]:80//gerrit/a"⟩ := by decide +kernel
  have again := resolve_apiUri resolves
  dsimp only at again
  exact ⟨resolves, again⟩

end Endpoint

end ProjectScan

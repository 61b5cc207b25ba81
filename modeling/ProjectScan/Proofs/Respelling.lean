import Mathlib.Data.List.Basic
import ProjectScan.Proofs.AddressGrammar
import ProjectScan.Proofs.Resolution

/-!
Addresses spelled in another way. A server has many addresses: scheme and host are written in letters
of any case, the port with zeros in front, the path with slashes at its end, and what follows the path
is dropped. All these resolve to the same bases, unless the hosts differ from a percent sign on, where
letters stay as they are typed.
-/

namespace ProjectScan

namespace Address

/-- A host between the marks of its address: a name, or anything in brackets. -/
inductive IsHostPiece : List Char → Prop where
  | bare {name : List Char} (port : ':' ∉ name) (opening : '[' ∉ name) : IsHostPiece name
  | bracketed {name : List Char} (closing : ']' ∉ name) : IsHostPiece ('[' :: (name ++ [']']))

/-- The pieces are what is left of the address when it is cut at its marks. -/
structure WebAddress.IsCut (address : WebAddress) : Prop where
  solid : ∀ c ∈ address.text, Text.isBlank c = false
  sound : address.spelling.IsSound
  host : IsHostPiece address.host
  port : ∀ digits, address.port = some digits → ∀ c ∈ digits, c.isDigit = true

/-- The letters of a host that stay as they are: those from the first percent sign on. -/
def keptName (name : List Char) : List Char := name.dropWhile (· != '%')

/-- The texts of ports that are the same number but for zeros in front, or both empty. -/
inductive SamePort : List Char → List Char → Prop where
  | none : SamePort [] []
  | zeros (digits : List Char) (before others : Nat) (given : digits ≠ []) :
      SamePort (List.replicate before '0' ++ digits) (List.replicate others '0' ++ digits)

/-- Two addresses that are the same but for the case of letters in scheme and host, for zeros in front
of the port, for slashes at the end of the path, and for query and fragment. -/
structure WebAddress.Respells (address other : WebAddress) : Prop where
  scheme : address.scheme.map Char.toLower = other.scheme.map Char.toLower
  host : address.host.map Char.toLower = other.host.map Char.toLower
  port : SamePort (address.port.getD []) (other.port.getD [])
  path : ∃ path slashes others, address.path = path ++ List.replicate slashes '/' ∧
    other.path = path ++ List.replicate others '/'

section Names

variable {name other : List Char}

theorem loweredName_eq (name : List Char) :
    loweredName name = (name.takeWhile (· != '%')).map Char.toLower ++ keptName name := rfl

theorem loweredName_cons {c : Char} (plain : c ≠ '%') :
    loweredName (c :: name) = c.toLower :: loweredName name := by
  have goes : (c != '%') = true := bne_iff_ne.mpr plain
  unfold loweredName
  rw [List.takeWhile_cons, if_pos goes, List.dropWhile_cons, if_pos goes]
  rfl

theorem loweredName_concat {c : Char} (plain : c ≠ '%') (small : c.toLower = c) :
    loweredName (name ++ [c]) = loweredName name ++ [c] := by
  induction name with
  | nil =>
      rw [List.nil_append, loweredName_cons plain, small]
      rfl
  | cons first rest ih =>
      by_cases same : first = '%'
      · subst same
        rfl
      · rw [List.cons_append, loweredName_cons same, ih, loweredName_cons same]
        rfl

theorem loweredName_bracketed (name : List Char) :
    loweredName ('[' :: (name ++ [']'])) = '[' :: (loweredName name ++ [']']) := by
  rw [loweredName_cons (by decide), loweredName_concat (by decide) (by decide)]
  rfl

theorem takeWhile_lowered (ascii : ∀ c ∈ name, Text.isAscii c = true) :
    (name.takeWhile (· != '%')).map Char.toLower =
      (name.map Char.toLower).takeWhile (· != '%') := by
  induction name with
  | nil => rfl
  | cons c rest ih =>
      have same : (c.toLower != '%') = (c != '%') := by
        unfold bne
        rw [(toLower_keeps (ascii c List.mem_cons_self)).2.2.1]
      rw [List.map_cons, List.takeWhile_cons, List.takeWhile_cons, same]
      split
      · rw [List.map_cons, ih fun d member => ascii d (List.mem_cons_of_mem _ member)]
      · rfl

/-- Of two names that differ in the case of letters, the small letters are the same exactly if the
letters that are kept are. -/
theorem loweredName_eq_iff (ascii : ∀ c ∈ name, Text.isAscii c = true)
    (asciiToo : ∀ c ∈ other, Text.isAscii c = true)
    (recased : name.map Char.toLower = other.map Char.toLower) :
    loweredName name = loweredName other ↔ keptName name = keptName other := by
  have fronts : (name.takeWhile (· != '%')).map Char.toLower =
      (other.takeWhile (· != '%')).map Char.toLower := by
    rw [takeWhile_lowered ascii, takeWhile_lowered asciiToo, recased]
  rw [loweredName_eq, loweredName_eq, fronts, List.append_cancel_left_eq]

end Names

theorem ofDigitChars_zeros (zeros : Nat) (digits : List Char) :
    Nat.ofDigitChars 10 (List.replicate zeros '0' ++ digits) 0 = Nat.ofDigitChars 10 digits 0 := by
  induction zeros with
  | zero => rfl
  | succ zeros ih =>
      rw [List.replicate_succ, List.cons_append, Nat.ofDigitChars_cons]
      exact ih

theorem SamePort.portNumber?_eq {digits others : List Char} (same : SamePort digits others) :
    portNumber? digits = portNumber? others := by
  cases same with
  | none => rfl
  | zeros digits before others given =>
      have filled (zeros : Nat) : List.replicate zeros '0' ++ digits ≠ [] :=
        List.append_ne_nil_of_right_ne_nil _ given
      unfold portNumber?
      rw [if_neg (filled before), if_neg (filled others), ofDigitChars_zeros, ofDigitChars_zeros]

/-! ### Cut addresses -/

namespace WebAddress

theorem IsCut.hostAndPort_cases {address : WebAddress} (cut : address.IsCut)
    (noUser : '@' ∉ address.spelling.authority) :
    '[' ∉ address.spelling.authority ∧
      hostAndPort address.spelling.authority = (address.host, address.port.getD []) ∨
    ∃ name, address.host = '[' :: (name ++ [']']) ∧
      hostAndPort address.spelling.authority = (name, address.port.getD []) := by
  have digits {c : Char} (member : c ∈ marked ':' address.port) : c = ':' ∨ c.isDigit = true := by
    obtain ⟨text, given, same | digit⟩ := mem_marked.mp member
    · exact .inl same
    · exact .inr (cut.port text given c digit)
  obtain ⟨scheme, host, port, path, query, fragment⟩ := address
  change '@' ∉ host ++ marked ':' port at noUser
  have piece : IsHostPiece host := cut.host
  cases piece with
  | bare free opening =>
      have bare : '[' ∉ host ++ marked ':' port := by
        intro member
        rcases List.mem_append.mp member with inHost | inPort
        · exact opening inHost
        · rcases digits inPort with same | digit
          · exact absurd same (by decide)
          · exact absurd digit (by decide)
      left
      refine ⟨bare, ?_⟩
      change hostAndPort (host ++ marked ':' port) = _
      rw [hostAndPort_bare noUser bare, Spelling.cutFirst_marked free]
  | @bracketed name closing =>
      right
      refine ⟨name, rfl, ?_⟩
      change hostAndPort ('[' :: (name ++ [']']) ++ marked ':' port) = _
      unfold hostAndPort
      rw [Text.afterLast_of_notMem noUser]
      dsimp only
      rw [cutFirst_bracketed]
      dsimp only
      rw [Text.cutFirst_append _ closing]
      have ported := Spelling.cutFirst_marked (List.not_mem_nil (a := ':')) port
      rw [List.nil_append] at ported
      dsimp only [Option.getD_some]
      rw [ported]

theorem IsCut.site_eq {address : WebAddress} (cut : address.IsCut)
    (ascii : ∀ c ∈ address.text, Text.isAscii c = true) {site : Site}
    (reads : siteOf address.text = .ok site) : site = address.site := by
  obtain ⟨shown, parts, splits, ported, readFrom⟩ := siteOf_eq_ok_iff.mp reads
  rw [← spelling_text] at shown splits
  obtain rfl := Spelling.parts_of_split cut.sound shown splits
  have port := (Parts.port_eq_ok_iff.mp ported).2
  have named : ∀ c ∈ address.host, Text.isAscii c = true :=
    fun c member => ascii c (mem_text.mpr (by tauto))
  have both : site.port = portNumber? (address.port.getD []) ∧
      site.host = loweredName address.host := by
    rcases cut.hostAndPort_cases readFrom.noUser with ⟨bare, found⟩ | ⟨name, shape, found⟩
    · rcases readFrom.host_cases with ⟨_, host⟩ | ⟨opened, _⟩
      · rw [Parts.host_eq, Spelling.parts, found, smallHost_ascii named] at host
        rw [Spelling.parts, found] at port
        exact ⟨port, host⟩
      · exact absurd opened bare
    · have opened : '[' ∈ address.spelling.parts.authority := by
        refine List.mem_append_left _ ?_
        rw [shape]
        exact List.mem_cons_self
      have inside : ∀ c ∈ name, Text.isAscii c = true := by
        intro c member
        apply named
        rw [shape]
        exact List.mem_cons_of_mem _ (List.mem_append_left _ member)
      rcases readFrom.host_cases with ⟨bare, _⟩ | ⟨_, host⟩
      · exact absurd opened bare
      · rw [Parts.host_eq, Spelling.parts, found, smallHost_ascii inside] at host
        rw [Spelling.parts, found] at port
        rw [shape, loweredName_bracketed]
        exact ⟨port, host⟩
  have scheme := readFrom.scheme_eq
  have path := readFrom.path_eq
  obtain ⟨_, _, _, _⟩ := site
  obtain ⟨rfl, rfl⟩ := both
  subst scheme path
  rfl

theorem exists_pieces_of_isBracketed {authority : List Char}
    (brackets : isBracketed authority = true) :
    ∃ name port, authority = '[' :: (name ++ [']']) ++ marked ':' port ∧ ']' ∉ name ∧
      ∀ digits, port = some digits → ∀ c ∈ digits, c.isDigit = true := by
  unfold isBracketed at brackets
  split at brackets
  · rename_i rest
    rcases Text.cutFirst_cases ']' rest with ⟨cut, _⟩ | ⟨name, after, cut, closing, shape⟩
    · rw [cut] at brackets
      cases brackets
    · rw [cut] at brackets
      dsimp only at brackets
      rw [Bool.and_eq_true] at brackets
      have follows := brackets.2
      rw [shape]
      split at follows
      · exact ⟨name, none, by simp [marked], closing, nofun⟩
      · rename_i port
        refine ⟨name, some port, by simp [marked], closing, ?_⟩
        intro digits given
        obtain rfl := Option.some.inj given
        exact List.all_eq_true.mp follows
      · cases follows
  · cases brackets

theorem exists_isCut {text : List Char} {site : Site} (reads : siteOf text = .ok site) :
    ∃ address : WebAddress, address.IsCut ∧ address.text = text := by
  have shown := (siteOf_eq_ok_iff.mp reads).1
  obtain ⟨spelling, sound, rfl, ported, readFrom⟩ := exists_spelling_of_siteOf reads
  have digits := (Parts.port_eq_ok_iff.mp ported).1.decimal
  have pieces : ∃ host port, spelling.authority = host ++ marked ':' port ∧ IsHostPiece host ∧
      ∀ text, port = some text → ∀ c ∈ text, c.isDigit = true := by
    by_cases opened : '[' ∈ spelling.authority
    · obtain ⟨name, port, shape, closing, decimal⟩ :=
        exists_pieces_of_isBracketed (readFrom.brackets opened)
      exact ⟨_, port, shape, .bracketed closing, decimal⟩
    · rw [hostAndPort_bare readFrom.noUser opened] at digits
      cases cut : Text.cutFirst ':' spelling.authority with
      | mk host port =>
          obtain ⟨free, shape⟩ := Spelling.eq_marked_of_cutFirst cut
          change ∀ c ∈ (Text.cutFirst ':' spelling.authority).2.getD [], c.isDigit = true at digits
          rw [cut] at digits
          refine ⟨host, port, shape, .bare free ?_, ?_⟩
          · intro member
            apply opened
            rw [shape]
            exact List.mem_append_left _ member
          · rintro text rfl
            exact digits
  obtain ⟨host, port, shape, piece, decimal⟩ := pieces
  have same : (WebAddress.mk spelling.scheme host port spelling.path spelling.query
      spelling.fragment).spelling = spelling := by
    unfold WebAddress.spelling
    rw [← shape]
  refine ⟨⟨spelling.scheme, host, port, spelling.path, spelling.query, spelling.fragment⟩,
    ⟨?_, ?_, piece, decimal⟩, ?_⟩
  · rw [← spelling_text, same]
    exact fun c member => (isShown_iff.mp (shown c member)).1
  · rw [same]
    exact sound
  · rw [← spelling_text, same]

theorem sitePath_respelled (path : List Char) (slashes : Nat) :
    sitePath (path ++ List.replicate slashes '/') = sitePath path := by
  unfold sitePath
  rw [trimSlashes_append]

/-- Addresses that are spelled in another way are the same site exactly if their hosts agree in the
letters that are kept. -/
theorem Respells.site_text_eq_iff {address other : WebAddress} (respells : address.Respells other)
    (ascii : ∀ c ∈ address.host, Text.isAscii c = true)
    (asciiToo : ∀ c ∈ other.host, Text.isAscii c = true) :
    address.site.text = other.site.text ↔ keptName address.host = keptName other.host := by
  have path : sitePath address.path = sitePath other.path := by
    obtain ⟨path, slashes, others, first, second⟩ := respells.path
    rw [first, second, sitePath_respelled, sitePath_respelled]
  rw [← loweredName_eq_iff ascii asciiToo respells.host]
  unfold Site.text site
  dsimp only
  rw [respells.scheme, respells.port.portNumber?_eq, path, List.append_cancel_left_eq]
  simp only [List.cons.injEq, true_and, List.append_cancel_right_eq]

theorem isCut_of_bare {address : WebAddress}
    (solid : address.text.all (fun c => !Text.isBlank c) = true)
    (scheme : address.scheme.map Char.toLower ∈ servedSchemes)
    (authority : address.spelling.authority.all (fun c => !endsAuthority c) = true)
    (slash : address.path = [] ∨ address.path.head? = some '/')
    (path : '?' ∉ address.path ∧ '#' ∉ address.path) (query : '#' ∉ address.query.getD [])
    (bare : ':' ∉ address.host ∧ '[' ∉ address.host)
    (digits : (address.port.getD []).all Char.isDigit = true) : address.IsCut := by
  rw [List.all_eq_true] at solid authority digits
  refine ⟨?_, ⟨scheme, ?_, slash, path, ?_⟩, .bare bare.1 bare.2, ?_⟩
  · exact fun c member => (Bool.not_eq_true' _).mp (solid c member)
  · exact fun c member => (Bool.not_eq_true' _).mp (authority c member)
  · intro text given
    change address.query = some text at given
    rwa [given] at query
  · intro text given
    rwa [given] at digits

def ornate : WebAddress :=
  ⟨"HTTPS".toList, "Git.Example".toList, some "0443".toList, "/r//".toList, some ['q'], some ['f']⟩

def neat (host : String) (port : Option (List Char)) (path : String) : WebAddress :=
  ⟨"https".toList, host.toList, port, path.toList, none, none⟩

theorem neat_standsIn (host : String) (port : Option (List Char)) (path : String) :
    (neat host port path).StandsIn (neat host port path).text :=
  ⟨[], [], by rw [List.nil_append, List.append_nil], nofun, nofun⟩

end WebAddress

end Address

namespace Endpoint

open Address

section Respelling

variable {typed : String} (ascii : ∀ c ∈ typed.toList, c.toNat < 128) {endpoint : Endpoint}
  (resolves : resolve (some typed) = .ok endpoint)
include resolves

theorem exists_isCut : ∃ address : WebAddress, address.IsCut ∧ address.StandsIn typed.toList := by
  obtain ⟨site, reads, -⟩ := resolve_eq_ok_iff.mp resolves
  obtain ⟨address, cut, text⟩ := WebAddress.exists_isCut reads
  obtain ⟨before, after, shape, blanks⟩ := Text.exists_blanks typed.toList
  refine ⟨address, cut, before, after, ?_, blanks⟩
  rw [text]
  exact shape

include ascii

theorem bases_of_isCut {address : WebAddress} (cut : address.IsCut)
    (stands : address.StandsIn typed.toList) :
    endpoint.webUri = String.ofList address.site.text ∧
      endpoint.apiUri = String.ofList (address.site.text ++ accessMark) ∧
      ∀ c ∈ address.host, Text.isAscii c = true := by
  obtain ⟨before, after, shape, front, ending⟩ := stands
  have letters : ∀ c ∈ address.text, Text.isAscii c = true := by
    intro c member
    refine decide_eq_true (ascii c ?_)
    rw [shape]
    exact List.mem_append_left _ (List.mem_append_right _ member)
  obtain ⟨site, reads, rfl⟩ := resolve_eq_ok_iff.mp resolves
  rw [Option.getD_some, shape, Text.trim_append front cut.solid ending] at reads
  obtain rfl := cut.site_eq letters reads
  exact ⟨rfl, rfl, fun c member => letters c (WebAddress.mem_text.mpr (by tauto))⟩

end Respelling

/-- Every address that resolves is cut into pieces. Two that are spelled in another way than each other
resolve to the same bases exactly if their hosts agree in the letters that are kept. -/
theorem resolve_respelled {typed other : String} {one two : Endpoint}
    (ascii : ∀ c ∈ typed.toList, c.toNat < 128) (asciiToo : ∀ c ∈ other.toList, c.toNat < 128)
    (resolves : resolve (some typed) = .ok one) (resolvesToo : resolve (some other) = .ok two) :
    (∃ address : WebAddress, address.IsCut ∧ address.StandsIn typed.toList) ∧
    ∀ first second : WebAddress, first.IsCut → first.StandsIn typed.toList →
      second.IsCut → second.StandsIn other.toList → first.Respells second →
      (one.webUri = two.webUri ↔ keptName first.host = keptName second.host) ∧
      (one.apiUri = two.apiUri ↔ keptName first.host = keptName second.host) := by
  refine ⟨exists_isCut resolves, ?_⟩
  intro first second cut stands cutToo standsToo respells
  obtain ⟨web, api, named⟩ := bases_of_isCut ascii resolves cut stands
  obtain ⟨webToo, apiToo, namedToo⟩ := bases_of_isCut asciiToo resolvesToo cutToo standsToo
  have same := respells.site_text_eq_iff named namedToo
  rw [web, webToo, api, apiToo, String.ofList_inj, String.ofList_inj, List.append_cancel_right_eq]
  exact ⟨same, same⟩

theorem codes_of_all {text : String} (ascii : text.toList.all Text.isAscii = true) :
    ∀ c ∈ text.toList, c.toNat < 128 :=
  fun c member => of_decide_eq_true (List.all_eq_true.mp ascii c member)

/-- The ornate address beside a neat one. -/
theorem resolve_respelled_ornate :
    WebAddress.ornate.Respells (.neat "git.example" (some "443".toList) "/r") ∧
    ∃ one two : Endpoint, resolve (some " HTTPS://Git.Example:0443/r//?q#f ") = .ok one ∧
      resolve (some "https://git.example:443/r") = .ok two ∧
      one.webUri = two.webUri ∧ one.apiUri = two.apiUri := by
  have respells : WebAddress.ornate.Respells (.neat "git.example" (some "443".toList) "/r") :=
    ⟨by decide, by decide, .zeros "443".toList 1 0 (by decide), "/r".toList, 2, 0, by decide,
      by decide⟩
  have resolves : resolve (some " HTTPS://Git.Example:0443/r//?q#f ") = .ok
      ⟨"HTTPS://Git.Example:0443/r//?q#f", "https://git.example:443/r",
        "https://git.example:443/r/a"⟩ := by decide +kernel
  have resolvesToo : resolve (some "https://git.example:443/r") = .ok
      ⟨"https://git.example:443/r", "https://git.example:443/r",
        "https://git.example:443/r/a"⟩ := by decide +kernel
  have cut : WebAddress.ornate.IsCut := by
    apply WebAddress.isCut_of_bare <;> decide +kernel
  have cutToo : (WebAddress.neat "git.example" (some "443".toList) "/r").IsCut := by
    apply WebAddress.isCut_of_bare <;> decide +kernel
  have blank : ∀ c ∈ [' '], Text.isBlank c = true := List.forall_mem_singleton.mpr (by decide)
  obtain ⟨_, alike⟩ := resolve_respelled (codes_of_all (by decide +kernel))
    (codes_of_all (by decide +kernel)) resolves resolvesToo
  obtain ⟨web, api⟩ := alike .ornate (.neat "git.example" (some "443".toList) "/r") cut
    ⟨[' '], [' '], by decide +kernel, blank, blank⟩ cutToo
    (WebAddress.neat_standsIn "git.example" (some "443".toList) "/r") respells
  exact ⟨respells, _, _, resolves, resolvesToo, web.mpr (by decide), api.mpr (by decide)⟩

/-- The letters after a percent sign stay as they are typed, so that the case of letters in a host makes
a difference there. -/
theorem escapes_not_lowered : ¬∀ (typed other : String) (one two : Endpoint),
    (∀ c ∈ typed.toList, c.toNat < 128) → (∀ c ∈ other.toList, c.toNat < 128) →
    resolve (some typed) = .ok one → resolve (some other) = .ok two →
    ∀ first second : WebAddress, first.IsCut → first.StandsIn typed.toList →
      second.IsCut → second.StandsIn other.toList → first.Respells second → '[' ∉ first.host →
      one.webUri = two.webUri ∧ one.apiUri = two.apiUri := by
  intro same
  have resolves : resolve (some "https://h%2d.x") = .ok
      ⟨"https://h%2d.x", "https://h%2d.x", "https://h%2d.x/a"⟩ := by decide +kernel
  have resolvesToo : resolve (some "https://h%2d.X") = .ok
      ⟨"https://h%2d.X", "https://h%2d.X", "https://h%2d.X/a"⟩ := by decide +kernel
  have cut : (WebAddress.neat "h%2d.x" none "").IsCut := by
    apply WebAddress.isCut_of_bare <;> decide +kernel
  have cutToo : (WebAddress.neat "h%2d.X" none "").IsCut := by
    apply WebAddress.isCut_of_bare <;> decide +kernel
  have respells : (WebAddress.neat "h%2d.x" none "").Respells (.neat "h%2d.X" none "") :=
    ⟨by decide, by decide, .none, [], 0, 0, by decide, by decide⟩
  have web := (same _ _ _ _ (codes_of_all (by decide +kernel)) (codes_of_all (by decide +kernel))
    resolves resolvesToo _ _ cut (WebAddress.neat_standsIn "h%2d.x" none "") cutToo
    (WebAddress.neat_standsIn "h%2d.X" none "") respells (by decide)).1
  exact absurd web (by decide)

end Endpoint

end ProjectScan

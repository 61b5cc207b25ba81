import ProjectScan.Proofs.Lookup
import ProjectScan.Proofs.SiteText

/-!
Scopes and the addresses that requests go to. A scope is held against the address as it was typed,
while requests go to the listing under the site that was read of it. A scope that covers the one
covers the other, unless both end in a mark of authenticated access after more than one slash.
-/

namespace ProjectScan

namespace Scope

open Address

theorem coversPath_iff {scope target : List Char} :
    coversPath scope target = true ↔ target = scope ∨ scope ++ ['/'] <+: target := by
  unfold coversPath
  rw [Bool.or_eq_true, decide_eq_true_eq, List.isPrefixOf_iff_prefix]

theorem prefix_of_slashes {scope path : List Char} (solid : ¬['/'] <:+ scope) (slashes : Nat)
    (initial : scope ++ ['/'] <+: path ++ List.replicate (slashes + 1) '/') :
    scope ++ ['/'] <+: path ++ ['/'] := by
  induction slashes with
  | zero => exact initial
  | succ slashes ih =>
      rw [List.replicate_succ', ← List.append_assoc, List.prefix_concat_iff] at initial
      rcases initial with whole | shorter
      · have ends : scope = path ++ List.replicate (slashes + 1) '/' :=
          List.append_cancel_right whole
        exfalso
        apply solid
        rw [ends, List.replicate_succ', ← List.append_assoc]
        exact List.suffix_append _ _
      · exact ih shorter

def doubledMark : List Char := '/' :: accessMark

def listing : List Char := accessMark ++ "/projects/".toList

theorem trimSlashes_listing (path : List Char) :
    trimSlashes (path ++ listing) = path ++ accessMark ++ "/projects".toList := by
  have ends : path ++ listing = path ++ accessMark ++ "/projects".toList ++ ['/'] := by
    rw [List.append_assoc, List.append_assoc]
    rfl
  rw [ends, trimSlashes_concat]
  apply trimSlashes_eq_self
  rintro ⟨front, shape⟩
  have last := congrArg List.getLast? shape
  rw [List.getLast?_append, List.getLast?_append] at last
  cases last

theorem prefix_below {scope path : List Char} (covers : path = scope ∨ scope ++ ['/'] <+: path)
    (more : List Char) : scope ++ ['/'] <+: path ++ '/' :: more := by
  rcases covers with rfl | initial
  · exact (List.prefix_append_right_inj path).mpr (List.prefix_append ['/'] more)
  · exact initial.trans (List.prefix_append _ _)

theorem prefix_of_mark {scope path : List Char} (solid : ¬['/'] <:+ scope) (slashes : Nat)
    (initial : scope ++ ['/'] <+: path ++ List.replicate slashes '/' ++ accessMark) :
    scope ++ ['/'] <+: path ++ ['/'] := by
  have longer : path ++ List.replicate slashes '/' ++ accessMark =
      path ++ List.replicate (slashes + 1) '/' ++ ['a'] := by
    rw [List.replicate_succ', ← List.append_assoc, List.append_assoc _ ['/']]
    rfl
  rw [longer, List.prefix_concat_iff] at initial
  rcases initial with whole | shorter
  · have last := (List.append_inj' whole rfl).2
    exact absurd last (by decide)
  · exact prefix_of_slashes solid slashes shorter

theorem prefix_listing {scope path : List Char} (solid : ¬['/'] <:+ scope) (slashes : Nat)
    (initial : scope ++ ['/'] <+: path ++ List.replicate slashes '/' ++ accessMark) :
    scope ++ ['/'] <+: path ++ accessMark ++ "/projects".toList := by
  apply (prefix_of_mark solid slashes initial).trans
  rw [List.append_assoc, List.prefix_append_right_inj]
  exact List.prefix_append ['/'] _

theorem not_prefix_listing (path : List Char) (slashes : Nat) :
    ¬path ++ List.replicate (slashes + 1) '/' ++ accessMark <+:
      path ++ accessMark ++ "/projects".toList := by
  rw [List.append_assoc, List.append_assoc, List.prefix_append_right_inj]
  rintro ⟨more, whole⟩
  -- A second slash stands on the left where the letter of the mark stands on the right.
  cases slashes with
  | zero => exact absurd (List.cons.inj (List.cons.inj whole).2).1 (by decide)
  | succ slashes => exact absurd (List.cons.inj (List.cons.inj whole).2).1 (by decide)

/-- A scope that covers the path of an address covers the path of its listing, unless both paths end
in a mark after more than one slash. -/
theorem coversPath_listing {scope path : List Char} (solid : ¬['/'] <:+ scope)
    (covers : coversPath scope (trimSlashes path) = true) :
    coversPath scope (trimSlashes (sitePath path ++ listing)) = true ↔
      ¬(scope = trimSlashes path ∧ doubledMark <:+ scope) := by
  rw [trimSlashes_listing]
  rw [coversPath_iff] at covers ⊢
  -- Without a mark the listing lies under the path itself. With a mark it does so too, if no slash
  -- but the one of the mark was dropped; else it lies under what comes before these slashes.
  rcases sitePath_cases path with ⟨unmarked, same⟩ | ⟨slashes, ends, shape⟩
  · rw [same]
    apply iff_of_true
    · rw [List.append_assoc]
      exact .inr (prefix_below covers _)
    · rintro ⟨rfl, doubled⟩
      exact unmarked ((List.suffix_cons '/' accessMark).trans doubled)
  · cases slashes with
    | zero =>
        rw [List.replicate_zero, List.append_nil] at shape
        rw [shape] at covers ⊢
        apply iff_of_true
        · exact .inr (prefix_below covers _)
        · rintro ⟨rfl, doubled⟩
          exact ends (List.suffix_append_self_iff.mp doubled)
    | succ slashes =>
        rw [shape] at covers ⊢
        by_cases same : scope = sitePath path ++ List.replicate (slashes + 1) '/' ++ accessMark
        · apply iff_of_false
          · rw [same]
            rintro (whole | below)
            · exact not_prefix_listing (sitePath path) slashes (whole ▸ List.prefix_rfl)
            · exact not_prefix_listing (sitePath path) slashes
                ((List.prefix_append _ _).trans below)
          · intro apart
            apply apart
            refine ⟨same, ?_⟩
            rw [same, List.replicate_succ', ← List.append_assoc, List.append_assoc]
            exact List.suffix_append _ doubledMark
        · apply iff_of_true
          · exact .inr (prefix_listing solid _ (covers.resolve_left (Ne.symm same)))
          · exact fun both => same both.1

/-- The path of a text without slashes at its end, if the text can be read. -/
def path? (text : String) : Option (List Char) :=
  (read? text).map fun (parts, _) => trimSlashes parts.path

theorem exists_shared_iff {left right mark : List Char} :
    (∃ path, some left = some path ∧ some right = some path ∧ mark <:+ path) ↔
      left = right ∧ mark <:+ left := by
  constructor
  · rintro ⟨path, first, second, ends⟩
    cases first
    exact ⟨(Option.some.inj second).symm, ends⟩
  · rintro ⟨rfl, ends⟩
    exact ⟨left, rfl, rfl, ends⟩

/-- Scope and address have the same path, in which a mark follows more than one slash. -/
def EndsDoubled (scope address : String) : Prop :=
  ∃ path, path? scope = some path ∧ path? address = some path ∧ doubledMark <:+ path

theorem path?_empty : path? "" = some [] := by decide

theorem not_endsDoubled_empty (address : String) : ¬EndsDoubled "" address := by
  rintro ⟨path, empty, _, mark⟩
  rw [path?_empty] at empty
  cases empty
  exact absurd mark (by decide)

theorem isPath_listing : IsPath listing where
  slash := .inr rfl
  inside := by
    have plain : (listing.all fun c => c != '?' && (c != '#' && !isDropped c)) = true := by
      decide
    intro c member
    have kept := List.all_eq_true.mp plain c member
    simpa only [Bool.and_eq_true, bne_iff_ne, Bool.not_eq_true'] using kept

theorem read?_below {url : Option String} {endpoint : Endpoint}
    (resolves : Endpoint.resolve url = .ok endpoint) {more : List Char} (isPath : IsPath more) :
    ∃ parts target port, read? (Text.trimmed (url.getD "")) = some (parts, port) ∧
      read? (endpoint.webUri ++ String.ofList more) = some (target, port) ∧
      target.scheme = parts.scheme ∧ target.host = parts.host ∧
      target.path = sitePath parts.path ++ more ∧ endpoint.apiUri = endpoint.webUri ++ "/a" := by
  unfold Endpoint.resolve at resolves
  dsimp only at resolves
  cases known : siteOf (Text.trim (url.getD "").toList) with
  | error fault =>
      rw [known] at resolves
      cases resolves
  | ok site =>
      rw [known] at resolves
      cases resolves
      obtain ⟨parts, splits, ported, readFrom⟩ := exists_parts_of_siteOf known
      have written := readFrom.written splits ported
      let target : Parts := ⟨site.scheme, site.authority, site.path ++ more, [], []⟩
      have address : (Text.trimmed (url.getD "")).toList = Text.trim (url.getD "").toList :=
        String.toList_ofList
      have below : (String.ofList site.text ++ String.ofList more).toList = site.text ++ more := by
        rw [String.toList_append, String.toList_ofList, String.toList_ofList]
      refine ⟨parts, target, site.port, ?_, ?_, readFrom.scheme_eq, ?_, ?_, ?_⟩
      · unfold read?
        rw [address, splits]
        dsimp only
        rw [ported]
      · have portSame : target.port = .ok site.port := written.port_eq rfl
        unfold read?
        dsimp only [Endpoint.ofSite]
        rw [below, written.split_append isPath]
        dsimp only
        rw [portSame]
      · exact written.host_eq rfl
      · change site.path ++ more = _
        rw [readFrom.path_eq]
      · exact String.ofList_append

theorem read?_listing {url : Option String} {endpoint : Endpoint}
    (resolves : Endpoint.resolve url = .ok endpoint) :
    ∃ parts target port, read? (Text.trimmed (url.getD "")) = some (parts, port) ∧
      read? (endpoint.apiUri ++ "/projects/") = some (target, port) ∧
      target.scheme = parts.scheme ∧ target.host = parts.host ∧
      target.path = sitePath parts.path ++ listing := by
  obtain ⟨parts, target, port, typed, below, scheme, host, path, access⟩ :=
    read?_below resolves isPath_listing
  have listed : endpoint.apiUri ++ "/projects/" = endpoint.webUri ++ String.ofList listing := by
    rw [access, String.append_assoc]
    rfl
  rw [← listed] at below
  exact ⟨parts, target, port, typed, below, scheme, host, path⟩

/-- A scope that covers the address of a server as it was typed covers the listing that requests
with a credential go to, unless scope and address both end in a mark after more than one slash. -/
theorem covers_listing {url : Option String} {endpoint : Endpoint}
    (resolves : Endpoint.resolve url = .ok endpoint) {scope : String}
    (covered : covers scope (Text.trimmed (url.getD "")) = true) :
    covers scope (endpoint.apiUri ++ "/projects/") = true ↔
      ¬EndsDoubled scope (Text.trimmed (url.getD "")) := by
  obtain ⟨parts, target, port, typed, listed, scheme, host, path⟩ := read?_listing resolves
  unfold covers at covered ⊢
  rw [typed] at covered
  rw [listed]
  cases known : read? scope with
  | none =>
      rw [known] at covered
      cases covered
  | some found =>
      obtain ⟨left, leftPort⟩ := found
      have doubled : EndsDoubled scope (Text.trimmed (url.getD "")) ↔
          trimSlashes left.path = trimSlashes parts.path ∧ doubledMark <:+ trimSlashes left.path := by
        unfold EndsDoubled path?
        rw [known, typed]
        exact exists_shared_iff
      rw [known] at covered
      dsimp only at covered ⊢
      unfold coversParts at covered ⊢
      rw [scheme, host, path, doubled]
      rw [Bool.and_eq_true] at covered
      obtain ⟨others, within⟩ := covered
      rw [others, Bool.true_and]
      exact coversPath_listing (slash_not_suffix left.path) within

end Scope

namespace Store

/-- The credential that is looked up for an address belongs to the first entry that fits. This entry
also applies to the listing that the credential is sent to, unless its scope and the address both
end in a mark after more than one slash. -/
theorem found_applies {url : Option String} {endpoint : Endpoint}
    (resolves : Endpoint.resolve url = .ok endpoint) {store : Store} {id : String}
    {credential : Credential}
    (found : store.find? (Text.trimmed (url.getD "")) id = .ok (some credential)) :
    ∃ entry, store.selected? (Text.trimmed (url.getD "")) id = some entry ∧
      entry.credential = credential ∧
      (entry.appliesTo (endpoint.apiUri ++ "/projects/") = .ok true ↔
        ¬∃ scope, entry.scope = some (.text scope) ∧
          Scope.EndsDoubled scope (Text.trimmed (url.getD ""))) := by
  have owner := eq_selected?_of_find? found
  obtain ⟨entry, known, same⟩ := Option.map_eq_some_iff.mp owner.symm
  obtain ⟨_, _, applies⟩ := fits_of_selected? known
  refine ⟨entry, known, same, ?_⟩
  unfold StoredCredential.appliesTo at applies ⊢
  cases given : entry.scope with
  | none => exact iff_of_true rfl nofun
  | some scope =>
      rw [given] at applies
      dsimp only at applies ⊢
      by_cases blank : (!scope.isTrue) = true
      · rw [if_pos blank]
        apply iff_of_true rfl
        rintro ⟨text, written, doubled⟩
        cases written
        have empty : text = "" := by simpa [Json.isTrue] using blank
        rw [empty] at doubled
        exact Scope.not_endsDoubled_empty _ doubled
      · rw [if_neg blank] at applies ⊢
        cases scope with
        | text scope =>
            dsimp only at applies ⊢
            rw [Except.ok.injEq, Scope.covers_listing resolves (Except.ok.inj applies)]
            apply not_congr
            constructor
            · exact fun doubled => ⟨scope, rfl, doubled⟩
            · rintro ⟨text, written, doubled⟩
              cases written
              exact doubled
        | _ => cases applies

def forScope (scope : String) : Store :=
  ⟨[⟨.text "ci", .ofTexts "bot" "secret", some (.text scope)⟩]⟩

section ForScope

variable {scope : String} (given : scope ≠ "") (serverUrl : String)
include given

theorem appliesTo_forScope : ∀ entry ∈ (forScope scope).entries,
    entry.appliesTo serverUrl = .ok (Scope.covers scope serverUrl) := by
  intro entry member
  have truth : (Json.text scope).isTrue = true := decide_eq_true given
  rw [List.mem_singleton.mp member]
  unfold StoredCredential.appliesTo
  dsimp only
  rw [truth]
  rfl

theorem find?_forScope (covered : Scope.covers scope serverUrl = true) :
    (forScope scope).find? serverUrl "ci" = .ok (some (.ofTexts "bot" "secret")) := by
  have applies := appliesTo_forScope given serverUrl _ List.mem_cons_self
  rw [covered] at applies
  have named : (Json.text "ci").same (.text "ci") = true := by decide
  unfold find? forScope findIn?
  rw [if_pos named, applies]

end ForScope

theorem found_applies_gerrit :
    Endpoint.resolve (some " HTTPS://H:0443/gerrit/a/ ") =
        .ok ⟨"HTTPS://H:0443/gerrit/a/", "https://h:443/gerrit", "https://h:443/gerrit/a"⟩ ∧
      (forScope "https://h/gerrit").find? "HTTPS://H:0443/gerrit/a/" "ci" =
        .ok (some (.ofTexts "bot" "secret")) ∧
      ∃ entry, (forScope "https://h/gerrit").selected? "HTTPS://H:0443/gerrit/a/" "ci" = some entry ∧
        entry.appliesTo "https://h:443/gerrit/a/projects/" = .ok true := by
  have resolves : Endpoint.resolve (some " HTTPS://H:0443/gerrit/a/ ") =
      .ok ⟨"HTTPS://H:0443/gerrit/a/", "https://h:443/gerrit", "https://h:443/gerrit/a"⟩ := by
    decide +kernel
  have typed : Text.trimmed ((some " HTTPS://H:0443/gerrit/a/ ").getD "") =
      "HTTPS://H:0443/gerrit/a/" := by decide +kernel
  have covered : Scope.covers "https://h/gerrit" "HTTPS://H:0443/gerrit/a/" = true := by
    decide +kernel
  have found := find?_forScope (by decide) _ covered
  rw [← typed] at found
  obtain ⟨entry, known, _, applies⟩ := found_applies resolves found
  have path : Scope.path? "https://h/gerrit" = some "/gerrit".toList := by decide +kernel
  rw [typed] at found known
  refine ⟨resolves, found, entry, known, applies.mpr ?_⟩
  rw [List.mem_singleton.mp (fits_of_selected? known).1]
  rintro ⟨scope, written, ending, own, _, mark⟩
  cases written
  rw [path] at own
  cases own
  exact absurd mark (by decide)

/-- The credential for the scope is found for the address, but the scope does not cover the listing
that the credential is sent to. -/
def Strays (scope address : String) : Prop :=
  ∃ endpoint, Endpoint.resolve (some address) = .ok endpoint ∧
    (forScope scope).find? address "ci" = .ok (some (.ofTexts "bot" "secret")) ∧
    ∀ entry ∈ (forScope scope).entries,
      entry.appliesTo (endpoint.apiUri ++ "/projects/") = .ok false

theorem strays_of_covers {scope address : String} {endpoint : Endpoint} (given : scope ≠ "")
    (resolves : Endpoint.resolve (some address) = .ok endpoint)
    (inside : Scope.covers scope address = true)
    (outside : Scope.covers scope (endpoint.apiUri ++ "/projects/") = false) :
    Strays scope address := by
  refine ⟨endpoint, resolves, find?_forScope given address inside, ?_⟩
  rw [← outside]
  exact appliesTo_forScope given _

/-- Credentials are sent beyond their scopes: with two slashes before the mark of an address, and with
a blank after the address when it is not dropped before the look-up. -/
theorem found_leaves_scope :
    Strays "https://h/gerrit//a" "https://h/gerrit//a" ∧ Strays "https://h/x " "https://h/x " := by
  have doubled : Endpoint.resolve (some "https://h/gerrit//a") =
      .ok ⟨"https://h/gerrit//a", "https://h/gerrit", "https://h/gerrit/a"⟩ := by decide +kernel
  have blank : Endpoint.resolve (some "https://h/x ") =
      .ok ⟨"https://h/x", "https://h/x", "https://h/x/a"⟩ := by decide +kernel
  constructor
  · exact strays_of_covers (by decide) doubled (by decide +kernel) (by decide +kernel)
  · exact strays_of_covers (by decide) blank (by decide +kernel) (by decide +kernel)

end Store

end ProjectScan

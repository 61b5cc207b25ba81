import ProjectScan.Proofs.Scope

/-!
Addresses of one server. The mark of authenticated access at the end of an address is no part of the
site that is read of it, but scopes are held against the address as it was typed. A scope therefore
covers the addresses of one server alike, unless it ends in the mark itself and has the path of one
of them.
-/

namespace ProjectScan

namespace Scope

open Address

theorem coversPath_marked {scope site : List Char} (solid : ¬['/'] <:+ scope) (slashes : Nat) :
    coversPath scope (site ++ List.replicate slashes '/' ++ accessMark) = true ↔
      coversPath scope site = true ∨ scope = site ++ List.replicate slashes '/' ++ accessMark := by
  rw [coversPath_iff, coversPath_iff]
  constructor
  · rintro (same | initial)
    · exact .inr same.symm
    · left
      rcases List.prefix_concat_iff.mp (prefix_of_mark solid slashes initial) with whole | shorter
      · exact .inl (List.append_cancel_right whole).symm
      · exact .inr shorter
  · rintro (within | same)
    · right
      cases slashes with
      | zero =>
          rw [List.replicate_zero, List.append_nil]
          exact prefix_below within ['a']
      | succ slashes =>
          rw [List.replicate_succ, List.append_assoc]
          exact prefix_below within (List.replicate slashes '/' ++ accessMark)
    · exact .inl same.symm

theorem not_coversPath_of_longer {scope path : List Char} (longer : path.length < scope.length) :
    ¬coversPath scope path = true := by
  rw [coversPath_iff]
  rintro (rfl | initial)
  · omega
  · have short := initial.length_le
    rw [List.length_append] at short
    omega

/-- A scope covers the path of an address if it covers the path of the site, or, but not both, if it
has the same path and this path ends in a mark. -/
theorem coversPath_typed {scope : List Char} (solid : ¬['/'] <:+ scope) (path : List Char) :
    (coversPath scope (trimSlashes path) = true ↔ coversPath scope (sitePath path) = true ∨
      scope = trimSlashes path ∧ accessMark <:+ scope) ∧
    ¬(coversPath scope (sitePath path) = true ∧
      scope = trimSlashes path ∧ accessMark <:+ scope) := by
  rcases sitePath_cases path with ⟨unmarked, same⟩ | ⟨slashes, _, shape⟩
  · have apart : ¬(scope = trimSlashes path ∧ accessMark <:+ scope) := by
      rintro ⟨rfl, mark⟩
      exact unmarked mark
    rw [same]
    exact ⟨(or_iff_left apart).symm, fun both => apart both.2⟩
  · rw [shape]
    constructor
    · rw [coversPath_marked solid]
      apply or_congr_right
      constructor
      · rintro rfl
        exact ⟨rfl, List.suffix_append _ _⟩
      · exact And.left
    · rintro ⟨within, rfl, _⟩
      refine not_coversPath_of_longer ?_ within
      simp [accessMark]

theorem trimSlashes_sitePath (path : List Char) : trimSlashes (sitePath path) = sitePath path :=
  trimSlashes_eq_self (slash_not_suffix_sitePath path)

/-- The scope covers the address, and both have the same path, which ends in the mark of
authenticated access. -/
def CoversMark (scope address : String) : Prop :=
  covers scope address = true ∧
    ∃ path, path? scope = some path ∧ path? address = some path ∧ accessMark <:+ path

/-- A scope covers an address as it was typed if it covers the site, or, but not both, if it covers
the address by its mark. -/
theorem covers_typed {url : Option String} {endpoint : Endpoint}
    (resolves : Endpoint.resolve url = .ok endpoint) (scope : String) :
    let typed := Text.trimmed (url.getD "")
    (covers scope typed = true ↔ covers scope endpoint.webUri = true ∨ CoversMark scope typed) ∧
      ¬(covers scope endpoint.webUri = true ∧ CoversMark scope typed) := by
  intro typed
  have nothing : IsPath [] := ⟨.inl rfl, nofun⟩
  obtain ⟨parts, target, port, readTyped, readSite, scheme, host, path, _⟩ :=
    read?_below resolves nothing
  change read? typed = _ at readTyped
  rw [List.append_nil] at path
  rw [String.ofList_nil, String.append_empty] at readSite
  unfold CoversMark path?
  unfold covers
  rw [readTyped, readSite]
  cases known : read? scope with
  | none => simp
  | some found =>
      obtain ⟨left, leftPort⟩ := found
      obtain ⟨either, notBoth⟩ := coversPath_typed (slash_not_suffix left.path) parts.path
      dsimp only [Option.map_some]
      unfold coversParts
      rw [scheme, host, path, trimSlashes_sitePath]
      generalize (decide (left.scheme = parts.scheme) && decide (left.host = parts.host) &&
        (leftPort.isNone || decide (leftPort = port))) = others
      cases others with
      | false => simp
      | true =>
          simp only [Bool.true_and, exists_shared_iff]
          refine ⟨⟨?_, ?_⟩, fun both => notBoth ⟨both.1, both.2.2⟩⟩
          · exact fun covered => (either.mp covered).imp_right fun shared => ⟨covered, shared⟩
          · rintro (within | ⟨covered, _⟩)
            · exact either.mpr (.inl within)
            · exact covered

theorem not_coversMark_empty (address : String) : ¬CoversMark "" address := by
  rintro ⟨_, path, empty, _, mark⟩
  rw [path?_empty] at empty
  cases empty
  exact absurd mark (by decide)

section OneServer

variable {first second : Option String} {one two : Endpoint}
  (resolvesFirst : Endpoint.resolve first = .ok one)
  (resolvesSecond : Endpoint.resolve second = .ok two) (same : one.webUri = two.webUri)
include resolvesFirst resolvesSecond same

theorem covers_eq_iff (scope : String) :
    covers scope (Text.trimmed (first.getD "")) = covers scope (Text.trimmed (second.getD "")) ↔
      (CoversMark scope (Text.trimmed (first.getD "")) ↔
        CoversMark scope (Text.trimmed (second.getD ""))) := by
  obtain ⟨left, notLeft⟩ := covers_typed resolvesFirst scope
  obtain ⟨right, notRight⟩ := covers_typed resolvesSecond scope
  rw [same] at left notLeft
  rw [Bool.eq_iff_iff, left, right]
  by_cases within : covers scope two.webUri = true
  · exact iff_of_true (iff_of_true (.inl within) (.inl within)) <|
      iff_of_false (fun mark => notLeft ⟨within, mark⟩) fun mark => notRight ⟨within, mark⟩
  · simp [within]

end OneServer

end Scope

/-- The scope of the entry covers only one of the two addresses by its mark. -/
def StoredCredential.TellsApart (entry : StoredCredential) (left right : String) : Prop :=
  ∃ scope, entry.scope = some (.text scope) ∧
    ¬(Scope.CoversMark scope left ↔ Scope.CoversMark scope right)

section OneServer

variable {first second : Option String} {one two : Endpoint}

theorem StoredCredential.appliesTo_eq_iff (resolvesFirst : Endpoint.resolve first = .ok one)
    (resolvesSecond : Endpoint.resolve second = .ok two) (same : one.webUri = two.webUri)
    (entry : StoredCredential) :
    entry.appliesTo (Text.trimmed (first.getD "")) =
        entry.appliesTo (Text.trimmed (second.getD "")) ↔
      ¬entry.TellsApart (Text.trimmed (first.getD "")) (Text.trimmed (second.getD "")) := by
  unfold appliesTo TellsApart
  cases entry.scope with
  | none => simp
  | some scope =>
      dsimp only
      by_cases blank : (!scope.isTrue) = true
      · rw [if_pos blank, if_pos blank]
        apply iff_of_true rfl
        rintro ⟨text, written, differs⟩
        cases written
        have empty : text = "" := by simpa [Json.isTrue] using blank
        rw [empty] at differs
        exact differs (iff_of_false (Scope.not_coversMark_empty _) (Scope.not_coversMark_empty _))
      · rw [if_neg blank, if_neg blank]
        cases scope with
        | text scope =>
            dsimp only
            rw [Except.ok.injEq, Scope.covers_eq_iff resolvesFirst resolvesSecond same]
            simp
        | _ => simp

namespace Store

theorem findIn?_congr {left right id : String} {entries : List StoredCredential}
    (alike : ∀ entry ∈ entries, entry.id.same (.text id) = true →
      entry.appliesTo left = entry.appliesTo right) :
    findIn? left id entries = findIn? right id entries := by
  induction entries with
  | nil => rfl
  | cons entry rest ih =>
      have later := ih fun other member => alike other (List.mem_cons_of_mem entry member)
      unfold findIn?
      by_cases named : entry.id.same (.text id) = true
      · rw [if_pos named, if_pos named, alike entry List.mem_cons_self named, later]
      · rw [if_neg named, if_neg named, later]

/-- Two addresses of one server are told apart by an entry exactly if its scope covers one of them,
and only one, by the mark at the end of its path. If no entry with the wanted id tells them apart, a
look-up comes to the same for both. -/
theorem lookup_of_webUri (resolvesFirst : Endpoint.resolve first = .ok one)
    (resolvesSecond : Endpoint.resolve second = .ok two) (same : one.webUri = two.webUri) :
    let left := Text.trimmed (first.getD "")
    let right := Text.trimmed (second.getD "")
    (∀ entry : StoredCredential,
      entry.appliesTo left = entry.appliesTo right ↔ ¬entry.TellsApart left right) ∧
    ∀ (store : Store) (wanted : Option String) (journal : Log.Journal),
      (∀ id, wanted = some id → ∀ entry ∈ store.entries, entry.id.same (.text id) = true →
        ¬entry.TellsApart left right) →
      (store.lookup left wanted journal).1 = (store.lookup right wanted journal).1 := by
  intro left right
  have applies := StoredCredential.appliesTo_eq_iff resolvesFirst resolvesSecond same
  refine ⟨applies, ?_⟩
  intro store wanted journal alike
  cases wanted with
  | none => rfl
  | some id =>
      have found : store.find? left id = store.find? right id :=
        findIn?_congr fun entry member named =>
          (applies entry).mpr (alike id rfl entry member named)
      unfold lookup
      dsimp only
      rw [found]
      cases store.find? right id with
      | error failure => rfl
      | ok credential => cases credential <;> rfl

end Store

end OneServer

namespace Store

theorem lookup_of_webUri_gerrit :
    Endpoint.resolve (some "https://h/gerrit/") =
        .ok ⟨"https://h/gerrit/", "https://h/gerrit", "https://h/gerrit/a"⟩ ∧
      Endpoint.resolve (some " HTTPS://H/gerrit/a ") =
        .ok ⟨"HTTPS://H/gerrit/a", "https://h/gerrit", "https://h/gerrit/a"⟩ ∧
      ((forScope "https://h/gerrit").lookup "https://h/gerrit/" (some "ci") (.empty 0)).1 =
        ((forScope "https://h/gerrit").lookup "HTTPS://H/gerrit/a" (some "ci") (.empty 0)).1 := by
  have plain : Endpoint.resolve (some "https://h/gerrit/") =
      .ok ⟨"https://h/gerrit/", "https://h/gerrit", "https://h/gerrit/a"⟩ := by decide
  have marked : Endpoint.resolve (some " HTTPS://H/gerrit/a ") =
      .ok ⟨"HTTPS://H/gerrit/a", "https://h/gerrit", "https://h/gerrit/a"⟩ := by decide
  have left : Text.trimmed ((some "https://h/gerrit/").getD "") = "https://h/gerrit/" := by
    decide
  have right : Text.trimmed ((some " HTTPS://H/gerrit/a ").getD "") = "HTTPS://H/gerrit/a" := by
    decide
  have alike := (lookup_of_webUri plain marked rfl).2 (forScope "https://h/gerrit") (some "ci")
    (.empty 0)
  rw [left, right] at alike
  refine ⟨plain, marked, alike ?_⟩
  rintro _ _ entry member _ ⟨scope, written, differs⟩
  rw [List.mem_singleton.mp member] at written
  cases written
  -- The scope ends in no mark, so it covers neither address by one.
  have path : Scope.path? "https://h/gerrit" = some "/gerrit".toList := by decide
  have unmarked (address : String) : ¬Scope.CoversMark "https://h/gerrit" address := by
    rintro ⟨_, ending, own, _, mark⟩
    rw [path] at own
    cases own
    exact absurd mark (by decide)
  exact differs (iff_of_false (unmarked _) (unmarked _))

/-- The two addresses are of one server, and the credential for the scope is found for the first of
them only. -/
def Splits (scope left right : String) : Prop :=
  ∃ one two : Endpoint, Endpoint.resolve (some left) = .ok one ∧
    Endpoint.resolve (some right) = .ok two ∧ one.webUri = two.webUri ∧
    (forScope scope).find? left "ci" = .ok (some (.ofTexts "bot" "secret")) ∧
    (forScope scope).find? right "ci" = .ok none

theorem splits_of_covers {scope left right : String} {one two : Endpoint} (given : scope ≠ "")
    (resolvesLeft : Endpoint.resolve (some left) = .ok one)
    (resolvesRight : Endpoint.resolve (some right) = .ok two) (same : one.webUri = two.webUri)
    (inside : Scope.covers scope left = true) (outside : Scope.covers scope right = false) :
    Splits scope left right := by
  refine ⟨one, two, resolvesLeft, resolvesRight, same, find?_forScope given left inside, ?_⟩
  have misses := appliesTo_forScope given right _ List.mem_cons_self
  have named : (Json.text "ci").same (.text "ci") = true := by decide
  rw [outside] at misses
  unfold find? forScope findIn?
  rw [if_pos named, misses]
  rfl

/-- A credential is found for one spelling of a server and not for another: when its scope ends in
the mark of authenticated access, and when a blank after the address is not dropped before the
look-up. -/
theorem scope_splits_server :
    Splits "https://h/gerrit/a" "https://h/gerrit/a" "https://h/gerrit" ∧
      Splits "https://h/x" "https://h/x" "https://h/x " := by
  have marked : Endpoint.resolve (some "https://h/gerrit/a") =
      .ok ⟨"https://h/gerrit/a", "https://h/gerrit", "https://h/gerrit/a"⟩ := by decide
  have plain : Endpoint.resolve (some "https://h/gerrit") =
      .ok ⟨"https://h/gerrit", "https://h/gerrit", "https://h/gerrit/a"⟩ := by decide
  have solid : Endpoint.resolve (some "https://h/x") =
      .ok ⟨"https://h/x", "https://h/x", "https://h/x/a"⟩ := by decide
  have blank : Endpoint.resolve (some "https://h/x ") =
      .ok ⟨"https://h/x", "https://h/x", "https://h/x/a"⟩ := by decide
  constructor
  · exact splits_of_covers (by decide) marked plain rfl (by decide) (by decide)
  · exact splits_of_covers (by decide) solid blank rfl (by decide) (by decide)

end Store

end ProjectScan

import ProjectScan.Proofs.AddressGrammar
import ProjectScan.Proofs.Scope

/-!
What a scope means. A scope covers the addresses of its server whose path continues its own, segment by
segment. This is an order without antisymmetry on the texts that can be read as addresses. A scope that
names no server covers no address of a server, unless a blank that splitting does not drop stands in
front of the address and hides its scheme and its host.
-/

namespace ProjectScan

namespace Scope

open Address

def segments (path : List Char) : List (List Char) := (trimSlashes path).splitOn '/'

theorem splitOn_injective (mark : Char) {left right : List Char}
    (same : left.splitOn mark = right.splitOn mark) : left = right := by
  have joined := congrArg [mark].intercalate same
  rwa [List.intercalate_splitOn, List.intercalate_splitOn] at joined

theorem intercalate_append (mark : Char) {front more : List (List Char)} (some : front ≠ [])
    (others : more ≠ []) :
    [mark].intercalate (front ++ more) =
      [mark].intercalate front ++ mark :: [mark].intercalate more := by
  induction front with
  | nil => exact absurd rfl some
  | cons piece rest ih =>
      cases rest with
      | nil => simp [List.intercalate_cons_of_ne_nil others]
      | cons next rest =>
          have later := ih (List.cons_ne_nil next rest)
          rw [List.cons_append, List.cons_append, List.intercalate_cons_cons, ← List.cons_append,
            later, List.intercalate_cons_cons]
          simp

theorem coversPath_iff_segments {scope target : List Char} :
    coversPath scope target = true ↔ scope.splitOn '/' <+: target.splitOn '/' := by
  rw [coversPath_iff]
  constructor
  · rintro (rfl | ⟨more, rfl⟩)
    · exact List.prefix_rfl
    · rw [List.append_assoc, List.singleton_append, List.splitOn_append_cons_self]
      exact List.prefix_append _ _
  · rintro ⟨more, whole⟩
    -- Without further segments the paths are equal; else the join has a slash between both parts.
    by_cases last : more = []
    · left
      rw [last, List.append_nil] at whole
      exact (splitOn_injective '/' whole).symm
    · right
      have joined := intercalate_append '/' (List.splitOn_ne_nil '/' scope) last
      rw [whole, List.intercalate_splitOn, List.intercalate_splitOn] at joined
      rw [joined]
      exact ⟨['/'].intercalate more, by simp⟩

structure Reads (text : String) (parts : Parts) (port : Option Nat) : Prop where
  splits : split text.toList = .ok parts
  ported : parts.port = .ok port

theorem read?_eq_some_iff {text : String} {parts : Parts} {port : Option Nat} :
    read? text = some (parts, port) ↔ Reads text parts port := by
  unfold read?
  constructor
  · intro found
    cases splits : split text.toList with
    | error fault => simp [splits] at found
    | ok known =>
        cases ported : known.port with
        | error fault => simp [splits, ported] at found
        | ok number =>
            simp only [splits, ported, Option.some.injEq, Prod.mk.injEq] at found
            obtain ⟨rfl, rfl⟩ := found
            exact ⟨splits, ported⟩
  · rintro ⟨splits, ported⟩
    simp [splits, ported]

/-- The same server, and a path that continues that of the scope. -/
structure Spans (scope target : Parts) (scopePort targetPort : Option Nat) : Prop where
  scheme : scope.scheme.map Char.toLower = target.scheme.map Char.toLower
  host : scope.host = target.host
  port : scopePort = none ∨ scopePort = targetPort
  path : segments scope.path <+: segments target.path

def Contains (scope target : String) : Prop :=
  ∃ left leftPort right rightPort, Reads scope left leftPort ∧ Reads target right rightPort ∧
    Spans left right leftPort rightPort

theorem toLower_toLower (c : Char) : c.toLower.toLower = c.toLower := by
  by_cases ascii : Text.isAscii c = true
  · exact forall_ascii (P := fun c => c.toLower.toLower = c.toLower) (by decide +kernel) ascii
  · have high : 0x80 ≤ c.toNat := by simpa [Text.isAscii] using ascii
    have same : c.toLower = c := by
      unfold Char.toLower
      rw [dif_neg]
      rintro ⟨_, last⟩
      have low : c.toNat ≤ 0x5A := UInt32.le_iff_toNat_le.mp last
      omega
    rw [same, same]

theorem scheme_toLower {text : List Char} {parts : Parts} (splits : split text = .ok parts) :
    parts.scheme.map Char.toLower = parts.scheme := by
  rw [Spelling.eq_of_split splits]
  dsimp only
  rcases Spelling.splitScheme_cases (cleaned text) with none | ⟨scheme, cut, _⟩
  · rw [none]
    rfl
  · rw [cut, List.map_map]
    congr 1
    funext c
    exact toLower_toLower c

theorem covers_iff {scope target : String} :
    covers scope target = true ↔ Contains scope target := by
  unfold covers Contains
  simp only [← read?_eq_some_iff]
  cases left : read? scope with
  | none => simp
  | some leftRead =>
      cases right : read? target with
      | none => simp
      | some rightRead =>
          obtain ⟨scope, scopePort⟩ := leftRead
          obtain ⟨target, targetPort⟩ := rightRead
          -- Schemes come out of splitting in small letters, so the plain comparison ignores case.
          have lowScope := scheme_toLower (read?_eq_some_iff.mp left).splits
          have lowTarget := scheme_toLower (read?_eq_some_iff.mp right).splits
          dsimp only
          unfold coversParts
          simp only [Bool.and_eq_true, Bool.or_eq_true, decide_eq_true_eq, Option.isNone_iff_eq_none,
            coversPath_iff_segments]
          constructor
          · rintro ⟨⟨⟨scheme, host⟩, port⟩, path⟩
            refine ⟨_, _, _, _, rfl, rfl, ?_, host, port, path⟩
            rw [scheme]
          · rintro ⟨_, _, _, _, same, other, spans⟩
            cases same
            cases other
            obtain ⟨scheme, host, port, path⟩ := spans
            rw [lowScope, lowTarget] at scheme
            exact ⟨⟨⟨scheme, host⟩, port⟩, path⟩

theorem contains_refl {text : String} {parts : Parts} {port : Option Nat}
    (reads : Reads text parts port) : Contains text text :=
  ⟨parts, port, parts, port, reads, reads, rfl, rfl, .inr rfl, List.prefix_rfl⟩

theorem Spans.trans {first second third : Parts} {one two three : Option Nat}
    (left : Spans first second one two) (right : Spans second third two three) :
    Spans first third one three where
  scheme := left.scheme.trans right.scheme
  host := left.host.trans right.host
  port := by
    rcases left.port with none | rfl
    · exact .inl none
    · exact right.port
  path := left.path.trans right.path

theorem contains_trans {first second third : String} (left : Contains first second)
    (right : Contains second third) : Contains first third := by
  obtain ⟨parts, port, between, middle, readsFirst, readsSecond, spans⟩ := left
  obtain ⟨again, same, target, last, readsAgain, readsThird, spansOn⟩ := right
  have once := (read?_eq_some_iff.mpr readsSecond).symm.trans (read?_eq_some_iff.mpr readsAgain)
  cases once
  exact ⟨parts, port, target, last, readsFirst, readsThird, spans.trans spansOn⟩

theorem small_ne_nil {text : List Char} (some : text ≠ []) : Text.small text ≠ [] := by
  cases text with
  | nil => exact absurd rfl some
  | cons c rest =>
      unfold Text.small Text.smallFrom
      split
      · simp
      · split <;> simp

theorem smallHost_ne_nil {name : List Char} (some : name ≠ []) : smallHost name ≠ [] := by
  unfold smallHost
  rcases Text.cutFirst_cases '%' name with ⟨cut, _⟩ | ⟨before, zone, cut, _, _⟩
  · rw [cut]
    simpa using small_ne_nil some
  · simp [cut]

theorem cutFirst_prefix (mark : Char) (text more : List Char) :
    (Text.cutFirst mark text).1 <+: (Text.cutFirst mark (text ++ more)).1 := by
  induction text with
  | nil => exact List.nil_prefix
  | cons c rest ih =>
      rw [List.cons_append]
      unfold Text.cutFirst
      by_cases here : c = mark
      · simp [here]
      · simpa [here] using ih

theorem hostAndPort_prefix {authority more : List Char} (noUser : '@' ∉ authority)
    (blank : ∀ c ∈ more, Text.isBlank c = true) :
    (hostAndPort authority).1 <+: (hostAndPort (authority ++ more)).1 := by
  have apart {mark : Char} (solid : Text.isBlank mark = false) (free : mark ∉ authority) :
      mark ∉ authority ++ more := by
    intro member
    rcases List.mem_append.mp member with front | behind
    · exact free front
    · rw [blank mark behind] at solid
      cases solid
  unfold hostAndPort
  rw [Text.afterLast_of_notMem noUser, Text.afterLast_of_notMem (apart (by decide) noUser)]
  dsimp only
  rcases Text.cutFirst_cases '[' authority with ⟨cut, free⟩ | ⟨before, after, cut, free, shape⟩
  · rw [cut, Text.cutFirst_of_notMem (apart (by decide) free)]
    exact cutFirst_prefix ':' authority more
  · have longer : Text.cutFirst '[' (authority ++ more) = (before, some (after ++ more)) := by
      rw [shape, List.append_assoc, List.cons_append]
      exact Text.cutFirst_append _ free
    rw [cut, longer]
    exact cutFirst_prefix ']' after more

theorem cleaned_around {before text after : List Char}
    (front : ∀ c ∈ before, isControlOrSpace c = true) (shown : ∀ c ∈ text, isShown c = true)
    (some : text ≠ []) :
    cleaned (before ++ text ++ after) = text ++ after.filter fun c => !isDropped c := by
  have whole := cleaned_of_isShown shown
  unfold cleaned at whole ⊢
  rw [List.append_assoc, List.dropWhile_append_of_pos front]
  cases text with
  | nil => exact absurd rfl some
  | cons c rest =>
      have starts := not_isControlOrSpace (shown c List.mem_cons_self)
      rw [List.dropWhile_cons, starts, if_neg Bool.false_ne_true] at whole
      rw [List.cons_append, List.dropWhile_cons, starts, if_neg Bool.false_ne_true,
        ← List.cons_append, List.filter_append, whole]

theorem exists_authority {spelling : Spelling} (sound : spelling.IsSound) {more : List Char}
    (blank : ∀ c ∈ more, Text.isBlank c = true) :
    ∃ behind, (∀ c ∈ behind, Text.isBlank c = true) ∧
      (splitAuthority ('/' :: '/' :: (spelling.authority ++ (spelling.tail ++ more)))).1 =
        spelling.authority ++ behind := by
  cases tail : spelling.tail with
  | nil =>
      have inside : ∀ c ∈ spelling.authority ++ more, endsAuthority c = false := by
        intro c member
        rcases List.mem_append.mp member with front | behind
        · exact sound.authority c front
        · have known := blank c behind
          unfold endsAuthority
          simp only [Bool.or_eq_false_iff, decide_eq_false_iff_not]
          refine ⟨⟨?_, ?_⟩, ?_⟩ <;> rintro rfl <;> exact absurd known (by decide)
      have cut : splitAuthority ('/' :: '/' :: (spelling.authority ++ more ++ [])) = _ :=
        splitAuthority_append inside nofun
      rw [List.append_nil] at cut
      exact ⟨more, blank, by rw [List.nil_append, cut]⟩
  | cons c rest =>
      have head := Spelling.head_tail sound c (by rw [tail]; rfl)
      refine ⟨[], nofun, ?_⟩
      rw [splitAuthority_append sound.authority, List.append_nil]
      rintro _ ⟨⟩
      exact head

/-- What is dropped in front of an address and blanks behind it leave it a scheme and a host. -/
theorem names_server {text : List Char} {site : Site} (reads : siteOf text = .ok site)
    {before after : List Char} (front : ∀ c ∈ before, isControlOrSpace c = true)
    (ending : ∀ c ∈ after, Text.isBlank c = true) {parts : Parts}
    (splits : split (before ++ text ++ after) = .ok parts) :
    parts.scheme ≠ [] ∧ parts.host ≠ [] := by
  have shown := (siteOf_eq_ok_iff.mp reads).1
  obtain ⟨spelling, sound, rfl, _, readFrom⟩ := exists_spelling_of_siteOf reads
  have some : spelling.text ≠ [] := by simp [Spelling.text]
  have same := Spelling.eq_of_split splits
  rw [cleaned_around front shown some, Spelling.text, List.append_assoc, List.cons_append,
    splitScheme_of_letters sound.scheme, List.cons_append, List.cons_append,
    List.append_assoc] at same
  dsimp only at same
  have kept : ∀ c ∈ after.filter (fun c => !isDropped c), Text.isBlank c = true :=
    fun c member => ending c (List.mem_filter.mp member).1
  obtain ⟨behind, blank, authority⟩ := exists_authority sound kept
  rw [same]
  constructor
  · intro none
    dsimp only at none
    have served := sound.scheme
    rw [none] at served
    exact absurd served (by decide)
  · rw [Parts.host_eq]
    dsimp only
    rw [authority]
    apply smallHost_ne_nil
    intro empty
    -- An empty host could not have become longer, but the address without blanks names one.
    have shorter : (hostAndPort spelling.authority).1 <+: _ := hostAndPort_prefix readFrom.noUser blank
    rw [empty, List.prefix_nil] at shorter
    apply readFrom.named
    change smallHost (hostAndPort spelling.authority).1 = []
    rw [shorter]
    rfl

/-! ### Scopes without a server -/

/-- The scope can be read, but names no scheme or no host. -/
def LacksServer (scope : String) : Prop :=
  ∃ parts port, Reads scope parts port ∧ (parts.scheme = [] ∨ parts.host = [])

/-- Behind control characters and spaces the text begins with another blank. -/
def BeginsBlank (text : String) : Prop :=
  ∃ c, (text.toList.dropWhile isControlOrSpace).head? = some c ∧ Text.isBlank c = true

theorem not_isAscii_of_isBlank {c : Char} (blank : Text.isBlank c = true)
    (kept : isControlOrSpace c = false) : Text.isAscii c = false := by
  by_contra ascii
  have dropped := forall_ascii (P := fun c => Text.isBlank c = true → isControlOrSpace c = true)
    (by decide +kernel) (Bool.of_not_eq_false ascii) blank
  rw [kept] at dropped
  cases dropped

theorem isAlpha_eq_false {c : Char} (high : Text.isAscii c = false) : c.isAlpha = false := by
  have beyond : 0x80 ≤ c.toNat := by simpa [Text.isAscii] using high
  have above (last : UInt32) (low : last.toNat < 0x80) : ¬c.val ≤ last := by
    intro within
    have bound : c.toNat ≤ last.toNat := UInt32.le_iff_toNat_le.mp within
    omega
  unfold Char.isAlpha Char.isUpper Char.isLower
  rw [Bool.or_eq_false_iff, Bool.and_eq_false_iff]
  constructor
  · exact decide_eq_false fun upper => above 0x5A (by decide) upper.2
  · exact .inr (decide_eq_false (above 0x7A (by decide)))

theorem split_high {c : Char} {text rest : List Char} (high : Text.isAscii c = false)
    (clean : cleaned text = c :: rest) :
    ∃ path query fragment, split text = .ok ⟨[], [], path, query, fragment⟩ := by
  have apart {mark : Char} (low : Text.isAscii mark = true) : c ≠ mark := by
    rintro rfl
    rw [high] at low
    cases low
  have noScheme : splitScheme (c :: rest) = ([], c :: rest) := by
    unfold splitScheme Text.cutFirst
    rw [if_neg (apart (by decide))]
    cases Text.cutFirst ':' rest with
    | mk name after =>
        cases after with
        | none => rfl
        | some after => simp [isAsciiLetter, isAlpha_eq_false high]
  have noAuthority : splitAuthority (c :: rest) = ([], c :: rest) := by
    unfold splitAuthority
    split
    · rename_i shape
      exact absurd (List.cons.inj shape).1 (apart (by decide))
    · rfl
  unfold split
  rw [clean, noScheme]
  dsimp only
  rw [noAuthority]
  exact ⟨_, _, _, rfl⟩

theorem reads_of_beginsBlank {text : String} (begins : BeginsBlank text) :
    ∃ parts, Reads text parts none ∧ parts.scheme = [] := by
  obtain ⟨c, first, blank⟩ := begins
  have kept : isControlOrSpace c = false := by
    have stops := List.head?_dropWhile_not isControlOrSpace text.toList
    rw [first] at stops
    exact stops
  have high := not_isAscii_of_isBlank blank kept
  obtain ⟨rest, shape⟩ := List.head?_eq_some_iff.mp first
  have clean : ∃ rest, cleaned text.toList = c :: rest := by
    have stays : isDropped c = false := by
      by_contra dropped
      simp only [isDropped, Bool.not_eq_false, Bool.or_eq_true, decide_eq_true_eq] at dropped
      rcases dropped with (rfl | rfl) | rfl <;> exact absurd kept (by decide)
    refine ⟨rest.filter fun c => !isDropped c, ?_⟩
    rw [cleaned, shape, List.filter_cons, stays]
    rfl
  obtain ⟨rest, clean⟩ := clean
  obtain ⟨path, query, fragment, splits⟩ := split_high high clean
  exact ⟨_, ⟨splits, rfl⟩, rfl⟩

theorem beginsBlank_of_visible {text : String} {before after : List Char}
    (shape : text.toList = before ++ after) (front : ∀ c ∈ before, Text.isBlank c = true)
    (visible : ¬∀ c ∈ before, isControlOrSpace c = true) : BeginsBlank text := by
  rw [← List.dropWhile_eq_nil_iff] at visible
  cases known : before.dropWhile isControlOrSpace with
  | nil => exact absurd known visible
  | cons c rest =>
      have member : c ∈ before := (List.dropWhile_suffix _).subset (known ▸ List.mem_cons_self)
      refine ⟨c, ?_, front c member⟩
      rw [shape, List.dropWhile_append, known]
      rfl

/-- Of the addresses that resolve, scopes without a server cover exactly those that begin with a blank
that is not dropped. -/
theorem covered_by_lacking_iff {target : String} {endpoint : Endpoint}
    (resolves : Endpoint.resolve (some target) = .ok endpoint) :
    (∃ scope, scope ≠ "" ∧ LacksServer scope ∧ covers scope target = true) ↔ BeginsBlank target := by
  constructor
  · rintro ⟨scope, _, ⟨parts, port, reads, lacks⟩, covered⟩
    obtain ⟨left, _, right, _, readsScope, readsTarget, spans⟩ := covers_iff.mp covered
    have same : parts = left := Except.ok.inj (reads.splits.symm.trans readsScope.splits)
    subst same
    obtain ⟨site, reads, _⟩ := Endpoint.resolve_eq_ok_iff.mp resolves
    obtain ⟨before, after, shape, front, ending⟩ := Text.exists_blanks target.toList
    rw [Option.getD_some] at reads
    by_contra ordinary
    have dropped : ∀ c ∈ before, isControlOrSpace c = true := by
      by_contra visible
      rw [List.append_assoc] at shape
      exact ordinary (beginsBlank_of_visible shape front visible)
    have splits := readsTarget.splits
    rw [shape] at splits
    obtain ⟨scheme, host⟩ := names_server reads dropped ending splits
    rcases lacks with none | none
    · have lowered := spans.scheme
      rw [none] at lowered
      exact scheme (List.map_eq_nil_iff.mp lowered.symm)
    · exact host (spans.host.symm.trans none)
  · intro begins
    obtain ⟨parts, reads, none⟩ := reads_of_beginsBlank begins
    refine ⟨target, ?_, ⟨parts, _, reads, .inl none⟩, covers_iff.mpr (contains_refl reads)⟩
    rintro rfl
    obtain ⟨c, first, _⟩ := begins
    cases first

end Scope

namespace StoredCredential

/-- What a scope means. A credential with a scope applies to the targets that the scope contains. This
relation is reflexive on what can be read, and transitive. A scope without a scheme or without a host
covers an address that resolves only if a blank that is not dropped begins it. -/
theorem scope_means :
    (∀ (entry : StoredCredential) (scope target : String), entry.scope = some (.text scope) →
      scope ≠ "" → ∃ applies, entry.appliesTo target = .ok applies ∧
        (applies = true ↔ Scope.Contains scope target)) ∧
    (∀ text parts port, Scope.Reads text parts port → Scope.Contains text text) ∧
    (∀ first second third, Scope.Contains first second → Scope.Contains second third →
      Scope.Contains first third) ∧
    ∀ (target : String) (endpoint : Endpoint), Endpoint.resolve (some target) = .ok endpoint →
      ((∃ scope, scope ≠ "" ∧ Scope.LacksServer scope ∧ Scope.Contains scope target) ↔
        Scope.BeginsBlank target) := by
  refine ⟨?_, fun _ _ _ => Scope.contains_refl, fun _ _ _ => Scope.contains_trans, ?_⟩
  · intro entry scope target own given
    have counts : (Json.text scope).isTrue = true := decide_eq_true given
    have reach : entry.reach = .within scope := by
      unfold reach
      rw [own]
      dsimp only
      rw [if_pos counts]
    refine ⟨_, ?_, Scope.covers_iff⟩
    rw [appliesTo_eq, reach]
  · intro target endpoint resolves
    rw [← Scope.covered_by_lacking_iff resolves]
    simp only [Scope.covers_iff]

theorem scope_means_gerrit :
    Scope.Contains "HTTPS://H/gerrit" "HTTPS://H/gerrit" ∧
      Scope.Contains "https://h" "https://h:8443/gerrit/a/" ∧
      ¬Scope.Contains "HTTPS://H/gerrit" "https://h/gerrit-old" ∧
      ¬∃ scope, scope ≠ "" ∧ Scope.LacksServer scope ∧ Scope.Contains scope " https://h/gerrit" := by
  obtain ⟨means, reflexive, transitive, lacking⟩ := scope_means
  have verdict (scope target : String) (given : scope ≠ "") :
      Scope.covers scope target = true ↔ Scope.Contains scope target := by
    let entry : StoredCredential := ⟨.text "ci", .ofTexts "bot" "secret", some (.text scope)⟩
    obtain ⟨applies, known, contained⟩ := means entry scope target rfl given
    have same := Store.appliesTo_forScope given target entry List.mem_cons_self
    rwa [Except.ok.inj (known.symm.trans same)] at contained
  have wider := (verdict "https://h" "HTTPS://H/gerrit" (by decide)).mp (by decide +kernel)
  have inner := (verdict "HTTPS://H/gerrit" "https://h:8443/gerrit/a/" (by decide)).mp
    (by decide +kernel)
  have read : Scope.Reads "HTTPS://H/gerrit"
      ⟨"https".toList, "H".toList, "/gerrit".toList, [], []⟩ none :=
    Scope.read?_eq_some_iff.mp (by decide +kernel)
  refine ⟨reflexive _ _ _ read, transitive _ _ _ wider inner, ?_, ?_⟩
  · rw [← verdict _ _ (by decide)]
    decide +kernel
  · have resolves : Endpoint.resolve (some " https://h/gerrit") =
        .ok ⟨"https://h/gerrit", "https://h/gerrit", "https://h/gerrit/a"⟩ := by decide +kernel
    rw [lacking _ _ resolves]
    rintro ⟨c, first, blank⟩
    have letter : (" https://h/gerrit".toList.dropWhile Address.isControlOrSpace).head? =
        some 'h' := by decide
    rw [letter] at first
    cases first
    exact absurd blank (by decide)

/-- A scope without a scheme covers an address of a server whose own scheme a no-break space hides. -/
theorem blank_hides_server :
    Endpoint.resolve (some "\u00a0https://h") = .ok ⟨"https://h", "https://h", "https://h/a"⟩ ∧
      Scope.LacksServer "\u00a0https://h" ∧
      ∀ entry ∈ (Store.forScope "\u00a0https://h").entries,
        entry.appliesTo "\u00a0https://h" = .ok true := by
  have read : Scope.Reads "\u00a0https://h" ⟨[], [], "\u00a0https://h".toList, [], []⟩ none :=
    Scope.read?_eq_some_iff.mp (by decide +kernel)
  refine ⟨by decide +kernel, ⟨_, _, read, .inl rfl⟩, ?_⟩
  intro entry member
  rw [Store.appliesTo_forScope (by decide) _ entry member]
  exact congrArg Except.ok (Scope.covers_iff.mpr (Scope.contains_refl read))

end StoredCredential

end ProjectScan

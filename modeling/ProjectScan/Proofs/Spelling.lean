import ProjectScan.Endpoint
import ProjectScan.Proofs.SiteText

/-!
Addresses as they are spelled. A text without blanks and hidden characters that splits into parts with
a scheme and an authority is spelled with these parts: its marks stand where the text was cut. The
other way round, what is spelled splits into its parts, with the scheme in small letters. Blanks around
an address do not matter.
-/

namespace ProjectScan

namespace Text

theorem dropEndWhile_append {drop : Char → Bool} {after : List Char}
    (dropped : ∀ c ∈ after, drop c = true) (text : List Char) :
    dropEndWhile drop (text ++ after) = dropEndWhile drop text := by
  unfold dropEndWhile
  rw [List.reverse_append, List.dropWhile_append_of_pos]
  exact fun c member => dropped c (List.mem_reverse.mp member)

theorem dropWhile_eq_self {drop : Char → Bool} {text : List Char}
    (kept : ∀ c ∈ text, drop c = false) : text.dropWhile drop = text := by
  cases text with
  | nil => rfl
  | cons c rest =>
      rw [List.dropWhile_cons, kept c List.mem_cons_self, if_neg Bool.false_ne_true]

theorem trim_append {before text after : List Char} (front : ∀ c ∈ before, isBlank c = true)
    (solid : ∀ c ∈ text, isBlank c = false) (ending : ∀ c ∈ after, isBlank c = true) :
    trim (before ++ text ++ after) = text := by
  have trimmed : dropEndWhile isBlank text = text := by
    unfold dropEndWhile
    rw [dropWhile_eq_self fun c member => solid c (List.mem_reverse.mp member), List.reverse_reverse]
  unfold trim trimStart trimEnd
  rw [List.append_assoc, List.dropWhile_append_of_pos front]
  cases text with
  | nil =>
      rw [List.nil_append, List.dropWhile_eq_nil_iff.mpr ending]
      rfl
  | cons c rest =>
      rw [List.cons_append, List.dropWhile_cons, solid c List.mem_cons_self,
        if_neg Bool.false_ne_true, ← List.cons_append, dropEndWhile_append ending, trimmed]

theorem exists_blanks (text : List Char) :
    ∃ before after, text = before ++ trim text ++ after ∧
      (∀ c ∈ before, isBlank c = true) ∧ ∀ c ∈ after, isBlank c = true := by
  refine ⟨text.takeWhile isBlank, ((trimStart text).reverse.takeWhile isBlank).reverse, ?_, ?_, ?_⟩
  · unfold trim trimEnd dropEndWhile
    rw [List.append_assoc, ← List.reverse_append, List.takeWhile_append_dropWhile,
      List.reverse_reverse]
    exact List.takeWhile_append_dropWhile.symm
  · exact fun c member => List.mem_takeWhile_imp member
  · exact fun c member => List.mem_takeWhile_imp (List.mem_reverse.mp member)

theorem mem_of_mem_trim {c : Char} {text : List Char} (member : c ∈ trim text) : c ∈ text := by
  obtain ⟨before, after, shape, _⟩ := exists_blanks text
  rw [shape]
  exact List.mem_append_left _ (List.mem_append_right _ member)

end Text

namespace Address

def isShown (c : Char) : Bool := !(Text.isBlank c || !Unicode.isPrintable c)

theorem isShown_iff {c : Char} :
    isShown c = true ↔ Text.isBlank c = false ∧ Unicode.isPrintable c = true := by
  unfold isShown
  rw [Bool.not_eq_true', Bool.or_eq_false_iff, Bool.not_eq_false']

theorem not_isControlOrSpace {c : Char} (shown : isShown c = true) : isControlOrSpace c = false := by
  obtain ⟨solid, printable⟩ := isShown_iff.mp shown
  rw [isControlOrSpace, decide_eq_false_iff_not, Nat.not_le]
  by_contra low
  have ascii : c.toNat < 0x7F := by omega
  rw [Unicode.isPrintable_of_ascii c ascii, decide_eq_true_eq] at printable
  have space : c = ' ' := by
    rw [← Char.ofNat_toNat c, show c.toNat = 0x20 by omega]
  rw [space] at solid
  cases solid

theorem not_isDropped {c : Char} (shown : isShown c = true) : isDropped c = false := by
  by_contra dropped
  have low := not_isControlOrSpace shown
  unfold isDropped at dropped
  simp only [Bool.not_eq_false, Bool.or_eq_true, decide_eq_true_eq] at dropped
  rcases dropped with (rfl | rfl) | rfl <;> cases low

theorem cleaned_of_isShown {text : List Char} (shown : ∀ c ∈ text, isShown c = true) :
    cleaned text = text := by
  have starts : text.dropWhile isControlOrSpace = text := by
    cases text with
    | nil => rfl
    | cons c rest =>
        rw [List.dropWhile_cons, not_isControlOrSpace (shown c List.mem_cons_self)]
        rfl
  unfold cleaned
  rw [starts, List.filter_eq_self]
  intro c member
  rw [not_isDropped (shown c member)]
  rfl

theorem isShown_of_mem_small {text : List Char} (shown : ∀ c ∈ text, isShown c = true) {c : Char}
    (member : c ∈ Text.small text) : isShown c = true := by
  rcases (Text.mem_smallFrom [] text member).2 with origin | brought
  · exact shown c origin
  · exact isShown_iff.mpr ⟨brought.solid, brought.printable⟩

theorem isShown_of_mem_smallHost {name : List Char} (shown : ∀ c ∈ name, isShown c = true) {c : Char}
    (member : c ∈ smallHost name) : isShown c = true := by
  have before {c : Char} (member : c ∈ (Text.cutFirst '%' name).1) : isShown c = true :=
    shown c (Text.mem_of_mem_cutFirst member)
  unfold smallHost at member
  rcases List.mem_append.mp member with small | zone
  · exact isShown_of_mem_small (fun c => before) small
  · rcases Text.cutFirst_cases '%' name with ⟨cut, _⟩ | ⟨first, rest, cut, _, shape⟩
    · rw [cut] at zone
      exact absurd zone List.not_mem_nil
    · rw [cut] at zone
      apply shown
      rw [shape]
      exact List.mem_append_right first zone

theorem isAlpha_of_toLower {c : Char} (letter : c.toLower.isAlpha = true) : c.isAlpha = true := by
  unfold Char.toLower at letter
  split at letter
  · rename_i upper
    unfold Char.isAlpha Char.isUpper
    rw [decide_eq_true upper]
    rfl
  · exact letter

theorem isAlpha_of_served {scheme : List Char} (served : scheme.map Char.toLower ∈ servedSchemes) :
    ∀ c ∈ scheme, c.isAlpha = true := by
  have letters : (servedSchemes.all fun scheme => scheme.all Char.isAlpha) = true := by decide
  intro c member
  have small := List.all_eq_true.mp (List.all_eq_true.mp letters _ served)
  exact isAlpha_of_toLower (small _ (List.mem_map_of_mem member))

theorem splitScheme_of_letters {scheme : List Char}
    (served : scheme.map Char.toLower ∈ servedSchemes) (rest : List Char) :
    splitScheme (scheme ++ ':' :: rest) = (scheme.map Char.toLower, rest) := by
  have letters := isAlpha_of_served served
  have free : ':' ∉ scheme := fun member => absurd (letters ':' member) (by decide)
  cases scheme with
  | nil => exact absurd served (by decide)
  | cons first more =>
      have fits : (isAsciiLetter first && more.all isSchemeChar) = true := by
        rw [Bool.and_eq_true, List.all_eq_true]
        refine ⟨letters first List.mem_cons_self, ?_⟩
        intro c member
        have letter : isAsciiLetter c = true := letters c (List.mem_cons_of_mem first member)
        unfold isSchemeChar
        rw [letter]
        rfl
      unfold splitScheme
      rw [Text.cutFirst_append rest free]
      dsimp only
      rw [if_pos fits]

/-! ### Spellings -/

/-- An address cut at its marks. Query and fragment may be absent or empty. -/
structure Spelling where
  scheme : List Char
  authority : List Char
  path : List Char
  query : Option (List Char)
  fragment : Option (List Char)

def marked (mark : Char) : Option (List Char) → List Char
  | none => []
  | some text => mark :: text

theorem mem_marked {mark c : Char} {after : Option (List Char)} :
    c ∈ marked mark after ↔ ∃ text, after = some text ∧ (c = mark ∨ c ∈ text) := by
  cases after with
  | none => simp [marked]
  | some text => simp [marked]

namespace Spelling

def tail (spelling : Spelling) : List Char :=
  spelling.path ++ (marked '?' spelling.query ++ marked '#' spelling.fragment)

def text (spelling : Spelling) : List Char :=
  spelling.scheme ++ ':' :: '/' :: '/' :: (spelling.authority ++ spelling.tail)

def parts (spelling : Spelling) : Parts :=
  ⟨spelling.scheme.map Char.toLower, spelling.authority, spelling.path, spelling.query.getD [],
    spelling.fragment.getD []⟩

structure IsSound (spelling : Spelling) : Prop where
  scheme : spelling.scheme.map Char.toLower ∈ servedSchemes
  authority : ∀ c ∈ spelling.authority, endsAuthority c = false
  slash : spelling.path = [] ∨ spelling.path.head? = some '/'
  path : '?' ∉ spelling.path ∧ '#' ∉ spelling.path
  query : ∀ query, spelling.query = some query → '#' ∉ query

theorem cutFirst_marked {mark : Char} {before : List Char} (free : mark ∉ before)
    (after : Option (List Char)) :
    Text.cutFirst mark (before ++ marked mark after) = (before, after) := by
  cases after with
  | none =>
      rw [marked, List.append_nil]
      exact Text.cutFirst_of_notMem free
  | some after => exact Text.cutFirst_append after free

section Splitting

variable {spelling : Spelling} (sound : spelling.IsSound)
include sound

theorem cutFirst_tail :
    Text.cutFirst '#' spelling.tail =
        (spelling.path ++ marked '?' spelling.query, spelling.fragment) ∧
      Text.cutFirst '?' (spelling.path ++ marked '?' spelling.query) =
        (spelling.path, spelling.query) := by
  have free : '#' ∉ spelling.path ++ marked '?' spelling.query := by
    intro member
    rcases List.mem_append.mp member with inPath | inQuery
    · exact sound.path.2 inPath
    · cases given : spelling.query with
      | none =>
          rw [given] at inQuery
          exact absurd inQuery List.not_mem_nil
      | some query =>
          rw [given] at inQuery
          rcases List.mem_cons.mp inQuery with same | inside
          · exact absurd same (by decide)
          · exact sound.query query given inside
  refine ⟨?_, cutFirst_marked sound.path.1 _⟩
  unfold tail
  rw [← List.append_assoc]
  exact cutFirst_marked free _

theorem head_tail : ∀ c, spelling.tail.head? = some c → endsAuthority c = true := by
  intro c leads
  unfold tail at leads
  rcases sound.slash with empty | slash
  · rw [empty, List.nil_append] at leads
    cases query : spelling.query with
    | some query =>
        rw [query] at leads
        cases leads
        rfl
    | none =>
        rw [query] at leads
        cases fragment : spelling.fragment with
        | some fragment =>
            rw [fragment] at leads
            cases leads
            rfl
        | none =>
            rw [fragment] at leads
            cases leads
  · rw [List.head?_append, slash] at leads
    cases leads
    rfl

theorem split_spelled (shown : ∀ c ∈ spelling.text, isShown c = true)
    (brackets : checkBrackets spelling.authority = .ok ())
    (unlike : checkLookalikes spelling.authority = .ok ()) :
    split spelling.text = .ok spelling.parts := by
  obtain ⟨beforeFragment, beforeQuery⟩ := cutFirst_tail sound
  unfold split
  rw [cleaned_of_isShown shown, text, splitScheme_of_letters sound.scheme]
  dsimp only
  rw [splitAuthority_append sound.authority (head_tail sound)]
  dsimp only
  rw [brackets, beforeFragment]
  dsimp only
  rw [beforeQuery, unlike]
  rfl

end Splitting

theorem splitScheme_cases (text : List Char) :
    (splitScheme text).1 = [] ∨
    ∃ scheme, splitScheme text = (scheme.map Char.toLower, (splitScheme text).2) ∧
      text = scheme ++ ':' :: (splitScheme text).2 := by
  unfold splitScheme
  split
  · rename_i first more rest cut
    split
    · right
      rcases Text.cutFirst_cases ':' text with ⟨whole, _⟩ | ⟨before, after, found, _, shape⟩
      · rw [cut] at whole
        cases whole
      · rw [cut] at found
        cases found
        exact ⟨first :: more, rfl, shape⟩
    · exact .inl rfl
  · exact .inl rfl

theorem eq_marked_of_cutFirst {mark : Char} {text before : List Char}
    {after : Option (List Char)} (cut : Text.cutFirst mark text = (before, after)) :
    mark ∉ before ∧ text = before ++ marked mark after := by
  rcases Text.cutFirst_cases mark text with ⟨whole, free⟩ | ⟨first, rest, found, free, shape⟩
  · rw [cut] at whole
    cases whole
    exact ⟨free, (List.append_nil _).symm⟩
  · rw [cut] at found
    cases found
    exact ⟨free, shape⟩

theorem eq_of_split {text : List Char} {parts : Parts} (splits : split text = .ok parts) :
    let schemed := splitScheme (cleaned text)
    let cut := splitAuthority schemed.2
    let fragmented := Text.cutFirst '#' cut.2
    let queried := Text.cutFirst '?' fragmented.1
    parts = ⟨schemed.1, cut.1, queried.1, queried.2.getD [], fragmented.2.getD []⟩ := by
  unfold split at splits
  dsimp only at splits
  split at splits
  · cases splits
  · split at splits
    · cases splits
    · exact (Except.ok.inj splits).symm

theorem parts_of_split {spelling : Spelling} (sound : spelling.IsSound)
    (shown : ∀ c ∈ spelling.text, isShown c = true) {parts : Parts}
    (splits : split spelling.text = .ok parts) : parts = spelling.parts := by
  obtain ⟨beforeFragment, beforeQuery⟩ := cutFirst_tail sound
  have same := eq_of_split splits
  rw [cleaned_of_isShown shown, text, splitScheme_of_letters sound.scheme] at same
  dsimp only at same
  rw [splitAuthority_append sound.authority (head_tail sound)] at same
  dsimp only at same
  rw [beforeFragment] at same
  dsimp only at same
  rw [beforeQuery] at same
  exact same

theorem exists_spelling {text : List Char} (shown : ∀ c ∈ text, isShown c = true) {parts : Parts}
    (splits : split text = .ok parts) (served : parts.scheme ∈ servedSchemes)
    (given : parts.authority ≠ []) :
    ∃ spelling : Spelling, spelling.IsSound ∧ spelling.text = text ∧ spelling.parts = parts := by
  have same := eq_of_split splits
  rw [cleaned_of_isShown shown] at same
  dsimp only at same
  rcases splitScheme_cases text with missing | ⟨scheme, lowered, spelled⟩
  · have absent : parts.scheme = [] := by rw [same, missing]
    rw [absent] at served
    exact absurd served (by decide)
  have small := congrArg Prod.fst lowered
  generalize (splitScheme text).2 = after at same spelled
  rcases splitAuthority_cases after with none | ⟨authority, tail, cut, shape, inside, ends⟩
  · rw [same, none] at given
    exact absurd rfl given
  rw [small, cut] at same
  dsimp only at same
  subst same
  have solid : ∀ c ∈ tail, isDropped c = false := by
    intro c member
    apply not_isDropped
    apply shown
    rw [spelled, shape]
    simp only [List.mem_append, List.mem_cons]
    exact .inr (.inr (.inr (.inr (.inr member))))
  have isPath := isPath_of_rest ends solid
  cases fragments : Text.cutFirst '#' tail with
  | mk before fragment =>
      cases queries : Text.cutFirst '?' before with
      | mk path query =>
          obtain ⟨freeOfFragment, tailShape⟩ := eq_marked_of_cutFirst fragments
          obtain ⟨freeOfQuery, beforeShape⟩ := eq_marked_of_cutFirst queries
          rw [fragments, queries] at isPath
          refine ⟨⟨scheme, authority, path, query, fragment⟩, ?_, ?_, ?_⟩
          · refine ⟨served, inside, isPath.slash, ⟨freeOfQuery, ?_⟩, ?_⟩
            · intro member
              apply freeOfFragment
              rw [beforeShape]
              exact List.mem_append_left _ member
            · rintro query rfl member
              apply freeOfFragment
              rw [beforeShape]
              exact List.mem_append_right _ (List.mem_cons_of_mem _ member)
          · unfold Spelling.text Spelling.tail
            rw [spelled, shape, tailShape, beforeShape, List.append_assoc]
          · rfl

end Spelling

/-- A text is read as a site if nothing in it is blank or hidden and the site is read from its
parts. -/
theorem siteOf_eq_ok_iff {text : List Char} {site : Site} :
    siteOf text = .ok site ↔ (∀ c ∈ text, isShown c = true) ∧
      ∃ parts, split text = .ok parts ∧ parts.port = .ok site.port ∧ site.ReadFrom parts := by
  have visible : (text.any fun c => Text.isBlank c || !Unicode.isPrintable c) = false ↔
      ∀ c ∈ text, isShown c = true := by
    rw [List.any_eq_false]
    refine forall₂_congr fun c _ => ?_
    rw [isShown, Bool.not_eq_true', Bool.not_eq_true]
  constructor
  · intro reads
    refine ⟨?_, exists_parts_of_siteOf reads⟩
    rw [← visible]
    unfold siteOf at reads
    split at reads
    · cases reads
    · split at reads
      · cases reads
      · rename_i shown
        exact Bool.not_eq_true _ ▸ shown
  · rintro ⟨shown, parts, splits, ported, readFrom⟩
    have given : text ≠ [] := by
      rintro rfl
      have empty : split [] = .ok ⟨[], [], [], [], []⟩ := by decide
      rw [empty] at splits
      cases splits
      exact absurd readFrom.scheme (by decide)
    unfold siteOf
    rw [if_neg given, visible.mpr shown, if_neg Bool.false_ne_true, splits]
    dsimp only
    rw [ported]
    exact siteOfParts_eq_ok_iff.mpr ⟨readFrom, rfl⟩

theorem exists_spelling_of_siteOf {text : List Char} {site : Site} (reads : siteOf text = .ok site) :
    ∃ spelling : Spelling, spelling.IsSound ∧ spelling.text = text ∧
      spelling.parts.port = .ok site.port ∧ site.ReadFrom spelling.parts := by
  obtain ⟨shown, parts, splits, ported, readFrom⟩ := siteOf_eq_ok_iff.mp reads
  obtain ⟨spelling, sound, rfl, rfl⟩ :=
    Spelling.exists_spelling shown splits readFrom.scheme readFrom.authority_ne_nil
  exact ⟨spelling, sound, rfl, ported, readFrom⟩

end Address

/-- An address resolves to the endpoint of the site that it is read as, without the blanks around
it. -/
theorem Endpoint.resolve_eq_ok_iff {url : Option String} {endpoint : Endpoint} :
    resolve url = .ok endpoint ↔ ∃ site, Address.siteOf (Text.trim (url.getD "").toList) = .ok site ∧
      endpoint = ofSite (Text.trim (url.getD "").toList) site := by
  unfold resolve
  dsimp only
  cases reads : Address.siteOf (Text.trim (url.getD "").toList) with
  | error fault =>
      constructor
      · intro found
        cases found
      · rintro ⟨site, found, -⟩
        cases found
  | ok site =>
      constructor
      · intro found
        exact ⟨site, rfl, (Except.ok.inj found).symm⟩
      · rintro ⟨site, same, rfl⟩
        cases same
        rfl

end ProjectScan

import Mathlib.Data.List.Nodup
import ProjectScan.Json.Writer
import ProjectScan.Proofs.Nesting

/-!
What is written on one line is read back as it was, and no control character is written. Reading takes
a value from the front of a text and goes on behind it, so that what is proved of a value holds
wherever it stands: alone, as an item or as the value of a field.
-/

namespace ProjectScan.Json

open Text (backslash doubleQuote hexDigit hexDigits)

theorem quotedText_skip (skipped rest : List Char) :
    quotedText skipped.length (skipped ++ rest) = quotedText 0 rest := by
  induction skipped with
  | nil => rfl
  | cons c skipped ih =>
      rw [List.cons_append, quotedText.eq_def]
      simpa using ih

theorem quotedText_plain {c : Char} (noQuote : c ≠ doubleQuote) (noSlash : c ≠ backslash)
    (shown : ¬c.toNat < 0x20) (rest : List Char) :
    quotedText 0 (c :: rest) = (quotedText 0 rest).map fun read => (c :: read.1, read.2) := by
  rw [quotedText.eq_def]
  simp only [Nat.lt_irrefl, if_false, noQuote, noSlash, shown]

theorem quotedText_escape {letter c : Char} (escapes : shortEscape? letter = some c)
    (rest : List Char) :
    quotedText 0 (backslash :: letter :: rest) =
      (quotedText 0 rest).map fun read => (c :: read.1, read.2) := by
  have short : letter ≠ 'u' := by
    rintro rfl
    exact absurd escapes (by simp [shortEscape?, doubleQuote, backslash])
  rw [quotedText.eq_def]
  simp only [Nat.lt_irrefl, if_false, show backslash ≠ doubleQuote by decide, if_true]
  split
  · rename_i refused
    rw [escapes] at refused
    cases refused
  · rename_i plain read
    rw [escapes] at read
    cases read
    rfl

theorem quotedText_control {c next : Char} (control : c.toNat < 0x20) (rest : List Char) :
    quotedText 0 (backslash :: 'u' :: (hexDigits 4 c.toNat ++ next :: rest)) =
      (quotedText 0 (next :: rest)).map fun read => (c :: read.1, read.2) := by
  have digits : ∀ n < 0x20, hexDigits 4 n = ['0', '0', hexDigit (n / 16), hexDigit (n % 16)] := by
    decide
  have value : ∀ n < 0x20, codeUnit? '0' '0' (hexDigit (n / 16)) (hexDigit (n % 16)) = some n := by
    decide
  have unit : leadingUnit? (backslash :: 'u' :: (hexDigits 4 c.toNat ++ next :: rest)) =
      some c.toNat := by
    rw [digits _ control]
    exact value _ control
  have single : ∀ low, pairedUnits? c.toNat low = none := by
    intro low
    unfold pairedUnits?
    rw [if_neg (by omega)]
  have alone : (leadingUnit? ((hexDigits 4 c.toNat ++ next :: rest).drop 4)).bind
      (pairedUnits? c.toNat) = none := by
    cases leadingUnit? ((hexDigits 4 c.toNat ++ next :: rest).drop 4) with
    | none => rfl
    | some low => exact single low
  have own : unitChar c.toNat = c := by
    unfold unitChar
    rw [if_neg (by omega), Char.ofNat_toNat]
  have behind := quotedText_skip (hexDigits 4 c.toNat) (next :: rest)
  rw [Text.hexDigits_length] at behind
  rw [quotedText.eq_def]
  simp only [Nat.lt_irrefl, if_false, show backslash ≠ doubleQuote by decide, if_true, unit, alone,
    own, behind]

theorem writtenChar_cases (c : Char) :
    (∃ letter, shortEscape? letter = some c ∧ 0x20 ≤ letter.toNat ∧
      writtenChar c = [backslash, letter]) ∨
    (c.toNat < 0x20 ∧ writtenChar c = backslash :: 'u' :: hexDigits 4 c.toNat) ∨
    (c ≠ doubleQuote ∧ c ≠ backslash ∧ 0x20 ≤ c.toNat ∧ writtenChar c = [c]) := by
  unfold writtenChar
  by_cases mark : c = doubleQuote ∨ c = backslash
  · left
    refine ⟨c, ?_, ?_, if_pos mark⟩
    · unfold shortEscape?
      rw [if_pos (mark.imp_right .inl)]
    · rcases mark with rfl | rfl <;> decide
  · rw [if_neg mark]
    by_cases letter : c ∈ ['\n', '\r', '\t', '\x0c', '\x08']
    · left
      simp only [List.mem_cons, List.not_mem_nil, or_false] at letter
      rcases letter with rfl | rfl | rfl | rfl | rfl
      · exact ⟨'n', rfl, by decide, rfl⟩
      · exact ⟨'r', rfl, by decide, rfl⟩
      · exact ⟨'t', rfl, by decide, rfl⟩
      · exact ⟨'f', rfl, by decide, rfl⟩
      · exact ⟨'b', rfl, by decide, rfl⟩
    · right
      simp only [List.mem_cons, List.not_mem_nil, or_false, not_or] at letter
      obtain ⟨noLine, noReturn, noTab, noPage, noBack⟩ := letter
      rw [if_neg noLine, if_neg noReturn, if_neg noTab, if_neg noPage, if_neg noBack]
      by_cases control : c.toNat < 0x20
      · exact .inl ⟨control, if_pos control⟩
      · rw [not_or] at mark
        exact .inr ⟨mark.1, mark.2, Nat.not_lt.mp control, if_neg control⟩

theorem quotedText_writtenChar (c next : Char) (rest : List Char) :
    quotedText 0 (writtenChar c ++ next :: rest) =
      (quotedText 0 (next :: rest)).map fun read => (c :: read.1, read.2) := by
  rcases writtenChar_cases c with
    ⟨letter, escapes, _, shape⟩ | ⟨control, shape⟩ | ⟨noQuote, noSlash, shown, shape⟩
  · rw [shape]
    exact quotedText_escape escapes _
  · rw [shape]
    exact quotedText_control control rest
  · rw [shape]
    exact quotedText_plain noQuote noSlash (Nat.not_lt.mpr shown) _

theorem quotedText_written (source rest : List Char) :
    quotedText 0 (source.flatMap writtenChar ++ doubleQuote :: rest) = .ok (source, rest) := by
  induction source with
  | nil =>
      rw [List.flatMap_nil, List.nil_append, quotedText.eq_def]
      simp only [Nat.lt_irrefl, if_false, if_true]
  | cons c source ih =>
      rw [List.flatMap_cons, List.append_assoc]
      cases more : source.flatMap writtenChar ++ doubleQuote :: rest with
      | nil => exact absurd more (by simp)
      | cons next behind =>
          rw [quotedText_writtenChar, ← more, ih]
          rfl

/-- What may follow a value: the end of the text, the next item or field, or the end of a list or an
object. -/
def EndsValue (rest : List Char) : Prop := ∀ c ∈ rest.head?, c = ',' ∨ c = ']' ∨ c = '\x7d'

theorem EndsValue.cases {rest : List Char} (ends : EndsValue rest) :
    rest = [] ∨ ∃ c behind, rest = c :: behind ∧ (c = ',' ∨ c = ']' ∨ c = '\x7d') := by
  cases rest with
  | nil => exact .inl rfl
  | cons c behind => exact .inr ⟨c, behind, rfl, ends c rfl⟩

theorem head?_naturalDigits {n : Nat} (positive : 0 < n) :
    (Number.naturalDigits n).head? ≠ some '0' := by
  unfold Number.naturalDigits
  induction n using Nat.strongRecOn with
  | ind n ih =>
      by_cases small : n < 10
      · rw [Nat.toDigits_of_lt_base small]
        have all : ∀ digit < 10, 0 < digit → [Nat.digitChar digit].head? ≠ some '0' := by decide
        exact all n small positive
      · have large : 10 ≤ n := Nat.not_lt.mp small
        rw [Nat.toDigits_of_base_le (by decide) large, List.head?_append_of_ne_nil _
          Nat.toDigits_ne_nil]
        exact ih (n / 10) (Nat.div_lt_self positive (by decide)) (by omega)

theorem leadingDigits_natural (n : Nat) {rest : List Char} (ends : EndsValue rest) :
    leadingDigits (Number.naturalDigits n ++ rest) = (Number.naturalDigits n, rest) := by
  have digits : ∀ c ∈ Number.naturalDigits n, c.isDigit = true :=
    fun c member => Number.naturalDigits_isDigit member
  unfold leadingDigits
  rw [List.takeWhile_append_of_pos digits, List.dropWhile_append_of_pos digits]
  rcases ends.cases with rfl | ⟨c, behind, rfl, rfl | rfl | rfl⟩ <;> simp

theorem leadingWhole?_natural (n : Nat) {rest : List Char} (ends : EndsValue rest) :
    leadingWhole? (Number.naturalDigits n ++ rest) = some (Number.naturalDigits n, rest) := by
  rcases Nat.eq_zero_or_pos n with rfl | positive
  · rfl
  · unfold leadingWhole?
    split
    · rename_i behind same
      have first := head?_naturalDigits positive
      rw [← List.head?_append_of_ne_nil _ (Number.naturalDigits_ne_nil n), same] at first
      exact absurd rfl first
    · rw [leadingDigits_natural n ends, if_neg (Number.naturalDigits_ne_nil n)]

theorem numeral?_natural (negative : Bool) (n : Nat) {rest : List Char} (ends : EndsValue rest) :
    numeral? negative (Number.naturalDigits n ++ rest) =
      some (⟨negative, Number.naturalDigits n, none, none⟩, rest) := by
  have fraction : leadingFraction rest = (none, rest) := by
    rcases ends.cases with rfl | ⟨c, behind, rfl, rfl | rfl | rfl⟩ <;> rfl
  have power : leadingPower rest = (none, rest) := by
    rcases ends.cases with rfl | ⟨c, behind, rfl, rfl | rfl | rfl⟩ <;> rfl
  unfold numeral?
  rw [leadingWhole?_natural n ends]
  dsimp only
  rw [fraction]
  dsimp only
  rw [power]

theorem naturalDigits_cons (n : Nat) :
    ∃ c more, Number.naturalDigits n = c :: more ∧ c.isDigit = true := by
  obtain ⟨c, more, shape⟩ := List.exists_cons_of_ne_nil (Number.naturalDigits_ne_nil n)
  refine ⟨c, more, shape, Number.naturalDigits_isDigit (n := n) ?_⟩
  rw [shape]
  exact List.mem_cons_self

theorem nextLexeme_natural {n : Nat} {c : Char} {more rest : List Char}
    (shape : Number.naturalDigits n = c :: more) (digit : c.isDigit = true)
    (ends : EndsValue rest) :
    nextLexeme c (more ++ rest) = (.numeral ⟨false, c :: more, none, none⟩, rest) := by
  have plain : punctuation? c = none ∧ c ≠ doubleQuote ∧ c ≠ '-' ∧
      ∀ entry ∈ names, entry.1.head? ≠ some c :=
    forall_isDigit (P := fun c => punctuation? c = none ∧ c ≠ doubleQuote ∧ c ≠ '-' ∧
      ∀ entry ∈ names, entry.1.head? ≠ some c) (by decide) digit
  obtain ⟨noMark, noQuote, noSign, noName⟩ := plain
  have number := numeral?_natural false n ends
  rw [shape, List.cons_append] at number
  unfold nextLexeme
  rw [noMark]
  dsimp only
  rw [if_neg noQuote, named?_of_head noName]
  dsimp only
  rw [if_neg noSign, number]

theorem nextLexeme_negative (n : Nat) {rest : List Char} (ends : EndsValue rest) :
    nextLexeme '-' (Number.naturalDigits n ++ rest) =
      (.numeral ⟨true, Number.naturalDigits n, none, none⟩, rest) := by
  have noName : named? ('-' :: (Number.naturalDigits n ++ rest)) = none := by
    obtain ⟨c, more, shape, digit⟩ := naturalDigits_cons n
    have other : 'I' ≠ c := by
      rintro rfl
      cases digit
    rw [shape]
    simp [named?, names, List.isPrefixOf, other]
  unfold nextLexeme
  rw [show punctuation? '-' = none by rfl]
  dsimp only
  rw [if_neg (by decide), noName]
  dsimp only
  rw [if_pos rfl, numeral?_natural true n ends]

theorem value_natural {n : Nat} (short : (Number.naturalDigits n).length ≤ Number.digitLimit)
    (negative : Bool) :
    (Numeral.mk negative (Number.naturalDigits n) none none).value =
      .ok (.whole (if negative then -(n : Int) else n)) := by
  unfold Numeral.value
  dsimp only
  rw [Number.readDigits_naturalDigits n short]

/-! ### Reading on -/

def readOn (expecting : Expecting) (source : List Char) : Except Stop Json :=
  readLexemes expecting (lexemes source)

theorem readOn_gap {c : Char} (gap : isGap c = true) (expecting : Expecting) (rest : List Char) :
    readOn expecting (c :: rest) = readOn expecting rest := by
  unfold readOn
  rw [lexemes_gap gap]

theorem readOn_lexeme {c : Char} {rest after : List Char} {lexeme : Lexeme}
    {expecting later : Expecting} (solid : isGap c = false)
    (next : nextLexeme c rest = (lexeme, after))
    (taken : take? expecting ⟨lexeme, c :: rest⟩ = .ok later) :
    readOn expecting (c :: rest) = readOn later after := by
  unfold readOn
  rw [lexemes_solid solid, next, readLexemes, taken]

theorem readOn_mark {c : Char} {rest : List Char} {expecting later : Expecting} (lexeme : Lexeme)
    (mark : punctuation? c = some lexeme) (solid : isGap c = false)
    (taken : take? expecting ⟨lexeme, c :: rest⟩ = .ok later) :
    readOn expecting (c :: rest) = readOn later rest := by
  apply readOn_lexeme solid ?_ taken
  unfold nextLexeme
  rw [mark]

theorem readOn_text {expecting later : Expecting} (text rest : List Char)
    (taken : ∀ place, take? expecting ⟨.text text, place⟩ = .ok later) :
    readOn expecting (writtenText text ++ rest) = readOn later rest := by
  have shape : writtenText text ++ rest =
      doubleQuote :: (text.flatMap writtenChar ++ doubleQuote :: rest) := by
    simp [writtenText]
  rw [shape]
  apply readOn_lexeme (by decide) ?_ (taken _)
  unfold nextLexeme
  rw [show punctuation? doubleQuote = none by decide]
  dsimp only
  rw [if_pos rfl, quotedText_written]

inductive Awaits : Expecting → List Open → Prop
  | value (outer : List Open) : Awaits (.value outer) outer
  | item (outer : List Open) : Awaits (.itemOrEnd outer) (.list [] :: outer)

theorem Awaits.take? {expecting later : Expecting} {outer : List Open} {next : Placed}
    (awaits : Awaits expecting outer) (begins : begin? outer next = .ok later) :
    take? expecting next = .ok later := by
  cases awaits with
  | value => exact begins
  | item outer =>
      obtain ⟨lexeme, place⟩ := next
      cases lexeme with
      | closeList => cases begins
      | _ => exact begins

/-- What is written of the value is taken as the value, wherever one has to come. -/
def IsReadBack (value : Json) : Prop :=
  ∀ {expecting outer rest}, Awaits expecting outer → EndsValue rest →
    readOn expecting (written value ++ rest) = readOn (.more value outer) rest

theorem isReadBack_text (text : String) : IsReadBack (.text text) := by
  intro expecting outer rest awaits _
  have taken : ∀ place, take? expecting ⟨.text text.toList, place⟩ =
      .ok (.more (.text text) outer) := by
    intro place
    apply awaits.take?
    simp [begin?]
  exact readOn_text text.toList rest taken

theorem isReadBack_named {value : Json} {c : Char} {more : List Char}
    (spelling : written value = c :: more) (solid : isGap c = false)
    (next : ∀ rest, nextLexeme c (more ++ rest) = (.named value, rest)) : IsReadBack value := by
  intro expecting outer rest awaits _
  rw [spelling, List.cons_append]
  exact readOn_lexeme solid (next rest) (awaits.take? rfl)

theorem isReadBack_null : IsReadBack .null := isReadBack_named rfl (by decide) fun _ => rfl

theorem isReadBack_bool (value : Bool) : IsReadBack (.bool value) := by
  cases value with
  | true => exact isReadBack_named rfl (by decide) fun _ => rfl
  | false => exact isReadBack_named rfl (by decide) fun _ => rfl

theorem isReadBack_whole {value : Int}
    (short : (Number.naturalDigits value.natAbs).length ≤ Number.digitLimit) :
    IsReadBack (.whole value) := by
  intro expecting outer rest awaits ends
  cases value with
  | ofNat n =>
      have text : written (.whole (.ofNat n)) = Number.naturalDigits n := by
        simp [written, writtenLeaf, Number.wholeText, Number.naturalText]
      obtain ⟨c, more, shape, digit⟩ := naturalDigits_cons n
      have solid : isGap c = false := forall_isDigit (P := fun c => isGap c = false) (by decide) digit
      rw [text, shape, List.cons_append]
      apply readOn_lexeme solid (nextLexeme_natural shape digit ends)
      apply awaits.take?
      unfold begin?
      dsimp only
      have few : (Number.naturalDigits n).length ≤ Number.digitLimit := short
      rw [← shape, value_natural few]
      rfl
  | negSucc n =>
      have text : written (.whole (.negSucc n)) = '-' :: Number.naturalDigits (n + 1) := by
        simp [written, writtenLeaf, Number.wholeText, Number.naturalText]
      rw [text, List.cons_append]
      apply readOn_lexeme (by decide) (nextLexeme_negative (n + 1) ends)
      apply awaits.take?
      unfold begin?
      dsimp only
      have few : (Number.naturalDigits (n + 1)).length ≤ Number.digitLimit := short
      rw [value_natural few]
      rfl

theorem endsValue_writtenItems (items : List Json) (rest : List Char) :
    EndsValue (writtenItems items ++ rest) := by
  rintro c first
  cases items with
  | nil => cases first; exact .inr (.inl rfl)
  | cons item items => cases first; exact .inl rfl

theorem endsValue_writtenFields (fields : List (String × Json)) (rest : List Char) :
    EndsValue (writtenFields fields ++ rest) := by
  rintro c first
  cases fields with
  | nil => cases first; exact .inr (.inr rfl)
  | cons field fields => cases first; exact .inl rfl

theorem readOn_items {items : List Json} (each : ∀ item ∈ items, IsReadBack item) (value : Json)
    (sofar : List Json) (outer : List Open) (rest : List Char) :
    readOn (.more value (.list sofar :: outer)) (writtenItems items ++ rest) =
      readOn (.more (.list ((value :: sofar).reverse ++ items)) outer) rest := by
  induction items generalizing value sofar with
  | nil =>
      rw [List.append_nil]
      exact readOn_mark .closeList rfl (by decide) rfl
  | cons item items ih =>
      rw [List.forall_mem_cons] at each
      have comma : readOn (.more value (.list sofar :: outer))
          (writtenItems (item :: items) ++ rest) =
          readOn (.value (.list (value :: sofar) :: outer))
            (' ' :: (written item ++ (writtenItems items ++ rest))) := by
        simp only [writtenItems, List.cons_append, List.append_assoc]
        exact readOn_mark .comma rfl (by decide) rfl
      rw [comma, readOn_gap (by decide), each.1 (.value _) (endsValue_writtenItems items rest),
        ih each.2]
      simp

theorem isReadBack_list {items : List Json} (each : ∀ item ∈ items, IsReadBack item) :
    IsReadBack (.list items) := by
  intro expecting outer rest awaits _
  cases items with
  | nil =>
      have opened : readOn expecting ('[' :: ']' :: rest) = readOn (.itemOrEnd outer) (']' :: rest) :=
        readOn_mark .openList rfl (by decide) (awaits.take? rfl)
      have closed : readOn (.itemOrEnd outer) (']' :: rest) = readOn (.more (.list []) outer) rest :=
        readOn_mark .closeList rfl (by decide) rfl
      exact opened.trans closed
  | cons item items =>
      rw [List.forall_mem_cons] at each
      have opened : readOn expecting (written (.list (item :: items)) ++ rest) =
          readOn (.itemOrEnd outer) (written item ++ (writtenItems items ++ rest)) := by
        simp only [written, List.cons_append, List.append_assoc]
        exact readOn_mark .openList rfl (by decide) (awaits.take? rfl)
      rw [opened, each.1 (.item outer) (endsValue_writtenItems items rest), readOn_items each.2]
      rfl

theorem readOn_field {key : String} {value : Json} (reads : IsReadBack value)
    {expecting : Expecting} {fields : List (String × Json)} {outer : List Open} {rest : List Char}
    (taken : ∀ place, take? expecting ⟨.text key.toList, place⟩ = .ok (.colon fields key outer))
    (ends : EndsValue rest) :
    readOn expecting (writtenText key.toList ++ ':' :: ' ' :: (written value ++ rest)) =
      readOn (.more value (.object fields key :: outer)) rest := by
  have colon : readOn (.colon fields key outer) (':' :: ' ' :: (written value ++ rest)) =
      readOn (.value (.object fields key :: outer)) (' ' :: (written value ++ rest)) :=
    readOn_mark .colon rfl (by decide) rfl
  rw [readOn_text key.toList _ taken, colon, readOn_gap (by decide), reads (.value _) ends]

theorem readOn_fields {more : List (String × Json)} (each : ∀ field ∈ more, IsReadBack field.2)
    (value : Json) (fields : List (String × Json)) (key : String) (outer : List Open)
    (rest : List Char) :
    readOn (.more value (.object fields key :: outer)) (writtenFields more ++ rest) =
      readOn (.more (.object (setFields (setField fields key value) more)) outer) rest := by
  induction more generalizing value fields key with
  | nil => exact readOn_mark .closeObject rfl (by decide) rfl
  | cons field more ih =>
      obtain ⟨nextKey, next⟩ := field
      rw [List.forall_mem_cons] at each
      have comma : readOn (.more value (.object fields key :: outer))
          (writtenFields ((nextKey, next) :: more) ++ rest) =
          readOn (.key (setField fields key value) outer) (' ' :: (writtenText nextKey.toList ++
            ':' :: ' ' :: (written next ++ (writtenFields more ++ rest)))) := by
        simp only [writtenFields, List.cons_append, List.append_assoc]
        exact readOn_mark .comma rfl (by decide) rfl
      have taken : ∀ place, take? (.key (setField fields key value) outer)
          ⟨.text nextKey.toList, place⟩ = .ok (.colon (setField fields key value) nextKey outer) := by
        intro place
        simp [take?, beginKey?]
      rw [comma, readOn_gap (by decide),
        readOn_field each.1 taken (endsValue_writtenFields more rest), ih each.2]
      rfl

theorem setField_of_notMem {fields : List (String × Json)} {key : String}
    (absent : key ∉ fields.map (·.1)) (value : Json) :
    setField fields key value = fields ++ [(key, value)] := by
  induction fields with
  | nil => rfl
  | cons field rest ih =>
      obtain ⟨name, old⟩ := field
      rw [List.map_cons, List.mem_cons, not_or] at absent
      rw [setField, if_neg (Ne.symm absent.1), ih absent.2]
      rfl

theorem setFields_of_nodup {fields more : List (String × Json)}
    (distinct : ((fields ++ more).map (·.1)).Nodup) : setFields fields more = fields ++ more := by
  induction more generalizing fields with
  | nil => exact (List.append_nil _).symm
  | cons field rest ih =>
      obtain ⟨key, value⟩ := field
      have absent : key ∉ fields.map (·.1) := by
        rw [List.map_append, List.nodup_append] at distinct
        intro member
        exact distinct.2.2 key member key List.mem_cons_self rfl
      have onwards : setFields (fields ++ [(key, value)]) rest = fields ++ [(key, value)] ++ rest := by
        apply ih
        rwa [List.append_assoc]
      change setFields (setField fields key value) rest = _
      rw [setField_of_notMem absent, onwards, List.append_assoc]
      rfl

theorem isReadBack_object {fields : List (String × Json)} (distinct : (fields.map (·.1)).Nodup)
    (each : ∀ field ∈ fields, IsReadBack field.2) : IsReadBack (.object fields) := by
  intro expecting outer rest awaits _
  cases fields with
  | nil =>
      have opened : readOn expecting ('\x7b' :: '\x7d' :: rest) =
          readOn (.keyOrEnd outer) ('\x7d' :: rest) :=
        readOn_mark .openObject rfl (by decide) (awaits.take? rfl)
      have closed : readOn (.keyOrEnd outer) ('\x7d' :: rest) =
          readOn (.more (.object []) outer) rest :=
        readOn_mark .closeObject rfl (by decide) rfl
      exact opened.trans closed
  | cons field more =>
      obtain ⟨key, value⟩ := field
      rw [List.forall_mem_cons] at each
      have opened : readOn expecting (written (.object ((key, value) :: more)) ++ rest) =
          readOn (.keyOrEnd outer) (writtenText key.toList ++ ':' :: ' ' ::
            (written value ++ (writtenFields more ++ rest))) := by
        simp only [written, List.cons_append, List.append_assoc]
        exact readOn_mark .openObject rfl (by decide) (awaits.take? rfl)
      have taken : ∀ place, take? (.keyOrEnd outer) ⟨.text key.toList, place⟩ =
          .ok (.colon [] key outer) := by
        intro place
        simp [take?, beginKey?]
      have whole : setFields [(key, value)] more = [(key, value)] ++ more :=
        setFields_of_nodup distinct
      rw [opened, readOn_field each.1 taken (endsValue_writtenFields more rest),
        readOn_fields each.2]
      exact congrArg (fun fields => readOn (.more (.object fields) outer) rest) whole

/-- Values without floats, with distinct keys, and with numbers that are not too long to be read. -/
inductive IsPlain : Json → Prop
  | null : IsPlain .null
  | bool (value : Bool) : IsPlain (.bool value)
  | whole {value : Int} :
      (Number.naturalDigits value.natAbs).length ≤ Number.digitLimit → IsPlain (.whole value)
  | text (value : String) : IsPlain (.text value)
  | list {items : List Json} : (∀ item ∈ items, IsPlain item) → IsPlain (.list items)
  | object {fields : List (String × Json)} : (fields.map (·.1)).Nodup →
      (∀ field ∈ fields, IsPlain field.2) → IsPlain (.object fields)

theorem IsPlain.single {key : String} {value : Json} (plain : value.IsPlain) :
    (Json.object [(key, value)]).IsPlain :=
  .object (List.nodup_singleton key) (List.forall_mem_singleton.mpr plain)

theorem isReadBack_of_isPlain {value : Json} (plain : IsPlain value) : IsReadBack value := by
  induction plain with
  | null => exact isReadBack_null
  | bool value => exact isReadBack_bool value
  | whole short => exact isReadBack_whole short
  | text value => exact isReadBack_text value
  | list _ ih => exact isReadBack_list ih
  | object distinct _ ih => exact isReadBack_object distinct ih

theorem read_written {value : Json} (plain : IsPlain value) : read (written value) = .ok value := by
  rw [read_eq_ok_iff]
  have ends : EndsValue [] := nofun
  have taken : readOn (.value []) (written value ++ []) = readOn (.more value []) [] :=
    isReadBack_of_isPlain plain (.value []) ends
  rw [List.append_nil] at taken
  unfold readValue
  change readOn (.value []) (written value) = _
  rw [taken]
  unfold readOn
  rw [lexemes_nil]
  rfl

theorem readWithin_written {value : Json} (plain : IsPlain value) {room : Nat}
    (few : (lexemes (written value)).countP (·.lexeme.opens) ≤ room) :
    readWithin room (written value) = .ok value :=
  readWithin_eq_ok_iff.mpr ⟨excess?_eq_none_of_few few, read_written plain⟩

/-! ### One line -/

def IsOneLine (text : List Char) : Prop := ∀ c ∈ text, 0x20 ≤ c.toNat

-- Decided along the text; characters are finitely many, but too many to go through.
instance (text : List Char) : Decidable (IsOneLine text) :=
  decidable_of_iff (text.all (fun c => 0x20 ≤ c.toNat) = true) (by simp [IsOneLine])

theorem isOneLine_cons {c : Char} {rest : List Char} :
    IsOneLine (c :: rest) ↔ 0x20 ≤ c.toNat ∧ IsOneLine rest := List.forall_mem_cons

theorem isOneLine_append {front rest : List Char} :
    IsOneLine (front ++ rest) ↔ IsOneLine front ∧ IsOneLine rest := List.forall_mem_append

theorem isOneLine_hexDigits (width n : Nat) : IsOneLine (hexDigits width n) := by
  induction width generalizing n with
  | zero => nofun
  | succ width ih =>
      have all : ∀ digit < 16, IsOneLine [hexDigit digit] := by decide
      exact isOneLine_append.mpr ⟨ih (n / 16), all (n % 16) (Nat.mod_lt n (by decide))⟩

theorem isOneLine_writtenChar (c : Char) : IsOneLine (writtenChar c) := by
  have slash : 0x20 ≤ backslash.toNat := by decide
  rcases writtenChar_cases c with ⟨letter, _, shown, shape⟩ | ⟨_, shape⟩ | ⟨_, _, shown, shape⟩
  · rw [shape, isOneLine_cons, isOneLine_cons]
    exact ⟨slash, shown, nofun⟩
  · rw [shape, isOneLine_cons, isOneLine_cons]
    exact ⟨slash, by decide, isOneLine_hexDigits 4 c.toNat⟩
  · rw [shape, isOneLine_cons]
    exact ⟨shown, nofun⟩

theorem isOneLine_writtenText (text : List Char) : IsOneLine (writtenText text) := by
  have quote : IsOneLine [doubleQuote] := by decide
  unfold writtenText
  rw [isOneLine_cons, isOneLine_append]
  refine ⟨by decide, ?_, quote⟩
  intro c member
  obtain ⟨source, _, among⟩ := List.mem_flatMap.mp member
  exact isOneLine_writtenChar source c among

theorem isOneLine_natural (n : Nat) : IsOneLine (Number.naturalDigits n) := by
  intro c member
  exact forall_isDigit (P := fun c => 0x20 ≤ c.toNat) (by decide)
    (Number.naturalDigits_isDigit member)

theorem isOneLine_writtenItems {items : List Json} (each : ∀ item ∈ items, IsOneLine (written item)) :
    IsOneLine (writtenItems items) := by
  induction items with
  | nil => decide
  | cons item items ih =>
      rw [List.forall_mem_cons] at each
      simp only [writtenItems, isOneLine_cons, isOneLine_append]
      exact ⟨by decide, by decide, each.1, ih each.2⟩

theorem isOneLine_writtenFields {fields : List (String × Json)}
    (each : ∀ field ∈ fields, IsOneLine (written field.2)) : IsOneLine (writtenFields fields) := by
  induction fields with
  | nil => decide
  | cons field fields ih =>
      obtain ⟨key, value⟩ := field
      rw [List.forall_mem_cons] at each
      simp only [writtenFields, isOneLine_cons, isOneLine_append]
      exact ⟨by decide, by decide, isOneLine_writtenText _, by decide, by decide, each.1, ih each.2⟩

theorem isOneLine_written {value : Json} (plain : IsPlain value) : IsOneLine (written value) := by
  induction plain with
  | null => decide
  | bool value => cases value <;> decide
  | @whole value _ =>
      cases value with
      | ofNat n =>
          simp only [written, writtenLeaf, Number.wholeText, Number.naturalText, String.toList_ofList]
          exact isOneLine_natural n
      | negSucc n =>
          simp only [written, writtenLeaf, Number.wholeText, Number.naturalText, String.toList_append,
            String.toList_ofList, isOneLine_append]
          exact ⟨by decide, isOneLine_natural (n + 1)⟩
  | text value => exact isOneLine_writtenText value.toList
  | @list items _ ih =>
      cases items with
      | nil => decide
      | cons item items =>
          rw [List.forall_mem_cons] at ih
          simp only [written, isOneLine_cons, isOneLine_append]
          exact ⟨by decide, ih.1, isOneLine_writtenItems ih.2⟩
  | @object fields _ _ ih =>
      cases fields with
      | nil => decide
      | cons field fields =>
          obtain ⟨key, value⟩ := field
          rw [List.forall_mem_cons] at ih
          simp only [written, isOneLine_cons, isOneLine_append]
          exact ⟨by decide, isOneLine_writtenText _, by decide, by decide, ih.1,
            isOneLine_writtenFields ih.2⟩

end ProjectScan.Json

import ProjectScan.Endpoint
import ProjectScan.Proofs.Spelling

/-!
The grammar of server addresses. An ASCII text without brackets resolves exactly if it is a web address
with blanks around it, and what it resolves to is the address in normal form: scheme and name in small
letters, the port as a number, and the path without its trailing slashes and its access mark.
-/

namespace ProjectScan.Address

def isUnreserved (c : Char) : Bool := c.isAlphanum || ['-', '.', '_', '~'].contains c

def isSubDelimiter (c : Char) : Bool :=
  ['!', '$', '&', '\x27', '(', ')', '*', '+', ',', ';', '='].contains c

def isNameChar (c : Char) : Bool := isUnreserved c || isSubDelimiter c

def isPathChar (c : Char) : Bool := isNameChar c || [':', '@', '/'].contains c

def isQueryChar (c : Char) : Bool := isPathChar c || c == '?'

/-- Characters that are allowed, and octets of a percent sign and two hexadecimal digits. -/
inductive Encoded (allowed : Char → Bool) : List Char → Prop where
  | nil : Encoded allowed []
  | char {c : Char} {rest : List Char} (plain : allowed c = true) (more : Encoded allowed rest) :
      Encoded allowed (c :: rest)
  | octet {high low : Char} {rest : List Char} (digits : isHexDigit high = true ∧ isHexDigit low = true)
      (more : Encoded allowed rest) : Encoded allowed ('%' :: high :: low :: rest)

theorem forall_ascii {P : Char → Prop} (all : ∀ code < 0x80, P (Char.ofNat code)) {c : Char}
    (ascii : Text.isAscii c = true) : P c := by
  rw [← Char.ofNat_toNat c]
  exact all c.toNat (of_decide_eq_true ascii)

theorem isEncoded_iff {allowed : Char → Bool} (mark : allowed '%' = false) {text : List Char} :
    isEncoded allowed text = true ↔ Encoded allowed text := by
  constructor
  · intro encoded
    fun_induction isEncoded allowed text with
    | case1 => exact .nil
    | case2 high low rest ih =>
        rw [Bool.and_eq_true, Bool.and_eq_true] at encoded
        exact .octet encoded.1 (ih encoded.2)
    | case3 c rest _ ih =>
        rw [Bool.and_eq_true, Bool.and_eq_true] at encoded
        exact .char encoded.1.2 (ih encoded.2)
  · intro encoded
    induction encoded with
    | nil => rfl
    | @char c rest plain _ ih =>
        have other : c ≠ '%' := by
          rintro rfl
          rw [mark] at plain
          cases plain
        rw [isEncoded.eq_3 _ _ _ fun _ _ _ same => absurd same other, plain, ih, decide_eq_true other]
        rfl
    | octet digits _ ih =>
        rw [isEncoded, digits.1, digits.2, ih]
        rfl

theorem isEncoded_append {allowed : Char → Bool} {front : List Char} (free : '%' ∉ front)
    (rest : List Char) :
    isEncoded allowed (front ++ rest) = (front.all allowed && isEncoded allowed rest) := by
  induction front with
  | nil => rfl
  | cons c front ih =>
      have other : c ≠ '%' := fun same => free (same ▸ List.mem_cons_self)
      rw [List.cons_append, isEncoded.eq_3 _ _ _ fun _ _ _ same => absurd same other,
        ih fun member => free (List.mem_cons_of_mem _ member), decide_eq_true other, List.all_cons,
        Bool.true_and, Bool.and_assoc]

theorem Encoded.mem {allowed : Char → Bool} {text : List Char} (encoded : Encoded allowed text)
    {c : Char} (member : c ∈ text) : allowed c = true ∨ c = '%' ∨ isHexDigit c = true := by
  induction encoded with
  | nil => exact absurd member List.not_mem_nil
  | char plain _ ih =>
      rcases List.mem_cons.mp member with rfl | later
      · exact .inl plain
      · exact ih later
  | octet digits _ ih =>
      simp only [List.mem_cons] at member
      rcases member with rfl | rfl | rfl | later
      · exact .inr (.inl rfl)
      · exact .inr (.inr digits.1)
      · exact .inr (.inr digits.2)
      · exact ih later

theorem isPlain_eq (c : Char) : isPlain c = isNameChar c := by
  unfold isPlain isNameChar isUnreserved isSubDelimiter isAsciiLetter Char.isAlphanum
  simp only [List.contains_cons, List.contains_nil, Bool.or_assoc, Bool.or_false]

theorem isComponentChar_eq (c : Char) : isComponentChar c = isQueryChar c := by
  unfold isComponentChar isQueryChar isPathChar
  rw [isPlain_eq]
  simp only [List.contains_cons, List.contains_nil, Bool.or_assoc, Bool.or_false,
    Bool.beq_eq_decide_eq]

theorem Encoded.imp {allowed other : Char → Bool} {text : List Char} (encoded : Encoded allowed text)
    (implies : ∀ c ∈ text, allowed c = true → other c = true) : Encoded other text := by
  induction encoded with
  | nil => exact .nil
  | char plain _ ih =>
      refine .char (implies _ List.mem_cons_self plain) (ih ?_)
      exact fun c member => implies c (List.mem_cons_of_mem _ member)
  | octet digits _ ih =>
      refine .octet digits (ih fun c member => implies c ?_)
      exact List.mem_cons_of_mem _ (List.mem_cons_of_mem _ (List.mem_cons_of_mem _ member))

theorem Encoded.append {allowed : Char → Bool} {front rest : List Char}
    (first : Encoded allowed front) (second : Encoded allowed rest) :
    Encoded allowed (front ++ rest) := by
  induction first with
  | nil => exact second
  | char plain _ ih => exact .char plain ih
  | octet digits _ ih => exact .octet digits ih

theorem Encoded.notMem {allowed : Char → Bool} {text : List Char} (encoded : Encoded allowed text)
    {mark : Char} (other : allowed mark = false ∧ mark ≠ '%' ∧ isHexDigit mark = false) :
    mark ∉ text := by
  intro member
  rcases encoded.mem member with plain | same | digit
  · rw [other.1] at plain
    cases plain
  · exact other.2.1 same
  · rw [other.2.2] at digit
    cases digit

theorem isPathChar_of_isQueryChar {c : Char} (known : isQueryChar c = true) (other : c ≠ '?') :
    isPathChar c = true := by
  unfold isQueryChar at known
  rwa [beq_eq_false_iff_ne.mpr other, Bool.or_false] at known

theorem isQueryChar_of_isPathChar {c : Char} (known : isPathChar c = true) :
    isQueryChar c = true := by
  unfold isQueryChar
  rw [known, Bool.true_or]

theorem isQueryChar_of_isNameChar {c : Char} (known : isNameChar c = true) :
    isQueryChar c = true := by
  apply isQueryChar_of_isPathChar
  unfold isPathChar
  rw [known, Bool.true_or]

theorem isNameChar_of_isAlphanum {c : Char} (known : c.isAlphanum = true) : isNameChar c = true := by
  unfold isNameChar isUnreserved
  rw [known]
  rfl

def IsAddressChar (c : Char) : Prop :=
  isQueryChar c = true ∨ c = '%' ∨ isHexDigit c = true ∨ c = '#'

instance (c : Char) : Decidable (IsAddressChar c) :=
  inferInstanceAs (Decidable (_ ∨ _ ∨ _ ∨ _))

theorem isShown_of_isAddressChar {c : Char} (ascii : Text.isAscii c = true)
    (known : IsAddressChar c) : isShown c = true :=
  forall_ascii (P := fun c => IsAddressChar c → isShown c = true) (by decide +kernel) ascii known

theorem Encoded.isAddressChar {text : List Char} (encoded : Encoded isQueryChar text) {c : Char}
    (member : c ∈ text) : IsAddressChar c := by
  rcases encoded.mem member with plain | mark | digit
  · exact .inl plain
  · exact .inr (.inl mark)
  · exact .inr (.inr (.inl digit))

theorem isComponent_iff (text : List Char) : isComponent text = true ↔ Encoded isQueryChar text := by
  have mark : isComponentChar '%' = false := by decide
  unfold isComponent
  rw [isEncoded_iff mark, funext isComponentChar_eq]

theorem componentFault?_eq_none_iff (parts : Parts) :
    componentFault? parts = none ↔ Encoded isQueryChar parts.path ∧
      Encoded isQueryChar parts.query ∧ Encoded isQueryChar parts.fragment := by
  simp only [← isComponent_iff]
  unfold componentFault?
  cases isComponent parts.path <;> cases isComponent parts.query <;>
    cases isComponent parts.fragment <;> decide

/-! ### Host names -/

/-- A name in which every label has 1 to 63 characters. The last label may be empty, though not as the
only one, since the name is not empty. -/
structure IsHostName (name : List Char) : Prop where
  given : name ≠ []
  chars : Encoded isNameChar name
  short : ∀ label ∈ name.splitOn '.', label.length ≤ 63
  solid : ∀ label ∈ (name.splitOn '.').dropLast, label ≠ []

def loweredName (name : List Char) : List Char :=
  (name.takeWhile (· != '%')).map Char.toLower ++ name.dropWhile (· != '%')

theorem pieces_eq_splitOn (mark : Char) (text : List Char) :
    Text.pieces (· == mark) text = text.splitOn mark := by
  rw [List.splitOn_eq_splitOnP]
  induction text with
  | nil => rfl
  | cons c rest ih =>
      rw [Text.pieces, List.splitOnP_cons_eq_if_modifyHead, ih]
      cases pieces : rest.splitOnP (· == mark) with
      | nil => exact absurd pieces (List.splitOnP_ne_nil _ rest)
      | cons piece more => rfl

theorem length_pieces {isMark : Char → Bool} {text other : List Char}
    (places : text.map isMark = other.map isMark) :
    (Text.pieces isMark text).map List.length = (Text.pieces isMark other).map List.length := by
  induction text generalizing other with
  | nil => rw [List.map_eq_nil_iff.mp places.symm]
  | cons c rest ih =>
      obtain ⟨d, others, rfl, same, places⟩ := List.map_eq_cons_iff.mp places.symm
      have lengths := ih places.symm
      unfold Text.pieces
      rw [same]
      by_cases marked : isMark c = true
      · rw [if_pos marked, if_pos marked, List.map_cons, List.map_cons, lengths]
      · rw [if_neg marked, if_neg marked]
        cases left : Text.pieces isMark rest with
        | nil => exact absurd left (Text.pieces_ne_nil isMark rest)
        | cons first more =>
            cases right : Text.pieces isMark others with
            | nil => exact absurd right (Text.pieces_ne_nil isMark others)
            | cons second further =>
                rw [left, right, List.map_cons, List.map_cons] at lengths
                obtain ⟨head, tail⟩ := List.cons_eq_cons.mp lengths
                simp only [List.map_cons, List.length_cons, head, tail]

theorem labelsFit_iff (labels : List (List Char)) :
    labelsFit labels = true ↔
      (∀ label ∈ labels, label.length ≤ 63) ∧ ∀ label ∈ labels.dropLast, label ≠ [] := by
  fun_induction labelsFit labels with
  | case1 => simp
  | case2 last => simp [Nat.lt_succ_iff]
  | case3 label next rest ih =>
      rw [Bool.and_eq_true, ih, List.dropLast_cons_cons]
      simp only [List.forall_mem_cons, Bool.and_eq_true, decide_eq_true_eq, List.length_pos_iff,
        Nat.lt_succ_iff]
      tauto

theorem labelsFit_congr {labels others : List (List Char)}
    (lengths : labels.map List.length = others.map List.length) :
    labelsFit labels = labelsFit others := by
  fun_induction labelsFit labels generalizing others with
  | case1 => rw [List.map_eq_nil_iff.mp lengths.symm, labelsFit]
  | case2 last =>
      obtain ⟨other, more, rfl, same, none⟩ := List.map_eq_cons_iff.mp lengths.symm
      rw [List.map_eq_nil_iff.mp none, labelsFit, same]
  | case3 label next rest ih =>
      obtain ⟨other, more, rfl, same, lengths⟩ := List.map_eq_cons_iff.mp lengths.symm
      rw [ih lengths.symm]
      obtain ⟨second, further, rfl, -, -⟩ := List.map_eq_cons_iff.mp lengths
      rw [labelsFit, same]

section Lowering

variable {c : Char} (ascii : Text.isAscii c = true)
include ascii

/-- Small letters keep their place in the grammar: names and marks stay what they are. -/
theorem toLower_keeps : isPlain c.toLower = isPlain c ∧ (c.toLower == '.') = (c == '.') ∧
    (c.toLower == '%') = (c == '%') ∧ Text.isAscii c.toLower = true :=
  forall_ascii (P := fun c => isPlain c.toLower = isPlain c ∧ (c.toLower == '.') = (c == '.') ∧
    (c.toLower == '%') = (c == '%') ∧ Text.isAscii c.toLower = true) (by decide +kernel) ascii

end Lowering

section Names

variable {name : List Char} (ascii : ∀ c ∈ name, Text.isAscii c = true)
include ascii

theorem smallHost_ascii : smallHost name = loweredName name := by
  have before : ∀ c ∈ (Text.cutFirst '%' name).1, Text.isAscii c = true :=
    fun c member => ascii c (Text.mem_of_mem_cutFirst member)
  have goes {text : List Char} (free : '%' ∉ text) (c : Char) (member : c ∈ text) :
      (c != '%') = true := bne_iff_ne.mpr fun same => free (same ▸ member)
  unfold smallHost loweredName
  rw [Text.small_ascii _ before]
  rcases Text.cutFirst_cases '%' name with ⟨cut, free⟩ | ⟨front, zone, cut, free, shape⟩
  · rw [cut, List.takeWhile_eq_self_iff.mpr (goes free), List.dropWhile_eq_nil_iff.mpr (goes free)]
  · rw [cut, shape, List.takeWhile_append_of_pos (goes free), List.dropWhile_append_of_pos (goes free),
      List.takeWhile_cons, List.dropWhile_cons, bne_self_eq_false, if_neg Bool.false_ne_true,
      if_neg Bool.false_ne_true, List.append_nil]

theorem map_loweredName {β : Type} (f : Char → β)
    (keeps : ∀ c, Text.isAscii c = true → f c.toLower = f c) :
    (loweredName name).map f = name.map f := by
  have front : ((name.takeWhile (· != '%')).map Char.toLower).map f =
      (name.takeWhile (· != '%')).map f := by
    rw [List.map_map]
    refine List.map_congr_left fun c member => keeps c (ascii c ?_)
    exact (List.takeWhile_prefix _).subset member
  unfold loweredName
  rw [List.map_append, front, ← List.map_append, List.takeWhile_append_dropWhile]

theorem isEncoded_loweredName :
    isEncoded isPlain (loweredName name) = isEncoded isPlain name := by
  have free : '%' ∉ name.takeWhile (· != '%') := by
    intro member
    have goes := List.mem_takeWhile_imp member
    cases goes
  have before (c : Char) (member : c ∈ name.takeWhile (· != '%')) : Text.isAscii c = true :=
    ascii c ((List.takeWhile_prefix _).subset member)
  have freeToo : '%' ∉ (name.takeWhile (· != '%')).map Char.toLower := by
    intro member
    obtain ⟨c, among, lower⟩ := List.mem_map.mp member
    have same := (toLower_keeps (before c among)).2.2.1
    rw [lower, beq_self_eq_true] at same
    exact free (eq_of_beq same.symm ▸ among)
  have letters : ((name.takeWhile (· != '%')).map Char.toLower).all isPlain =
      (name.takeWhile (· != '%')).all isPlain := by
    rw [List.all_map, Bool.eq_iff_iff, List.all_eq_true, List.all_eq_true]
    refine forall₂_congr fun c member => ?_
    rw [Function.comp_apply, (toLower_keeps (before c member)).1]
  unfold loweredName
  rw [isEncoded_append freeToo, letters, ← isEncoded_append free, List.takeWhile_append_dropWhile]

theorem isAscii_loweredName : (loweredName name).all Text.isAscii = true := by
  rw [List.all_eq_true]
  intro c member
  rcases List.mem_append.mp member with small | zone
  · obtain ⟨d, among, rfl⟩ := List.mem_map.mp small
    exact (toLower_keeps (ascii d ((List.takeWhile_prefix _).subset among))).2.2.2
  · exact ascii c ((List.dropWhile_suffix _).subset zone)

theorem labelsFit_loweredName :
    labelsFit (Text.pieces (· == '.') (loweredName name)) = labelsFit (name.splitOn '.') := by
  have places := map_loweredName ascii (· == '.') fun c ascii => (toLower_keeps ascii).2.1
  rw [labelsFit_congr (length_pieces places), pieces_eq_splitOn]

theorem loweredName_eq_nil_iff : loweredName name = [] ↔ name = [] := by
  have same := map_loweredName ascii (fun _ => ()) fun _ _ => rfl
  rw [← List.map_eq_nil_iff (f := fun _ : Char => ()), same, List.map_eq_nil_iff]

theorem siteHost_eq_ok_iff {host : List Char} :
    siteHost (smallHost name) false = .ok host ↔ host = loweredName name ∧ IsHostName name := by
  have mark : isPlain '%' = false := by decide
  have chars : isEncoded isPlain name = true ↔ Encoded isNameChar name := by
    rw [isEncoded_iff mark, funext isPlain_eq]
  have registered : isRegisteredName (loweredName name) = true ↔
      name ≠ [] ∧ Encoded isNameChar name := by
    unfold isRegisteredName
    rw [isEncoded_loweredName ascii, Bool.and_eq_true, Bool.not_eq_true', List.isEmpty_eq_false_iff,
      ne_eq, loweredName_eq_nil_iff ascii, chars]
  have labels := labelsFit_iff (name.splitOn '.')
  rw [← labelsFit_loweredName ascii] at labels
  rw [smallHost_ascii ascii]
  unfold siteHost asciiName?
  rw [if_neg Bool.false_ne_true, if_pos (isAscii_loweredName ascii)]
  constructor
  · intro accepted
    split at accepted
    · cases accepted
    · rename_i found named
      split at named
      · rename_i fits
        obtain ⟨short, solid⟩ := labels.mp fits
        cases named
        split at accepted
        · rename_i isName
          obtain ⟨given, chars⟩ := registered.mp isName
          exact ⟨(Except.ok.inj accepted).symm, given, chars, short, solid⟩
        · cases accepted
      · cases named
  · rintro ⟨rfl, isHost⟩
    rw [if_pos (labels.mpr ⟨isHost.short, isHost.solid⟩)]
    dsimp only
    rw [if_pos (registered.mpr ⟨isHost.given, isHost.chars⟩)]

end Names

structure IsPortText (digits : List Char) : Prop where
  decimal : ∀ c ∈ digits, c.isDigit = true
  short : digits.length ≤ 4300
  range : Nat.ofDigitChars 10 digits 0 ≤ 65535

def portNumber? (digits : List Char) : Option Nat :=
  if digits = [] then none else some (Nat.ofDigitChars 10 digits 0)

theorem IsPortText.nil : IsPortText [] :=
  ⟨fun _ member => absurd member List.not_mem_nil, by decide, by decide⟩

theorem Parts.port_eq_ok_iff {parts : Parts} {port : Option Nat} :
    parts.port = .ok port ↔ IsPortText (hostAndPort parts.authority).2 ∧
      port = portNumber? (hostAndPort parts.authority).2 := by
  unfold Parts.port portNumber? Number.readDigits
  generalize (hostAndPort parts.authority).2 = digits
  cases digits with
  | nil =>
      rw [if_pos rfl]
      exact ⟨fun found => ⟨.nil, (Except.ok.inj found).symm⟩, fun found => congrArg _ found.2.symm⟩
  | cons first more =>
      rw [if_neg (List.cons_ne_nil first more)]
      constructor
      · intro found
        dsimp only at found
        split at found
        · cases found
        · rename_i digits
          rw [Bool.not_eq_true, Bool.not_eq_false', List.all_eq_true] at digits
          by_cases short : (first :: more).length ≤ Number.digitLimit
          · rw [if_pos short] at found
            dsimp only at found
            split at found
            · cases found
            · rename_i range
              exact ⟨⟨digits, short, Nat.not_lt.mp range⟩, (Except.ok.inj found).symm⟩
          · rw [if_neg short] at found
            cases found
      · rintro ⟨⟨digits, short, range⟩, rfl⟩
        dsimp only
        have within : (first :: more).length ≤ Number.digitLimit := short
        rw [List.all_eq_true.mpr digits, if_pos within]
        exact if_neg (Nat.not_lt.mpr range)

theorem hostAndPort_bare {authority : List Char} (noUser : '@' ∉ authority)
    (bare : '[' ∉ authority) :
    hostAndPort authority =
      ((Text.cutFirst ':' authority).1, (Text.cutFirst ':' authority).2.getD []) := by
  unfold hostAndPort
  rw [Text.afterLast_of_notMem noUser]
  dsimp only
  rw [Text.cutFirst_of_notMem bare]

theorem checkLookalikes_ascii {authority : List Char}
    (ascii : ∀ c ∈ authority, Text.isAscii c = true) : checkLookalikes authority = .ok () := by
  have high : ∀ code ∈ lookalikes, ¬code < 0x80 := by decide
  have unlike : authority.any (fun c => lookalikes.contains c.toNat) = false := by
    rw [List.any_eq_false]
    intro c member listed
    exact high _ (List.contains_iff_mem.mp listed) (of_decide_eq_true (ascii c member))
  unfold checkLookalikes
  rw [unlike]
  rfl

/-- What a path comes down to: it loses the slashes at its end, then one access mark, and with it the
slashes before the mark. -/
inductive ComesDownTo : List Char → List Char → Prop where
  | plain {path : List Char} (slashes : Nat) (solid : ¬['/'] <:+ path)
      (unmarked : ¬['/', 'a'] <:+ path) :
      ComesDownTo (path ++ List.replicate slashes '/') path
  | marked {path : List Char} (before after : Nat) (solid : ¬['/'] <:+ path) :
      ComesDownTo (path ++ List.replicate before '/' ++ ['/', 'a'] ++ List.replicate after '/') path

theorem trimSlashes_append (path : List Char) (slashes : Nat) :
    trimSlashes (path ++ List.replicate slashes '/') = trimSlashes path := by
  induction slashes with
  | zero => rw [List.replicate_zero, List.append_nil]
  | succ slashes ih => rw [List.replicate_succ', ← List.append_assoc, trimSlashes_concat, ih]

theorem comesDownTo_iff {path base : List Char} : ComesDownTo path base ↔ sitePath path = base := by
  constructor
  · rintro (⟨slashes, solid, unmarked⟩ | ⟨before, after, solid⟩)
    · have trims : trimSlashes (base ++ List.replicate slashes '/') = base := by
        rw [trimSlashes_append, trimSlashes_eq_self solid]
      have noMark : ¬accessMark.isSuffixOf base = true :=
        fun mark => unmarked (List.isSuffixOf_iff_suffix.mp mark)
      unfold sitePath
      rw [trims, if_neg noMark]
    · have ends : ¬['/'] <:+ base ++ List.replicate before '/' ++ accessMark := by
        rintro ⟨front, shape⟩
        have last := congrArg List.getLast? shape
        rw [List.getLast?_append, List.getLast?_append] at last
        cases last
      have trims : trimSlashes (base ++ List.replicate before '/' ++ ['/', 'a'] ++
          List.replicate after '/') = base ++ List.replicate before '/' ++ accessMark := by
        rw [trimSlashes_append]
        exact trimSlashes_eq_self ends
      have mark : accessMark.isSuffixOf (base ++ List.replicate before '/' ++ accessMark) = true :=
        List.isSuffixOf_iff_suffix.mpr ⟨_, rfl⟩
      have cut : List.take ((base ++ List.replicate before '/' ++ accessMark).length - 2)
          (base ++ List.replicate before '/' ++ accessMark) = base ++ List.replicate before '/' := by
        rw [List.length_append]
        exact List.take_left
      unfold sitePath
      rw [trims]
      dsimp only
      rw [if_pos mark, cut, trimSlashes_append, trimSlashes_eq_self solid]
  · rintro rfl
    obtain ⟨slashes, shape⟩ := exists_slashes path
    rcases sitePath_cases path with ⟨unmarked, same⟩ | ⟨before, solid, marked⟩
    · rw [same]
      have plain := ComesDownTo.plain slashes (slash_not_suffix path) unmarked
      rwa [← shape] at plain
    · have down := ComesDownTo.marked before slashes solid
      change ComesDownTo (_ ++ accessMark ++ _) _ at down
      rwa [← marked, ← shape] at down

/-! ### Web addresses -/

structure WebAddress where
  scheme : List Char
  host : List Char
  port : Option (List Char)
  path : List Char
  query : Option (List Char)
  fragment : Option (List Char)

namespace WebAddress

def text (address : WebAddress) : List Char :=
  address.scheme ++ [':', '/', '/'] ++ address.host ++ marked ':' address.port ++ address.path ++
    marked '?' address.query ++ marked '#' address.fragment

structure IsWellFormed (address : WebAddress) : Prop where
  scheme : address.scheme.map Char.toLower = ['h', 't', 't', 'p'] ∨
    address.scheme.map Char.toLower = ['h', 't', 't', 'p', 's']
  host : IsHostName address.host
  port : ∀ digits, address.port = some digits → IsPortText digits
  slash : address.path = [] ∨ address.path.head? = some '/'
  path : Encoded isPathChar address.path
  query : ∀ query, address.query = some query → Encoded isQueryChar query
  fragment : ∀ fragment, address.fragment = some fragment → Encoded isQueryChar fragment

/-- The address stands in the text with nothing but blanks around it. -/
def StandsIn (address : WebAddress) (text : List Char) : Prop :=
  ∃ before after, text = before ++ address.text ++ after ∧
    (∀ c ∈ before, Text.isBlank c = true) ∧ ∀ c ∈ after, Text.isBlank c = true

def decimalPort : List Char → List Char
  | [] => []
  | digits => ':' :: Nat.toDigits 10 (Nat.ofDigitChars 10 digits 0)

/-- The address in normal form, with what its path comes down to. -/
def normalText (address : WebAddress) (path : List Char) : List Char :=
  address.scheme.map Char.toLower ++ [':', '/', '/'] ++ loweredName address.host ++
    decimalPort (address.port.getD []) ++ path

def spelling (address : WebAddress) : Spelling :=
  ⟨address.scheme, address.host ++ marked ':' address.port, address.path, address.query,
    address.fragment⟩

def site (address : WebAddress) : Site :=
  ⟨address.scheme.map Char.toLower, loweredName address.host,
    portNumber? (address.port.getD []), sitePath address.path⟩

variable {address : WebAddress}

theorem spelling_text : address.spelling.text = address.text := by
  unfold Spelling.text Spelling.tail spelling text
  simp only [List.append_assoc, List.cons_append, List.nil_append]

theorem site_text : address.site.text = address.normalText (sitePath address.path) := by
  unfold Site.text normalText site portNumber?
  cases address.port.getD [] with
  | nil => simp only [decimalPort, List.append_assoc, List.cons_append, List.nil_append, if_true]
  | cons first more =>
      simp only [decimalPort, Number.naturalDigits, List.append_assoc, List.cons_append,
        List.nil_append, reduceCtorEq, if_false]

theorem mem_text {c : Char} : c ∈ address.text ↔ c ∈ address.scheme ∨ c = ':' ∨ c = '/' ∨
    c ∈ address.host ∨ c ∈ marked ':' address.port ∨ c ∈ address.path ∨
      c ∈ marked '?' address.query ∨ c ∈ marked '#' address.fragment := by
  unfold text
  simp only [List.mem_append, List.mem_cons, List.not_mem_nil, or_false, or_assoc]
  tauto

namespace IsWellFormed

variable (wellFormed : address.IsWellFormed)
include wellFormed

theorem served : address.scheme.map Char.toLower ∈ servedSchemes := by
  rcases wellFormed.scheme with plain | secure
  · rw [plain]
    decide
  · rw [secure]
    decide

theorem notMem_authority {mark : Char} (other : isNameChar mark = false ∧ mark ≠ '%' ∧
      isHexDigit mark = false ∧ mark ≠ ':' ∧ mark.isDigit = false) :
    mark ∉ address.host ++ marked ':' address.port := by
  intro member
  rcases List.mem_append.mp member with host | port
  · exact wellFormed.host.chars.notMem ⟨other.1, other.2.1, other.2.2.1⟩ host
  · obtain ⟨digits, given, same | digit⟩ := mem_marked.mp port
    · exact other.2.2.2.1 same
    · have decimal := (wellFormed.port digits given).decimal mark digit
      rw [other.2.2.2.2] at decimal
      cases decimal

theorem isSound : address.spelling.IsSound where
  scheme := wellFormed.served
  authority := by
    intro c member
    by_contra ends
    unfold endsAuthority at ends
    simp only [Bool.not_eq_false, Bool.or_eq_true, decide_eq_true_eq] at ends
    rcases ends with (rfl | rfl) | rfl
    · exact wellFormed.notMem_authority (by decide) member
    · exact wellFormed.notMem_authority (by decide) member
    · exact wellFormed.notMem_authority (by decide) member
  slash := wellFormed.slash
  path := ⟨wellFormed.path.notMem (by decide), wellFormed.path.notMem (by decide)⟩
  query := fun query given => (wellFormed.query query given).notMem (by decide)

theorem isAddressChar {c : Char} (member : c ∈ address.text) : IsAddressChar c := by
  have letter {c : Char} (known : c.isAlphanum = true) : IsAddressChar c :=
    .inl (isQueryChar_of_isNameChar (isNameChar_of_isAlphanum known))
  rcases mem_text.mp member with scheme | rfl | rfl | host | port | path | query | fragment
  · apply letter
    unfold Char.isAlphanum
    rw [isAlpha_of_served wellFormed.served c scheme, Bool.true_or]
  · decide
  · decide
  · exact (wellFormed.host.chars.imp fun c _ => isQueryChar_of_isNameChar).isAddressChar host
  · obtain ⟨digits, given, rfl | digit⟩ := mem_marked.mp port
    · decide
    · apply letter
      unfold Char.isAlphanum
      rw [(wellFormed.port digits given).decimal c digit, Bool.or_true]
  · exact (wellFormed.path.imp fun c _ => isQueryChar_of_isPathChar).isAddressChar path
  · obtain ⟨query, given, rfl | inside⟩ := mem_marked.mp query
    · decide
    · exact (wellFormed.query query given).isAddressChar inside
  · obtain ⟨fragment, given, rfl | inside⟩ := mem_marked.mp fragment
    · decide
    · exact (wellFormed.fragment fragment given).isAddressChar inside

theorem hostAndPort_eq :
    hostAndPort address.spelling.authority = (address.host, address.port.getD []) := by
  have noUser : '@' ∉ address.spelling.authority := wellFormed.notMem_authority (by decide)
  have bare : '[' ∉ address.spelling.authority := wellFormed.notMem_authority (by decide)
  have colon : ':' ∉ address.host := wellFormed.host.chars.notMem (by decide)
  rw [hostAndPort_bare noUser bare, spelling, Spelling.cutFirst_marked colon]

theorem port_eq : address.spelling.parts.port = .ok address.site.port := by
  apply Parts.port_eq_ok_iff.mpr
  have cut := wellFormed.hostAndPort_eq
  unfold Spelling.parts
  rw [cut]
  refine ⟨?_, rfl⟩
  cases given : address.port with
  | none => exact .nil
  | some digits => exact wellFormed.port digits given

section Reading

variable (ascii : ∀ c ∈ address.text, Text.isAscii c = true)
include ascii

theorem isShown : ∀ c ∈ address.text, isShown c = true :=
  fun c member => isShown_of_isAddressChar (ascii c member) (wellFormed.isAddressChar member)

theorem split_text : split address.text = .ok address.spelling.parts := by
  have opened : '[' ∉ address.spelling.authority := wellFormed.notMem_authority (by decide)
  have closed : ']' ∉ address.spelling.authority := wellFormed.notMem_authority (by decide)
  have brackets : checkBrackets address.spelling.authority = .ok () := by
    unfold checkBrackets
    exact if_neg fun either => either.elim opened closed
  have unlike : checkLookalikes address.spelling.authority = .ok () := by
    apply checkLookalikes_ascii
    intro c member
    apply ascii
    have parts := List.mem_append.mp member
    exact mem_text.mpr (by tauto)
  rw [← spelling_text]
  apply Spelling.split_spelled wellFormed.isSound _ brackets unlike
  rw [spelling_text]
  exact wellFormed.isShown ascii

theorem readFrom : address.site.ReadFrom address.spelling.parts where
  scheme := wellFormed.served
  noUser := wellFormed.notMem_authority (by decide)
  named := by
    have name : ∀ c ∈ address.host, Text.isAscii c = true :=
      fun c member => ascii c (mem_text.mpr (by tauto))
    rw [Parts.host_eq, Spelling.parts, wellFormed.hostAndPort_eq, smallHost_ascii name, ne_eq,
      loweredName_eq_nil_iff name]
    exact wellFormed.host.given
  brackets := fun opened => absurd opened (wellFormed.notMem_authority (by decide))
  host := by
    have name : ∀ c ∈ address.host, Text.isAscii c = true :=
      fun c member => ascii c (mem_text.mpr (by tauto))
    have bare : decide ('[' ∈ address.spelling.parts.authority) = false :=
      decide_eq_false (wellFormed.notMem_authority (by decide))
    rw [bare, Parts.host_eq, Spelling.parts, wellFormed.hostAndPort_eq]
    exact (siteHost_eq_ok_iff name).mpr ⟨rfl, wellFormed.host⟩
  components := by
    have optional {part : Option (List Char)}
        (encoded : ∀ text, part = some text → Encoded isQueryChar text) :
        Encoded isQueryChar (part.getD []) := by
      cases part with
      | none => exact .nil
      | some text => exact encoded text rfl
    apply (componentFault?_eq_none_iff _).mpr
    exact ⟨wellFormed.path.imp fun c _ => isQueryChar_of_isPathChar, optional wellFormed.query,
      optional wellFormed.fragment⟩
  same := rfl

theorem siteOf_text : siteOf address.text = .ok address.site :=
  siteOf_eq_ok_iff.mpr ⟨wellFormed.isShown ascii, address.spelling.parts,
    wellFormed.split_text ascii, wellFormed.port_eq, wellFormed.readFrom ascii⟩

end Reading

end IsWellFormed

theorem exists_of_siteOf {text : List Char} {site : Site} (reads : siteOf text = .ok site)
    (ascii : ∀ c ∈ text, Text.isAscii c = true) (bare : '[' ∉ text) :
    ∃ address : WebAddress, address.IsWellFormed ∧ address.text = text := by
  obtain ⟨spelling, sound, rfl, ported, readFrom⟩ := exists_spelling_of_siteOf reads
  have inside {c : Char} (member : c ∈ spelling.authority) : c ∈ spelling.text := by
    unfold Spelling.text
    simp only [List.mem_append, List.mem_cons]
    tauto
  cases cut : Text.cutFirst ':' spelling.authority with
  | mk host port =>
      have unopened : '[' ∉ spelling.authority := fun member => bare (inside member)
      have hostAndPort : hostAndPort spelling.parts.authority = (host, port.getD []) := by
        rw [hostAndPort_bare readFrom.noUser unopened]
        change ((Text.cutFirst ':' spelling.authority).1,
          (Text.cutFirst ':' spelling.authority).2.getD []) = _
        rw [cut]
      obtain ⟨-, shape⟩ := Spelling.eq_marked_of_cutFirst cut
      have name : ∀ c ∈ host, Text.isAscii c = true := by
        intro c member
        apply ascii c (inside _)
        rw [shape]
        exact List.mem_append_left _ member
      obtain ⟨path, query, fragment⟩ := (componentFault?_eq_none_iff _).mp readFrom.components
      refine ⟨⟨spelling.scheme, host, port, spelling.path, spelling.query, spelling.fragment⟩,
        ⟨served_cases sound.scheme, ?_, ?_, sound.slash, ?_, ?_, ?_⟩, ?_⟩
      · have accepted := readFrom.host
        rw [Parts.host_eq, hostAndPort] at accepted
        have bracketless : decide ('[' ∈ spelling.parts.authority) = false := decide_eq_false unopened
        rw [bracketless] at accepted
        exact ((siteHost_eq_ok_iff name).mp accepted).2
      · rintro digits rfl
        have isPort := (Parts.port_eq_ok_iff.mp ported).1
        rwa [hostAndPort] at isPort
      · refine path.imp fun c member known => isPathChar_of_isQueryChar known ?_
        rintro rfl
        exact sound.path.1 member
      · intro text given
        have same : spelling.query = some text := given
        rwa [Spelling.parts, same] at query
      · intro text given
        have same : spelling.fragment = some text := given
        rwa [Spelling.parts, same] at fragment
      · rw [← spelling_text]
        unfold WebAddress.spelling
        rw [← shape]

end WebAddress

end Address

/-! ### Resolving -/

namespace Endpoint

open Address

section Grammar

variable {typed : String} (ascii : ∀ c ∈ typed.toList, c.toNat < 128)

include ascii

theorem resolve_of_standsIn {address : WebAddress} (wellFormed : address.IsWellFormed)
    (stands : address.StandsIn typed.toList) :
    resolve (some typed) = .ok ⟨String.ofList address.text,
      String.ofList (address.normalText (sitePath address.path)),
      String.ofList (address.normalText (sitePath address.path) ++ ['/', 'a'])⟩ := by
  obtain ⟨before, after, shape, front, ending⟩ := stands
  have letters : ∀ c ∈ address.text, Text.isAscii c = true := by
    intro c member
    refine decide_eq_true (ascii c ?_)
    rw [shape]
    exact List.mem_append_left _ (List.mem_append_right _ member)
  have trims : Text.trim typed.toList = address.text := by
    rw [shape]
    exact Text.trim_append front
      (fun c member => (isShown_iff.mp (wellFormed.isShown letters c member)).1) ending
  apply resolve_eq_ok_iff.mpr
  rw [Option.getD_some, trims, ← WebAddress.site_text]
  exact ⟨address.site, wellFormed.siteOf_text letters, rfl⟩

/-- An ASCII text without brackets resolves exactly if a web address stands in it, and then to the
normal form of this address. -/
theorem resolves_iff_grammar
    (bare : '[' ∉ typed.toList ∧ ']' ∉ typed.toList) :
    ((∃ endpoint, resolve (some typed) = .ok endpoint) ↔
      ∃ address : WebAddress, address.IsWellFormed ∧ address.StandsIn typed.toList) ∧
    ∀ address : WebAddress, address.IsWellFormed → address.StandsIn typed.toList →
      ∃ path, ComesDownTo address.path path ∧
        resolve (some typed) = .ok ⟨String.ofList address.text,
          String.ofList (address.normalText path),
          String.ofList (address.normalText path ++ ['/', 'a'])⟩ := by
  obtain ⟨before, after, shape, blanks⟩ := Text.exists_blanks typed.toList
  have inside {c : Char} (member : c ∈ Text.trim typed.toList) : c ∈ typed.toList := by
    rw [shape]
    exact List.mem_append_left _ (List.mem_append_right _ member)
  refine ⟨⟨?_, ?_⟩, ?_⟩
  · rintro ⟨endpoint, resolves⟩
    obtain ⟨site, reads, -⟩ := resolve_eq_ok_iff.mp resolves
    obtain ⟨address, wellFormed, text⟩ := WebAddress.exists_of_siteOf reads
      (fun c member => decide_eq_true (ascii c (inside member))) fun member => bare.1 (inside member)
    refine ⟨address, wellFormed, before, after, ?_, blanks⟩
    rw [text]
    exact shape
  · rintro ⟨address, wellFormed, stands⟩
    exact ⟨_, resolve_of_standsIn ascii wellFormed stands⟩
  · intro address wellFormed stands
    exact ⟨sitePath address.path, comesDownTo_iff.mpr rfl,
      resolve_of_standsIn ascii wellFormed stands⟩

end Grammar

theorem resolves_iff_grammar_typed :
    resolve (some " HTTPS://Git.Example:0443/r//a/?q#f ") = .ok
      ⟨"HTTPS://Git.Example:0443/r//a/?q#f", "https://git.example:443/r",
        "https://git.example:443/r/a"⟩ ∧
    ∃ address : WebAddress, address.IsWellFormed ∧
      address.StandsIn " HTTPS://Git.Example:0443/r//a/?q#f ".toList ∧
      ∃ path, ComesDownTo address.path path ∧
        resolve (some " HTTPS://Git.Example:0443/r//a/?q#f ") = .ok ⟨String.ofList address.text,
          String.ofList (address.normalText path),
          String.ofList (address.normalText path ++ ['/', 'a'])⟩ := by
  have resolves : resolve (some " HTTPS://Git.Example:0443/r//a/?q#f ") = .ok
      ⟨"HTTPS://Git.Example:0443/r//a/?q#f", "https://git.example:443/r",
        "https://git.example:443/r/a"⟩ := by decide +kernel
  have ascii : " HTTPS://Git.Example:0443/r//a/?q#f ".toList.all Text.isAscii = true := by
    decide +kernel
  obtain ⟨accepts, normal⟩ := resolves_iff_grammar
    (fun c member => of_decide_eq_true (List.all_eq_true.mp ascii c member)) (by decide +kernel)
  obtain ⟨address, wellFormed, stands⟩ := accepts.mp ⟨_, resolves⟩
  exact ⟨resolves, address, wellFormed, stands, normal address wellFormed stands⟩

end Endpoint

end ProjectScan

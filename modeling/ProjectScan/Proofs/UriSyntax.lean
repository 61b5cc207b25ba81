import ProjectScan.Proofs.Resolution

/-!
The syntax of resolved addresses. Scheme, host, port and path of an ASCII address are checked before they
become part of a base, so that they hold only what may stand in a URI. The zone of a host in brackets is
not checked: the bases are URIs exactly if the zone could stand in one together with its percent sign.
-/

namespace ProjectScan

namespace Address

def isGeneralDelimiter (c : Char) : Bool := [':', '/', '?', '#', '[', ']', '@'].contains c

def isUriChar (c : Char) : Bool := isUnreserved c || (isSubDelimiter c || isGeneralDelimiter c)

/-- Every character is one of a URI, and every percent sign starts an octet of two hexadecimal digits. -/
structure IsUriText (text : List Char) : Prop where
  chars : ∀ c ∈ text, isUriChar c = true ∨ c = '%'
  octets : ∀ front rest, text = front ++ '%' :: rest → ∃ high low more,
    rest = high :: low :: more ∧ isHexDigit high = true ∧ isHexDigit low = true

theorem isUriChar_percent : isUriChar '%' = false := by decide

theorem isUriChar_of_isQueryChar {c : Char} (known : isQueryChar c = true) : isUriChar c = true := by
  unfold isQueryChar isPathChar isNameChar at known
  unfold isUriChar isGeneralDelimiter
  simp only [List.contains_cons, List.contains_nil, Bool.or_false, Bool.or_eq_true, beq_iff_eq] at known ⊢
  tauto

theorem isUriChar_of_isNameChar {c : Char} (known : isNameChar c = true) : isUriChar c = true :=
  isUriChar_of_isQueryChar (isQueryChar_of_isNameChar known)

theorem isAscii_of_isHexDigit {c : Char} (digit : isHexDigit c = true) : Text.isAscii c = true := by
  have below {limit : Char} (small : limit.toNat < 0x80) (within : c ≤ limit) :
      Text.isAscii c = true := by
    have ordered : c.toNat ≤ limit.toNat := within
    exact decide_eq_true (by omega)
  unfold isHexDigit Text.hexValue? at digit
  split at digit
  · rename_i decimal
    exact below (by decide) decimal.2
  · split at digit
    · rename_i small
      exact below (by decide) small.2
    · split at digit
      · rename_i capital
        exact below (by decide) capital.2
      · cases digit

theorem isUriChar_of_isHexDigit {c : Char} (digit : isHexDigit c = true) : isUriChar c = true :=
  forall_ascii (P := fun c => isHexDigit c = true → isUriChar c = true) (by decide +kernel)
    (isAscii_of_isHexDigit digit) digit

theorem isUriChar_of_isDigit {c : Char} (digit : c.isDigit = true) : isUriChar c = true :=
  isUriChar_of_isHexDigit (isHexDigit_of_isDigit digit)

theorem isUriChar_of_isGroupChar {c : Char} (known : isGroupChar c = true) : isUriChar c = true := by
  unfold isGroupChar at known
  simp only [Bool.or_eq_true, beq_iff_eq] at known
  rcases known with (digit | rfl) | rfl
  · exact isUriChar_of_isHexDigit digit
  · decide
  · decide

theorem IsUriText.of_append {front rest : List Char} (isUri : IsUriText (front ++ rest)) :
    IsUriText rest where
  chars := fun c member => isUri.chars c (List.mem_append_right front member)
  octets := by
    intro before after shape
    apply isUri.octets (front ++ before) after
    rw [shape, List.append_assoc]

theorem IsUriText.encoded {text : List Char} (isUri : IsUriText text) : Encoded isUriChar text := by
  rw [← isEncoded_iff isUriChar_percent]
  fun_induction isEncoded isUriChar text with
  | case1 => rfl
  | case2 high low rest ih =>
      obtain ⟨_, _, _, shape, digits⟩ := isUri.octets [] _ rfl
      cases shape
      have parted : IsUriText (['%', high, low] ++ rest) := isUri
      rw [digits.1, digits.2, ih parted.of_append]
      rfl
  | case3 c rest other ih =>
      have different : c ≠ '%' := by
        rintro rfl
        obtain ⟨high, low, more, shape, _⟩ := isUri.octets [] rest rfl
        exact other high low more rfl shape
      have plain := (isUri.chars c List.mem_cons_self).resolve_right different
      have parted : IsUriText ([c] ++ rest) := isUri
      rw [decide_eq_true different, plain, ih parted.of_append]
      rfl

theorem isUriText_iff (text : List Char) : IsUriText text ↔ Encoded isUriChar text := by
  constructor
  · exact IsUriText.encoded
  · intro encoded
    constructor
    · intro c member
      rcases encoded.mem member with plain | mark | digit
      · exact .inl plain
      · exact .inr mark
      · exact .inl (isUriChar_of_isHexDigit digit)
    · induction encoded with
      | nil => simp
      | char plain _ ih =>
          intro front rest shape
          cases front with
          | nil =>
              cases shape
              cases plain
          | cons first front => exact ih front rest (List.cons.inj shape).2
      | octet digits _ ih =>
          intro front rest shape
          -- The sign of an octet is the only one among its three characters.
          match front with
          | [] =>
              cases shape
              exact ⟨_, _, _, rfl, digits⟩
          | [_] =>
              cases shape
              cases digits.1
          | [_, _] =>
              cases shape
              cases digits.2
          | _ :: _ :: _ :: front =>
              simp only [List.cons_append, List.cons.injEq] at shape
              exact ih front rest shape.2.2.2

theorem Encoded.of_all {allowed : Char → Bool} {text : List Char}
    (plain : ∀ c ∈ text, allowed c = true) : Encoded allowed text := by
  induction text with
  | nil => exact .nil
  | cons c rest ih =>
      rw [List.forall_mem_cons] at plain
      exact .char plain.1 (ih plain.2)

theorem encoded_append_iff {front rest : List Char} (plain : ∀ c ∈ front, isUriChar c = true) :
    Encoded isUriChar (front ++ rest) ↔ Encoded isUriChar rest := by
  constructor
  · intro encoded
    exact ((isUriText_iff _).mpr encoded).of_append.encoded
  · exact (Encoded.of_all plain).append

theorem encoded_closed_iff {text rest : List Char} (encoded : Encoded isUriChar rest) :
    Encoded isUriChar (text ++ ']' :: rest) ↔ Encoded isUriChar text := by
  have closing : Encoded isUriChar (']' :: rest) := .char (by decide) encoded
  constructor
  · intro whole
    apply whole.of_append
    intro c leads
    cases leads
    decide
  · exact fun front => front.append closing

/-! ### Sites -/

theorem encoded_portText (port : Option Nat) : Encoded isUriChar (portText port) := by
  apply Encoded.of_all
  intro c member
  rcases mem_portText port member with rfl | digit
  · decide
  · exact isUriChar_of_isDigit digit

def Parts.zone? (parts : Parts) : Option (List Char) :=
  if '[' ∈ parts.authority then (Text.cutFirst '%' parts.host).2 else none

/-- What stands behind the first percent sign of a host in brackets, if the text names such a host. -/
def zone? (text : List Char) : Option (List Char) :=
  match split text with
  | .error _ => none
  | .ok parts => parts.zone?

namespace Site.ReadFrom

variable {site : Site} {parts : Parts} (readFrom : site.ReadFrom parts)
include readFrom

theorem encoded_bare (ascii : ∀ c ∈ parts.authority, Text.isAscii c = true)
    (unopened : '[' ∉ parts.authority) : Encoded isUriChar site.host := by
  have name : ∀ c ∈ (hostAndPort parts.authority).1, Text.isAscii c = true :=
    fun c member => ascii c (mem_of_mem_hostAndPort readFrom.noUser member)
  have accepted := readFrom.host
  rw [decide_eq_false unopened, parts.host_eq, siteHost_eq_ok_iff name] at accepted
  obtain ⟨lowered, isName⟩ := accepted
  have encoded : isEncoded isPlain site.host = true := by
    rw [lowered, isEncoded_loweredName name, isEncoded_iff (by decide), funext isPlain_eq]
    exact isName.chars
  rw [isEncoded_iff (by decide), funext isPlain_eq] at encoded
  exact encoded.imp fun c _ => isUriChar_of_isNameChar

theorem checkIpv6_host (opened : '[' ∈ parts.authority) : checkIpv6 parts.host = .ok () := by
  have host := readFrom.host
  unfold siteHost at host
  rw [if_pos (decide_eq_true opened)] at host
  cases groups : checkIpv6 parts.host with
  | ok checked => rfl
  | error fault =>
      rw [groups] at host
      cases host

theorem isUriChar_groups (opened : '[' ∈ parts.authority) :
    ∀ c ∈ (Text.cutFirst '%' parts.host).1, isUriChar c = true := by
  have groups := checkGroups_of_checkIpv6 (readFrom.checkIpv6_host opened)
  exact fun c member => isUriChar_of_isGroupChar (mem_of_checkGroups groups member)

theorem isUriChar_scheme : ∀ c ∈ site.scheme ++ [':', '/', '/'], isUriChar c = true := by
  have schemes : (servedSchemes.all fun scheme =>
      (scheme ++ [':', '/', '/']).all isUriChar) = true := by decide +kernel
  rw [readFrom.scheme_eq]
  exact List.all_eq_true.mp (List.all_eq_true.mp schemes _ readFrom.scheme)

theorem encoded_path : Encoded isUriChar site.path := by
  have components := (componentFault?_eq_none_iff _).mp readFrom.components
  rw [readFrom.path_eq]
  exact (encoded_sitePath components.1).imp fun c _ => isUriChar_of_isQueryChar

theorem encoded_text_iff (ascii : ∀ c ∈ parts.authority, Text.isAscii c = true) {more : List Char}
    (after : Encoded isUriChar more) :
    Encoded isUriChar (site.text ++ more) ↔
      ∀ zone, parts.zone? = some zone → Encoded isUriChar ('%' :: zone) := by
  have rest : Encoded isUriChar (portText site.port ++ (site.path ++ more)) :=
    (encoded_portText site.port).append (readFrom.encoded_path.append after)
  have whole : site.text ++ more =
      (site.scheme ++ [':', '/', '/']) ++ (site.host ++ (portText site.port ++ (site.path ++ more))) := by
    rw [site.text_eq, Site.authority]
    simp
  rw [whole, encoded_append_iff readFrom.isUriChar_scheme]
  rcases readFrom.host_cases with ⟨unopened, _⟩ | ⟨opened, bracketed⟩
  · apply iff_of_true
    · exact (readFrom.encoded_bare ascii unopened).append rest
    · simp [Parts.zone?, unopened]
  · have groups := readFrom.isUriChar_groups opened
    rw [bracketed]
    unfold Parts.zone?
    rw [if_pos opened]
    rcases Text.cutFirst_cases '%' parts.host with ⟨cut, _⟩ | ⟨address, zone, cut, _, shape⟩
    · rw [cut] at groups ⊢
      apply iff_of_true
      · apply Encoded.append
        · apply Encoded.of_all
          rw [List.forall_mem_cons, List.forall_mem_append, List.forall_mem_singleton]
          exact ⟨by decide, groups, by decide⟩
        · exact rest
      · simp
    · rw [cut] at groups ⊢
      have opens : ∀ c ∈ '[' :: address, isUriChar c = true := by
        rw [List.forall_mem_cons]
        exact ⟨by decide, groups⟩
      have inBrackets : '[' :: (parts.host ++ [']']) ++ (portText site.port ++ (site.path ++ more)) =
          ('[' :: address) ++
            (('%' :: zone) ++ ']' :: (portText site.port ++ (site.path ++ more))) := by
        rw [shape]
        simp
      rw [inBrackets, encoded_append_iff opens, encoded_closed_iff rest]
      simp

end Site.ReadFrom

theorem encoded_below_iff {text : List Char} (ascii : ∀ c ∈ text, Text.isAscii c = true) {site : Site}
    (reads : siteOf text = .ok site) {more : List Char} (after : Encoded isUriChar more) :
    Encoded isUriChar (site.text ++ more) ↔
      ∀ zone, zone? text = some zone → Encoded isUriChar ('%' :: zone) := by
  obtain ⟨shown, parts, splits, _, readFrom⟩ := siteOf_eq_ok_iff.mp reads
  obtain ⟨spelling, _, rfl, rfl⟩ :=
    Spelling.exists_spelling shown splits readFrom.scheme readFrom.authority_ne_nil
  have letters : ∀ c ∈ spelling.parts.authority, Text.isAscii c = true := by
    intro c member
    apply ascii
    unfold Spelling.text
    simp only [List.mem_append, List.mem_cons]
    exact .inr (.inr (.inr (.inr (.inl member))))
  rw [readFrom.encoded_text_iff letters after, zone?, splits]

end Address

namespace Endpoint

open Address

def zone? (endpoint : Endpoint) : Option (List Char) := Address.zone? endpoint.serverUrl.toList

/-- Both bases of an ASCII address are texts of URIs exactly if its zone is one with the percent sign in
front; without a zone they are. -/
theorem isUri_iff {typed : String} (ascii : ∀ c ∈ typed.toList, c.toNat < 128) {endpoint : Endpoint}
    (resolves : resolve (some typed) = .ok endpoint) :
    (IsUriText endpoint.webUri.toList ↔
      ∀ zone, endpoint.zone? = some zone → IsUriText ('%' :: zone)) ∧
    (IsUriText endpoint.apiUri.toList ↔
      ∀ zone, endpoint.zone? = some zone → IsUriText ('%' :: zone)) := by
  obtain ⟨site, reads, rfl⟩ := resolve_eq_ok_iff.mp resolves
  have letters : ∀ c ∈ Text.trim typed.toList, Text.isAscii c = true :=
    fun c member => decide_eq_true (ascii c (Text.mem_of_mem_trim member))
  have access : Encoded isUriChar accessMark := .char (by decide) (.char (by decide) .nil)
  have web := encoded_below_iff letters reads .nil
  have api := encoded_below_iff letters reads access
  rw [List.append_nil] at web
  simp only [isUriText_iff, zone?, ofSite, String.toList_ofList]
  exact ⟨web, api⟩

theorem isUri_iff_escapedZone :
    resolve (some " HTTP://[FE80::1%25Eth0]:080/x%20y/a/ ") =
        .ok ⟨"HTTP://[FE80::1%25Eth0]:080/x%20y/a/", "http://[fe80::1%25Eth0]:80/x%20y",
          "http://[fe80::1%25Eth0]:80/x%20y/a"⟩ ∧
      IsUriText "http://[fe80::1%25Eth0]:80/x%20y".toList ∧
      IsUriText "http://[fe80::1%25Eth0]:80/x%20y/a".toList := by
  have resolves : resolve (some " HTTP://[FE80::1%25Eth0]:080/x%20y/a/ ") =
      .ok ⟨"HTTP://[FE80::1%25Eth0]:080/x%20y/a/", "http://[fe80::1%25Eth0]:80/x%20y",
        "http://[fe80::1%25Eth0]:80/x%20y/a"⟩ := by decide +kernel
  have letters : (" HTTP://[FE80::1%25Eth0]:080/x%20y/a/ ".toList.all fun c => c.toNat < 128) =
      true := by decide +kernel
  have ascii : ∀ c ∈ " HTTP://[FE80::1%25Eth0]:080/x%20y/a/ ".toList, c.toNat < 128 :=
    fun c member => of_decide_eq_true (List.all_eq_true.mp letters c member)
  have named : Address.zone? "HTTP://[FE80::1%25Eth0]:080/x%20y/a/".toList = some "25Eth0".toList := by
    decide +kernel
  have escaped : ∀ zone, Address.zone? "HTTP://[FE80::1%25Eth0]:080/x%20y/a/".toList = some zone →
      IsUriText ('%' :: zone) := by
    intro zone found
    rw [named] at found
    cases found
    rw [isUriText_iff, ← isEncoded_iff isUriChar_percent]
    decide
  obtain ⟨web, api⟩ := isUri_iff ascii resolves
  exact ⟨resolves, web.mpr escaped, api.mpr escaped⟩

/-- The percent sign in front of a zone need not start an octet. -/
theorem zone_not_checked :
    ¬∀ (typed : String) (endpoint : Endpoint), (∀ c ∈ typed.toList, c.toNat < 128) →
      resolve (some typed) = .ok endpoint →
        IsUriText endpoint.webUri.toList ∧ IsUriText endpoint.apiUri.toList := by
  intro valid
  have resolves : resolve (some "https://[fe80::1%eth0]") =
      .ok ⟨"https://[fe80::1%eth0]", "https://[fe80::1%eth0]", "https://[fe80::1%eth0]/a"⟩ := by
    decide +kernel
  have letters : ("https://[fe80::1%eth0]".toList.all fun c => c.toNat < 128) = true := by
    decide +kernel
  have ascii : ∀ c ∈ "https://[fe80::1%eth0]".toList, c.toNat < 128 :=
    fun c member => of_decide_eq_true (List.all_eq_true.mp letters c member)
  have web := (valid _ _ ascii resolves).1
  rw [isUriText_iff, ← isEncoded_iff isUriChar_percent] at web
  exact absurd web (by decide)

end Endpoint

end ProjectScan

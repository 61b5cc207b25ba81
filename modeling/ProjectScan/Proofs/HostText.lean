import Mathlib.Data.List.TakeWhile
import ProjectScan.Proofs.SmallLetters

/-!
Hosts as texts. A host in small letters stays as it is when it is made small again and holds no
marks that it did not hold before. Groups that pass for an address of eight groups may stand in
brackets.
-/

namespace ProjectScan

namespace Text

variable {mark c : Char} {text : List Char}

theorem cutFirst_cases (mark : Char) (text : List Char) :
    cutFirst mark text = (text, none) ∧ mark ∉ text ∨
    ∃ before after, cutFirst mark text = (before, some after) ∧ mark ∉ before ∧
      text = before ++ mark :: after := by
  by_cases member : mark ∈ text
  · obtain ⟨before, after, shape, absent⟩ := List.eq_append_cons_of_mem member
    refine .inr ⟨before, after, ?_, absent, shape⟩
    rw [shape]
    exact cutFirst_append after absent
  · exact .inl ⟨cutFirst_of_notMem member, member⟩

theorem mem_of_mem_cutFirst (member : c ∈ (cutFirst mark text).1) : c ∈ text := by
  rcases cutFirst_cases mark text with ⟨cut, _⟩ | ⟨before, after, cut, _, shape⟩
  · rw [cut] at member
    exact member
  · rw [cut] at member
    rw [shape]
    exact List.mem_append_left _ member

theorem afterLast_of_notMem (absent : mark ∉ text) : afterLast mark text = text := by
  have whole : text.reverse.takeWhile (· != mark) = text.reverse := by
    rw [List.takeWhile_eq_self_iff]
    intro c member
    rw [bne_iff_ne]
    rintro rfl
    exact absent (List.mem_reverse.mp member)
  unfold afterLast
  rw [whole, List.reverse_reverse]

theorem exists_mem_pieces (isMark : Char → Bool) (solid : isMark c = false) (member : c ∈ text) :
    ∃ piece ∈ pieces isMark text, c ∈ piece := by
  induction text with
  | nil => exact absurd member List.not_mem_nil
  | cons head rest ih =>
      unfold pieces
      by_cases marked : isMark head = true
      · rw [if_pos marked]
        have later : c ∈ rest := by
          rcases List.mem_cons.mp member with rfl | later
          · rw [solid] at marked
            cases marked
          · exact later
        obtain ⟨piece, among, inside⟩ := ih later
        exact ⟨piece, List.mem_cons_of_mem _ among, inside⟩
      · rw [if_neg marked]
        cases cut : pieces isMark rest with
        | nil => exact absurd cut (pieces_ne_nil isMark rest)
        | cons first more =>
            rw [cut] at ih
            dsimp only
            rcases List.mem_cons.mp member with rfl | later
            · exact ⟨c :: first, List.mem_cons_self, List.mem_cons_self⟩
            · obtain ⟨piece, among, inside⟩ := ih later
              rcases List.mem_cons.mp among with rfl | among
              · exact ⟨head :: piece, List.mem_cons_self, List.mem_cons_of_mem _ inside⟩
              · exact ⟨piece, List.mem_cons_of_mem _ among, inside⟩

theorem pieces_of_notMem (absent : mark ∉ text) : pieces (· == mark) text = [text] := by
  induction text with
  | nil => rfl
  | cons c rest ih =>
      have different : (c == mark) = false :=
        beq_eq_false_iff_ne.mpr fun same => absent (same ▸ List.mem_cons_self)
      unfold pieces
      rw [different, if_neg Bool.false_ne_true,
        ih fun member => absent (List.mem_cons_of_mem _ member)]

end Text

namespace Address

def smallHost (name : List Char) : List Char :=
  Text.small (Text.cutFirst '%' name).1 ++ match (Text.cutFirst '%' name).2 with
    | none => []
    | some zone => '%' :: zone

theorem Parts.host_eq (parts : Parts) :
    parts.host = smallHost (hostAndPort parts.authority).1 := rfl

theorem smallHost_smallHost (name : List Char) : smallHost (smallHost name) = smallHost name := by
  have unmarked {text : List Char} (absent : '%' ∉ text) : '%' ∉ Text.small text :=
    fun member => absent (Text.mem_of_mem_small (by decide) member)
  rcases Text.cutFirst_cases '%' name with ⟨cut, absent⟩ | ⟨before, zone, cut, absent, _⟩
  · unfold smallHost
    rw [cut]
    dsimp only
    rw [List.append_nil, Text.cutFirst_of_notMem (unmarked absent)]
    dsimp only
    rw [List.append_nil, Text.small_small]
  · unfold smallHost
    rw [cut]
    dsimp only
    rw [Text.cutFirst_append zone (unmarked absent)]
    dsimp only
    rw [Text.small_small]

theorem mem_of_mem_smallHost {c : Char} {name : List Char} (mark : Text.isMark c = true)
    (member : c ∈ smallHost name) : c ∈ name := by
  unfold smallHost at member
  rcases Text.cutFirst_cases '%' name with ⟨cut, _⟩ | ⟨before, zone, cut, _, shape⟩
  · rw [cut] at member
    dsimp only at member
    rw [List.append_nil] at member
    exact Text.mem_of_mem_small mark member
  · rw [cut] at member
    rw [shape]
    rcases List.mem_append.mp member with name | zone
    · exact List.mem_append_left _ (Text.mem_of_mem_small mark name)
    · exact List.mem_append_right _ zone

/-! ### Hosts in brackets -/

theorem digits_of_readOctet {text octet : List Char} {value : Nat}
    (read : readOctet text octet = .ok value) : ∀ c ∈ octet, c.isDigit = true := by
  unfold readOctet at read
  split at read
  · cases read
  · split at read
    · cases read
    · rename_i digits
      simpa using digits

theorem digits_of_octets {text : List Char} {octets : List (List Char)} {start value : Nat}
    (read : octets.foldlM (fun value octet => (readOctet text octet).map (value * 256 + ·)) start =
      .ok value) : ∀ octet ∈ octets, ∀ c ∈ octet, c.isDigit = true := by
  induction octets generalizing start with
  | nil => simp
  | cons first rest ih =>
      rw [List.foldlM_cons] at read
      cases known : readOctet text first with
      | error fault =>
          rw [known] at read
          cases read
      | ok number =>
          rw [known] at read
          rw [List.forall_mem_cons]
          constructor
          · exact digits_of_readOctet known
          · exact ih read

theorem mem_of_readIpv4 {text : List Char} {value : Nat} (read : readIpv4 text = .ok value) {c : Char}
    (member : c ∈ text) : c.isDigit = true ∨ c = '.' := by
  by_cases dot : c = '.'
  · exact .inr dot
  · obtain ⟨octet, among, inside⟩ :=
      Text.exists_mem_pieces (· == '.') (beq_eq_false_iff_ne.mpr dot) member
    unfold readIpv4 at read
    dsimp only at read
    split at read
    · cases read
    · split at read
      · cases read
      · exact .inl (digits_of_octets read octet among c inside)

section Groups

variable {text part : List Char} {parts groups : List (List Char)}

theorem mem_groupsOf (known : groupsOf text parts = .ok groups) (member : part ∈ parts) :
    part ∈ groups ∨ ∀ c ∈ part, c.isDigit = true ∨ c = '.' := by
  unfold groupsOf at known
  cases ending : parts.getLast? with
  | none =>
      rw [ending] at known
      cases known
      exact .inl member
  | some last =>
      rw [ending] at known
      dsimp only at known
      obtain ⟨front, rfl⟩ := List.getLast?_eq_some_iff.mp ending
      split at known
      · split at known
        · cases known
        · rename_i value read
          cases known
          rw [List.dropLast_concat]
          rw [List.mem_append, List.mem_singleton] at member
          rcases member with before | same
          · exact .inl (List.mem_append_left _ before)
          · right
            rw [same]
            exact fun c inside => mem_of_readIpv4 read inside
      · cases known
        exact .inl member

theorem eq_nil_of_single (single : parts.length = 1)
    (empty : parts.head? = some [] ∨ parts.getLast? = some []) (member : part ∈ parts) :
    part = [] := by
  obtain ⟨only, rfl⟩ := List.length_eq_one_iff.mp single
  rw [List.mem_singleton.mp member]
  simpa using empty

theorem mem_groupsAround {gap : Nat} (place : parts[gap]? = some [])
    (known : groupsAround text parts gap = .ok groups) (member : part ∈ parts) :
    part ∈ groups ∨ part = [] := by
  obtain ⟨within, empty⟩ := List.getElem?_eq_some_iff.mp place
  rw [← List.take_append_drop gap parts, List.drop_eq_getElem_cons within, empty, List.mem_append,
    List.mem_cons] at member
  unfold groupsAround at known
  dsimp only at known
  split at known
  · cases known
  · rename_i leads
    split at known
    · cases known
    · rename_i trails
      generalize fronted : (if (parts.take gap).head? = some [] then [] else parts.take gap) =
        front at known
      generalize ended : (if (parts.drop (gap + 1)).getLast? = some [] then []
        else parts.drop (gap + 1)) = ending at known
      split at known
      · cases known
      · cases known
        rw [List.mem_append]
        rcases member with before | none | after
        · by_cases leading : (parts.take gap).head? = some []
          · right
            exact eq_nil_of_single (by simpa [leading] using leads) (.inl leading) before
          · rw [if_neg leading] at fronted
            exact .inl (.inl (fronted ▸ before))
        · exact .inr none
        · by_cases trailing : (parts.drop (gap + 1)).getLast? = some []
          · right
            exact eq_nil_of_single (by simpa [trailing] using trails) (.inr trailing) after
          · rw [if_neg trailing] at ended
            exact .inl (.inr (ended ▸ after))

theorem mem_gapped (known : (match gaps parts with
      | [] => allGroups text parts
      | [gap] => groupsAround text parts gap
      | _ => .error (.secondGap text)) = .ok groups) (member : part ∈ parts) :
    part ∈ groups ∨ part = [] := by
  cases places : gaps parts with
  | nil =>
      rw [places] at known
      simp only [allGroups] at known
      split at known
      · cases known
      · split at known
        · cases known
        · split at known
          · cases known
          · cases known
            exact .inl member
  | cons gap further =>
      rw [places] at known
      cases further with
      | cons => cases known
      | nil =>
          have among : gap ∈ gaps parts := by
            rw [places]
            exact List.mem_cons_self
          have placed := (List.mem_filter.mp among).2
          simp only [Bool.and_eq_true, beq_iff_eq] at placed
          exact mem_groupsAround placed.2 known member

theorem hexDigits_of_forM (checked : groups.forM (checkGroup text) = .ok ()) :
    ∀ group ∈ groups, ∀ c ∈ group, isHexDigit c = true := by
  induction groups with
  | nil => simp
  | cons first rest ih =>
      change (checkGroup text first >>= fun _ => rest.forM (checkGroup text)) = .ok () at checked
      cases digits : first.all isHexDigit with
      | false =>
          unfold checkGroup at checked
          rw [digits] at checked
          cases checked
      | true =>
          cases group : checkGroup text first with
          | error fault =>
              rw [group] at checked
              cases checked
          | ok done =>
              rw [group] at checked
              rw [List.forall_mem_cons]
              constructor
              · exact List.all_eq_true.mp digits
              · exact ih checked

end Groups

def isGroupChar (c : Char) : Bool := isHexDigit c || c == ':' || c == '.'

theorem isGroupChar_of_isHexDigit {c : Char} (digit : isHexDigit c = true) : isGroupChar c = true := by
  unfold isGroupChar
  rw [digit]
  rfl

theorem isHexDigit_of_isDigit {c : Char} (digit : c.isDigit = true) : isHexDigit c = true := by
  unfold Char.isDigit at digit
  rw [Bool.and_eq_true, decide_eq_true_eq, decide_eq_true_eq] at digit
  have decimal : '0' ≤ c ∧ c ≤ '9' := digit
  unfold isHexDigit Text.hexValue?
  rw [if_pos decimal]
  rfl

theorem mem_of_checkGroups {text : List Char} (checked : checkGroups text = .ok ()) {c : Char}
    (member : c ∈ text) : isGroupChar c = true := by
  by_cases colon : c = ':'
  · rw [colon]
    decide
  · obtain ⟨part, among, inside⟩ :=
      Text.exists_mem_pieces (· == ':') (beq_eq_false_iff_ne.mpr colon) member
    unfold checkGroups at checked
    dsimp only at checked
    split at checked
    · cases checked
    · split at checked
      · cases checked
      · cases known : groupsOf text (Text.pieces (· == ':') text) with
        | error fault =>
            rw [known] at checked
            cases checked
        | ok parts =>
            rw [known] at checked
            dsimp only at checked
            split at checked
            · cases checked
            · split at checked
              · cases checked
              · rename_i groups found
                -- The part is one of the groups, all of which are checked, or it is left out.
                rcases mem_groupsOf known among with kept | octets
                · rcases mem_gapped found kept with group | empty
                  · exact isGroupChar_of_isHexDigit (hexDigits_of_forM checked part group c inside)
                  · rw [empty] at inside
                    cases inside
                · rcases octets c inside with digit | dot
                  · exact isGroupChar_of_isHexDigit (isHexDigit_of_isDigit digit)
                  · rw [dot]
                    decide

theorem checkGroups_of_checkIpv6 {text : List Char} (checked : checkIpv6 text = .ok ()) :
    checkGroups (Text.cutFirst '%' text).1 = .ok () := by
  unfold checkIpv6 at checked
  rcases Text.cutFirst_cases '%' text with ⟨cut, _⟩ | ⟨address, zone, cut, _⟩
  · rw [cut] at checked ⊢
    exact checked
  · rw [cut] at checked ⊢
    dsimp only at checked
    split at checked
    · cases checked
    · exact checked

theorem colon_of_checkIpv6 {text : List Char} (checked : checkIpv6 text = .ok ()) :
    ':' ∈ text := by
  have groups := checkGroups_of_checkIpv6 checked
  by_contra absent
  have single : Text.pieces (· == ':') (Text.cutFirst '%' text).1 = [(Text.cutFirst '%' text).1] :=
    Text.pieces_of_notMem fun member => absent (Text.mem_of_mem_cutFirst member)
  have few : [(Text.cutFirst '%' text).1].length < 3 := by
    rw [List.length_singleton]
    decide
  unfold checkGroups at groups
  dsimp only at groups
  rw [single, if_pos few] at groups
  split at groups <;> cases groups

theorem checkBracketedHost_of_checkIpv6 {host : List Char} (checked : checkIpv6 host = .ok ()) :
    checkBracketedHost host = .ok () := by
  have noVersion : host.head? ≠ some 'v' := by
    intro version
    obtain ⟨rest, rfl⟩ := List.head?_eq_some_iff.mp version
    have first : 'v' ∈ (Text.cutFirst '%' ('v' :: rest)).1 := List.mem_cons_self
    have known := mem_of_checkGroups (checkGroups_of_checkIpv6 checked) first
    cases known
  unfold checkBracketedHost
  rw [if_neg noVersion]
  cases octets : readIpv4 host with
  | ok value =>
      rcases mem_of_readIpv4 octets (colon_of_checkIpv6 checked) with digit | dot
      · cases digit
      · cases dot
  | error fault =>
      dsimp only
      rw [checked]

end Address

end ProjectScan

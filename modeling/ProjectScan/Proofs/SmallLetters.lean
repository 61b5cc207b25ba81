import Mathlib.Tactic.Common
import ProjectScan.Address.Parts

/-!
What the small form of a text is made of. It does not change when it is made small again, and it
brings letters only: every mark of a small text was in the text before, and so was every character
that is blank or not shown.
-/

namespace ProjectScan.Unicode

def Spans.meets : List (Nat × Nat) → Nat → Nat → Bool
  | [], _, _ => false
  | (first, last) :: rest, low, high =>
      if Nat.blt high first then false else Nat.ble low last || Spans.meets rest low high

theorem Spans.contains_eq_false {spans : List (Nat × Nat)} {low high code : Nat}
    (clear : Spans.meets spans low high = false) (above : low ≤ code) (below : code ≤ high) :
    Spans.contains spans code = false := by
  induction spans with
  | nil => rfl
  | cons head rest ih =>
      obtain ⟨first, last⟩ := head
      unfold Spans.meets at clear
      unfold Spans.contains
      split at clear
      · rename_i before
        rw [Nat.blt_eq] at before
        exact if_pos (by omega)
      · obtain ⟨apart, others⟩ := Bool.or_eq_false_iff.mp clear
        have behind : ¬low ≤ last := by
          rw [← Nat.ble_eq, apart]
          exact Bool.false_ne_true
        rw [ih others, Bool.or_false]
        split
        · rfl
        · exact decide_eq_false (by omega)

namespace CaseRun

def low (run : CaseRun) : Nat := (run.first + run.shift).toNat

def high (run : CaseRun) : Nat := (run.last + run.shift).toNat

structure Holds (run : CaseRun) (code : Nat) : Prop where
  first : run.first ≤ code
  last : code ≤ run.last
  stride : (code - run.first) % run.stride = 0

/-- The letters move to characters, none of which is special in a small text or a lookalike; the
only letter of ASCII that they move to is k. -/
def isSound (run : CaseRun) : Bool :=
  decide (0 ≤ run.first + run.shift) &&
    (Nat.blt run.high 0xD800 || Nat.ble 0xE000 run.low && Nat.blt run.high 0x110000) &&
    (Nat.ble 0x80 run.low || Nat.beq run.low 0x6B && Nat.beq run.high 0x6B) &&
    (0x130 :: 0x3A3 :: Address.lookalikes).all fun code =>
      Nat.blt code run.low || Nat.blt run.high code

def isShown (run : CaseRun) : Bool :=
  !Spans.meets unprintable run.low run.high && !Spans.meets Text.blankSpans run.low run.high

/-- No letter of the run moves to a letter of the other: the runs are far from each other or take
every second place, one the even and one the odd ones. -/
def isApart (run other : CaseRun) : Bool :=
  Nat.blt run.high other.first || Nat.blt other.last run.low ||
    (Nat.beq other.stride 2 && (Nat.beq run.first run.last || Nat.beq run.stride 2) &&
      Nat.beq ((run.low + other.first) % 2) 1)

variable {run other : CaseRun} {code : Nat}

theorem moves_between (sound : run.isSound = true) (holds : run.Holds code) :
    ((code : Int) + run.shift).toNat + run.first = run.low + code ∧
      ((code : Int) + run.shift).toNat ≤ run.high := by
  obtain ⟨first, last, -⟩ := holds
  unfold isSound at sound
  simp only [Bool.and_eq_true, decide_eq_true_eq] at sound
  have natural := sound.1.1.1
  unfold low high
  omega

theorem not_holds_of_isApart (apart : run.isApart other = true) (sound : run.isSound = true)
    (holds : run.Holds code) : ¬other.Holds ((code : Int) + run.shift).toNat := by
  obtain ⟨place, below⟩ := moves_between sound holds
  rintro ⟨first, last, stride⟩
  unfold isApart at apart
  simp only [Bool.or_eq_true, Bool.and_eq_true, Nat.blt_eq, Nat.beq_eq] at apart
  have := holds.first
  have := holds.last
  rcases apart with (before | after) | ⟨⟨two, single | both⟩, odd⟩
  · omega
  · omega
  · rw [two] at stride
    omega
  · have even := holds.stride
    rw [two] at stride
    rw [both] at even
    omega

end CaseRun

theorem smallRuns_isSound : smallRuns.all CaseRun.isSound = true := by decide +kernel

theorem smallRuns_isShown : smallRuns.all CaseRun.isShown = true := by decide +kernel

theorem smallRuns_isApart :
    (smallRuns.all fun run => smallRuns.all fun other => run.isApart other) = true := by
  decide +kernel

end ProjectScan.Unicode

namespace ProjectScan.Text

open Unicode

structure IsSettled (c : Char) : Prop where
  letter : smallLetter c = c
  sigma : c.toNat ≠ 0x3A3
  dotted : c.toNat ≠ 0x130

/-- ASCII characters other than letters, and the characters that look like some of them. -/
def isMark (c : Char) : Bool :=
  if isAscii c then !c.isAlpha else Address.lookalikes.contains c.toNat

structure IsBrought (c : Char) : Prop where
  unmarked : isMark c = false
  solid : isBlank c = false
  printable : isPrintable c = true

instance (c : Char) : Decidable (IsBrought c) :=
  decidable_of_iff (isMark c = false ∧ isBlank c = false ∧ isPrintable c = true)
    ⟨fun ⟨unmarked, solid, printable⟩ => ⟨unmarked, solid, printable⟩,
      fun ⟨unmarked, solid, printable⟩ => ⟨unmarked, solid, printable⟩⟩

theorem toLower_ascii : (List.range 0x80).all (fun code =>
    let c := Char.ofNat code
    isAscii c.toLower && c.toLower.toLower == c.toLower &&
      (c.toLower == c || decide (IsBrought c.toLower))) = true := by
  decide

theorem smallLetter_of_isAscii {c : Char} (ascii : isAscii c = true) :
    IsSettled (smallLetter c) ∧ (smallLetter c = c ∨ IsBrought (smallLetter c)) := by
  have code : c.toNat < 0x80 := of_decide_eq_true ascii
  have checked := List.all_eq_true.mp toLower_ascii c.toNat (List.mem_range.mpr code)
  rw [Char.ofNat_toNat] at checked
  simp only [Bool.and_eq_true, Bool.or_eq_true, beq_iff_eq, decide_eq_true_eq] at checked
  obtain ⟨⟨low, again⟩, same⟩ := checked
  have letter : smallLetter c = c.toLower := if_pos ascii
  have small : c.toLower.toNat < 0x80 := of_decide_eq_true low
  rw [letter]
  refine ⟨⟨?_, ?_, ?_⟩, same⟩
  · unfold smallLetter
    rw [if_pos low]
    exact again
  · omega
  · omega

theorem moved_cases (c : Char) :
    moved smallRuns c = c ∧ (∀ run ∈ smallRuns, ¬run.Holds c.toNat) ∨
    ∃ run ∈ smallRuns, run.Holds c.toNat ∧
      moved smallRuns c = Char.ofNat ((c.toNat : Int) + run.shift).toNat := by
  unfold moved
  cases found : smallRuns.find? fun run =>
      run.first ≤ c.toNat ∧ c.toNat ≤ run.last ∧ (c.toNat - run.first) % run.stride = 0 with
  | none =>
      left
      refine ⟨rfl, ?_⟩
      intro run member holds
      have misses := List.find?_eq_none.mp found run member
      apply misses
      exact decide_eq_true ⟨holds.first, holds.last, holds.stride⟩
  | some run =>
      right
      have hits := List.find?_some found
      obtain ⟨first, last, stride⟩ := of_decide_eq_true hits
      exact ⟨run, List.mem_of_find?_eq_some found, ⟨first, last, stride⟩, rfl⟩

theorem moved_of_holds {run : CaseRun} (member : run ∈ smallRuns) {code : Nat}
    (holds : run.Holds code) {c : Char} (moves : c = Char.ofNat ((code : Int) + run.shift).toNat) :
    IsSettled c ∧ IsBrought c := by
  have sound := List.all_eq_true.mp smallRuns_isSound run member
  have shown := List.all_eq_true.mp smallRuns_isShown run member
  obtain ⟨place, below⟩ := CaseRun.moves_between sound holds
  have free (other : CaseRun) (among : other ∈ smallRuns) :
      ¬other.Holds ((code : Int) + run.shift).toNat := by
    have apart := List.all_eq_true.mp (List.all_eq_true.mp smallRuns_isApart run member) other among
    exact CaseRun.not_holds_of_isApart apart sound holds
  have above := holds.first
  unfold CaseRun.isSound at sound
  simp only [Bool.and_eq_true, Bool.or_eq_true, Nat.blt_eq, Nat.ble_eq, Nat.beq_eq,
    List.all_eq_true] at sound
  obtain ⟨⟨⟨-, range⟩, kind⟩, unlike⟩ := sound
  have valid : ((code : Int) + run.shift).toNat.isValidChar := by
    unfold Nat.isValidChar
    omega
  have toNat : c.toNat = ((code : Int) + run.shift).toNat := by
    rw [moves, Char.ofNat, dif_pos valid]
    rfl
  have elsewhere (special : Nat) (listed : special ∈ 0x130 :: 0x3A3 :: Address.lookalikes) :
      c.toNat ≠ special := by
    have := unlike special listed
    omega
  rw [← toNat] at free place below
  unfold CaseRun.isShown at shown
  simp only [Bool.and_eq_true, Bool.not_eq_true'] at shown
  have beyond : run.low ≤ c.toNat := by omega
  have solid : isBlank c = false := Spans.contains_eq_false shown.2 beyond below
  have printable : isPrintable c = true := by
    unfold isPrintable
    rw [Spans.contains_eq_false shown.1 beyond below]
    split
    · exact decide_eq_true (by omega)
    · rfl
  -- Above ASCII no run holds what the letter moves to; in ASCII it is the letter k.
  rcases kind with high | ⟨low, high⟩
  · have notAscii : isAscii c = false := decide_eq_false (by omega)
    refine ⟨⟨?_, elsewhere _ (by decide), elsewhere _ (by decide)⟩, ?_, solid, printable⟩
    · unfold smallLetter
      rw [notAscii, if_neg Bool.false_ne_true]
      rcases moved_cases c with ⟨same, _⟩ | ⟨other, among, holdsToo, _⟩
      · exact same
      · exact absurd holdsToo (free other among)
    · unfold isMark
      rw [notAscii, if_neg Bool.false_ne_true]
      by_contra listed
      have among := List.contains_iff_mem.mp (Bool.of_not_eq_false listed)
      exact elsewhere c.toNat (List.mem_cons_of_mem _ (List.mem_cons_of_mem _ among)) rfl
  · have code : c.toNat = 0x6B := by omega
    have letter : c = 'k' := by rw [← Char.ofNat_toNat c, code]
    subst letter
    exact ⟨⟨by decide, by decide, by decide⟩, by decide⟩

/-- Outside its context a letter moves to a settled letter, unless it stays as it is. -/
theorem smallLetter_cases {c : Char} (sigma : c.toNat ≠ 0x3A3) (dotted : c.toNat ≠ 0x130) :
    IsSettled (smallLetter c) ∧ (smallLetter c = c ∨ IsBrought (smallLetter c)) := by
  by_cases ascii : isAscii c = true
  · exact smallLetter_of_isAscii ascii
  · have letter : smallLetter c = moved smallRuns c := if_neg ascii
    rcases moved_cases c with ⟨same, _⟩ | ⟨run, member, holds, moves⟩
    · rw [same] at letter
      rw [letter]
      exact ⟨⟨letter, sigma, dotted⟩, .inl rfl⟩
    · rw [← letter] at moves
      obtain ⟨settled, letters⟩ := moved_of_holds member holds moves
      exact ⟨settled, .inr letters⟩

theorem mem_smallFrom {c : Char} (before text : List Char) (member : c ∈ smallFrom before text) :
    IsSettled c ∧ (c ∈ text ∨ IsBrought c) := by
  induction text generalizing before with
  | nil => exact absurd member List.not_mem_nil
  | cons head rest ih =>
      have later (member : c ∈ smallFrom (head :: before) rest) :
          IsSettled c ∧ (c ∈ head :: rest ∨ IsBrought c) := by
        obtain ⟨settled, origin⟩ := ih _ member
        exact ⟨settled, origin.imp_left (List.mem_cons_of_mem _)⟩
      unfold smallFrom at member
      by_cases sigma : head.toNat = 0x3A3
      · rw [if_pos sigma] at member
        rcases List.mem_cons.mp member with same | member
        · rw [same]
          split <;> exact ⟨⟨by decide +kernel, by decide, by decide⟩, .inr (by decide +kernel)⟩
        · exact later member
      · rw [if_neg sigma] at member
        by_cases dotted : head.toNat = 0x130
        · rw [if_pos dotted] at member
          simp only [List.mem_cons] at member
          rcases member with rfl | rfl | member
          · exact ⟨⟨by decide, by decide, by decide⟩, .inr (by decide)⟩
          · exact ⟨⟨by decide +kernel, by decide, by decide⟩, .inr (by decide +kernel)⟩
          · exact later member
        · rw [if_neg dotted] at member
          rcases List.mem_cons.mp member with same | member
          · obtain ⟨settled, origin⟩ := smallLetter_cases sigma dotted
            rw [← same] at settled origin
            refine ⟨settled, origin.imp_left ?_⟩
            rintro rfl
            exact List.mem_cons_self
          · exact later member

theorem smallFrom_of_isSettled (before text : List Char) (settled : ∀ c ∈ text, IsSettled c) :
    smallFrom before text = text := by
  induction text generalizing before with
  | nil => rfl
  | cons c rest ih =>
      obtain ⟨letter, sigma, dotted⟩ := settled c List.mem_cons_self
      unfold smallFrom
      rw [if_neg sigma, if_neg dotted, letter]
      rw [ih _ (fun c member => settled c (List.mem_cons_of_mem _ member))]

theorem small_small (text : List Char) : small (small text) = small text :=
  smallFrom_of_isSettled [] _ fun _ member => (mem_smallFrom [] text member).1

theorem mem_of_mem_small {c : Char} {text : List Char} (mark : isMark c = true)
    (member : c ∈ small text) : c ∈ text := by
  rcases (mem_smallFrom [] text member).2 with origin | brought
  · exact origin
  · rw [brought.unmarked] at mark
    cases mark

end ProjectScan.Text

import ProjectScan.Proofs.JsonText

/-!
How deep texts nest. A reader opens one container for every bracket and has room for some of them, so
a text with few brackets is never too deep, and one that begins with many always is. Which of the two
holds does not depend on the gaps in front.
-/

namespace ProjectScan.Json

def Lexeme.opens : Lexeme → Bool
  | .openList | .openObject => true
  | _ => false

variable {room : Nat} {outer : List Open} {next : Placed} {later : Expecting}

theorem depth_of_begin? (begins : begin? outer next = .ok later) :
    later.depth ≤ outer.length + next.lexeme.opens.toNat := by
  unfold begin? at begins
  split at begins
  case h_1 lexeme | h_2 lexeme =>
    cases begins
    simp [Expecting.depth, Lexeme.opens, lexeme]
  case h_4 value lexeme =>
    cases number : value.value with
    | error stop =>
        rw [number] at begins
        cases begins
    | ok value =>
        rw [number] at begins
        cases begins
        exact Nat.le_add_right _ _
  all_goals cases begins
  all_goals exact Nat.le_add_right _ _

theorem depth_of_beginKey? {fields : List (String × Json)}
    (begins : beginKey? fields outer next = .ok later) : later.depth = outer.length + 1 := by
  unfold beginKey? at begins
  split at begins
  · cases begins
    rfl
  all_goals cases begins

theorem depth_of_continue? {value : Json} (goes : continue? value outer next = .ok later) :
    later.depth ≤ outer.length := by
  unfold continue? at goes
  split at goes
  all_goals cases goes
  all_goals simp [Expecting.depth]

/-- Taking a lexeme goes deeper by one container at most, and only if the lexeme opens one. -/
theorem depth_of_take? {expecting : Expecting} (takes : take? expecting next = .ok later) :
    later.depth ≤ expecting.depth + next.lexeme.opens.toNat := by
  unfold take? at takes
  cases expecting with
  | value outer => exact depth_of_begin? takes
  | itemOrEnd outer =>
      dsimp only at takes
      split at takes
      · cases takes
        exact Nat.le_trans (Nat.le_succ _) (Nat.le_add_right _ _)
      · exact depth_of_begin? takes
  | keyOrEnd outer =>
      dsimp only at takes
      split at takes
      · cases takes
        exact Nat.le_trans (Nat.le_succ _) (Nat.le_add_right _ _)
      · rw [depth_of_beginKey? takes]
        exact Nat.le_add_right _ _
  | key fields outer =>
      rw [depth_of_beginKey? takes]
      exact Nat.le_add_right _ _
  | colon fields key outer =>
      dsimp only at takes
      split at takes
      · cases takes
        exact Nat.le_add_right _ _
      · cases takes
  | more value outer => exact Nat.le_trans (depth_of_continue? takes) (Nat.le_add_right _ _)

theorem Stop.excess?_eq_none (stop : Stop) {depth : Nat} (shallow : depth ≤ room) :
    stop.excess? room depth = none := by
  unfold excess?
  split
  all_goals simp [shallow]

theorem Expecting.excess?_eq_none {expecting : Expecting} (shallow : expecting.depth ≤ room) :
    expecting.excess? room = none := by
  unfold excess? reportLevels
  unfold depth at shallow
  split
  all_goals first | rfl | exact if_pos (by simp only at shallow; omega)

theorem excessOn?_eq_none {expecting : Expecting} {rest : List Placed}
    (few : expecting.depth + rest.countP (·.lexeme.opens) ≤ room) :
    excessOn? room expecting rest = none := by
  induction rest generalizing expecting with
  | nil =>
      unfold excessOn?
      split
      · exact Stop.excess?_eq_none _ few
      · rfl
  | cons next rest ih =>
      rw [List.countP_cons] at few
      unfold excessOn?
      cases takes : take? expecting next with
      | error stop => exact Stop.excess?_eq_none _ (Nat.le_of_add_right_le few)
      | ok later =>
          have deeper := depth_of_take? takes
          have bound : later.depth + rest.countP (·.lexeme.opens) ≤ room := by
            cases opens : next.lexeme.opens <;> rw [opens] at deeper few <;>
              simp only [Bool.toNat_false, Bool.toNat_true, Bool.false_eq_true, if_true,
                if_false] at deeper few <;> omega
          dsimp only
          rw [Expecting.excess?_eq_none (Nat.le_of_add_right_le bound)]
          exact ih bound

theorem excess?_eq_none_of_few {source : List Char}
    (few : (lexemes source).countP (·.lexeme.opens) ≤ room) : excess? room source = none :=
  excessOn?_eq_none (by simpa [Expecting.depth] using few)

/-! ### Texts with many brackets -/

theorem lexemes_bracket (rest : List Char) :
    lexemes ('[' :: rest) = ⟨.openList, '[' :: rest⟩ :: lexemes rest :=
  lexemes_solid (by decide) rest

theorem excessOn?_brackets {outer : List Open} (within : outer.length < room + reportLevels)
    {count : Nat} (many : room + reportLevels ≤ outer.length + count) :
    excessOn? room (.itemOrEnd outer) (lexemes (List.replicate count '[')) = some .list := by
  induction count generalizing outer with
  | zero => omega
  | succ count ih =>
      rw [List.replicate_succ, lexemes_bracket, excessOn?]
      dsimp only [take?, begin?, Expecting.excess?]
      rw [List.length_cons]
      by_cases again : outer.length + 1 < room + reportLevels
      · rw [if_pos again]
        exact ih again (by rw [List.length_cons]; omega)
      · rw [if_neg again]

/-- More brackets than there are levels for them are too deep, whatever might follow. -/
theorem excess?_brackets {count : Nat} (many : room + reportLevels < count) :
    excess? room (List.replicate count '[') = some .list := by
  cases count with
  | zero => omega
  | succ count =>
      rw [excess?, List.replicate_succ, lexemes_bracket, excessOn?]
      dsimp only [take?, begin?, Expecting.excess?]
      rw [if_pos (by simp [reportLevels])]
      exact excessOn?_brackets (by simp [reportLevels]) (by rw [List.length_nil]; omega)

theorem excess?_dropWhile (source : List Char) :
    excess? room (source.dropWhile isGap) = excess? room source := by
  rw [excess?, excess?, lexemes_dropWhile]

def Begins (source : List Char) : Prop :=
  ∃ c rest, c ∈ starters ∧ source.dropWhile isGap = c :: rest

theorem begins_of_lexemes {source : List Char}
    (starts : ∀ place, lexemes source ≠ [⟨.junk, place⟩]) (some : lexemes source ≠ []) :
    Begins source := by
  rw [← lexemes_dropWhile] at starts some
  unfold Begins
  cases shape : source.dropWhile isGap with
  | nil =>
      rw [shape] at some
      exact absurd lexemes_nil some
  | cons c rest =>
      have solid : isGap c = false := by
        have stops := List.head_dropWhile_not isGap (l := source) (by simp [shape])
        simpa [shape] using stops
      refine ⟨c, rest, ?_, rfl⟩
      by_contra stray
      rw [shape, lexemes_solid solid, nextLexeme_of_notMem stray] at starts
      exact starts _ (by rw [lexemes_nil])

theorem begins_of_read {source : List Char} {value : Json} (reads : read source = .ok value) :
    Begins source := by
  rw [read_eq_ok_iff, readValue] at reads
  apply begins_of_lexemes
  · intro place junk
    rw [junk] at reads
    cases reads
  · intro none
    rw [none] at reads
    cases reads

theorem begins_of_excess? {source : List Char} {excess : Excess}
    (deep : excess? room source = some excess) : Begins source := by
  rw [excess?] at deep
  apply begins_of_lexemes
  · intro place junk
    rw [junk] at deep
    cases deep
  · intro none
    rw [none] at deep
    cases deep

theorem begins_of_readWithin {source : List Char} {value : Json}
    (reads : readWithin room source = .ok value) : Begins source :=
  begins_of_read (readWithin_eq_ok_iff.mp reads).2

theorem readWithin_dropWhile {source : List Char} {value : Json} :
    readWithin room (source.dropWhile isGap) = .ok value ↔ readWithin room source = .ok value := by
  rw [readWithin_eq_ok_iff, readWithin_eq_ok_iff, excess?_dropWhile, read_eq_ok_iff,
    read_eq_ok_iff, readValue_dropWhile]

end ProjectScan.Json

/-!
Cutting a text at marks. The pieces hold everything but the marks, in order.
-/

namespace ProjectScan.Text

def cutFirst (mark : Char) : List Char → List Char × Option (List Char)
  | [] => ([], none)
  | c :: rest =>
      if c = mark then ([], some rest)
      else
        let cut := cutFirst mark rest
        (c :: cut.1, cut.2)

def afterLast (mark : Char) (text : List Char) : List Char :=
  (text.reverse.takeWhile (· != mark)).reverse

def pieces (isMark : Char → Bool) : List Char → List (List Char)
  | [] => [[]]
  | c :: rest =>
      if isMark c then [] :: pieces isMark rest
      else match pieces isMark rest with
        | [] => [[c]]
        | piece :: more => (c :: piece) :: more

def joined (separator : String) : List String → String
  | [] => ""
  | [last] => last
  | first :: second :: rest => first ++ separator ++ joined separator (second :: rest)

theorem cutFirst_of_notMem {mark : Char} {text : List Char} (absent : mark ∉ text) :
    cutFirst mark text = (text, none) := by
  induction text with
  | nil => rfl
  | cons c rest ih =>
      have different : c ≠ mark := fun same => absent (same ▸ List.mem_cons_self)
      simp [cutFirst, different, ih (fun member => absent (List.mem_cons_of_mem _ member))]

theorem cutFirst_append {mark : Char} {before : List Char} (after : List Char)
    (absent : mark ∉ before) : cutFirst mark (before ++ mark :: after) = (before, some after) := by
  induction before with
  | nil => simp [cutFirst]
  | cons c rest ih =>
      have different : c ≠ mark := fun same => absent (same ▸ List.mem_cons_self)
      simp [cutFirst, different, ih (fun member => absent (List.mem_cons_of_mem _ member))]

theorem length_of_cutFirst {mark : Char} {text before after : List Char}
    (cut : cutFirst mark text = (before, some after)) :
    before.length + after.length + 1 = text.length := by
  induction text generalizing before with
  | nil => simp [cutFirst] at cut
  | cons c rest ih =>
      unfold cutFirst at cut
      split at cut
      · simp only [Prod.mk.injEq, Option.some.injEq] at cut
        simp [← cut.1, ← cut.2]
      · simp only [Prod.mk.injEq] at cut
        have tail : (cutFirst mark rest).1.length + after.length + 1 = rest.length :=
          ih (Prod.ext rfl cut.2)
        rw [← cut.1]
        simp only [List.length_cons]
        omega

theorem mark_notMem_cutFirst (mark : Char) (text : List Char) :
    mark ∉ (cutFirst mark text).1 := by
  induction text with
  | nil => simp [cutFirst]
  | cons c rest ih =>
      unfold cutFirst
      split
      · simp
      · rename_i different
        simp [ih, Ne.symm different]

theorem pieces_ne_nil (isMark : Char → Bool) (text : List Char) : pieces isMark text ≠ [] := by
  cases text with
  | nil => simp [pieces]
  | cons c rest =>
      unfold pieces
      split
      · simp
      · split <;> simp

end ProjectScan.Text

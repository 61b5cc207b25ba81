import ProjectScan.Text.Cut

/-!
Patterns for names. A star stands for any text, a question mark for any character, and brackets for
one character out of a set, or outside of it when an exclamation mark comes first. A bracket that
is not closed stands for itself.
-/

namespace ProjectScan.Glob

inductive Item where
  | anyText
  | anyChar
  | char (c : Char)
  | set (negated : Bool) (spans : List (Char × Char))
  deriving DecidableEq, Repr

/-- Cuts the text of a set at the hyphens that make spans. After the start, and after each of
those hyphens, `hold` characters come first. -/
def chunks (hold : Nat) (reversed : List Char) : List Char → List (List Char)
  | [] => [reversed.reverse]
  | c :: rest =>
      if c = '-' ∧ hold = 0 then reversed.reverse :: chunks 2 [] rest
      else chunks (hold - 1) (c :: reversed) rest

def withLastHyphen : List (List Char) → List (List Char)
  | [] => []
  | [chunk, []] => [chunk ++ ['-']]
  | chunk :: rest => chunk :: withLastHyphen rest

/-- Drops the spans that end before they start, with both their ends; the chunks on both sides of
one become a single chunk. -/
def withoutEmptySpans : List (List Char) → List (List Char)
  | [] => []
  | chunk :: rest =>
      match withoutEmptySpans rest with
      | [] => [chunk]
      | next :: more =>
          match chunk.getLast?, next.head? with
          | some low, some high =>
              if high < low then (chunk.dropLast ++ next.drop 1) :: more
              else chunk :: next :: more
          | _, _ => chunk :: next :: more

def singles (chunk : List Char) : List (Char × Char) := chunk.map fun c => (c, c)

/-- The spans of chunks: from the end of each to the start of the next, and what is between. A
hyphen with nothing on its left stands for itself. -/
def spansFrom (chunk : List Char) : List (List Char) → List (Char × Char)
  | [] => singles chunk
  | next :: rest =>
      match chunk.getLast?, next with
      | some low, high :: more => singles chunk.dropLast ++ (low, high) :: spansFrom more rest
      | _, _ => singles chunk ++ ('-', '-') :: spansFrom next rest

def setOf (body : List Char) : Item :=
  let cut := chunks (if body.head? = some '!' then 2 else 1) [] body
  match withoutEmptySpans (withLastHyphen cut) with
  | [] => .set false []
  | ('!' :: chunk) :: rest => .set true (spansFrom chunk rest)
  | chunk :: rest => .set false (spansFrom chunk rest)

/-- What stands in front of a set and cannot close it: an exclamation mark, and a bracket right
at the start or after that mark. -/
def setLead : List Char → List Char × List Char
  | '!' :: ']' :: rest => (['!', ']'], rest)
  | '!' :: rest => (['!'], rest)
  | ']' :: rest => ([']'], rest)
  | rest => ([], rest)

def closed? (source : List Char) : Option (List Char × List Char) :=
  match Text.cutFirst ']' (setLead source).2 with
  | (body, some after) => some ((setLead source).1 ++ body, after)
  | (_, none) => none

theorem setLead_length (source : List Char) : (setLead source).2.length ≤ source.length := by
  unfold setLead
  split <;> simp only [List.length_cons] <;> omega

theorem closed?_length {source body after : List Char}
    (found : closed? source = some (body, after)) : after.length < source.length := by
  unfold closed? at found
  split at found
  · rename_i cut
    have total := Text.length_of_cutFirst cut
    have whole := setLead_length source
    simp only [Option.some.injEq, Prod.mk.injEq] at found
    rw [← found.2]
    omega
  · cases found

/-! ### Patterns -/

def items : List Char → List Item
  | [] => []
  | c :: rest =>
      if c = '*' then .anyText :: items rest
      else if c = '?' then .anyChar :: items rest
      else if c = '[' then
        match _found : closed? rest with
        | some (body, after) => setOf body :: items after
        | none => .char c :: items rest
      else .char c :: items rest
  termination_by source => source.length
  decreasing_by
    · simp
    · simp
    · exact Nat.lt_succ_of_lt (closed?_length _found)
    · simp
    · simp

def Item.holds (item : Item) (c : Char) : Bool :=
  match item with
  | .anyText => false
  | .anyChar => true
  | .char own => own = c
  | .set negated spans => negated != spans.any fun span => span.1 ≤ c && c ≤ span.2

def marksAhead : List Bool → List Bool
  | [] => []
  | mark :: rest =>
      let ahead := marksAhead rest
      (mark || ahead.headD false) :: ahead

/-- The places of a text from which the items match to its end, from the place before the first
character to that after the last. -/
def matchingPlaces (text : List Char) : List Item → List Bool
  | [] => List.replicate text.length false ++ [true]
  | .anyText :: rest => marksAhead (matchingPlaces text rest)
  | item :: rest =>
      (text.zipWith (fun c ahead => item.holds c && ahead) ((matchingPlaces text rest).drop 1)) ++
        [false]

def matchesName (pattern name : String) : Bool :=
  (matchingPlaces name.toList (items pattern.toList)).headD false

end ProjectScan.Glob

import ProjectScan.Text.Blank
import ProjectScan.Unicode.CaseTable

/-!
Small and capital forms of whole texts. Two letters are special when a text is made small: the
dotted capital I becomes two characters, and a capital sigma takes its final form at the end of a
word. Capital forms may be longer than the letters they come from.
-/

namespace ProjectScan.Text

open Unicode

def moved (runs : List CaseRun) (c : Char) : Char :=
  match runs.find? fun run =>
      run.first ≤ c.toNat ∧ c.toNat ≤ run.last ∧ (c.toNat - run.first) % run.stride = 0 with
  | some run => Char.ofNat (c.toNat + run.shift).toNat
  | none => c

/-- The small form of a letter outside its context. ASCII is decided without the table. -/
def smallLetter (c : Char) : Char :=
  if isAscii c then c.toLower else moved smallRuns c

/-- The position after a cased letter and not before one, characters without weight passed over. -/
def endsWord (before after : List Char) : Bool :=
  let ignorable (c : Char) := Spans.contains caseIgnorable c.toNat
  let isCased (c : Char) := Spans.contains cased c.toNat
  (match before.dropWhile ignorable with
    | [] => false
    | c :: _ => isCased c) &&
  (match after.dropWhile ignorable with
    | [] => true
    | c :: _ => !isCased c)

/-- Makes a text small, given the characters before it, the nearest one first. -/
def smallFrom (before : List Char) : List Char → List Char
  | [] => []
  | c :: rest =>
      if c.toNat = 0x3A3 then
        (if endsWord before rest then Char.ofNat 0x3C2 else Char.ofNat 0x3C3) ::
          smallFrom (c :: before) rest
      else if c.toNat = 0x130 then 'i' :: Char.ofNat 0x307 :: smallFrom (c :: before) rest
      else smallLetter c :: smallFrom (c :: before) rest

def small (text : List Char) : List Char := smallFrom [] text

def capitalLetter (c : Char) : List Char :=
  if isAscii c then [c.toUpper]
  else match longCapitals.find? (·.1 = c.toNat) with
    | some entry => entry.2.map Char.ofNat
    | none => [moved capitalRuns c]

def capital (text : List Char) : List Char := text.flatMap capitalLetter

theorem smallFrom_ascii (before text : List Char) (ascii : ∀ c ∈ text, isAscii c = true) :
    smallFrom before text = text.map Char.toLower := by
  induction text generalizing before with
  | nil => rfl
  | cons c rest ih =>
      have head := ascii c List.mem_cons_self
      have low : c.toNat < 0x80 := of_decide_eq_true head
      have notSigma : c.toNat ≠ 0x3A3 := by omega
      have notDotted : c.toNat ≠ 0x130 := by omega
      simp only [smallFrom, notSigma, notDotted, if_false, smallLetter, head, if_true,
        List.map_cons]
      rw [ih _ (fun d member => ascii d (List.mem_cons_of_mem _ member))]

theorem small_ascii (text : List Char) (ascii : ∀ c ∈ text, isAscii c = true) :
    small text = text.map Char.toLower := smallFrom_ascii [] text ascii

end ProjectScan.Text

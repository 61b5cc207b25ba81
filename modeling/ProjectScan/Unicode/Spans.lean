/-!
Membership in a sorted list of inclusive spans, the form in which character properties are kept.
-/

namespace ProjectScan.Unicode

def Spans.contains : List (Nat × Nat) → Nat → Bool
  | [], _ => false
  | (first, last) :: rest, n =>
      if n < first then false else n ≤ last || Spans.contains rest n

end ProjectScan.Unicode

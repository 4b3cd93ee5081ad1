/-
# Classes of characters given by ranges

A character class of Unicode is listed as the ascending, disjoint ranges of its
code points.  The class modules beside this one hold the lists; this module
supplies membership.
-/

namespace ApiDoc.Text

/-- Ascending and disjoint closed ranges of code points. -/
abbrev CodeRanges := List (Nat × Nat)

namespace CodeRanges

/-- Whether a code point lies in one of the ranges.  The search ends at the
first range that starts above the code point. -/
def contains (code : Nat) : CodeRanges → Bool
  | [] => false
  | (low, high) :: rest =>
    if code < low then false
    else if code ≤ high then true
    else contains code rest

end CodeRanges

end ApiDoc.Text

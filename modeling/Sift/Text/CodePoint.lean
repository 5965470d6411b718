set_option autoImplicit false
set_option relaxedAutoImplicit false

/-!
# Ranges of code points

Classes of characters as data: a class is a list of ranges of code points.

## Main definitions

* `Sift.Text.inRanges`: a code point lies in one of several ranges.
-/

namespace Sift.Text

/-- Whether a code point lies in one of the ranges, both ends included. -/
def inRanges (ranges : List (Nat × Nat)) (n : Nat) : Bool :=
  ranges.any fun (lo, hi) => lo ≤ n && n ≤ hi

end Sift.Text

/-!
Sets of characters given by ranges of code points, the form in which the tables of the Unicode
character database are kept here.
-/

namespace PascalCheck.Text

def inRanges (ranges : List (Nat × Nat)) (c : Char) : Bool :=
  ranges.any fun (lo, hi) => lo ≤ c.toNat && c.toNat ≤ hi

end PascalCheck.Text

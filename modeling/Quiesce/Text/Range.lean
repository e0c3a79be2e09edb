/-!
Classes of characters as lists of ranges of code points, both ends included.
-/
namespace Quiesce.Text

def within (ranges : List (Nat × Nat)) (c : Char) : Bool :=
  ranges.any fun (first, last) => first ≤ c.toNat && c.toNat ≤ last

end Quiesce.Text

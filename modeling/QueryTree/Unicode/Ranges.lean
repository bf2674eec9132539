/-!
# Ranges of characters

A property of characters is given by the ranges of code points that have it.
-/
namespace QueryTree.Unicode

abbrev Ranges := List (Nat × Nat)

namespace Ranges

def holds (r : Ranges) (c : Char) : Bool :=
  r.any fun (first, last) => first ≤ c.toNat && c.toNat ≤ last

end Ranges

end QueryTree.Unicode

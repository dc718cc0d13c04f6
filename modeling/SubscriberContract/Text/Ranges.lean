/-!
# Ranges of characters

A set of characters as inclusive ranges of code points.
-/

namespace SubscriberContract.Text

abbrev Ranges := List (Nat × Nat)

def Ranges.has (rs : Ranges) (c : Char) : Bool :=
  rs.any fun (lo, hi) => lo ≤ c.toNat && c.toNat ≤ hi

end SubscriberContract.Text

/-!
# Powers

The powers of the bases in which numbers are written and kept.
-/

namespace SiteTemplates

def twoTo (n : Nat) : Nat := Nat.pow 2 n

def tenTo (n : Nat) : Nat := Nat.pow 10 n

end SiteTemplates

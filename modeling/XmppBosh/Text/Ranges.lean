/-!
# Sets of characters as ranges

`Ranges` is a set of code points as a list of first and last ones, and `Ranges.has` says whether a
character is among them.
-/

namespace XmppBosh.Text

/-- A set of code points, as the first and last ones of its ranges. -/
abbrev Ranges := List (Nat × Nat)

def Ranges.has (ranges : Ranges) (c : Char) : Bool :=
  ranges.any fun r => r.1 ≤ c.toNat && c.toNat ≤ r.2

end XmppBosh.Text

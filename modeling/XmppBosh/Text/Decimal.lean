/-!
# Counts written in decimal

`count? text` reads a count of at most 32 bits: decimal digits, any number of them, with an
optional `+` in front, and nothing else.
-/

namespace XmppBosh.Text.Decimal

/-- The number that a run of decimal digits stands for; the empty run stands for none. -/
def digits? (cs : List Char) : Option Nat :=
  if cs = [] ∨ !cs.all (fun c => '0' ≤ c ∧ c ≤ '9') then none
  else some (cs.foldl (fun n c => n * 10 + (c.toNat - 48)) 0)

/-- The characters of a count without the `+` that may stand in front. -/
def unsigned : List Char → List Char
  | '+' :: cs => cs
  | cs => cs

/-- A count of at most 32 bits. -/
def count? (text : String) : Option Nat :=
  (digits? (unsigned text.toList)).filter (· < UInt32.size)

end XmppBosh.Text.Decimal

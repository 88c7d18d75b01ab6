import XmppBosh.Xml.Chars

/-!
# References

* `Reference.resolve? name` : the character that `&name;` stands for.

There are five named references. Any other one gives the number of its character, in one to eight
digits, decimal after `#` and hexadecimal after `#x`.
-/

namespace XmppBosh.Xml.Reference

/-- The character of a number, if a document may hold it. -/
def charOf? (n : Nat) : Option Char :=
  if h : n.isValidChar then
    let c := Char.ofNatAux n h
    if isAllowed c then some c else none
  else none

def digitValue? (base : Nat) (c : Char) : Option Nat :=
  let v := if '0' ≤ c ∧ c ≤ '9' then c.toNat - 48
    else if 'a' ≤ c ∧ c ≤ 'f' then c.toNat - 87
    else if 'A' ≤ c ∧ c ≤ 'F' then c.toNat - 55
    else base
  if v < base then some v else none

/-- The most digits that a number may have, leading zeros counted. -/
def maxDigits : Nat := 8

def numeral? (base : Nat) (cs : List Char) : Option Nat :=
  if cs = [] ∨ maxDigits < cs.length then none
  else cs.foldlM (fun n c => (digitValue? base c).map (n * base + ·)) 0

/-- The character that a reference stands for, given what is between `&` and `;`. -/
def resolve? : List Char → Option Char
  | ['l', 't'] => some '<'
  | ['g', 't'] => some '>'
  | ['a', 'm', 'p'] => some '&'
  | ['a', 'p', 'o', 's'] => some '\''
  | ['q', 'u', 'o', 't'] => some '"'
  | '#' :: 'x' :: digits => (numeral? 16 digits).bind charOf?
  | '#' :: digits => (numeral? 10 digits).bind charOf?
  | _ => none

end XmppBosh.Xml.Reference

import Std.Data.HashMap

/-!
# Tables of characters as text

A table is kept as a text of entries with blanks between them; numbers are hexadecimal code points.

* `Weights` : entries `a=w` or `a-b=w`, a number for every code point in a range, else zero;
* `Mapping` : entries `a=b,c,..`, the characters that stand for a character, else itself;
* `Pairs` : entries `a,b=c`, one character for two.
-/

namespace XmppBosh.Stringprep

def hexNumber (digits : String) : Nat :=
  digits.foldl (fun n c => n * 16 + if c.isDigit then c.toNat - 48 else c.toNat - 55) 0

def entries (text : String) : List String :=
  ((text.splitOn "\n").flatMap (·.splitOn " ")).filter (· ≠ "")

def rangeOf (entry : String) : Nat × Nat :=
  match entry.splitOn "-" with
  | [a, b] => (hexNumber a, hexNumber b)
  | _ => (hexNumber entry, hexNumber entry)

/-- Numbers given to ranges of code points. -/
abbrev Weights := List ((Nat × Nat) × Nat)

def Weights.ofText (text : String) : Weights :=
  (entries text).filterMap fun entry =>
    match entry.splitOn "=" with
    | [range, weight] => some (rangeOf range, hexNumber weight)
    | _ => none

/-- The number given to a character; zero outside the ranges. -/
def Weights.of (weights : Weights) (c : Char) : Nat :=
  match weights.find? fun w => w.1.1 ≤ c.toNat && c.toNat ≤ w.1.2 with
  | some w => w.2
  | none => 0

abbrev Mapping := Std.HashMap Nat (List Char)

def Mapping.ofText (text : String) : Mapping :=
  (entries text).foldl (fun m entry =>
    match entry.splitOn "=" with
    | [key, value] => m.insert (hexNumber key) ((value.splitOn ",").map fun v => Char.ofNat (hexNumber v))
    | _ => m) {}

/-- What stands for a character; itself when the mapping does not name it. -/
def Mapping.get (m : Mapping) (c : Char) : List Char := (m[c.toNat]?).getD [c]

abbrev Pairs := Std.HashMap (Nat × Nat) Char

def Pairs.ofText (text : String) : Pairs :=
  (entries text).foldl (fun m entry =>
    match (entry.splitOn "=").map (·.splitOn ",") with
    | [[a, b], [c]] => m.insert (hexNumber a, hexNumber b) (Char.ofNat (hexNumber c))
    | _ => m) {}

end XmppBosh.Stringprep

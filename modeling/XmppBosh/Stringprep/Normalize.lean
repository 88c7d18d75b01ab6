import XmppBosh.Stringprep.Composition

/-!
# Compatibility normalisation

`normalize cs` takes characters apart, orders the marks after each base by their classes, and puts
pairs together again, so that texts that differ only in the spelling of a character become one.
Hangul syllables are taken apart and put together by arithmetic.
-/

namespace XmppBosh.Stringprep

/-! ## Hangul -/

/-- A Hangul syllable as its two or three parts. -/
def hangulParts (c : Char) : List Char :=
  let s := c.toNat - 0xAC00
  let lead := Char.ofNat (0x1100 + s / 588)
  let vowel := Char.ofNat (0x1161 + s % 588 / 28)
  if s % 28 = 0 then [lead, vowel] else [lead, vowel, Char.ofNat (0x11A7 + s % 28)]

/-- The syllable that two parts, or a syllable and its last part, compose to. -/
def hangulJoin (a b : Char) : Option Char :=
  if 0x1100 ≤ a.toNat ∧ a.toNat < 0x1113 ∧ 0x1161 ≤ b.toNat ∧ b.toNat < 0x1176 then
    some (Char.ofNat (0xAC00 + ((a.toNat - 0x1100) * 21 + (b.toNat - 0x1161)) * 28))
  else if 0xAC00 ≤ a.toNat ∧ a.toNat < 0xD7A4 ∧ (a.toNat - 0xAC00) % 28 = 0
      ∧ 0x11A7 < b.toNat ∧ b.toNat < 0x11C3 then
    some (Char.ofNat (a.toNat + (b.toNat - 0x11A7)))
  else none

/-! ## Taking apart -/

def decompose (c : Char) : List Char :=
  if c.toNat < 0xA0 then [c]
  else if 0xAC00 ≤ c.toNat ∧ c.toNat < 0xD7A4 then hangulParts c
  else decompositions.get c

def markClass (c : Char) : Nat := if c.toNat < 0x300 then 0 else markClasses.of c

/-- Puts a mark in front of the first one of its class or a higher one. -/
def insertMark (m : Char) : List Char → List Char
  | [] => [m]
  | c :: cs => if markClass m ≤ markClass c then m :: c :: cs else c :: insertMark m cs

def sortMarks (marks : List Char) : List Char := marks.foldr insertMark []

/-- Each run of marks in order; `marks` is the run that is being read. -/
def orderMarks (marks : List Char) : List Char → List Char
  | [] => sortMarks marks
  | c :: cs =>
    if markClass c = 0 then sortMarks marks ++ c :: orderMarks [] cs else orderMarks (marks ++ [c]) cs

/-! ## Putting together -/

def joinPair (a b : Char) : Option Char :=
  match hangulJoin a b with
  | some c => some c
  | none => if b.toNat < 0x300 then none else compositions[(a.toNat, b.toNat)]?

/-- A base with the marks after it that did not join it. -/
structure Cluster where
  base : Char
  marks : List Char := []

/-- Whether the base can still reach a character of class `k`: no mark of that class or a higher one
stands between. -/
def Cluster.reaches (g : Cluster) (k : Nat) : Bool :=
  match g.marks.getLast? with
  | none => true
  | some m => markClass m < k

/-- Characters put together; `open?` is the cluster that is being read. -/
def composeFrom (open? : Option Cluster) : List Char → List Char
  | [] => match open? with
    | none => []
    | some g => g.base :: g.marks
  | c :: cs =>
    let k := markClass c
    match open? with
    | none => if k = 0 then composeFrom (some ⟨c, []⟩) cs else c :: composeFrom none cs
    | some g =>
      match if g.reaches k then joinPair g.base c else none with
      | some joined => composeFrom (some { g with base := joined }) cs
      | none =>
        if k = 0 then g.base :: g.marks ++ composeFrom (some ⟨c, []⟩) cs
        else composeFrom (some { g with marks := g.marks ++ [c] }) cs

/-- Compatibility normalisation. -/
def normalize (cs : List Char) : List Char :=
  composeFrom none (orderMarks [] (cs.flatMap decompose))

end XmppBosh.Stringprep

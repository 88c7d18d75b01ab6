import XmppBosh.Xml.Reference

/-!
# Runs of characters

What stands between two pieces of markup, between the marks of a section, or between the quotes of
an attribute, given as written.

* `Piece` : a character as it stands there, or one that a reference stands for;
* `Buffer` : the characters taken so far, and how many bytes of them are in the buffer;
* `Run.text?`, `Run.cdata?`, `Run.value?` : the characters that a text, a section or a value means.

The end of a line, however it is written, is one line feed in a text or a section and one space in
a value. A buffer holds `capacity` bytes. In a text or a section a full buffer makes room, and all
that is asked is that no character lies across its end; a value has to fit.
-/

namespace XmppBosh.Xml

/-! ## Pieces -/

inductive Piece where
  /-- It stands there itself. -/
  | plain (c : Char)
  /-- A reference stands there for it. -/
  | referred (c : Char)

/-- The pieces of a run; `open?` is the reference that is being read, its last character first. -/
def Piece.ofChars? (open? : Option (List Char)) : List Char → Option (List Piece)
  | [] => if open?.isNone then some [] else none
  | c :: cs =>
    match open? with
    | none =>
      if c = '&' then ofChars? (some []) cs
      else (ofChars? none cs).map (.plain c :: ·)
    | some name =>
      if c = ';' then do
        let r ← Reference.resolve? name.reverse
        (ofChars? none cs).map (.referred r :: ·)
      else ofChars? (some (c :: name)) cs

/-! ## Buffers -/

def capacity : Nat := 8192

def byteCount (cs : List Char) : Nat := cs.foldl (fun n c => n + c.utf8Size) 0

/-- The last character taken, where it matters to the next one. -/
inductive Last where
  | other
  | bracket
  | carriageReturn
  deriving DecidableEq

/-- The characters taken so far, the last one first. -/
structure Buffer where
  taken : List Char := []
  /-- The bytes in the buffer. -/
  fill : Nat := 0
  last : Last := .other

namespace Buffer

def chars (b : Buffer) : List Char := b.taken.reverse

/-- One more character, whatever the buffer holds. -/
def push (b : Buffer) (c : Char) (last : Last) : Buffer := ⟨c :: b.taken, b.fill + c.utf8Size, last⟩

def read? (b : Buffer) (c : Char) : Option Buffer :=
  let b := if b.fill < capacity then b else { b with fill := 0 }
  if isAllowed c ∧ b.fill + c.utf8Size ≤ capacity then some (b.push c .other) else none

/-- The first character of a stretch, which comes after a bracket or the end of a line: the buffer
does not make room for it, and only a single byte may go past its end. -/
def admit? (b : Buffer) (c : Char) : Option Buffer :=
  if isAllowed c ∧ (c.utf8Size = 1 ∨ b.fill + c.utf8Size ≤ capacity) then some (b.push c .other)
  else none

def fit? (b : Buffer) (c : Char) : Option Buffer :=
  if isAllowed c ∧ b.fill + c.utf8Size ≤ capacity then some (b.push c .other) else none

def text? (b : Buffer) (c : Char) : Option Buffer :=
  if c = '\r' then some (b.push '\n' .carriageReturn)
  else if c = '\n' ∧ b.last = .carriageReturn then some { b with last := .other }
  else if c = ']' then some (b.push ']' .bracket)
  else if b.last = .other then b.read? c
  else b.admit? c

/-- One more character of a section, where what follows a bracket is taken as it stands. -/
def cdata? (b : Buffer) (c : Char) : Option Buffer :=
  if b.last = .bracket ∧ c ≠ ']' then b.admit? c else b.text? c

/-- One more character of a value. A carriage return is a space only before another one; before any
other blank it belongs to that, and only a reference or the end of the value may follow it else. -/
def value? (b : Buffer) (c : Char) : Option Buffer :=
  if c = '\r' then
    if b.last = .carriageReturn then some (b.push ' ' .carriageReturn)
    else some { b with last := .carriageReturn }
  else if c = '\n' ∨ c = '\t' then some (b.push ' ' .other)
  else if c = '<' ∨ b.last = .carriageReturn then none
  else b.fit? c

def piece? (plain? : Buffer → Char → Option Buffer) (b : Buffer) : Piece → Option Buffer
  | .plain c => plain? b c
  | .referred c => some (b.push c .other)

end Buffer

/-! ## Runs -/

namespace Run

def text? (cs : List Char) : Option (List Char) := do
  let pieces ← Piece.ofChars? none cs
  let b ← pieces.foldlM (Buffer.piece? Buffer.text?) {}
  some b.chars

def cdata? (cs : List Char) : Option (List Char) := do
  let b ← cs.foldlM Buffer.cdata? {}
  some b.chars

def value? (cs : List Char) : Option (List Char) := do
  let pieces ← Piece.ofChars? none cs
  let b ← pieces.foldlM (Buffer.piece? Buffer.value?) {}
  some b.chars

end Run

end XmppBosh.Xml

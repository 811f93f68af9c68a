/-
Positions in a text, from what is left of it.

A reader that fails keeps the characters it has not read.  `positionOf` turns that
rest into a line and a column, both counted from one, and an offset counted from
zero.
-/

namespace ContractDrift.Text

/-- A place in a text. -/
structure Position where
  line : Nat
  column : Nat
  offset : Nat
  deriving Repr, DecidableEq, Inhabited

/-- The place one character further on. -/
def Position.advance (p : Position) (c : Char) : Position :=
  if c = '\n' then ⟨p.line + 1, 1, p.offset + 1⟩ else ⟨p.line, p.column + 1, p.offset + 1⟩

/-- The place where a text starts. -/
def Position.start : Position := ⟨1, 1, 0⟩

/-- The place after some characters. -/
def Position.after (cs : List Char) : Position := cs.foldl Position.advance Position.start

/-- The place in `whole` where its suffix of length `rest` begins. -/
def positionOf (whole : List Char) (rest : Nat) : Position :=
  Position.after (whole.take (whole.length - rest))

@[simp]
theorem Position.after_nil : Position.after [] = Position.start := rfl

theorem Position.offset_foldl (cs : List Char) (p : Position) :
    (cs.foldl Position.advance p).offset = p.offset + cs.length := by
  induction cs generalizing p with
  | nil => simp
  | cons c r ih =>
    rw [List.foldl_cons, ih]
    unfold Position.advance
    split <;> simp <;> omega

/-- The offset of a place is the number of characters before it. -/
theorem Position.offset_after (cs : List Char) : (Position.after cs).offset = cs.length := by
  simp [Position.after, Position.offset_foldl, Position.start]

end ContractDrift.Text

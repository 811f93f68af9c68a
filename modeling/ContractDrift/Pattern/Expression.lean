/-
Patterns for texts.

A `Node` is one element of a pattern and a pattern is a sequence of them.  `width`
bounds the number of characters that a sequence can match, which a look-behind needs
to know.
-/
import ContractDrift.Pattern.CharClass

namespace ContractDrift.Pattern

/-- The modes in which a pattern is matched. -/
structure Modes where
  ignoreCase : Bool
  multiline : Bool
  dotAll : Bool
  verbose : Bool
  ascii : Bool
  deriving Repr, DecidableEq, Inhabited

namespace Modes

/-- No mode on. -/
def none : Modes := ⟨false, false, false, false, false⟩

/-- The modes of either. -/
def union (a b : Modes) : Modes :=
  ⟨a.ignoreCase || b.ignoreCase, a.multiline || b.multiline, a.dotAll || b.dotAll,
    a.verbose || b.verbose, a.ascii || b.ascii⟩

/-- The modes of the first that are not of the second. -/
def minus (a b : Modes) : Modes :=
  ⟨a.ignoreCase && !b.ignoreCase, a.multiline && !b.multiline, a.dotAll && !b.dotAll,
    a.verbose && !b.verbose, a.ascii && !b.ascii⟩

/-- Whether both have a mode on. -/
def meets (a b : Modes) : Bool :=
  (a.ignoreCase && b.ignoreCase) || (a.multiline && b.multiline) || (a.dotAll && b.dotAll) ||
    (a.verbose && b.verbose) || (a.ascii && b.ascii)

end Modes

/-- A place that a pattern can ask for. -/
inductive Anchor where
  | lineStart
  | lineEnd
  | textStart
  | textEnd
  | wordBoundary
  | noWordBoundary
  deriving Repr, DecidableEq, Inhabited

/-- A member of a set of characters. -/
inductive SetItem where
  | range (low high : Nat)
  | ofClass (negated : Bool) (k : CharClass)
  deriving Repr, DecidableEq, Inhabited

/-- How a repetition chooses the number of its turns. -/
inductive Greed where
  | most
  | least
  /-- As many as possible, and never fewer afterwards. -/
  | possessive
  deriving Repr, DecidableEq, Inhabited

/-- What a group turns on and off inside it; the text modes replace one another. -/
structure ModeChange where
  on : Modes
  off : Modes
  /-- Whether the classes reach beyond ASCII again. -/
  unicode : Bool
  deriving Repr, DecidableEq, Inhabited

/-- No change of modes. -/
def ModeChange.none : ModeChange := ⟨Modes.none, Modes.none, false⟩

/-- Whether the modes stay as they are. -/
def ModeChange.isNone (c : ModeChange) : Bool := c == ModeChange.none

/-- The modes inside a group. -/
def ModeChange.apply (c : ModeChange) (m : Modes) : Modes :=
  let m := if c.unicode then { m with ascii := false } else m
  (m.union c.on).minus c.off

/-- One element of a pattern. -/
inductive Node where
  | literal (code : Nat)
  | any
  | set (negated : Bool) (items : List SetItem)
  | anchor (a : Anchor)
  | group (index : Option Nat) (change : ModeChange) (body : List Node)
  | branch (alternatives : List (List Node))
  | repetition (min : Nat) (max : Option Nat) (greed : Greed) (body : List Node)
  /-- Looks ahead, or from `back` characters earlier. -/
  | look (back : Option Nat) (negated : Bool) (body : List Node)
  | atomic (body : List Node)
  | backreference (index : Nat)
  | conditional (index : Nat) (yes no : List Node)
  deriving Inhabited

/-- A bound on numbers of characters; nothing means there is none. -/
abbrev Limit := Option Nat

/-- The least and the greatest number of characters. -/
structure Width where
  least : Nat
  greatest : Limit
  deriving Repr, DecidableEq, Inhabited

namespace Width

/-- The width of what one stands before the other. -/
def plus (a b : Width) : Width :=
  ⟨a.least + b.least, do return (← a.greatest) + (← b.greatest)⟩

/-- The width of either of two. -/
def either (a b : Width) : Width :=
  ⟨min a.least b.least, do return max (← a.greatest) (← b.greatest)⟩

/-- The width of repetitions. -/
def times (a : Width) (least : Nat) (greatest : Limit) : Width :=
  ⟨a.least * least,
    match a.greatest, greatest with
    | some 0, _ => some 0
    | some n, some m => some (n * m)
    | _, _ => none⟩

end Width

mutual

/-- The width of one element, given the widths of the groups. -/
def Node.width (groups : Nat → Width) : Node → Width
  | .literal _ => ⟨1, some 1⟩
  | .any => ⟨1, some 1⟩
  | .set _ _ => ⟨1, some 1⟩
  | .anchor _ => ⟨0, some 0⟩
  | .group _ _ body => widthOf groups body
  | .branch alternatives => widthOfAny groups alternatives
  | .repetition least greatest _ body => (widthOf groups body).times least greatest
  | .look _ _ _ => ⟨0, some 0⟩
  | .atomic body => widthOf groups body
  | .backreference i => groups i
  | .conditional _ yes no => (widthOf groups yes).either (widthOf groups no)

/-- The width of a sequence. -/
def widthOf (groups : Nat → Width) : List Node → Width
  | [] => ⟨0, some 0⟩
  | n :: r => (n.width groups).plus (widthOf groups r)

/-- The width of any of some sequences. -/
def widthOfAny (groups : Nat → Width) : List (List Node) → Width
  | [] => ⟨0, some 0⟩
  | [a] => widthOf groups a
  | a :: r => (widthOf groups a).either (widthOfAny groups r)

end

mutual

/-- A bound on the steps that one turn through an element takes. -/
def Node.weight : Node → Nat
  | .literal _ => 1
  | .any => 1
  | .set _ _ => 1
  | .anchor _ => 1
  | .group _ _ body => weightOf body + 2
  | .branch alternatives => weightOfAll alternatives + 2
  | .repetition least _ _ body => (least + 2) * (weightOf body + 3) + 2
  | .look _ _ body => weightOf body + 2
  | .atomic body => weightOf body + 2
  | .backreference _ => 1
  | .conditional _ yes no => weightOf yes + weightOf no + 2

/-- A bound on the steps that one turn through a sequence takes. -/
def weightOf : List Node → Nat
  | [] => 1
  | n :: r => n.weight + weightOf r + 2

/-- A bound on the steps that one turn through each of some sequences takes. -/
def weightOfAll : List (List Node) → Nat
  | [] => 1
  | a :: r => weightOf a + weightOfAll r + 2

end

end ContractDrift.Pattern

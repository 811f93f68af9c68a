/-
Notes about what goes on.

A `Note` has the part of the program that makes it, a level and a text.  A log shows the
notes from some level on, one after the other.
-/

namespace ContractDrift.Log

/-- How grave a note is. -/
inductive Level where
  | debug
  | info
  | warning
  | error
  | critical
  deriving Repr, DecidableEq, Inhabited

/-- The levels by name, the least grave one first. -/
def levels : List (String × Level) :=
  [("DEBUG", .debug), ("INFO", .info), ("WARNING", .warning), ("ERROR", .error),
   ("CRITICAL", .critical)]

/-- The name of a level. -/
def Level.name : Level → String
  | debug => "DEBUG"
  | info => "INFO"
  | warning => "WARNING"
  | error => "ERROR"
  | critical => "CRITICAL"

/-- The position of a level among the levels. -/
def Level.rank : Level → Nat
  | debug => 0
  | info => 1
  | warning => 2
  | error => 3
  | critical => 4

/-- What a part of the program has to say. -/
structure Note where
  source : String
  level : Level
  text : String
  deriving Repr, DecidableEq, Inhabited

/-- A note as a log shows it. -/
def Note.line (time : String) (n : Note) : String :=
  " - ".intercalate [time, n.source, n.level.name, n.text]

/-- Whether a log that starts at a level shows a note. -/
def Note.isShown (least : Level) (n : Note) : Bool := decide (least.rank ≤ n.level.rank)

theorem levels_lookup (l : Level) : levels.lookup l.name = some l := by
  cases l <;> decide

end ContractDrift.Log

/-
Files of assignments.

A line of such a file gives a value to a name, as in `NAME=value`.  The word `export` may
stand in front of the name and a comment behind the value.  A value between quotes can
have line ends in it and goes on to the quote that closes it; `${NAME}` in a value means
the value of another name, and `${NAME:-text}` says what it means when there is none.

* `parse` reads the assignments and passes over lines that are none;
* `expand` puts the values for the references, one assignment after the other.

Design notes: the readers of a line take what is left of the file and give what is left
after them.  A reader that fails gives what was left when it did, because the rest of
that line is passed over.
-/
import ContractDrift.Text.Blank
import ContractDrift.Text.Line
import ContractDrift.Text.Search

namespace ContractDrift.Environment

/-- Names and their values, the later ones counting more; a name can stand there without
a value. -/
abbrev Assignments := List (String × Option String)

/-! ## Parts of a line -/

/-- A blank that ends no line. -/
def isInlineBlank (c : Char) : Bool := Text.isBlank c && c != '\n'

/-- What is left after blanks on a line. -/
def skipInline (cs : List Char) : List Char := cs.dropWhile isInlineBlank

/-- What is left after the word `export`. -/
def skipExport (cs : List Char) : List Char :=
  match Text.dropPrefix? "export".toList cs with
  | some (c :: r) => if isInlineBlank c then skipInline r else cs
  | _ => cs

/-- Whether a character can stand in a name without quotes. -/
def isNameChar (c : Char) : Bool := c != '=' && c != '#' && !Text.isBlank c

/-- The name at the front of a line; there is none in front of a comment. -/
def readName (cs : List Char) : Except (List Char) (Option (List Char) × List Char) :=
  match cs with
  | '#' :: _ => .ok (none, cs)
  | '\'' :: r =>
    match r.span (· ≠ '\'') with
    | (c :: name, _ :: rest) => .ok (some (c :: name), rest)
    | _ => .error cs
  | _ =>
    match cs.span isNameChar with
    | ([], _) => .error cs
    | (name, rest) => .ok (some name, rest)

/-- The text up to the quote that closes it, and what is left after that.  This is the
first quote without a backslash before it; when there is none, it is the last quote. -/
def takeQuoted (quote : Char) : List Char → Option (List Char × List Char)
  | [] => none
  | [c] => if c = quote then some ([], []) else none
  | c :: d :: r =>
    if c = quote then some ([], d :: r)
    else if c = '\\' ∧ d = quote then
      match takeQuoted quote r with
      | some (text, rest) => some (c :: d :: text, rest)
      | none => some ([c], r)
    else (takeQuoted quote (d :: r)).map fun (text, rest) => (c :: text, rest)

/-- What a backslash with the next character stands for inside apostrophes. -/
def plainEscapes : List (Char × Char) := [('\\', '\\'), ('\'', '\'')]

/-- What a backslash with the next character stands for inside double quotes. -/
def richEscapes : List (Char × Char) :=
  plainEscapes ++ [('"', '"'), ('a', '\x07'), ('b', '\x08'), ('f', '\x0c'), ('n', '\n'),
    ('r', '\r'), ('t', '\t'), ('v', '\x0b')]

/-- The text with escapes replaced by what they stand for. -/
def unescape (escapes : List (Char × Char)) : List Char → List Char
  | [] => []
  | [c] => [c]
  | c :: d :: r =>
    match c, escapes.lookup d with
    | '\\', some e => e :: unescape escapes r
    | _, _ => c :: unescape escapes (d :: r)

/-- What stands before the first number sign that follows a blank. -/
def beforeComment : List Char → List Char
  | [] => []
  | [c] => [c]
  | c :: d :: r => if d = '#' ∧ Text.isBlank c then [] else c :: beforeComment (d :: r)

/-- A value without quotes. -/
def bareValue (line : List Char) : List Char :=
  ((beforeComment line).reverse.dropWhile Text.isBlank).reverse

/-- The value at the front of what is left. -/
def readValue (cs : List Char) : Except (List Char) (List Char × List Char) :=
  let between (quote : Char) (escapes : List (Char × Char)) (r : List Char) :
      Except (List Char) (List Char × List Char) :=
    match takeQuoted quote r with
    | some (text, rest) => .ok (unescape escapes text, rest)
    | none => .error cs
  match cs with
  | '\'' :: r => between '\'' plainEscapes r
  | '"' :: r => between '"' richEscapes r
  | _ =>
    let (line, rest) := Text.firstLine cs
    .ok (bareValue line, rest)

/-- The value that a line gives to its name, if it gives one. -/
def readAssigned (cs : List Char) : Except (List Char) (Option (List Char) × List Char) :=
  match cs with
  | '=' :: r => (readValue (skipInline r)).map fun (value, rest) => (some value, rest)
  | _ => .ok (none, cs)

/-- What is left after the end of a line that has nothing more than a comment. -/
def endLine (cs : List Char) : Except (List Char) (List Char) :=
  let rest := match skipInline cs with
    | '#' :: r => (Text.firstLine r).2
    | r => r
  match rest with
  | [] => .ok []
  | c :: r => if c = '\n' then .ok r else .error cs

/-! ## Files -/

/-- Reads a line that starts with no blank: its assignment, if it is no comment. -/
def readLine (cs : List Char) :
    Except (List Char) (Option (String × Option String) × List Char) := do
  let (name, rest) ← readName (skipExport cs)
  let (value, rest) ← readAssigned (skipInline rest)
  let rest ← endLine rest
  return (name.map fun n => (String.ofList n, value.map String.ofList), rest)

/-- The assignment at the front of a file, if there is one, and what is left after its
line. -/
def readPart (cs : List Char) : Option (String × Option String) × List Char :=
  match cs.dropWhile Text.isBlank with
  | [] => (none, [])
  | c :: r =>
    match readLine (c :: r) with
    | .ok found => found
    | .error rest => (none, (Text.firstLine rest).2.drop 1)

/-- The assignments of a file of which no more lines are read than `fuel`. -/
def parseFuel : (fuel : Nat) → List Char → Assignments
  | 0, _ => []
  | _ + 1, [] => []
  | n + 1, c :: r =>
    let (found, rest) := readPart (c :: r)
    found.toList ++ parseFuel n rest

/-- The assignments of a file, as they are written. -/
def parse (text : String) : Assignments :=
  let cs := Text.unifyEnds text.toList
  parseFuel cs.length cs

/-! ## References -/

/-- The name and the text for want of a value of a reference, after its opening, and what
is left after it. -/
def takeReference (cs : List Char) : Option (String × String × List Char) :=
  let (name, rest) := cs.span fun c => c ≠ '\x7d' ∧ c ≠ ':'
  match rest with
  | '\x7d' :: r => some (String.ofList name, "", r)
  | ':' :: '-' :: r =>
    match r.span (· ≠ '\x7d') with
    | (otherwise, _ :: r) => some (String.ofList name, String.ofList otherwise, r)
    | (_, []) => none
  | _ => none

/-- The value that is known for a name; `none` when the name is not known. -/
abbrev Known := String → Option (Option String)

/-- What a reference means. -/
def meaning (known : Known) (name otherwise : String) : String :=
  match known name with
  | some value => value.getD ""
  | none => otherwise

/-- The text with the values for its references. -/
def resolveFuel (known : Known) : (fuel : Nat) → List Char → List Char
  | 0, cs => cs
  | _ + 1, [] => []
  | n + 1, c :: r =>
    match c, r with
    | '$', '\x7b' :: inside =>
      match takeReference inside with
      | some (name, otherwise, rest) =>
        (meaning known name otherwise).toList ++ resolveFuel known n rest
      | none => c :: resolveFuel known n r
    | _, _ => c :: resolveFuel known n r

/-- The value with the values for its references. -/
def resolve (known : Known) (value : String) : String :=
  String.ofList (resolveFuel known value.length value.toList)

/-- Gives a value to a name, in the place of the one that it has. -/
def assign (name : String) (value : Option String) : Assignments → Assignments
  | [] => [(name, value)]
  | (n, v) :: r => if n = name then (n, value) :: r else (n, v) :: assign name value r

/-- Puts the values for the references in some assignments; a name means what it has been
given before, else what it is in the environment. -/
def expand (environment assignments : Assignments) : Assignments :=
  assignments.foldl (fun done (name, value) =>
    let known : Known := fun n => (done.lookup n).orElse fun _ => environment.lookup n
    assign name (value.map (resolve known)) done) []

/-! ## Laws -/

@[simp]
theorem lookup_assign_self (name : String) (value : Option String) (a : Assignments) :
    (assign name value a).lookup name = some value := by
  induction a with
  | nil => simp [assign]
  | cons e r ih =>
    obtain ⟨n, v⟩ := e
    by_cases h : n = name
    · simp [assign, h]
    · have : (name == n) = false := by simpa using Ne.symm h
      simp [assign, h, List.lookup_cons, this, ih]

/-- A text without a dollar sign refers to nothing. -/
theorem resolveFuel_eq_self (known : Known) (n : Nat) (cs : List Char) (h : '$' ∉ cs) :
    resolveFuel known n cs = cs := by
  induction n generalizing cs with
  | zero => rfl
  | succ n ih =>
    cases cs with
    | nil => rfl
    | cons c r =>
      simp only [List.mem_cons, not_or] at h
      unfold resolveFuel
      split
      · exact absurd rfl h.1
      · rw [ih r h.2]

end ContractDrift.Environment

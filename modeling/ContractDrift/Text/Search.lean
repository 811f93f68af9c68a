/-
Splitting, joining and replacing in texts held as lists of characters.

* `splitFirst` and `splitLast` cut at the first and the last separator;
* `splitAll` cuts at every separator and never answers the empty list;
* `joinWith` puts a separator between the members of a list;
* `replaceAll` replaces the non-overlapping occurrences of a text, from the left.
-/

namespace ContractDrift.Text

/-- The characters before and after the first `sep`, if there is one. -/
def splitFirst (sep : Char) : List Char → Option (List Char × List Char)
  | [] => none
  | c :: r =>
    if c = sep then some ([], r)
    else (splitFirst sep r).map fun (a, b) => (c :: a, b)

/-- The characters before and after the last `sep`, if there is one. -/
def splitLast (sep : Char) (cs : List Char) : Option (List Char × List Char) :=
  (splitFirst sep cs.reverse).map fun (a, b) => (b.reverse, a.reverse)

/-- The pieces between the separators; one piece when there is no separator. -/
def splitAll (sep : Char) : List Char → List (List Char)
  | [] => [[]]
  | c :: r =>
    if c = sep then [] :: splitAll sep r
    else match splitAll sep r with
      | [] => [[c]]
      | p :: ps => (c :: p) :: ps

theorem splitAll_ne_nil (sep : Char) (cs : List Char) : splitAll sep cs ≠ [] := by
  cases cs with
  | nil => simp [splitAll]
  | cons c r =>
    unfold splitAll
    split
    · simp
    · split <;> simp

/-- What follows `pre` in `cs`, if `cs` starts with `pre`. -/
def dropPrefix? : (pre : List Char) → (cs : List Char) → Option (List Char)
  | [], cs => some cs
  | _ :: _, [] => none
  | p :: ps, c :: cs => if p = c then dropPrefix? ps cs else none

/-- Whether `cs` starts with `pre`. -/
def startsWith (pre cs : List Char) : Bool := (dropPrefix? pre cs).isSome

/-- Whether `cs` ends with `post`. -/
def endsWith (post cs : List Char) : Bool := startsWith post.reverse cs.reverse

/-- Whether `needle` occurs somewhere in the text. -/
def contains (needle : List Char) : List Char → Bool
  | [] => needle.isEmpty
  | c :: r => startsWith needle (c :: r) || contains needle r

/-- Replaces every occurrence of the non-empty text `old`, from the left and
without overlap; `n` bounds the number of steps. -/
def replaceAllFuel (old new : List Char) : Nat → List Char → List Char
  | 0, cs => cs
  | _ + 1, [] => []
  | n + 1, c :: r =>
    match dropPrefix? old (c :: r) with
    | some rest => new ++ replaceAllFuel old new n rest
    | none => c :: replaceAllFuel old new n r

/-- Replaces every occurrence of the non-empty text `old` by `new`. -/
def replaceAll (old new cs : List Char) : List Char :=
  if old.isEmpty then cs else replaceAllFuel old new (cs.length + 1) cs

/-- The members with `sep` between neighbours. -/
def joinWith (sep : String) (parts : List String) : String := sep.intercalate parts

/-- A text that stands in double braces' place: the value in single braces. -/
def braced (s : String) : String := "\x7b" ++ s ++ "\x7d"

/-- The text repeated `n` times. -/
def repeated (s : String) (n : Nat) : String := String.join (List.replicate n s)

/-- The order of lists of characters by code point; the first difference decides. -/
def leChars : List Char → List Char → Bool
  | [], _ => true
  | _ :: _, [] => false
  | a :: as, b :: bs => if a = b then leChars as bs else decide (a.toNat < b.toNat)

/-- The order of texts by code point. -/
def le (a b : String) : Bool := leChars a.toList b.toList

/-- The texts in the order of their code points. -/
def sort (xs : List String) : List String := xs.mergeSort le

/-- The texts, each at its first place only. -/
def distinct : List String → List String
  | [] => []
  | x :: xs => x :: (distinct xs).filter (· != x)

end ContractDrift.Text

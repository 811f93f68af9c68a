/-
Equality, order and distinctness of JSON values.

`same` is the equality that schemas use: numbers are compared by value, whether
integer or float, a boolean equals nothing but itself, arrays are compared item by
item and objects key by key whatever the order of their keys.

`allDistinct` decides whether no two items of an array are `same`.  Where the items
can be put in order it looks at neighbours only; `lessThan?` is that order, which is
undefined on items of different kinds, and there every pair is compared.
-/
import ContractDrift.Json.Value
import ContractDrift.Text.Search
import ContractDrift.Decimal.Binary64

namespace ContractDrift.Json

/-- The number that a value counts as: a boolean is zero or one. -/
def number? : Value → Option (Int ⊕ Float)
  | .bool b => some (.inl (b.toNat : Int))
  | .int n => some (.inl n)
  | .real x => some (.inr x)
  | _ => none

/-- How two numbers compare; nothing for not-a-number and for values that are no
numbers. -/
def compareNumbers (a b : Value) : Option Ordering :=
  match number? a, number? b with
  | some (.inl m), some (.inl n) => some (compare m n)
  | some (.inr x), some (.inl n) => Decimal.compareInt x n
  | some (.inl n), some (.inr x) => (Decimal.compareInt x n).map Ordering.swap
  | some (.inr x), some (.inr y) =>
    if x < y then some .lt else if x == y then some .eq else if y < x then some .gt else none
  | _, _ => none

/-- Whether two scalar values are the same. -/
def sameScalar : Value → Value → Bool
  | .null, .null => true
  | .bool a, .bool b => a == b
  | .int a, .int b => a == b
  | .real x, .int n => Decimal.compareInt x n == some .eq
  | .int n, .real x => Decimal.compareInt x n == some .eq
  | .real x, .real y => x == y
  | .text a, .text b => a == b
  | _, _ => false

mutual

/-- Whether two values are the same; a boolean equals no number. -/
def same : Value → Value → Bool
  | .array xs, .array ys => sameItems xs ys
  | .object m, .object m' => m.length == m'.length && sameMembers m m'
  | a, b => sameScalar a b

/-- Whether two arrays have the same items in the same places. -/
def sameItems : List Value → List Value → Bool
  | [], [] => true
  | x :: xs, y :: ys => same x y && sameItems xs ys
  | _, _ => false

/-- Whether every member is also a member of the other object. -/
def sameMembers : List (String × Value) → Members → Bool
  | [], _ => true
  | (k, v) :: r, m =>
    (match m.get? k with
      | some w => same v w
      | none => false) && sameMembers r m

end

mutual

/-- Whether two values are equal when a boolean counts as zero or one. -/
def looselyEqual : Value → Value → Bool
  | .array xs, .array ys => looselyEqualItems xs ys
  | .object m, .object m' => m.length == m'.length && looselyEqualMembers m m'
  | .null, .null => true
  | .text a, .text b => a == b
  | a, b => compareNumbers a b == some .eq

/-- Whether two arrays are equal when a boolean counts as zero or one. -/
def looselyEqualItems : List Value → List Value → Bool
  | [], [] => true
  | x :: xs, y :: ys => looselyEqual x y && looselyEqualItems xs ys
  | _, _ => false

/-- Whether every member is also a member of the other object, a boolean counting
as zero or one. -/
def looselyEqualMembers : List (String × Value) → Members → Bool
  | [], _ => true
  | (k, v) :: r, m =>
    (match m.get? k with
      | some w => looselyEqual v w
      | none => false) && looselyEqualMembers r m

end

mutual

/-- Whether one value stands before another; nothing where they have no order. -/
def lessThan? : Value → Value → Option Bool
  | .text a, .text b => some (!Text.le b a)
  | .array xs, .array ys => itemsLessThan? xs ys
  | .null, _ => none
  | .object _, _ => none
  | .text _, _ => none
  | .array _, _ => none
  | _, .null => none
  | _, .object _ => none
  | _, .text _ => none
  | _, .array _ => none
  | a, b => some (compareNumbers a b == some .lt)

/-- The order of arrays: that of the first items that differ, else that of length. -/
def itemsLessThan? : List Value → List Value → Option Bool
  | _, [] => some false
  | [], _ :: _ => some true
  | x :: xs, y :: ys =>
    if looselyEqual x y then itemsLessThan? xs ys else lessThan? x y

end

/-- Puts an item behind those that do not stand after it. -/
def insertOrdered? (x : Value) : List Value → Option (List Value)
  | [] => some [x]
  | y :: r => do
    if ← lessThan? y x then
      (insertOrdered? x r).map (y :: ·)
    else
      some (x :: y :: r)

/-- The items in order, equal ones in their given order. -/
def ordered? : List Value → Option (List Value)
  | [] => some []
  | x :: r => do insertOrdered? x (← ordered? r)

/-- Whether no item is the same as the next one. -/
def neighboursDiffer : List Value → Bool
  | x :: y :: r => !same x y && neighboursDiffer (y :: r)
  | _ => true

/-- Whether no item is the same as a later one. -/
def pairsDiffer : List Value → Bool
  | [] => true
  | x :: r => !r.any (same x) && pairsDiffer r

private def isBoolean : Value → Bool
  | .bool _ => true
  | _ => false

/-- Whether no two items of an array are the same. -/
def allDistinct (xs : List Value) : Bool :=
  match xs with
  | [] | [_] => true
  | _ =>
    if xs.any isBoolean then pairsDiffer xs
    else match ordered? xs with
      | some ys => neighboursDiffer ys
      | none => pairsDiffer xs

end ContractDrift.Json

/-
Binary floating-point numbers as exact rationals.

`Binary64.ofFloat` takes a float apart into its sign, an integer significand and
a power of two, so that comparisons with integers and exact divisibility are
questions about integers.  `nearest` goes the other way: it rounds a quotient of
naturals to the nearest float, ties to the even significand, and `ofDecimal`
reads a decimal numeral that way.

Design notes: nothing here uses arithmetic on `Float`; values are built from and
taken apart into their bits.
-/

namespace ContractDrift.Decimal

/-- The value of a float, exactly: `significand * 2 ^ exponent` with a sign. -/
inductive Binary64 where
  | nan
  | infinite (negative : Bool)
  | finite (negative : Bool) (significand : Nat) (exponent : Int)
  deriving Repr, DecidableEq, Inhabited

/-- The exact value of a float. -/
def Binary64.ofFloat (x : Float) : Binary64 :=
  let bits := x.toBits.toNat
  let negative := decide (Nat.pow 2 63 ≤ bits)
  let biased : Nat := bits / Nat.pow 2 52 % Nat.pow 2 11
  let fraction : Nat := bits % Nat.pow 2 52
  if biased = 2047 then (if fraction = 0 then .infinite negative else .nan)
  else if biased = 0 then .finite negative fraction (-1074)
  else .finite negative (fraction + Nat.pow 2 52) ((biased : Int) - 1075)

/-- The float with the given sign and magnitude bits. -/
def ofMagnitude (negative : Bool) (magnitude : Nat) : Float :=
  Float.ofBits (UInt64.ofNat (if negative then Nat.pow 2 63 + magnitude else magnitude))

/-- Positive or negative infinity. -/
def infinity (negative : Bool) : Float := ofMagnitude negative (2047 * Nat.pow 2 52)

/-- The value that is not a number. -/
def notANumber : Float := ofMagnitude false (2047 * Nat.pow 2 52 + Nat.pow 2 51)

/-- The quotient `num / den` rounded to an integer, a half to the even neighbour. -/
def roundHalfEven (num den : Nat) : Nat :=
  let q := num / den
  let r := num % den
  if 2 * r < den then q
  else if den < 2 * r then q + 1
  else if q % 2 = 0 then q else q + 1

/-- `num / (den * 2 ^ e)` as a quotient of naturals. -/
def scaleTwo (num den : Nat) (e : Int) : Nat × Nat :=
  if e < 0 then (num * Nat.pow 2 (-e).toNat, den) else (num, den * Nat.pow 2 e.toNat)

/-- The float nearest to `num / den`, a tie to the even significand; too large a
quotient gives infinity. -/
def nearest (negative : Bool) (num den : Nat) : Float :=
  if num = 0 ∨ den = 0 then ofMagnitude negative 0
  else
    let e₀ : Int := (num.log2 : Int) - (den.log2 : Int) - 52
    let (n₀, d₀) := scaleTwo num den e₀
    let e₁ := if n₀ < Nat.pow 2 52 * d₀ then e₀ - 1 else e₀
    let e := max e₁ (-1074)
    let (n, d) := scaleTwo num den e
    let s := roundHalfEven n d
    if s < Nat.pow 2 52 then ofMagnitude negative s
    else
      let magnitude := (e + 1075).toNat * Nat.pow 2 52 + (s - Nat.pow 2 52)
      if 2047 * Nat.pow 2 52 ≤ magnitude then infinity negative else ofMagnitude negative magnitude

/-- The number of decimal digits of `n`, by repeated division. -/
def digitCountFuel : (fuel : Nat) → Nat → Nat
  | 0, _ => 1
  | f + 1, n => if n < 10 then 1 else digitCountFuel f (n / 10) + 1

/-- The number of decimal digits of `n`. -/
def digitCount (n : Nat) : Nat := digitCountFuel (n.log2 + 1) n

/-- The float nearest to `digits * 10 ^ exponent`. -/
def ofDecimal (negative : Bool) (digits : Nat) (exponent : Int) : Float :=
  if digits = 0 then ofMagnitude negative 0
  else
    let size : Int := (digitCount digits : Int) + exponent
    if 400 < size then infinity negative
    else if size < -400 then ofMagnitude negative 0
    else if exponent < 0 then nearest negative digits (Nat.pow 10 (-exponent).toNat)
    else nearest negative (digits * Nat.pow 10 exponent.toNat) 1

/-- The float nearest to an integer, or nothing when it is beyond the largest float. -/
def ofInt? (n : Int) : Option Float :=
  let x := nearest (decide (n < 0)) n.natAbs 1
  match Binary64.ofFloat x with
  | .finite .. => some x
  | _ => none

/-- The sign of `m * 2 ^ e - n` for a signed significand `m`. -/
def compareScaled (m : Int) (e : Int) (n : Int) : Ordering :=
  if e < 0 then compare m (n * Nat.pow 2 (-e).toNat) else compare (m * Nat.pow 2 e.toNat) n

/-- A significand with its sign. -/
def signed (negative : Bool) (m : Nat) : Int := if negative then -(m : Int) else m

/-- How a float compares with an integer, exactly; nothing for not-a-number. -/
def compareInt (x : Float) (n : Int) : Option Ordering :=
  match Binary64.ofFloat x with
  | .nan => none
  | .infinite neg => some (if neg then .lt else .gt)
  | .finite neg m e => some (compareScaled (signed neg m) e n)

/-- The integer that a float equals, if it is integral. -/
def integral? (x : Float) : Option Int :=
  match Binary64.ofFloat x with
  | .finite neg m e =>
    if 0 ≤ e then some (signed neg (m * Nat.pow 2 e.toNat))
    else
      let d := Nat.pow 2 (-e).toNat
      if m % d = 0 then some (signed neg (m / d)) else none
  | _ => none

/-- Whether `m₁ * 2 ^ e₁` is an integer multiple of the non-zero `m₂ * 2 ^ e₂`. -/
def isMultiple (m₁ : Nat) (e₁ : Int) (m₂ : Nat) (e₂ : Int) : Bool :=
  let e := min e₁ e₂
  decide ((m₁ * Nat.pow 2 (e₁ - e).toNat) % (m₂ * Nat.pow 2 (e₂ - e).toNat) = 0)

end ContractDrift.Decimal

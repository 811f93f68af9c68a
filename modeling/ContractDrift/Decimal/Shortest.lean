/-
The shortest decimal text of a float.

`shortest` finds the fewest decimal digits that read back as a given float, and of
those with that many digits the nearest to it.  `render` writes them in the style
of a `FloatStyle`, and `canonical` is the style of every number this program shows.

Design notes: the reals that round to `m * 2 ^ q` form an interval around it, whose
ends belong to it exactly when `m` is even.  If a decimal grid has a point in the
interval, one of the value's two neighbours on that grid is in it too, so for each
number of digits only two candidates are tried, in exact integer arithmetic.
-/
import ContractDrift.Decimal.Binary64

namespace ContractDrift.Decimal

/-- A decimal numeral: `digits * 10 ^ exponent`. -/
structure Numeral where
  digits : Nat
  exponent : Int
  deriving Repr, DecidableEq, Inhabited

/-- The reals that round to a float, as quotients over one denominator:
`low / den ≤ value / den ≤ high / den`, the ends included when `closed`. -/
structure RoundingInterval where
  low : Nat
  value : Nat
  high : Nat
  den : Nat
  closed : Bool
  deriving Repr, Inhabited

/-- The interval of `m * 2 ^ q`; below a power of two the neighbour is half as far. -/
def RoundingInterval.of (m : Nat) (q : Int) : RoundingInterval :=
  let below := if m = Nat.pow 2 52 ∧ -1074 < q then 1 else 2
  let e := q - 2
  let up := if e < 0 then 1 else Nat.pow 2 e.toNat
  let den := if e < 0 then Nat.pow 2 (-e).toNat else 1
  ⟨(4 * m - below) * up, 4 * m * up, (4 * m + 2) * up, den, m % 2 == 0⟩

/-- Whether `a * 10 ^ k` lies in the interval. -/
def RoundingInterval.holds (i : RoundingInterval) (a : Nat) (k : Int) : Bool :=
  let point := if k < 0 then a * i.den else a * Nat.pow 10 k.toNat * i.den
  let unit := if k < 0 then Nat.pow 10 (-k).toNat else 1
  if i.closed then i.low * unit ≤ point && point ≤ i.high * unit
  else i.low * unit < point && point < i.high * unit

/-- The largest `p` with `10 ^ p ≤ num / den`, from an estimate below it. -/
def decimalExponentFrom : (fuel : Nat) → (p : Int) → (num den : Nat) → Int
  | 0, p, _, _ => p
  | f + 1, p, num, den =>
    let next := p + 1
    let reached :=
      if next < 0 then den ≤ num * Nat.pow 10 (-next).toNat else den * Nat.pow 10 next.toNat ≤ num
    if reached then decimalExponentFrom f next num den else p

/-- The largest `p` with `10 ^ p ≤ num / den`. -/
def decimalExponent (num den : Nat) : Int :=
  let twos : Int := (num.log2 : Int) - (den.log2 : Int) - 1
  decimalExponentFrom 6 (Int.fdiv (twos * 30103) 100000 - 2) num den

/-- The neighbour of the value on the grid of `10 ^ k` that lies in the interval,
the nearer one if both do and the even one of two equally near. -/
def RoundingInterval.onGrid? (i : RoundingInterval) (k : Int) : Option Nat :=
  let num := if k < 0 then i.value * Nat.pow 10 (-k).toNat else i.value
  let den := if k < 0 then i.den else i.den * Nat.pow 10 k.toNat
  let a := num / den
  match i.holds a k, i.holds (a + 1) k with
  | false, false => none
  | true, false => some a
  | false, true => some (a + 1)
  | true, true => some (roundHalfEven num den)

/-- The first of the grids with `n`, `n + 1`, … digits that has a point in the interval. -/
def RoundingInterval.search (i : RoundingInterval) (p : Int) : (fuel : Nat) → (n : Nat) → Numeral
  | 0, n => ⟨i.value / i.den, n⟩
  | f + 1, n =>
    let k := p + 1 - (n : Int)
    match i.onGrid? k with
    | some a => ⟨a, k⟩
    | none => i.search p f (n + 1)

/-- Moves trailing zeros of the digits into the exponent. -/
def Numeral.stripZeros : (fuel : Nat) → Numeral → Numeral
  | 0, d => d
  | f + 1, d =>
    if d.digits ≠ 0 ∧ d.digits % 10 = 0 then Numeral.stripZeros f ⟨d.digits / 10, d.exponent + 1⟩
    else d

/-- The fewest digits that read back as `m * 2 ^ q`, for a positive `m`. -/
def shortest (m : Nat) (q : Int) : Numeral :=
  let i := RoundingInterval.of m q
  (i.search (decimalExponent i.value i.den) 20 1).stripZeros 20

/-- How a float is written. -/
structure FloatStyle where
  /-- The least decimal exponent that is written positionally. -/
  leastPositional : Int
  /-- The least decimal exponent above those written positionally. -/
  positionalEnd : Int
  /-- The text between the digits and the exponent. -/
  exponentMark : String
  /-- The fewest digits of an exponent. -/
  exponentWidth : Nat
  /-- What stands after an integral value written positionally. -/
  integralTail : String
  infinityText : String
  nanText : String

/-- Positional from 10⁻⁴ up to 10¹⁶, with at least one place; otherwise a signed
exponent of at least two digits. -/
def canonical : FloatStyle :=
  ⟨-4, 16, "e", 2, ".0", "inf", "nan"⟩

/-- The decimal digits of a natural number, most significant first. -/
def natDigits (n : Nat) : List Char := (toString n).toList

private def zeros (n : Nat) : List Char := List.replicate n '0'

/-- A positive numeral in the given style. -/
def FloatStyle.numeral (s : FloatStyle) (d : Numeral) : String :=
  let ds := natDigits d.digits
  let count := ds.length
  let lead : Int := d.exponent + count - 1
  if s.leastPositional ≤ lead ∧ lead < s.positionalEnd then
    if 0 ≤ d.exponent then String.ofList (ds ++ zeros d.exponent.toNat) ++ s.integralTail
    else if 0 ≤ lead then
      let whole := (lead + 1).toNat
      String.ofList (ds.take whole ++ '.' :: ds.drop whole)
    else String.ofList ('0' :: '.' :: (zeros (-lead - 1).toNat ++ ds))
  else
    let mantissa := match ds with
      | [] => []
      | [c] => [c]
      | c :: r => c :: '.' :: r
    let es := natDigits lead.natAbs
    let sign := if lead < 0 then "-" else "+"
    String.ofList mantissa ++ s.exponentMark ++ sign ++
      String.ofList (zeros (s.exponentWidth - es.length) ++ es)

/-- A float in the given style. -/
def FloatStyle.render (s : FloatStyle) (x : Float) : String :=
  match Binary64.ofFloat x with
  | .nan => s.nanText
  | .infinite neg => (if neg then "-" else "") ++ s.infinityText
  | .finite neg m q =>
    (if neg then "-" else "") ++
      (if m = 0 then "0" ++ s.integralTail else s.numeral (shortest m q))

/-- The text of a float. -/
def floatText (x : Float) : String := canonical.render x

end ContractDrift.Decimal

/-! # Binary floating point numbers of 64 bits: rounding and shortest decimals -/

namespace OpenApiGen

/-- The finite number `± significand * 2 ^ exponent`. -/
structure Binary64 where
  negative : Bool
  significand : Nat
  exponent : Int
deriving DecidableEq, Repr

namespace Binary64

def leastExponent : Int := -1074
def greatestExponent : Int := 971

def zero (negative : Bool) : Binary64 := ⟨negative, 0, leastExponent⟩

def isZero (x : Binary64) : Bool := x.significand == 0

/-- `num / den * 2 ^ -e` as a quotient of natural numbers. -/
def scaled (num den : Nat) (e : Int) : Nat × Nat :=
  if e ≥ 0 then (num, den * Nat.pow 2 e.toNat) else (num * Nat.pow 2 (-e).toNat, den)

/-- The least exponent at which `num / den` has at most 53 bits. -/
def unitExponent (num den : Nat) : Int :=
  let e := max ((num.log2 : Int) - den.log2 - 53) leastExponent
  let (n, d) := scaled num den e
  if n / d < Nat.pow 2 53 then e else e + 1

/-- The number nearest to `num / den`, of two equally near ones the even one. Nothing is near a
quotient of `2 ^ 1024` or more. -/
def nearest? (negative : Bool) (num den : Nat) : Option Binary64 :=
  if num = 0 then some (zero negative)
  else
    let e := unitExponent num den
    let (n, d) := scaled num den e
    let below := n / d
    let rest := n % d
    let m := if 2 * rest > d ∨ (2 * rest = d ∧ below % 2 = 1) then below + 1 else below
    let (m, e) := if m = Nat.pow 2 53 then (Nat.pow 2 52, e + 1) else (m, e)
    if e > greatestExponent then none else some ⟨negative, m, e⟩

def quotient (x : Binary64) : Nat × Nat :=
  if x.exponent ≥ 0 then (x.significand * Nat.pow 2 x.exponent.toNat, 1)
  else (x.significand, Nat.pow 2 (-x.exponent).toNat)

/-- The nearest number to `digits * 10 ^ exponent`. Exponents that are out of reach of every
sequence of digits are answered without forming the power. -/
def ofDecimal? (negative : Bool) (digits : Nat) (exponent : Int) : Option Binary64 :=
  if digits = 0 then some (zero negative)
  else if exponent > 310 then none
  else if exponent + digits.log2 < -1100 then some (zero negative)
  else if exponent ≥ 0 then nearest? negative (digits * Nat.pow 10 exponent.toNat) 1
  else nearest? negative digits (Nat.pow 10 (-exponent).toNat)

def ofNat? (negative : Bool) (n : Nat) : Option Binary64 := nearest? negative n 1

def mul? (x y : Binary64) : Option Binary64 :=
  let (a, b) := x.quotient
  let (c, d) := y.quotient
  nearest? (x.negative != y.negative) (a * c) (b * d)

def div? (x y : Binary64) : Option Binary64 :=
  let (a, b) := x.quotient
  let (c, d) := y.quotient
  if c = 0 then none else nearest? (x.negative != y.negative) (a * d) (b * c)

/-- `digits * 10 ^ exponent`. -/
structure Decimal where
  digits : Nat
  exponent : Int
deriving DecidableEq, Repr

/-- The numbers that round to `x`, between `low / unit` and `high / unit` around `value / unit`; the
ends belong to it when `closed`. -/
structure Neighbourhood where
  low : Nat
  value : Nat
  high : Nat
  unit : Nat
  closed : Bool

def neighbourhood (x : Binary64) : Neighbourhood :=
  let m := x.significand
  let up := Nat.pow 2 x.exponent.toNat
  let narrow := m == Nat.pow 2 52 && x.exponent != leastExponent
  { low := (4 * m - (if narrow then 1 else 2)) * up
    value := 4 * m * up
    high := (4 * m + 2) * up
    unit := 4 * Nat.pow 2 (-x.exponent).toNat
    closed := m % 2 == 0 }

/-- `digits * 10 ^ exponent` in units of the neighbourhood, over a power of ten: both sides of a
comparison are multiplied by that power. -/
def Neighbourhood.place (n : Neighbourhood) (d : Decimal) : Nat × Nat :=
  (d.digits * n.unit * Nat.pow 10 d.exponent.toNat, Nat.pow 10 (-d.exponent).toNat)

def Neighbourhood.holds (n : Neighbourhood) (d : Decimal) : Bool :=
  let (at', scale) := n.place d
  if n.closed then n.low * scale ≤ at' && at' ≤ n.high * scale
  else n.low * scale < at' && at' < n.high * scale

def Neighbourhood.distance (n : Neighbourhood) (d : Decimal) : Nat :=
  let (at', scale) := n.place d
  (at' - n.value * scale) + (n.value * scale - at')

/-- The exponent of the first decimal digit: `10 ^ e ≤ value < 10 ^ (e + 1)`. -/
def Neighbourhood.firstExponent (n : Neighbourhood) : Int :=
  let guess := ((n.value.log2 : Int) - n.unit.log2) * 30103 / 100000 - 1
  let above (e : Int) : Bool :=
    let (at', scale) := n.place ⟨1, e + 1⟩
    n.value * scale < at'
  if above guess then guess else if above (guess + 1) then guess + 1 else guess + 2

/-- The neighbours of the value among the multiples of `10 ^ exponent` that round to it. -/
def Neighbourhood.candidates (n : Neighbourhood) (exponent : Int) : List Decimal :=
  let below := n.value * Nat.pow 10 (-exponent).toNat / (n.unit * Nat.pow 10 exponent.toNat)
  [⟨below, exponent⟩, ⟨below + 1, exponent⟩].filter n.holds

def Neighbourhood.nearer (n : Neighbourhood) (a b : Decimal) : Decimal :=
  if n.distance a < n.distance b then a
  else if n.distance b < n.distance a then b
  else if a.digits % 2 = 0 then a else b

def Neighbourhood.pick? (n : Neighbourhood) (exponent : Int) : Option Decimal :=
  match n.candidates exponent with
  | [] => none
  | [a] => some a
  | a :: b :: _ => some (n.nearer a b)

def stripZeros : Nat → Decimal → Decimal
  | 0, d => d
  | fuel + 1, d =>
    if d.digits % 10 = 0 ∧ d.digits ≠ 0 then stripZeros fuel ⟨d.digits / 10, d.exponent + 1⟩ else d

/-- The decimal with the fewest digits that rounds to `x`, of several such the nearest one. -/
def shortest (x : Binary64) : Decimal :=
  if x.isZero then ⟨0, 0⟩
  else
    let n := x.neighbourhood
    let first := n.firstExponent
    let grids := (List.range 17).map fun (i : Nat) => first - (i : Int)
    match grids.findSome? n.pick? with
    | some d => stripZeros 20 d
    | none => ⟨x.significand, 0⟩

def digitsText (n : Nat) : List Char := Nat.toDigits 10 n

def zeros (n : Nat) : List Char := List.replicate n '0'

/-- A number whose first digit has an exponent from `-5` to `15` is written out, with a point;
any other one with the exponent and its sign. -/
def textOfDecimal (d : Decimal) : List Char :=
  let ds := digitsText d.digits
  let first := d.exponent + ds.length - 1
  if d.digits = 0 then ['0', '.', '0']
  else if 0 ≤ d.exponent ∧ first ≤ 15 then ds ++ zeros d.exponent.toNat ++ ['.', '0']
  else if 0 ≤ first ∧ first ≤ 15 then
    ds.take (first.toNat + 1) ++ '.' :: ds.drop (first.toNat + 1)
  else if -5 ≤ first ∧ first < 0 then
    '0' :: '.' :: zeros (-first - 1).toNat ++ ds
  else
    let mantissa := match ds with
      | c :: more => if more.isEmpty then [c] else c :: '.' :: more
      | [] => []
    mantissa ++ 'e' :: (if first < 0 then '-' else '+') :: digitsText first.natAbs

def text (x : Binary64) : List Char :=
  (if x.negative then ['-'] else []) ++ textOfDecimal x.shortest

end Binary64
end OpenApiGen

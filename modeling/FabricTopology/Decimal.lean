/-!
The text of a number. A double is written with the fewest decimal digits that read back as it. If it is positive, it is
a significand times a power of two (`Binary`), and the reals that round to it form an interval around it, with its ends
when the significand is even. `shortest` finds the largest power of ten with a multiple in that interval, and of the two
multiples around the double the nearer, an even one on a tie.

There is always a point or an exponent. `places` holds the decisions of the format: numbers from `10 ^ -5` up to
`10 ^ 16` are written positionally, all others with an exponent. `finiteText` writes a finite double.
-/
namespace FabricTopology.Decimal

/-! ### Shortest digits -/

/-- The positive number `significand * 2 ^ exponent`; `narrow` when the next smaller double is only
    half as far away as the next larger one. -/
structure Binary where
  significand : Nat
  exponent : Int
  narrow : Bool

/-- The digits of `coefficient`, scaled by `10 ^ exponent`. -/
structure Scaled where
  coefficient : Nat
  exponent : Int
deriving DecidableEq

/-- The magnitude of a finite double. -/
def Binary.ofFloat (x : Float) : Binary :=
  let bits : Nat := x.toBits.toNat
  let biased : Nat := bits / 0x10000000000000 % 0x800
  let fraction : Nat := bits % 0x10000000000000
  if biased = 0 then ⟨fraction, -1074, false⟩
  else ⟨0x10000000000000 + fraction, (biased : Int) - 1075, fraction == 0 && decide (1 < biased)⟩

/-- The ratio `unit / base` is `2 ^ b.exponent / 10 ^ e`. -/
def Binary.unit (b : Binary) (e : Int) : Nat := Nat.pow 2 b.exponent.toNat * Nat.pow 10 (-e).toNat

/-- The denominator beside `Binary.unit`. -/
def Binary.base (b : Binary) (e : Int) : Nat := Nat.pow 2 (-b.exponent).toNat * Nat.pow 10 e.toNat

/-- Whether `c * 10 ^ e` rounds to the double. -/
def Binary.holds (b : Binary) (e : Int) (c : Nat) : Bool :=
  let four := 4 * c * b.base e
  let low := (4 * b.significand - (if b.narrow then 1 else 2)) * b.unit e
  let high := (4 * b.significand + 2) * b.unit e
  if b.significand % 2 = 0 then low ≤ four && four ≤ high else low < four && four < high

/-- Of the multiples `c` and `c + 1` of `10 ^ e` around the double, the nearer one. -/
def Binary.nearer (b : Binary) (e : Int) (c : Nat) : Nat :=
  let twice := 2 * b.significand * b.unit e
  let middle := (2 * c + 1) * b.base e
  if twice < middle then c else if middle < twice then c + 1 else if c % 2 = 0 then c else c + 1

/-- The multiple of `10 ^ e` that rounds to the double, if there is one. -/
def Binary.onGrid? (b : Binary) (e : Int) : Option Nat :=
  let c := b.significand * b.unit e / b.base e
  match b.holds e c, b.holds e (c + 1) with
  | true, true => some (b.nearer e c)
  | true, false => some c
  | false, true => some (c + 1)
  | false, false => none

/-- The first grid with a hit among `10 ^ e`, `10 ^ (e - 1)`, ... -/
def Binary.descend (b : Binary) : Nat → Int → Scaled
  | 0, _ => ⟨0, 0⟩
  | steps + 1, e => match b.onGrid? e with
    | some c => ⟨c, e⟩
    | none => b.descend steps (e - 1)

/-- A power of ten that is at most a factor ten below the number, and not above ten times it. -/
def Binary.magnitude (b : Binary) : Int := (b.significand.log2 + b.exponent) * 30103 / 100000

/-- The fewest digits that read back as the number, zero for zero. Nineteen grids are enough,
    because seventeen digits always suffice. -/
def Binary.shortest (b : Binary) : Scaled :=
  if b.significand = 0 then ⟨0, 0⟩ else b.descend 20 (b.magnitude + 1)

/-! ### Texts -/

/-- Which numbers are written without an exponent: those whose first digit stands at most `before`
    places before the point and fewer than `zeros` zeros after it. -/
structure Places where
  before : Int
  zeros : Int

/-- Sixteen places before the point; at most four zeros right after it. -/
def places : Places := ⟨16, 5⟩

/-- Decimal digits of a number. -/
def digits (n : Nat) : List Char := Nat.toDigits 10 n

/-- The text of an integer. -/
def integerText (n : Int) : List Char := if n < 0 then '-' :: digits n.natAbs else digits n.natAbs

private def zeros (n : Int) : List Char := List.replicate n.toNat '0'

/-- Digits `ds` scaled by `10 ^ e`, positionally or with an exponent. -/
def layOut (ds : List Char) (e : Int) : List Char :=
  let point := ds.length + e
  if 0 ≤ e && point ≤ places.before then ds ++ zeros e ++ ['.', '0']
  else if 0 < point && point ≤ places.before then
    ds.take point.toNat ++ '.' :: ds.drop point.toNat
  else if -places.zeros < point && point ≤ 0 then ['0', '.'] ++ zeros (-point) ++ ds
  else
    let scale := if point - 1 < 0 then '-' :: digits (1 - point).toNat else digits (point - 1).toNat
    match ds with
    | [d] => d :: 'e' :: scale
    | ds => ds.take 1 ++ '.' :: ds.drop 1 ++ 'e' :: scale

/-- Whether the sign bit is set, also on a zero. -/
def isNegative (x : Float) : Bool := x.toBits.toNat / 0x8000000000000000 == 1

/-- The text of a finite double. -/
def finiteText (x : Float) : List Char :=
  let s := (Binary.ofFloat x).shortest
  let body := layOut (digits s.coefficient) s.exponent
  if isNegative x then '-' :: body else body

end FabricTopology.Decimal

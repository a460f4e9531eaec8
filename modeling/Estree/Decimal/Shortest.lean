/-!
# The shortest decimal that reads back

A double stands for every real number that rounds to it. Of the decimals in that interval this
module picks one with the fewest digits, and of those the one nearest to the double. All of it is
exact arithmetic on natural numbers.

For a number of digits `n` the decimals with `n` digits form a grid around the value. If the grid
meets the interval at all, it does so at one of the two grid points next to the value, so testing
those two for `n = 1, 2, …, 17` finds the answer.
-/

namespace Estree.Decimal

/-- The decimal `digits · 10 ^ exponent`. -/
structure Scientific where
  /-- The digits, read as one number. -/
  digits : Nat
  /-- The power of ten they are scaled by. -/
  exponent : Int
  deriving DecidableEq, Repr

/-- A positive double `mantissa · 2 ^ exponent`, with the interval of reals that round to it. -/
structure Binary where
  /-- The significant bits. -/
  mantissa : Nat
  /-- The power of two they are scaled by. -/
  exponent : Int
  /-- The gap to the next smaller double is half of that to the next larger one. -/
  narrowBelow : Bool
  deriving DecidableEq, Repr

namespace Binary

/-- The fields of a finite double other than zero, sign aside: below the least normal exponent the
leading bit is not implied. -/
def ofBits (bits : UInt64) : Binary :=
  let fraction := bits.toNat % (1 <<< 52)
  let field := bits.toNat / (1 <<< 52) % (1 <<< 11)
  if field = 0 then ⟨fraction, -1074, false⟩
  else ⟨fraction + 1 <<< 52, Int.ofNat field - 1075, fraction = 0 && field ≠ 1⟩

/-- `4 · value` and the two ends of its interval times four, over one common denominator: ends and
value are whole multiples of a quarter of the last bit. -/
structure Interval where
  /-- The lower end. -/
  lower : Nat
  /-- The value itself. -/
  value : Nat
  /-- The upper end. -/
  upper : Nat
  /-- What all three are divided by. -/
  denominator : Nat
  /-- Do the ends round to the value? So it is when the last bit of the mantissa is zero. -/
  closed : Bool

/-- The interval of reals that round to `b`. -/
def interval (b : Binary) : Interval :=
  let scale := 1 <<< (b.exponent - 2).toNat
  { lower := (4 * b.mantissa - if b.narrowBelow then 1 else 2) * scale
    value := 4 * b.mantissa * scale
    upper := (4 * b.mantissa + 2) * scale
    denominator := 1 <<< (2 - b.exponent).toNat
    closed := b.mantissa % 2 = 0 }

end Binary

namespace Binary.Interval

/-- Is `c · 10 ^ k` in the interval? -/
def contains (i : Interval) (c : Nat) (k : Int) : Bool :=
  let point := c * Nat.pow 10 k.toNat * i.denominator
  let up := Nat.pow 10 (-k).toNat
  if i.closed then i.lower * up ≤ point && point ≤ i.upper * up
  else i.lower * up < point && point < i.upper * up

/-- The largest grid point `c · 10 ^ k` that is not above the value. -/
def below (i : Interval) (k : Int) : Nat :=
  i.value * Nat.pow 10 (-k).toNat / (Nat.pow 10 k.toNat * i.denominator)

/-- Twice the value on the grid of `10 ^ k`, as a numerator and a denominator, for telling which of
two neighbours is nearer. -/
def isNearerAbove (i : Interval) (c : Nat) (k : Int) : Ordering :=
  compare (2 * (i.value * Nat.pow 10 (-k).toNat))
    ((2 * c + 1) * (Nat.pow 10 k.toNat * i.denominator))

/-- The point of the grid of `10 ^ k` in the interval that is nearest to the value; of two equally
near ones the even one. -/
def nearest? (i : Interval) (k : Int) : Option Nat :=
  let c := i.below k
  match i.contains c k && 0 < c, i.contains (c + 1) k with
  | true, false => some c
  | false, true => some (c + 1)
  | false, false => none
  | true, true =>
    match i.isNearerAbove c k with
    | .lt => some c
    | .gt => some (c + 1)
    | .eq => some (if c % 2 = 0 then c else c + 1)

/-- The number of decimal digits in front of the point; zero or negative when the value is below
one tenth or less. -/
def magnitude (i : Interval) : Int :=
  let whole := i.value / i.denominator
  if whole = 0 then
    -- `10 ^ k` times the value reaches one tenth for the first time at this `k`
    Int.negOfNat
      (((List.range 400).find? fun k => i.denominator ≤ i.value * Nat.pow 10 (k + 1)).getD 0)
  else (Nat.toDigits 10 whole).length

end Binary.Interval

/-- The shortest decimal that rounds to `b`, the nearest one to it of those. -/
def Binary.shortest (b : Binary) : Scientific :=
  let i := b.interval
  let top := i.magnitude
  let hit := (List.range 17).findSome? fun (n : Nat) =>
    let k := top - (n : Int) - 1
    (i.nearest? k).map fun c => (⟨c, k⟩ : Scientific)
  hit.getD ⟨b.mantissa, b.exponent⟩

end Estree.Decimal

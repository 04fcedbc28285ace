import FramePacing.Decimal.Binary

/-!
# The shortest decimal of a double

The reals that round to the double `m · 2 ^ q` form an interval around it, closed if `m` is even.
Its shortest decimal is the point of the coarsest power-of-ten grid that has a point in the
interval, and of several such points the nearest one. Only the two neighbours of the value on each
grid have to be tried: if a point of a grid lies in the interval, so does one of these.
-/

namespace FramePacing

/-- The number `digits · 10 ^ exponent`. -/
structure Decimal where
  /-- The significant digits, read as a number. -/
  digits : Nat
  /-- The power of ten of the last digit. -/
  exponent : Int
  deriving DecidableEq, Inhabited

/-- The numbers that round to a double, as numerators over one common denominator. -/
structure RoundingInterval where
  /-- The lower end. -/
  low : Nat
  /-- The double itself. -/
  value : Nat
  /-- The upper end. -/
  high : Nat
  /-- The common denominator. -/
  den : Nat
  /-- Whether the ends round to the double as well. -/
  closed : Bool

namespace RoundingInterval

/-- The interval of `m · 2 ^ q`: half a unit to each side, but a quarter below a power of two, where
the doubles lie closer. -/
def of (m : Nat) (q : Int) : RoundingInterval :=
  let below := if m = Binary.leastNormal ∧ q ≠ Binary.lowestExponent then 1 else 2
  { low := (4 * m - below) * twos q
    value := 4 * m * twos q
    high := (4 * m + 2) * twos q
    den := 4 * twos (-q)
    closed := m % 2 == 0 }

/-- Whether the interval holds the number `n / den`. -/
def holds (r : RoundingInterval) (n : Nat) : Bool :=
  if r.closed then r.low ≤ n && n ≤ r.high else r.low < n && n < r.high

/-- The same interval with every numerator multiplied by `k`. -/
def scale (r : RoundingInterval) (k : Nat) : RoundingInterval :=
  { r with low := r.low * k, value := r.value * k, high := r.high * k }

/-- The nearest point of the grid `10 ^ p` in the interval, if there is one. A value midway between
two of them goes to the greater one if `tieUp`, else to the even one. -/
def onGrid? (r : RoundingInterval) (tieUp : Bool) (p : Int) : Option Decimal :=
  let s := r.scale (Nat.pow 10 (-p).toNat)
  let unit := Nat.pow 10 p.toNat * s.den
  let c := s.value / unit
  let rest := s.value % unit
  let upper := 2 * rest > unit || (2 * rest == unit && (tieUp || c % 2 == 1))
  match s.holds (c * unit), s.holds ((c + 1) * unit) with
  | true, true => some ⟨if upper then c + 1 else c, p⟩
  | true, false => some ⟨c, p⟩
  | false, true => some ⟨c + 1, p⟩
  | false, false => none

end RoundingInterval

/-- The number of decimal digits of `n`, none for zero. -/
def digitCount (n : Nat) : Nat := if n = 0 then 0 else (Nat.toDigits 10 n).length

/-- A power of ten above `num / den`: at most one decimal place too high. -/
def powerAbove (num den : Nat) : Int := (digitCount num : Int) - digitCount den + 1

/-- The fewest digits that read back as `m · 2 ^ q`, for positive `m`. Seventeen digits always do,
so one of the grids tried has a point in the interval. -/
def shortest (tieUp : Bool) (m : Nat) (q : Int) : Decimal :=
  let r := RoundingInterval.of m q
  let top := powerAbove r.value r.den
  ((List.range 20).findSome? fun (d : Nat) => r.onGrid? tieUp (top - d)).getD default

end FramePacing

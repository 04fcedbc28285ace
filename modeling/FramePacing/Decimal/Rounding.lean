import FramePacing.Decimal.Binary

/-!
# Rounding to decimal places

`roundDiv` rounds a quotient to the nearest integer, a half to the even one. A double with a fixed
number of decimal places is that rounding of its exact value times a power of ten.
-/

namespace FramePacing

/-- The integer nearest to `num / den`; a half goes to the even neighbour. -/
def roundDiv (num den : Nat) : Nat :=
  let floor := num / den
  let rest := 2 * (num % den)
  if rest > den || (rest == den && floor % 2 == 1) then floor + 1 else floor

/-- `m · 2 ^ q` in units of `10 ^ -places`, rounded. -/
def roundToPlaces (places m : Nat) (q : Int) : Nat :=
  roundDiv (m * twos q * Nat.pow 10 places) (twos (-q))

/-- A number of units of `10 ^ -places`, written with exactly that many decimals. -/
def placedDigits (places units : Nat) : String :=
  let fraction := toString (units % Nat.pow 10 places)
  let zeros := String.ofList (List.replicate (places - fraction.length) '0')
  toString (units / Nat.pow 10 places) ++ "." ++ zeros ++ fraction

/-- A float with a fixed number of decimals, a positive one. -/
def fixedPlaces (places : Nat) (x : Float) : String :=
  match Binary.ofFloat x with
  | .nan => "NaN"
  | .infinite negative => (if negative then "-" else "") ++ "inf"
  | .finite negative m q =>
    (if negative then "-" else "") ++ placedDigits places (roundToPlaces places m q)

end FramePacing

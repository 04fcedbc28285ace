/-!
# The exact value of a float

A finite double is `m · 2 ^ q` for a natural `m` and an integer `q`, both read off its bits. All
decimal text of this library is computed from `m` and `q` in exact arithmetic.
-/

namespace FramePacing

/-- A double taken apart. -/
inductive Binary where
  /-- Not a number. -/
  | nan
  /-- An infinity, negative or not. -/
  | infinite (negative : Bool)
  /-- The number `m · 2 ^ q`, negated if `negative`; zero keeps its sign. -/
  | finite (negative : Bool) (m : Nat) (q : Int)
  deriving DecidableEq

namespace Binary

/-- The exponent of the subnormal numbers and of the smallest normal ones. -/
def lowestExponent : Int := -1074

/-- The significand of a power of two. -/
def leastNormal : Nat := Nat.pow 2 52

/-- Reads the sign, exponent and fraction fields of the 64 bits. -/
def ofBits (bits : Nat) : Binary :=
  let negative := bits >>> 63 % 2 == 1
  let exponent : Nat := bits >>> 52 % 2048
  let fraction : Nat := bits % leastNormal
  if exponent = 2047 then
    if fraction = 0 then .infinite negative else .nan
  else if exponent = 0 then
    .finite negative fraction lowestExponent
  else
    .finite negative (leastNormal + fraction) ((exponent : Int) - 1075)

/-- A float taken apart. -/
def ofFloat (x : Float) : Binary := ofBits x.toBits.toNat

end Binary

/-- The integer part of a power of two as a factor: `2 ^ q` is `twos q` over `twos (-q)`. -/
def twos (q : Int) : Nat := Nat.pow 2 q.toNat

end FramePacing

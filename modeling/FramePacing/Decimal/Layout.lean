import FramePacing.Decimal.Shortest

/-!
# Layouts of a shortest decimal

Three kinds of text show a float by its shortest digits: messages, diagnostics and trace files. They
differ in when they change to an exponent and how they write one, and each is one `Layout` value.
-/

namespace FramePacing

/-- How a float's digits are laid out. -/
structure Layout where
  /-- Positional notation is kept from this power of ten of the leading digit on. -/
  lowest : Option Int
  /-- Positional notation ends at this power of ten of the leading digit. -/
  limit : Option Int
  /-- What follows a whole number. -/
  wholeMark : String
  /-- What stands between the digits and an exponent that is not negative. -/
  exponentMark : String
  /-- Whether a value midway between two shortest decimals goes to the greater one. -/
  tieUp : Bool

namespace Layout

/-- Messages: always positional, whole numbers without a point. -/
def plain : Layout :=
  { lowest := none, limit := none, wholeMark := "", exponentMark := "e", tieUp := true }

/-- Diagnostics: whole numbers end in `.0`; an exponent below `0.0001` and from `10 ^ 16` on. -/
def diagnostic : Layout :=
  { lowest := some (-4), limit := some 16, wholeMark := ".0", exponentMark := "e", tieUp := true }

/-- Trace files: whole numbers end in `.0`; a signed exponent below `0.00001` and from `10 ^ 16`
on. -/
def trace : Layout :=
  { lowest := some (-5), limit := some 16, wholeMark := ".0", exponentMark := "e+", tieUp := false }

/-- Whether a number with its leading digit at `10 ^ e` is written without an exponent. -/
def positional (l : Layout) (e : Int) : Bool :=
  (match l.lowest with
    | some b => b ≤ e
    | none => true) &&
  match l.limit with
    | some b => e < b
    | none => true

/-- The digits with a decimal point and the zeros that hold its place. -/
def placePoint (l : Layout) (digits : String) (exponent : Int) : String :=
  let zeros (k : Nat) := String.ofList (List.replicate k '0')
  let split : Int := digits.length + exponent
  if 0 ≤ exponent then
    digits ++ zeros exponent.toNat ++ l.wholeMark
  else if 0 < split then
    let cs := digits.toList
    String.ofList (cs.take split.toNat) ++ "." ++ String.ofList (cs.drop split.toNat)
  else
    "0." ++ zeros (-split).toNat ++ digits

/-- One digit, a point, the other digits, and the power of ten of the first one. -/
def scientific (l : Layout) (digits : String) (e : Int) : String :=
  let cs := digits.toList
  let mantissa := match cs.drop 1 with
    | [] => digits
    | rest => String.ofList (cs.take 1) ++ "." ++ String.ofList rest
  if e < 0 then mantissa ++ s!"e-{e.natAbs}" else mantissa ++ l.exponentMark ++ s!"{e.natAbs}"

/-- The text of a positive decimal. -/
def decimal (l : Layout) (d : Decimal) : String :=
  let digits := toString d.digits
  let e : Int := d.exponent + digits.length - 1
  if l.positional e then l.placePoint digits d.exponent else l.scientific digits e

/-- The text of a float. -/
def float (l : Layout) (x : Float) : String :=
  match Binary.ofFloat x with
  | .nan => "NaN"
  | .infinite negative => (if negative then "-" else "") ++ "inf"
  | .finite negative m q =>
    (if negative then "-" else "") ++
      if m = 0 then "0" ++ l.wholeMark else l.decimal (shortest l.tieUp m q)

end Layout

end FramePacing

import FramePacing.Fault

/-!
# Exact time arithmetic

The operations on instants and spans that refuse a result outside the words, and the conversions
between spans and other units.
-/

namespace FramePacing

/-! ### Words -/

/-- The sum of two words, if it is one. -/
def addExact (a b : UInt64) : Except Fault UInt64 :=
  if a.toNat + b.toNat ≤ horizon then .ok (a + b) else .error .addOverflow

/-- The difference of two words, if it is one. -/
def subtractExact (a b : UInt64) : Except Fault UInt64 :=
  if b.toNat ≤ a.toNat then .ok (a - b) else .error .subtractOverflow

/-- The product of two words, if it is one. -/
def multiplyExact (a b : UInt64) : Except Fault UInt64 :=
  if a.toNat * b.toNat ≤ horizon then .ok (a * b) else .error .multiplyOverflow

/-- The quotient of two words, rounded down. -/
def divideExact (a b : UInt64) : Except Fault UInt64 :=
  if b = 0 then .error .divideByZero else .ok (a / b)

theorem addExact_eq_ok_iff {a b c : UInt64} :
    addExact a b = .ok c ↔ c.toNat = a.toNat + b.toNat := by
  have le := toNat_le_horizon c
  unfold addExact
  split
  · rename_i fits
    have sum : (a + b).toNat = a.toNat + b.toNat := by
      rw [UInt64.toNat_add]
      exact Nat.mod_eq_of_lt (by unfold horizon at fits; omega)
    rw [Except.ok.injEq, ← UInt64.toNat_inj, sum]
    exact eq_comm
  · rename_i above
    exact ⟨fun e => (by cases e), fun e => absurd (e ▸ le) above⟩

theorem addExact_eq_error_iff {a b : UInt64} {f : Fault} :
    addExact a b = .error f ↔ f = .addOverflow ∧ horizon < a.toNat + b.toNat := by
  unfold addExact
  split
  · rename_i fits
    exact ⟨fun e => (by cases e), fun e => absurd fits (Nat.not_le.mpr e.2)⟩
  · rename_i above
    rw [Except.error.injEq]
    exact ⟨fun e => ⟨e.symm, Nat.not_le.mp above⟩, fun e => e.1.symm⟩

theorem subtractExact_eq_ok_iff {a b c : UInt64} :
    subtractExact a b = .ok c ↔ b.toNat + c.toNat = a.toNat := by
  unfold subtractExact
  split
  · rename_i fits
    have diff := UInt64.toNat_sub_of_le a b (UInt64.le_iff_toNat_le.mpr fits)
    rw [Except.ok.injEq, ← UInt64.toNat_inj, diff]
    omega
  · rename_i below
    exact ⟨fun e => (by cases e), fun e => absurd (by omega) below⟩

theorem divideExact_eq_ok_iff {a b c : UInt64} :
    divideExact a b = .ok c ↔ 0 < b.toNat ∧ c.toNat = a.toNat / b.toNat := by
  have zero : b = 0 ↔ b.toNat = 0 := UInt64.toNat_inj.symm
  unfold divideExact
  split
  · rename_i h
    have := zero.mp h
    exact ⟨fun e => (by cases e), fun e => by omega⟩
  · rename_i h
    have pos : 0 < b.toNat := Nat.pos_of_ne_zero (mt zero.mpr h)
    rw [Except.ok.injEq, ← UInt64.toNat_inj, UInt64.toNat_div]
    exact ⟨fun e => ⟨pos, e.symm⟩, fun e => e.2.symm⟩

/-! ### Instants -/

/-- The instant `d` after `t`. -/
def Instant.afterExact (t : Instant) (d : Span) : Except Fault Instant :=
  Instant.mk <$> addExact t.nanos d.nanos

/-- The instant `d` before `t`. -/
def Instant.beforeExact (t : Instant) (d : Span) : Except Fault Instant :=
  Instant.mk <$> subtractExact t.nanos d.nanos

/-- The span from `earlier` to `t`. -/
def Instant.sinceExact (t earlier : Instant) : Except Fault Span :=
  Span.mk <$> subtractExact t.nanos earlier.nanos

theorem Instant.sinceExact_eq_ok_iff {t earlier : Instant} {d : Span} :
    t.sinceExact earlier = .ok d ↔ earlier.toNat + d.toNat = t.toNat := by
  unfold sinceExact
  refine Iff.trans ?_ (subtractExact_eq_ok_iff (c := d.nanos))
  cases subtractExact t.nanos earlier.nanos with
  | error f => exact ⟨fun e => (by cases e), fun e => (by cases e)⟩
  | ok w => exact ⟨fun e => (by cases e; rfl), fun e => (by cases e; rfl)⟩

/-- The span from an instant to a later one is exact. -/
theorem Instant.sinceExact_of_le {t earlier : Instant} (le : earlier ≤ t) :
    t.sinceExact earlier = .ok (t.since earlier) := by
  have := Instant.le_iff.mp le
  rw [sinceExact_eq_ok_iff, toNat_since]
  omega

/-! ### Spans -/

/-- The sum of two spans. -/
def Span.plusExact (a b : Span) : Except Fault Span := Span.mk <$> addExact a.nanos b.nanos

/-- The difference of two spans. -/
def Span.minusExact (a b : Span) : Except Fault Span := Span.mk <$> subtractExact a.nanos b.nanos

/-- How many units cover a span. -/
def Span.unitsCovering (a unit : Span) : Except Fault Nat :=
  if unit = Span.zero then .error .zeroUnit
  else .ok ((a.toNat + (unit.toNat - 1)) / unit.toNat)

/-- A number of milliseconds. -/
def Span.ofMillis (n : UInt64) : Except Fault Span := Span.mk <$> multiplyExact n 1000000

/-- A number of microseconds. -/
def Span.ofMicros (n : UInt64) : Except Fault Span := Span.mk <$> multiplyExact n 1000

/-! ### Floats -/

/-- The span in seconds. -/
def Span.seconds (d : Span) : Float := d.nanos.toFloat / 1e9

/-- The span in milliseconds. -/
def Span.millis (d : Span) : Float := d.nanos.toFloat / 1e6

/-- The span in microseconds. -/
def Span.micros (d : Span) : Float := d.nanos.toFloat / 1e3

/-- An instant in milliseconds. -/
def Instant.millis (t : Instant) : Float := (Span.mk t.nanos).millis

/-- An instant in microseconds. -/
def Instant.micros (t : Instant) : Float := (Span.mk t.nanos).micros

/-- The span nearest to a number of seconds. Halves go away from zero; what is negative or not a
number gives the empty span, and what is too long the longest one. -/
def Span.ofSeconds (s : Float) : Span := ⟨(s * 1e9).round.toUInt64⟩

end FramePacing

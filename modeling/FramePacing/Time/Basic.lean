/-!
# Host time

Points and spans of host time, both counted in nanoseconds by one 64-bit word. An instant and a
span are different types, so that a point is never mistaken for a length.

The saturating operations are the clipped operations of the natural numbers: `clip n` is the word
nearest to `n`, and every result is `clip` of the result in unbounded numbers (`toNat_clip`). The
operations that refuse to overflow are in `FramePacing.Time.Exact`.
-/

namespace FramePacing

/-! ### Clipping -/

/-- The greatest word, where saturating arithmetic stops. -/
def horizon : Nat := 0xFFFFFFFFFFFFFFFF

/-- The word nearest to a natural number. -/
def clip (n : Nat) : UInt64 := UInt64.ofNat (min n horizon)

@[simp] theorem toNat_clip (n : Nat) : (clip n).toNat = min n horizon := by
  unfold clip
  rw [UInt64.toNat_ofNat']
  exact Nat.mod_eq_of_lt (by unfold horizon; omega)

theorem toNat_le_horizon (w : UInt64) : w.toNat ≤ horizon := by
  have := w.toNat_lt
  unfold horizon
  omega

@[simp] theorem clip_toNat (w : UInt64) : clip w.toNat = w := by
  apply UInt64.toNat_inj.mp
  rw [toNat_clip]
  exact Nat.min_eq_left (toNat_le_horizon w)

/-! ### Instants and spans -/

/-- A point of the monotonic clock. -/
structure Instant where
  /-- Nanoseconds since the clock's zero. -/
  nanos : UInt64
  deriving DecidableEq, Inhabited

/-- A length of time on the same clock. -/
structure Span where
  /-- Its nanoseconds. -/
  nanos : UInt64
  deriving DecidableEq, Inhabited

/-- The clock's zero. -/
def Instant.zero : Instant := ⟨0⟩

/-- The empty span. -/
def Span.zero : Span := ⟨0⟩

instance : LT Instant := ⟨fun a b => a.nanos < b.nanos⟩
instance : LE Instant := ⟨fun a b => a.nanos ≤ b.nanos⟩
instance : LT Span := ⟨fun a b => a.nanos < b.nanos⟩
instance : LE Span := ⟨fun a b => a.nanos ≤ b.nanos⟩

instance (a b : Instant) : Decidable (a < b) := inferInstanceAs (Decidable (a.nanos < b.nanos))
instance (a b : Instant) : Decidable (a ≤ b) := inferInstanceAs (Decidable (a.nanos ≤ b.nanos))
instance (a b : Span) : Decidable (a < b) := inferInstanceAs (Decidable (a.nanos < b.nanos))
instance (a b : Span) : Decidable (a ≤ b) := inferInstanceAs (Decidable (a.nanos ≤ b.nanos))

namespace Instant

/-- The instant as a natural number of nanoseconds. -/
def toNat (t : Instant) : Nat := t.nanos.toNat

/-- The later of two instants. -/
def latest (a b : Instant) : Instant := if a < b then b else a

/-- Which of two instants comes first. -/
def order (a b : Instant) : Ordering := compare a.toNat b.toNat

/-- The instant `d` after `t`, or the last instant if that lies beyond it. -/
def after (t : Instant) (d : Span) : Instant := ⟨clip (t.toNat + d.nanos.toNat)⟩

/-- The instant `d` before `t`, or the clock's zero if that lies before it. -/
def before (t : Instant) (d : Span) : Instant := ⟨clip (t.toNat - d.nanos.toNat)⟩

/-- The span from `earlier` to `t`, empty if `earlier` is the later one. -/
def since (t earlier : Instant) : Span := ⟨clip (t.toNat - earlier.toNat)⟩

/-- The difference of two instants as a signed word: positive if `t` is the later one. It wraps
when they are more than half the clock's range apart. -/
def signedSince (t other : Instant) : Int64 := (t.nanos - other.nanos).toInt64

/-- The instant `d` after `t`, wrapping round at the end of the clock's range. -/
def wrappingAfter (t : Instant) (d : Span) : Instant := ⟨t.nanos + d.nanos⟩

/-- The instant `d` after `t`, unless that lies beyond the last one. -/
def after? (t : Instant) (d : Span) : Option Instant :=
  let n := t.toNat + d.nanos.toNat
  if n ≤ horizon then some ⟨clip n⟩ else none

/-- The instant in diagnostics. -/
def inspect (t : Instant) : String := s!"HostTime({t.toNat})"

end Instant

namespace Span

/-- The span as a natural number of nanoseconds. -/
def toNat (d : Span) : Nat := d.nanos.toNat

/-- The sum of two spans, clipped. -/
def plus (a b : Span) : Span := ⟨clip (a.toNat + b.toNat)⟩

/-- What `a` exceeds `b` by, nothing if it does not. -/
def minus (a b : Span) : Span := ⟨clip (a.toNat - b.toNat)⟩

/-- The span repeated `k` times, clipped. -/
def times (a : Span) (k : Nat) : Span := ⟨clip (a.toNat * k)⟩

/-- The distance of a signed difference from zero. -/
def ofDistance (x : Int64) : Span := ⟨clip x.toInt.natAbs⟩

/-- The span in diagnostics. -/
def inspect (d : Span) : String := s!"Duration({d.toNat})"

end Span

/-! ### The operations in natural numbers -/

theorem Instant.lt_iff {a b : Instant} : a < b ↔ a.toNat < b.toNat := UInt64.lt_iff_toNat_lt
theorem Instant.le_iff {a b : Instant} : a ≤ b ↔ a.toNat ≤ b.toNat := UInt64.le_iff_toNat_le
theorem Span.lt_iff {a b : Span} : a < b ↔ a.toNat < b.toNat := UInt64.lt_iff_toNat_lt
theorem Span.le_iff {a b : Span} : a ≤ b ↔ a.toNat ≤ b.toNat := UInt64.le_iff_toNat_le

theorem Instant.toNat_le (t : Instant) : t.toNat ≤ horizon := toNat_le_horizon t.nanos
theorem Span.toNat_le (d : Span) : d.toNat ≤ horizon := toNat_le_horizon d.nanos

theorem Instant.toNat_inj {a b : Instant} : a.toNat = b.toNat ↔ a = b := by
  cases a; cases b
  simp [Instant.toNat, UInt64.toNat_inj]

theorem Span.toNat_inj {a b : Span} : a.toNat = b.toNat ↔ a = b := by
  cases a; cases b
  simp [Span.toNat, UInt64.toNat_inj]

@[simp] theorem Instant.toNat_zero : Instant.zero.toNat = 0 := rfl
@[simp] theorem Span.toNat_zero : Span.zero.toNat = 0 := rfl

theorem Span.eq_zero_iff {d : Span} : d = .zero ↔ d.toNat = 0 := Span.toNat_inj.symm

@[simp] theorem Instant.toNat_after (t : Instant) (d : Span) :
    (t.after d).toNat = min (t.toNat + d.toNat) horizon := toNat_clip _

/-- Where the clock's range does not end, nothing wraps round. -/
theorem Instant.toNat_wrappingAfter {t : Instant} {d : Span}
    (fits : t.toNat + d.toNat ≤ horizon) : (t.wrappingAfter d).toNat = t.toNat + d.toNat := by
  refine (UInt64.toNat_add t.nanos d.nanos).trans (Nat.mod_eq_of_lt ?_)
  unfold toNat Span.toNat horizon at fits
  omega

@[simp] theorem Instant.toNat_before (t : Instant) (d : Span) :
    (t.before d).toNat = t.toNat - d.toNat := by
  refine (toNat_clip _).trans (Nat.min_eq_left ?_)
  have := t.toNat_le
  omega

@[simp] theorem Instant.toNat_since (t earlier : Instant) :
    (t.since earlier).toNat = t.toNat - earlier.toNat := by
  refine (toNat_clip _).trans (Nat.min_eq_left ?_)
  have := t.toNat_le
  omega

/-- From the end of a span one looks back on all of it. -/
theorem Instant.since_wrappingAfter {t : Instant} {d : Span} (fits : t.toNat + d.toNat ≤ horizon) :
    (t.wrappingAfter d).since t = d := by
  rw [← Span.toNat_inj, toNat_since, toNat_wrappingAfter fits]
  exact Nat.add_sub_cancel_left _ _

/-- The signed difference is the difference of the two instants, wrapped into the range of signed
words. -/
theorem Instant.toInt_signedSince (t other : Instant) :
    (t.signedSince other).toInt = ((t.toNat : Int) - other.toNat).bmod UInt64.size := by
  have signed (w : UInt64) : w.toInt64.toInt = (w.toNat : Int).bmod UInt64.size :=
    BitVec.toInt_eq_toNat_bmod w.toBitVec
  unfold signedSince toNat
  rw [UInt64.toInt64_sub, Int64.toInt_sub, signed, signed, Int.bmod_sub_bmod, Int.sub_bmod_bmod]

@[simp] theorem Span.toNat_plus (a b : Span) :
    (a.plus b).toNat = min (a.toNat + b.toNat) horizon := toNat_clip _

@[simp] theorem Span.toNat_minus (a b : Span) : (a.minus b).toNat = a.toNat - b.toNat := by
  refine (toNat_clip _).trans (Nat.min_eq_left ?_)
  have := a.toNat_le
  omega

@[simp] theorem Span.toNat_times (a : Span) (k : Nat) :
    (a.times k).toNat = min (a.toNat * k) horizon := toNat_clip _

@[simp] theorem Instant.toNat_latest (a b : Instant) :
    (a.latest b).toNat = max a.toNat b.toNat := by
  unfold latest
  split
  · rename_i h
    have := Instant.lt_iff.mp h
    omega
  · rename_i h
    have := mt Instant.lt_iff.mpr h
    omega

end FramePacing

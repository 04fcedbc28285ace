import FramePacing.Time.Clock
import Mathlib.Data.List.Pairwise

/-!
# The system's clock in one number

The system's clock tells its time in seconds and nanoseconds, and a scheduler takes it as one number
of nanoseconds. The two parts are held within their ranges one at a time, before they are put
together, and the sum is held within the clock's range once more.

From the clock's zero on only the last of these steps does anything, so a reading stands for the
time that it tells, up to the last instant (`toNat_toInstant_of_nonneg`), and the order of readings
is kept. A negative number of seconds counts as none, but the nanoseconds beside it stay: before the
zero, all that is left of a reading is its place within its second (`toNat_toInstant_of_neg`). There
the instants run through one second again and again, and fall back at the end of each, the last time
at the zero itself.
-/

namespace FramePacing

namespace Timespec

variable {a b t : Timespec}

/-- The nanoseconds of a reading stay within its second. -/
def Proper (t : Timespec) : Prop := 0 ≤ t.nanos.toInt ∧ t.nanos.toInt ≤ 999999999

instance (t : Timespec) : Decidable t.Proper := inferInstanceAs (Decidable (_ ∧ _))

/-- The time that a reading tells, in nanoseconds from the clock's zero. -/
def told (t : Timespec) : Int := t.seconds.toInt * 1000000000 + t.nanos.toInt

/-- Two readings, both of them before the end of the clock's first second and the first one even
before its zero, of which the second one has fewer nanoseconds. -/
structure FallsBack (a b : Timespec) : Prop where
  /-- The first one is before the clock's zero. -/
  before : a.seconds.toInt < 0
  /-- The second one is before it too, or within the first second. -/
  early : b.seconds.toInt ≤ 0
  /-- The second one is at an earlier place of its second. -/
  less : b.nanos.toInt < a.nanos.toInt

instance (a b : Timespec) : Decidable (FallsBack a b) :=
  decidable_of_iff
    (a.seconds.toInt < 0 ∧ b.seconds.toInt ≤ 0 ∧ b.nanos.toInt < a.nanos.toInt)
    ⟨fun ⟨before, early, less⟩ => ⟨before, early, less⟩,
      fun ⟨before, early, less⟩ => ⟨before, early, less⟩⟩

/-! ### One reading -/

/-- From the clock's zero on, a reading is the time that it tells. -/
theorem toNat_toInstant_of_nonneg (proper : t.Proper) (h : 0 ≤ t.seconds.toInt) :
    (t.toInstant.toNat : Int) = min t.told horizon := by
  obtain ⟨low, high⟩ := proper
  have nanos : min t.nanos.toInt.toNat 999999999 = t.nanos.toInt.toNat := by omega
  unfold toInstant told Instant.toNat
  rw [nanos, toNat_clip]
  omega

/-- Before the clock's zero, it is its place within its second. -/
theorem toNat_toInstant_of_neg (proper : t.Proper) (h : t.seconds.toInt < 0) :
    (t.toInstant.toNat : Int) = t.nanos.toInt := by
  obtain ⟨low, high⟩ := proper
  have seconds : t.seconds.toInt.toNat = 0 := by omega
  unfold toInstant Instant.toNat
  rw [seconds, toNat_clip]
  unfold horizon
  omega

/-! ### Two readings -/

theorem not_fallsBack_iff (before : a.seconds.toInt < 0) :
    ¬ FallsBack a b ↔ (b.seconds.toInt ≤ 0 → a.nanos.toInt ≤ b.nanos.toInt) := by
  constructor
  · intro on early
    by_contra less
    exact on ⟨before, early, Int.not_le.mp less⟩
  · rintro on ⟨-, early, less⟩
    exact absurd (on early) (Int.not_le.mpr less)

/-- A place within a second is less than a whole second. -/
theorem nanos_le_told_iff (ha : a.Proper) (hb : b.Proper) (h : 0 ≤ b.seconds.toInt) :
    a.nanos.toInt ≤ min b.told horizon ↔
      (b.seconds.toInt ≤ 0 → a.nanos.toInt ≤ b.nanos.toInt) := by
  have := ha.2
  have := hb.1
  unfold told horizon
  omega

theorem seconds_nonneg_of_told_le (ha : a.Proper) (hb : b.Proper) (le : a.told ≤ b.told)
    (h : 0 ≤ a.seconds.toInt) : 0 ≤ b.seconds.toInt := by
  have := ha.1
  have := hb.2
  unfold told at le
  omega

/-- A later reading gives a later instant or the same one, unless it falls back. -/
theorem toInstant_le_iff (ha : a.Proper) (hb : b.Proper) (le : a.told ≤ b.told) :
    a.toInstant ≤ b.toInstant ↔ ¬ FallsBack a b := by
  rw [Instant.le_iff, ← Int.ofNat_le]
  by_cases before : a.seconds.toInt < 0
  · rw [toNat_toInstant_of_neg ha before, not_fallsBack_iff before]
    by_cases before' : b.seconds.toInt < 0
    · rw [toNat_toInstant_of_neg hb before']
      exact ⟨fun kept _ => kept, fun kept => kept (Int.le_of_lt before')⟩
    · have after := Int.not_lt.mp before'
      rw [toNat_toInstant_of_nonneg hb after]
      exact nanos_le_told_iff ha hb after
  · have after := Int.not_lt.mp before
    rw [toNat_toInstant_of_nonneg ha after,
      toNat_toInstant_of_nonneg hb (seconds_nonneg_of_told_le ha hb le after)]
    constructor
    · intro _ back
      exact before back.before
    · intro _
      exact Int.le_min.mpr ⟨Int.le_trans (Int.min_le_left _ _) le, Int.min_le_right _ _⟩

end Timespec

open Timespec

/-! ### Readings one after another -/

variable {readings : List Timespec}

/-- **The system's clock** goes back before the end of its first second only, while its readings do
not. Of any two of them, the second gives the later instant or the same one, unless the first one is
before the clock's zero, the second one before the end of the first second, and the second one has
fewer nanoseconds. So the clock never goes back exactly if no two readings are like that. -/
theorem system_clock_goes_back_before_zero_only (proper : ∀ t ∈ readings, t.Proper)
    (inOrder : readings.Pairwise fun a b => a.told ≤ b.told) :
    readings.Pairwise (fun a b => a.toInstant ≤ b.toInstant ↔ ¬ FallsBack a b) ∧
      ((readings.map fun t => (Clock.monotonic t).now).Pairwise (· ≤ ·) ↔
        readings.Pairwise fun a b => ¬ FallsBack a b) := by
  have kept_iff : readings.Pairwise fun a b => a.toInstant ≤ b.toInstant ↔ ¬ FallsBack a b :=
    inOrder.imp_of_mem fun ha hb le => toInstant_le_iff (proper _ ha) (proper _ hb) le
  refine ⟨kept_iff, ?_⟩
  rw [List.pairwise_map]
  constructor
  · intro kept
    exact (kept_iff.and kept).imp fun ⟨iff, le⟩ => iff.mp le
  · intro onwards
    exact (kept_iff.and onwards).imp fun ⟨iff, on⟩ => iff.mpr on

/-- Readings from before the clock's zero until after the last instant, none of which falls back. -/
def ascent : List Timespec :=
  [⟨-2, 5⟩, ⟨-1, 5⟩, ⟨0, 7⟩, ⟨0, 999999999⟩, ⟨1, 0⟩, ⟨18446744073, 709551614⟩, ⟨18446744074, 0⟩,
    ⟨9223372036854775807, 999999999⟩]

theorem system_clock_goes_on_along_ascent :
    (∀ t ∈ ascent, t.Proper) ∧ ascent.Pairwise (fun a b => a.told ≤ b.told) ∧
      (ascent.map fun t => (Clock.monotonic t).now).Pairwise (· ≤ ·) := by
  have proper : ∀ t ∈ ascent, t.Proper := by decide
  have inOrder : ascent.Pairwise fun a b => a.told ≤ b.told := by decide
  have onwards : ascent.Pairwise fun a b => ¬ FallsBack a b := by decide
  exact ⟨proper, inOrder, (system_clock_goes_back_before_zero_only proper inOrder).2.mpr onwards⟩

/-- It is not so that readings always keep their order: the last nanosecond before the clock's zero
gives a later instant than the zero. -/
theorem not_every_reading_keeps_order :
    ¬ ∀ a b : Timespec, a.Proper → b.Proper → a.told ≤ b.told → a.toInstant ≤ b.toInstant := by
  intro all
  exact absurd (all ⟨-1, 999999999⟩ ⟨0, 0⟩ (by decide) (by decide) (by decide)) (by decide)

end FramePacing

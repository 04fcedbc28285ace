import FramePacing.Proofs.Overflow
import FramePacing.Proofs.Simulation.Presentation
import Mathlib.Order.Bounds.Basic

/-!
# The first refresh at an instant or after it

A display finds the first refresh strictly after an instant by one division. The first refresh at an
instant or after it is then the first one strictly after the nanosecond before, and a frame is shown
at the first refresh that comes no earlier than the end of what the display needs after its
delivery.

The detour over the nanosecond before is exact wherever there is one. There is none before the
clock's zero: for that instant the display looks strictly after it, and passes over a refresh that
lies there (`refreshFrom_at_zero`). Everywhere else it finds the least refresh that is not too
early, whether the instant lies before the grid, on it or between two of its points
(`exists_refreshFrom`).
-/

namespace FramePacing

namespace Advance

variable {step : Nat} {test : Nat → Prop} {p q : Nat}

/-- The loop goes past no point where the test fails. -/
theorem le_of_not_test (h : Advance step test p q) {k : Nat} (fails : ¬ test (p + step * k)) :
    q ≤ p + step * k := by
  induction h generalizing k with
  | done _ => exact Nat.le_add_right _ _
  | more holds _ ih =>
    cases k with
    | zero => exact absurd holds fails
    | succ k =>
      rw [Nat.mul_succ, Nat.add_comm (step * k), ← Nat.add_assoc] at fails ⊢
      exact ih fails

/-- The loop ends at the least of its points where the test fails. -/
theorem isLeast (h : Advance step test p q) :
    IsLeast {x | x ∈ Set.range (fun k => p + step * k) ∧ ¬ test x} q := by
  obtain ⟨k, reached⟩ := h.exists_steps
  refine ⟨⟨⟨k, reached.symm⟩, h.not_test⟩, ?_⟩
  rintro _ ⟨⟨j, rfl⟩, fails⟩
  exact h.le_of_not_test fails

end Advance

namespace Display

variable {d : Display} {t : Instant} {v : Nat}

/-- The least refresh at `t` or after it, as if the clock's range had no end. -/
def FirstRefresh (d : Display) (t v : Nat) : Prop :=
  IsLeast {r | r ∈ Set.range d.refresh ∧ t ≤ r} v

/-! ### Strictly after an instant -/

/-- A display that refreshes finds the least refresh strictly after an instant, if there is one
within the clock's range. -/
theorem exists_refreshAfter (refreshes : d.refreshPeriod ≠ .zero)
    (first : IsLeast {r | r ∈ Set.range d.refresh ∧ t.toNat < r} v) (fits : v ≤ horizon) :
    ∃ r, d.refreshAfter t = .ok r ∧ r.toNat = v := by
  have pos : 0 < d.refreshPeriod.toNat := Nat.pos_of_ne_zero (mt Span.eq_zero_iff.mpr refreshes)
  have later : t.toNat < v := first.1.2
  cases h : d.refreshAfter t with
  | error fault =>
    have top := ((firstOnGridAfter_eq_error_iff pos).mp h).2.2.2
    omega
  | ok r =>
    obtain ⟨point, loop, clipped⟩ := firstOnGridAfter_loop
      (Nat.min_eq_left d.refreshPeriod.toNat_le).symm (Nat.min_eq_left t.toNat_le).symm h
    have least := loop.isLeast
    simp only [Nat.not_le] at least
    obtain rfl : point = v := least.unique first
    exact ⟨r, rfl, by omega⟩

/-! ### At an instant or after it -/

/-- The grid starts at the clock's zero, and `t` is the clock's zero. -/
def StartsAtZero (d : Display) (t : Instant) : Prop := d.origin = .zero ∧ t = .zero

/-- The nanosecond before an instant leaves the same refreshes to come, if there is such a
nanosecond or no refresh lies at the clock's zero. -/
theorem lt_refresh_iff (away : ¬ d.StartsAtZero t) (k : Nat) :
    (t.before ⟨1⟩).toNat < d.refresh k ↔ t.toNat ≤ d.refresh k := by
  have origin : d.origin = .zero ↔ d.origin.toNat = 0 := Instant.toNat_inj.symm
  have zero : t = .zero ↔ t.toNat = 0 := Instant.toNat_inj.symm
  rw [StartsAtZero, origin, zero] at away
  rw [Instant.toNat_before]
  show t.toNat - 1 < d.refresh k ↔ _
  unfold refresh
  omega

theorem exists_refreshFrom (refreshes : d.refreshPeriod ≠ .zero) (away : ¬ d.StartsAtZero t)
    (first : d.FirstRefresh t.toNat v) (fits : v ≤ horizon) :
    ∃ r, d.refreshFrom t = .ok r ∧ r.toNat = v := by
  refine exists_refreshAfter refreshes ?_ fits
  have same : {r | r ∈ Set.range d.refresh ∧ (t.before ⟨1⟩).toNat < r} =
      {r | r ∈ Set.range d.refresh ∧ t.toNat ≤ r} := by
    ext r
    refine and_congr_right ?_
    rintro ⟨k, rfl⟩
    exact lt_refresh_iff away k
  rw [same]
  exact first

/-- From the clock's zero on, a display whose grid starts there finds its second refresh. -/
theorem refreshFrom_at_zero (refreshes : d.refreshPeriod ≠ .zero) (here : d.StartsAtZero t) :
    ∃ r, d.refreshFrom t = .ok r ∧ r.toNat = d.refreshPeriod.toNat := by
  obtain ⟨origin, rfl⟩ := here
  have pos : 0 < d.refreshPeriod.toNat := Nat.pos_of_ne_zero (mt Span.eq_zero_iff.mpr refreshes)
  have grid (k : Nat) : d.refresh k = d.refreshPeriod.toNat * k := by
    rw [refresh, origin, Instant.toNat_zero, Nat.zero_add]
  have second : IsLeast {r | r ∈ Set.range d.refresh ∧ Instant.zero.toNat < r}
      d.refreshPeriod.toNat := by
    refine ⟨⟨⟨1, by rw [grid, Nat.mul_one]⟩, pos⟩, ?_⟩
    rintro _ ⟨⟨k, rfl⟩, positive⟩
    rw [grid, Instant.toNat_zero] at positive
    rw [grid]
    exact Nat.le_mul_of_pos_right _ (Nat.pos_of_mul_pos_left positive)
  exact exists_refreshAfter refreshes second d.refreshPeriod.toNat_le

theorem firstRefresh_at_zero (here : d.StartsAtZero t) (first : d.FirstRefresh t.toNat v) :
    v = 0 := by
  obtain ⟨origin, rfl⟩ := here
  have here : 0 ∈ {r | r ∈ Set.range d.refresh ∧ Instant.zero.toNat ≤ r} :=
    ⟨⟨0, by rw [refresh, origin, Instant.toNat_zero, Nat.mul_zero]⟩, Nat.le_refl 0⟩
  exact Nat.le_zero.mp (first.2 here)

/-- A display finds the first refresh at an instant or after it, if there is one within the clock's
range, and the one after it if both lie at the clock's zero. -/
theorem refreshFrom_first (refreshes : d.refreshPeriod ≠ .zero)
    (first : d.FirstRefresh t.toNat v) (fits : v ≤ horizon) :
    ∃ r, d.refreshFrom t = .ok r ∧ (¬ d.StartsAtZero t → r.toNat = v) ∧
      (d.StartsAtZero t → v = 0 ∧ r.toNat = d.refreshPeriod.toNat) := by
  by_cases here : d.StartsAtZero t
  · obtain ⟨r, found, second⟩ := refreshFrom_at_zero refreshes here
    have zero := firstRefresh_at_zero here first
    exact ⟨r, found, fun away => absurd here away, fun _ => ⟨zero, second⟩⟩
  · obtain ⟨r, found, value⟩ := exists_refreshFrom refreshes here first fits
    exact ⟨r, found, fun _ => value, fun atZero => absurd atZero here⟩

/-- **The first refresh**: a display that was built finds the least refresh at an instant or after
it, and shows a delivered frame at the least refresh that leaves it the time it needs, if these lie
within the clock's range; but where it is to look from the clock's zero on and its grid starts
there, it finds the refresh one period later. -/
theorem first_refresh_found_but_at_clock_zero {origin : Instant} {refreshPeriod extra : Span}
    {d : Display} (built : Display.create origin refreshPeriod extra = .ok d) (t : Instant)
    {v : Nat} (fits : v ≤ horizon) :
    (d.FirstRefresh t.toNat v →
      ∃ r, d.refreshFrom t = .ok r ∧ (¬ d.StartsAtZero t → r.toNat = v) ∧
        (d.StartsAtZero t → v = 0 ∧ r.toNat = d.refreshPeriod.toNat)) ∧
    (d.FirstRefresh (t.toNat + d.extra.toNat) v →
      ∃ r, d.presentation t = .ok r ∧ (¬ d.StartsAtZero (t.after d.extra) → r.toNat = v) ∧
        (d.StartsAtZero (t.after d.extra) → v = 0 ∧ r.toNat = d.refreshPeriod.toNat)) := by
  have refreshes := refreshPeriod_ne_zero_of_create built
  refine ⟨fun first => refreshFrom_first refreshes first fits, fun first => ?_⟩
  have needed : t.toNat + d.extra.toNat ≤ v := first.1.2
  have unclipped : (t.after d.extra).toNat = t.toNat + d.extra.toNat := by
    rw [Instant.toNat_after]
    omega
  rw [← unclipped] at first
  exact refreshFrom_first refreshes first fits

/-- A display that refreshes at 5000000 ns for the first time. -/
def lateGrid : Display := ⟨⟨5000000⟩, ⟨11111111⟩, ⟨500000⟩⟩

/-- From the nanosecond after the first refresh on, it finds the second one, and shows a frame there
that leaves it just the time it needs. -/
theorem first_refresh_found_after_origin :
    (∃ r, lateGrid.refreshFrom ⟨5000001⟩ = .ok r ∧ r.toNat = 16111111) ∧
      ∃ r, lateGrid.presentation ⟨15611111⟩ = .ok r ∧ r.toNat = 16111111 := by
  have built : create ⟨5000000⟩ ⟨11111111⟩ ⟨500000⟩ = .ok lateGrid := rfl
  have first (t : Nat) (after : 5000000 < t) (before : t ≤ 16111111) :
      lateGrid.FirstRefresh t 16111111 := by
    refine ⟨⟨⟨1, rfl⟩, before⟩, ?_⟩
    rintro _ ⟨⟨k, rfl⟩, le⟩
    change t ≤ 5000000 + 11111111 * k at le
    show 16111111 ≤ 5000000 + 11111111 * k
    omega
  have away (t : Instant) : ¬ lateGrid.StartsAtZero t := fun here => by cases here.1
  obtain ⟨r, found, value, -⟩ :=
    (first_refresh_found_but_at_clock_zero built ⟨5000001⟩ (by decide)).1
      (first 5000001 (by decide) (by decide))
  obtain ⟨r', shown, value', -⟩ :=
    (first_refresh_found_but_at_clock_zero built ⟨15611111⟩ (by decide)).2
      (first 16111111 (by decide) (by decide))
  exact ⟨⟨r, found, value (away _)⟩, r', shown, value' (away _)⟩

/-- It is not so that a display always finds the first refresh at an instant or after it: from the
clock's zero on, a display that refreshes there finds its second refresh. -/
theorem not_every_first_refresh_is_found :
    ¬ ∀ (origin : Instant) (refreshPeriod extra : Span) (d : Display),
      create origin refreshPeriod extra = .ok d → ∀ (t : Instant) (v : Nat), v ≤ horizon →
        (d.FirstRefresh t.toNat v → ∃ r, d.refreshFrom t = .ok r ∧ r.toNat = v) ∧
        (d.FirstRefresh (t.toNat + d.extra.toNat) v →
          ∃ r, d.presentation t = .ok r ∧ r.toNat = v) := by
  intro all
  have first : (⟨.zero, ⟨16000000⟩, .zero⟩ : Display).FirstRefresh 0 0 :=
    ⟨⟨⟨0, rfl⟩, Nat.le_refl 0⟩, fun r _ => Nat.zero_le r⟩
  obtain ⟨r, found, value⟩ := (all .zero ⟨16000000⟩ .zero _ rfl .zero 0 (by decide)).1 first
  cases found
  cases value

end Display

end FramePacing

import FramePacing.Proofs.Planning
import FramePacing.Proofs.Scheduler.History
import FramePacing.Proofs.Scheduler.Transitions

/-!
# The plan that overflows

All sums and products of a plan saturate but one. The first point of the display's grid after a
floor is so many periods away as fit before the floor, and one more, and this number has to be a
word itself. It is none if the grid starts at the clock's zero, advances by single nanoseconds and
has to pass the last instant (`GridOverflow`).

That is all that can go wrong with valid settings (`planFrame_eq_error_iff`): a period is never
empty, so that no division is by zero, and the grid is counted from its origin only if the floor is
not before it, so that no difference is negative. A prediction with a free slot is refused in this
case and in no other (`predict_returns_unless_grid_overflows`).
-/

namespace FramePacing

/-- The plan for which the number of steps on the display's grid is no word. -/
structure GridOverflow (c : Config) (e : Estimate) (s : DisplaySample) (last now : Instant) :
    Prop where
  /-- The grid starts at the clock's zero. -/
  origin : s.displayTime = .zero
  /-- The display's period is one nanosecond. -/
  base : basePeriod c s = 1
  /-- The frame takes one display period only, because of the limit or because that is enough. -/
  single : c.maxMultiple = some 1 ∨ (e.cpu.toNat ≤ 1 ∧ e.draw.toNat ≤ 1)
  /-- The frame is to be shown after the last instant. -/
  floor : horizon ≤ max last.toNat (now.toNat + frameNeed e s)

/-! ### The steps of a plan -/

theorem basePeriod_pos {c : Config} (valid : c.check = .ok ()) (s : DisplaySample) :
    0 < basePeriod c s := by
  have fallback := (Config.check_eq_ok_iff.mp valid).2.1
  rw [ne_eq, Span.eq_zero_iff] at fallback
  unfold basePeriod
  split <;> omega

theorem unitsFor_one (need : Nat) : unitsFor need 1 = need := by simp [unitsFor]

theorem periodsTaken_pos {c : Config} (valid : c.check = .ok ()) (base : Nat) (e : Estimate) :
    0 < periodsTaken base e c.maxMultiple := by
  have limited := (Config.check_eq_ok_iff.mp valid).2.2
  have needed : 0 < periodsNeeded base e := by unfold periodsNeeded; omega
  unfold periodsTaken
  cases hlimit : c.maxMultiple with
  | none => exact needed
  | some k =>
    have positive : k.toNat ≠ 0 := fun zero =>
      limited (hlimit.trans (congrArg some (UInt32.toNat_inj.mp zero)))
    show 0 < min (periodsNeeded base e) k.toNat
    omega

/-- One nanosecond at a time is enough for frames that need no more, or may not take more. -/
theorem periodsTaken_one_iff {c : Config} (valid : c.check = .ok ()) (e : Estimate) :
    periodsTaken 1 e c.maxMultiple = 1 ↔
      c.maxMultiple = some 1 ∨ (e.cpu.toNat ≤ 1 ∧ e.draw.toNat ≤ 1) := by
  have positive := periodsTaken_pos valid 1 e
  have needed : periodsNeeded 1 e = max (max e.cpu.toNat e.draw.toNat) 1 := by
    simp [periodsNeeded, unitsFor_one]
  unfold periodsTaken at positive ⊢
  rw [needed] at positive ⊢
  generalize c.maxMultiple = limit at positive ⊢
  cases limit with
  | none =>
    simp only [reduceCtorEq, false_or]
    omega
  | some k =>
    have one : k = 1 ↔ k.toNat = 1 := UInt32.toNat_inj.symm
    simp only [Option.some.injEq, one] at positive ⊢
    omega

/-- The grid has a point after the floor, unless the number of steps to it is no word. -/
theorem firstOnGridAfter_eq_error_iff {origin floor : Instant} {period : Span} {f : Fault}
    (pos : 0 < period.toNat) :
    firstOnGridAfter origin period floor = .error f ↔
      f = .addOverflow ∧ origin.toNat = 0 ∧ period.toNat = 1 ∧ floor.toNat = horizon := by
  have top : (0 : Nat) < horizon := by decide
  unfold firstOnGridAfter
  by_cases lt : floor < origin
  · rw [if_pos lt]
    have := Instant.lt_iff.mp lt
    exact ⟨fun e => (by cases e), fun e => by omega⟩
  rw [if_neg lt]
  have le : origin.toNat ≤ floor.toNat := Nat.not_lt.mp (mt Instant.lt_iff.mpr lt)
  have bound := floor.toNat_le
  -- the difference is not negative, and the divisor is not zero
  have gap := Instant.sinceExact_of_le (Instant.le_iff.mpr le)
  have gap_eq : (floor.since origin).nanos.toNat = floor.toNat - origin.toNat :=
    Instant.toNat_since floor origin
  have whole : divideExact (floor.since origin).nanos period.nanos =
      .ok ((floor.since origin).nanos / period.nanos) :=
    divideExact_eq_ok_iff.mpr ⟨pos, UInt64.toNat_div _ _⟩
  have whole_eq : ((floor.since origin).nanos / period.nanos).toNat =
      (floor.toNat - origin.toNat) / period.toNat := by
    rw [UInt64.toNat_div, gap_eq]
    rfl
  simp only [gap, whole, bind_eq_error_iff, Except.ok.injEq, reduceCtorEq, pure, Except.pure,
    addExact_eq_error_iff, false_or, exists_eq_left', and_false, exists_const, or_false]
  rw [whole_eq, show (1 : UInt64).toNat = 1 from rfl]
  refine and_congr_right fun _ => ⟨fun above => ?_, ?_⟩
  · have steps := Nat.div_mul_le_self (floor.toNat - origin.toNat) period.toNat
    have fewer := Nat.div_le_self (floor.toNat - origin.toNat) period.toNat
    have single : period.toNat < 2 := by
      refine Nat.lt_of_not_le fun more => ?_
      have := Nat.mul_le_mul_left ((floor.toNat - origin.toNat) / period.toNat) more
      omega
    omega
  · rintro ⟨zero, one, last⟩
    rw [zero, one, last, Nat.div_one]
    omega

/-- **Overflow**: with valid settings a plan fails in one case and with one fault. -/
theorem planFrame_eq_error_iff {c : Config} (valid : c.check = .ok ()) {e : Estimate}
    {s : DisplaySample} {last now : Instant} {f : Fault} :
    planFrame c e s last now = .error f ↔ f = .addOverflow ∧ GridOverflow c e s last now := by
  have base := basePeriod_pos valid s
  have taken := periodsTaken_pos valid (basePeriod c s) e
  have positive := Nat.mul_pos base taken
  have top : (1 : Nat) < horizon := by decide
  have ok : framePeriod (displayPeriod c s) e c.maxMultiple =
      .ok ((displayPeriod c s).times (periodsTaken (basePeriod c s) e c.maxMultiple)) := by
    rw [framePeriod_eq_ok_iff, displayPeriod_toNat]
    exact ⟨base, rfl⟩
  have period_eq :
      ((displayPeriod c s).times (periodsTaken (basePeriod c s) e c.maxMultiple)).toNat =
        min (basePeriod c s * periodsTaken (basePeriod c s) e c.maxMultiple) horizon := by
    rw [Span.toNat_times, displayPeriod_toNat]
  have floor_eq : (last.latest (now.after (frameTime e s))).toNat = horizon ↔
      horizon ≤ max last.toNat (now.toNat + frameNeed e s) := by
    rw [planFloor_toNat]
    omega
  have origin : s.displayTime.toNat = 0 ↔ s.displayTime = .zero := Instant.toNat_inj (b := .zero)
  unfold planFrame
  simp only [ok, bind_eq_error_iff, Except.ok.injEq, reduceCtorEq, pure, Except.pure, false_or,
    exists_eq_left', and_false, exists_const, or_false]
  rw [firstOnGridAfter_eq_error_iff (by omega), period_eq, floor_eq, origin]
  refine and_congr_right fun _ => ⟨?_, fun beyond => ⟨beyond.origin, ?_, beyond.floor⟩⟩
  · rintro ⟨zero, single, above⟩
    have product : basePeriod c s * periodsTaken (basePeriod c s) e c.maxMultiple = 1 := by omega
    have one := Nat.eq_one_of_mul_eq_one_right product
    have alone := Nat.eq_one_of_mul_eq_one_left product
    rw [one] at alone
    exact ⟨zero, one, (periodsTaken_one_iff valid e).mp alone, above⟩
  · rw [beyond.base, (periodsTaken_one_iff valid e).mpr beyond.single]
    omega

namespace Scheduler

variable {n : Nat}

/-- The number of steps to the display time of the next frame is no word. -/
def Overflows (s : Scheduler n) (now : Instant) : Prop :=
  GridOverflow s.config s.latency s.sample s.lastDisplay now

theorem plan_eq_error_iff {c : Config} {s₀ : Scheduler n} (created : create n c = .ok s₀)
    (calls : List (Instant × Call)) {now : Instant} {f : Fault} :
    (s₀.run calls).plan now = .error f ↔ f = .addOverflow ∧ (s₀.run calls).Overflows now := by
  obtain ⟨same, valid⟩ := config_run created calls
  exact planFrame_eq_error_iff (same ▸ valid)

/-- Without an overflow there is a plan. -/
theorem exists_plan {c : Config} {s₀ : Scheduler n} (created : create n c = .ok s₀)
    (calls : List (Instant × Call)) {now : Instant} (fits : ¬ (s₀.run calls).Overflows now) :
    ∃ b, (s₀.run calls).plan now = .ok b := by
  cases h : (s₀.run calls).plan now with
  | ok b => exact ⟨b, rfl⟩
  | error f => exact absurd ((plan_eq_error_iff created calls).mp h).2 fits

theorem predict_result_of_plan_error {s : Scheduler n} {now : Instant} {id : FrameId} {f : Fault}
    (next : s.counter.next? = some id) (plan : s.plan now = .error f) :
    (s.predict now).result = .error f := by
  have book : s.book id now = .error f := bind_eq_error_iff.mpr (Or.inl plan)
  simp [predict, next, book]

theorem predict_result_of_plan {s : Scheduler n} {now : Instant} {id : FrameId} {b : Booking}
    (next : s.counter.next? = some id) (plan : s.plan now = .ok b)
    (free : (s.ring.slot id).isFree) : (s.predict now).result = .ok (b.prediction id) := by
  rw [predict_eq next plan free]

/-- **Arithmetic of predictions**: at every moment of a run, as long as an id is left and its slot
is free, a prediction returns, unless the number of steps to the new display time is no word; then
the prediction is refused for that sum. -/
theorem predict_returns_unless_grid_overflows {c : Config} {s₀ : Scheduler n}
    (created : create n c = .ok s₀) (calls : List (Instant × Call)) (now : Instant) (id : FrameId)
    (next : id.toInt = (s₀.run calls).counter.toInt + 1)
    (free : ((s₀.run calls).ring.slot id).isFree) :
    (((s₀.run calls).predict now).Returns ↔ ¬ (s₀.run calls).Overflows now) ∧
    ((s₀.run calls).Overflows now →
      ((s₀.run calls).predict now).result = .error .addOverflow) := by
  have next := FrameId.next?_eq_some_iff.mpr next
  have refused : (s₀.run calls).Overflows now →
      ((s₀.run calls).predict now).result = .error .addOverflow := fun beyond =>
    predict_result_of_plan_error next ((plan_eq_error_iff created calls).mpr ⟨rfl, beyond⟩)
  refine ⟨⟨?_, fun fits => ?_⟩, refused⟩
  · rintro ⟨p, returned⟩ beyond
    cases returned.symm.trans (refused beyond)
  · obtain ⟨b, plan⟩ := exists_plan created calls fits
    exact ⟨b.prediction id, predict_result_of_plan next plan free⟩

/-- A display that reports the clock's zero, the period `period` and the longest time of its own. -/
def remoteDisplay (period : UInt64) : List (Instant × Call) :=
  [(.zero, .ingest .owner ⟨.zero, ⟨period⟩, ⟨18446744073709551615⟩⟩)]

/-- Settings under which a frame takes one display period only. -/
def singlePeriod : Config := { Config.conservative with maxMultiple := some 1 }

theorem create_singlePeriod (pos : 0 < n) :
    create n singlePeriod = .ok (initial singlePeriod pos) :=
  create_eq_ok_iff.mpr ⟨rfl, pos, rfl⟩

/-- Two nanoseconds at a time the last instant is passed, and the plan saturates. -/
theorem predict_returns_on_two_nanosecond_grid :
    (((initial singlePeriod Nat.two_pos : Scheduler 2).run (remoteDisplay 2)).predict
      .zero).Returns := by
  have fits := predict_returns_unless_grid_overflows (create_singlePeriod Nat.two_pos)
    (remoteDisplay 2) .zero ⟨1⟩ rfl rfl
  refine fits.1.mpr fun beyond => ?_
  cases beyond.base

/-- It is not so that every prediction with a free slot returns: one nanosecond at a time, the steps
from the clock's zero past its last instant are one too many. -/
theorem not_all_predictions_with_free_slot_return :
    ¬ ∀ (n : Nat) (c : Config) (s₀ : Scheduler n), create n c = .ok s₀ →
      ∀ (calls : List (Instant × Call)) (now : Instant) (id : FrameId),
        id.toInt = (s₀.run calls).counter.toInt + 1 → ((s₀.run calls).ring.slot id).isFree →
          ((s₀.run calls).predict now).Returns := by
  intro all
  obtain ⟨p, returned⟩ := all 2 singlePeriod _ (create_singlePeriod Nat.two_pos)
    (remoteDisplay 1) .zero ⟨1⟩ rfl rfl
  have refused : (((initial singlePeriod Nat.two_pos : Scheduler 2).run (remoteDisplay 1)).predict
      .zero).result = .error .addOverflow := rfl
  cases returned.symm.trans refused

end Scheduler

end FramePacing

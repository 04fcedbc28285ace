import FramePacing.Proofs.Scheduler.Effect

/-!
# Planning by loops

`planFrame` computes a plan in closed form and in saturating words. What it is meant to compute is
simpler to say with two loops over unbounded numbers (`LoopPlan`):

* the period starts at the display's period and grows by it while the CPU time exceeds it, then
  while the draw time does; the limit cuts it off;
* the display time starts at the display's own and moves on by the period while it is not after the
  last one handed out or leaves too little time for the work.

The loops are relations (`Advance`), so a loop that never ends has no result. `planFrame_loops`
says that a plan, if there is one, is what the loops give, cut off at the horizon: each saturating
operation on the way, where it stops at the horizon, stops at a place where the loops are past it.
-/

namespace FramePacing

/-! ### Loops that count up -/

/-- `Advance step test p q`: the loop that adds `step` while `test` holds goes from `p` to `q`. -/
inductive Advance (step : Nat) (test : Nat → Prop) : Nat → Nat → Prop where
  /-- The test fails, and the loop ends. -/
  | done {p : Nat} (h : ¬ test p) : Advance step test p p
  /-- The test holds, and the loop goes on. -/
  | more {p q : Nat} (h : test p) (rest : Advance step test (p + step) q) : Advance step test p q

namespace Advance

variable {step : Nat} {test : Nat → Prop} {p q q' : Nat}

/-- The loop ends at the first point where the test fails. -/
theorem of_first {k : Nat} (stop : ¬ test (p + step * k))
    (before : ∀ j < k, test (p + step * j)) : Advance step test p (p + step * k) := by
  induction k generalizing p with
  | zero => exact .done stop
  | succ k ih =>
    have shift : ∀ j, p + step * (j + 1) = p + step + step * j := fun j => by
      rw [Nat.mul_succ]; omega
    have first : test p := by simpa using before 0 (Nat.succ_pos k)
    rw [shift] at stop ⊢
    exact .more first (ih stop fun j hj => shift j ▸ before (j + 1) (Nat.succ_lt_succ hj))

theorem not_test (h : Advance step test p q) : ¬ test q := by
  induction h with
  | done h => exact h
  | more _ _ ih => exact ih

theorem unique (h : Advance step test p q) (h' : Advance step test p q') : q = q' := by
  induction h with
  | done h =>
    cases h' with
    | done _ => rfl
    | more h'' _ => exact absurd h'' h
  | more h _ ih =>
    cases h' with
    | done h'' => exact absurd h h''
    | more _ rest => exact ih rest

/-- The loop goes a whole number of steps. -/
theorem exists_steps (h : Advance step test p q) : ∃ k, q = p + step * k := by
  induction h with
  | done _ => exact ⟨0, rfl⟩
  | more _ _ ih =>
    obtain ⟨k, rfl⟩ := ih
    exact ⟨k + 1, by rw [Nat.mul_succ]; omega⟩

end Advance

/-- How many units it takes to cover a length. -/
def unitsFor (need unit : Nat) : Nat := (need + (unit - 1)) / unit

theorem unitsFor_le_iff {need unit k : Nat} (pos : 0 < unit) :
    unitsFor need unit ≤ k ↔ need ≤ unit * k := by
  unfold unitsFor
  rw [Nat.div_le_iff_le_mul_add_pred pos]
  omega

/-- Growing in whole units from `m` of them until a length is covered. -/
theorem Advance.cover {need unit : Nat} (m : Nat) (pos : 0 < unit) :
    Advance unit (· < need) (unit * m) (unit * max m (unitsFor need unit)) := by
  have split : ∀ j, unit * m + unit * j = unit * (m + j) := fun j => (Nat.mul_add unit m j).symm
  have reach : unit * m + unit * (max m (unitsFor need unit) - m) =
      unit * max m (unitsFor need unit) := by rw [split]; congr 1; omega
  rw [← reach]
  apply of_first
  · have := (unitsFor_le_iff pos).mp (Nat.le_max_right m (unitsFor need unit))
    rw [reach]
    exact Nat.not_lt.mpr this
  · intro j hj
    have short : ¬ unitsFor need unit ≤ m + j := by omega
    rw [unitsFor_le_iff pos] at short
    rw [split]
    exact Nat.not_le.mp short

/-- The first point of a grid after a floor that the origin does not exceed. -/
theorem Advance.past {origin period floor : Nat} (pos : 0 < period) (le : origin ≤ floor) :
    Advance period (· ≤ floor) origin (origin + period * ((floor - origin) / period + 1)) := by
  have here := Nat.div_add_mod (floor - origin) period
  have rest := Nat.mod_lt (floor - origin) pos
  apply of_first
  · rw [Nat.mul_add]
    omega
  · intro j hj
    have := Nat.mul_le_mul_left period (Nat.le_of_lt_succ hj)
    omega

/-! ### The plan -/

/-- The display period that the loops start from. -/
def basePeriod (c : Config) (s : DisplaySample) : Nat :=
  if s.period.toNat = 0 then c.fallbackPeriod.toNat else s.period.toNat

/-- The time that a frame takes in all, without a bound. -/
def frameNeed (e : Estimate) (s : DisplaySample) : Nat :=
  e.cpu.toNat + e.draw.toNat + (e.margin.toNat + s.extra.toNat)

/-- A period cut off at a number of display periods. -/
def capped (limit : Option UInt32) (base period : Nat) : Nat :=
  match limit with
  | some k => min period (k.toNat * base)
  | none => period

/-- The period and the display time that the loops give. -/
structure LoopPlan (c : Config) (e : Estimate) (s : DisplaySample) (last now : Instant)
    (period display : Nat) : Prop where
  /-- Two loops for the period. -/
  grown : ∃ p q, Advance (basePeriod c s) (· < e.cpu.toNat) (basePeriod c s) p ∧
    Advance (basePeriod c s) (· < e.draw.toNat) p q ∧
    period = capped c.maxMultiple (basePeriod c s) q
  /-- One loop for the display time. -/
  reached : Advance period (fun t => t ≤ last.toNat ∨ t ≤ now.toNat + frameNeed e s)
    s.displayTime.toNat display

/-- The period does not depend on when the plan is made. -/
theorem LoopPlan.period_eq {c : Config} {e : Estimate} {s : DisplaySample}
    {last now last' now' : Instant} {period display period' display' : Nat}
    (h : LoopPlan c e s last now period display)
    (h' : LoopPlan c e s last' now' period' display') : period' = period := by
  obtain ⟨p, q, grow₁, grow₂, rfl⟩ := h.grown
  obtain ⟨p', q', grow₁', grow₂', rfl⟩ := h'.grown
  obtain rfl := grow₁.unique grow₁'
  obtain rfl := grow₂.unique grow₂'
  rfl

/-- The loops leave no choice. -/
theorem LoopPlan.unique {c : Config} {e : Estimate} {s : DisplaySample} {last now : Instant}
    {period display period' display' : Nat} (h : LoopPlan c e s last now period display)
    (h' : LoopPlan c e s last now period' display') : period' = period ∧ display' = display := by
  obtain rfl := h.period_eq h'
  exact ⟨rfl, h'.reached.unique h.reached⟩

/-- The period is a whole number of display periods, and the display time is so many periods after
the display's own. -/
theorem LoopPlan.on_grid {c : Config} {e : Estimate} {s : DisplaySample} {last now : Instant}
    {period display : Nat} (h : LoopPlan c e s last now period display) :
    ∃ m k, period = basePeriod c s * m ∧ display = s.displayTime.toNat + period * k := by
  obtain ⟨p, q, grow₁, grow₂, period_eq⟩ := h.grown
  obtain ⟨i, rfl⟩ := grow₁.exists_steps
  obtain ⟨j, rfl⟩ := grow₂.exists_steps
  obtain ⟨k, display_eq⟩ := h.reached.exists_steps
  have whole : basePeriod c s + basePeriod c s * i + basePeriod c s * j =
      basePeriod c s * (1 + i + j) := by rw [Nat.mul_add, Nat.mul_add, Nat.mul_one]
  rw [whole] at period_eq
  unfold capped at period_eq
  split at period_eq
  · rename_i limit _
    rw [Nat.mul_comm limit.toNat, Nat.mul_min_mul_left] at period_eq
    exact ⟨_, k, period_eq, display_eq⟩
  · exact ⟨_, k, period_eq, display_eq⟩

/-! ### The closed forms -/

theorem displayPeriod_toNat (c : Config) (s : DisplaySample) :
    (displayPeriod c s).toNat = basePeriod c s := by
  unfold displayPeriod basePeriod
  by_cases h : s.period = Span.zero
  · rw [if_pos h, if_pos (Span.eq_zero_iff.mp h)]
  · rw [if_neg h, if_neg (mt Span.eq_zero_iff.mpr h)]

/-- The number of display periods that cover the work. -/
def periodsNeeded (base : Nat) (e : Estimate) : Nat :=
  max (max (unitsFor e.cpu.toNat base) (unitsFor e.draw.toNat base)) 1

/-- The number of display periods that a frame takes. -/
def periodsTaken (base : Nat) (e : Estimate) (limit : Option UInt32) : Nat :=
  match limit with
  | some k => min (periodsNeeded base e) k.toNat
  | none => periodsNeeded base e

theorem framePeriod_eq_ok_iff {base period : Span} {e : Estimate} {limit : Option UInt32} :
    framePeriod base e limit = .ok period ↔
      0 < base.toNat ∧ period = base.times (periodsTaken base.toNat e limit) := by
  unfold framePeriod Span.unitsCovering
  by_cases h : base = Span.zero
  · subst h
    simp [bind, Except.bind]
  · have pos : 0 < base.toNat := Nat.pos_of_ne_zero (mt Span.eq_zero_iff.mpr h)
    simp only [if_neg h, bind, Except.bind, pure, Except.pure, Except.ok.injEq]
    exact ⟨fun eq => ⟨pos, eq.symm⟩, fun eq => eq.2.symm⟩

/-- The two loops for the period, in closed form. -/
theorem grown_periodsTaken {base : Nat} (pos : 0 < base) (e : Estimate) (limit : Option UInt32) :
    ∃ p q, Advance base (· < e.cpu.toNat) base p ∧ Advance base (· < e.draw.toNat) p q ∧
      base * periodsTaken base e limit = capped limit base q := by
  have first : Advance base (· < e.cpu.toNat) base (base * max 1 (unitsFor e.cpu.toNat base)) := by
    simpa only [Nat.mul_one] using Advance.cover 1 pos
  refine ⟨_, _, first, Advance.cover _ pos, ?_⟩
  have order : max (max 1 (unitsFor e.cpu.toNat base)) (unitsFor e.draw.toNat base) =
      periodsNeeded base e := by unfold periodsNeeded; omega
  rw [order]
  cases limit with
  | none => rfl
  | some k =>
    show base * min (periodsNeeded base e) k.toNat =
      min (base * periodsNeeded base e) (k.toNat * base)
    rw [Nat.mul_comm k.toNat, Nat.mul_min_mul_left]

/-- The grid point that the closed form gives. -/
theorem firstOnGridAfter_ok {origin floor t : Instant} {period : Span}
    (h : firstOnGridAfter origin period floor = .ok t) :
    (floor < origin ∧ t = origin) ∨
      (origin.toNat ≤ floor.toNat ∧ 0 < period.toNat ∧ t.toNat = min (origin.toNat +
        period.toNat * ((floor.toNat - origin.toNat) / period.toNat + 1)) horizon) := by
  unfold firstOnGridAfter at h
  by_cases lt : floor < origin
  · rw [if_pos lt, Except.ok.injEq] at h
    exact Or.inl ⟨lt, h.symm⟩
  rw [if_neg lt] at h
  simp only [bind_eq_ok_iff, Instant.sinceExact_eq_ok_iff, divideExact_eq_ok_iff,
    addExact_eq_ok_iff, pure, Except.pure, Except.ok.injEq] at h
  obtain ⟨gap, hgap, whole, ⟨pos, hwhole⟩, steps, hsteps, rfl⟩ := h
  have gap_eq : gap.nanos.toNat = floor.toNat - origin.toNat := Nat.eq_sub_of_add_eq' hgap
  have steps_eq : steps.toNat = (floor.toNat - origin.toNat) / period.toNat + 1 := by
    rw [hsteps, hwhole, gap_eq]
    rfl
  refine Or.inr ⟨by omega, pos, ?_⟩
  rw [Instant.toNat_after, Span.toNat_times, steps_eq]
  omega

/-! ### The plan and the loops -/

/-- Saturation of the period and of the floor does not move the clipped grid point: where either
stops at the horizon, the loop's point lies beyond it, and so does the computed one. -/
theorem firstOnGridAfter_loop {origin floor t : Instant} {period : Span} {p f : Nat}
    (hp : period.toNat = min p horizon) (hf : floor.toNat = min f horizon)
    (h : firstOnGridAfter origin period floor = .ok t) :
    ∃ display, Advance p (· ≤ f) origin.toNat display ∧ t.toNat = min display horizon := by
  have bound := origin.toNat_le
  rcases firstOnGridAfter_ok h with ⟨lt, rfl⟩ | ⟨le, pos, ht⟩
  · have := Instant.lt_iff.mp lt
    exact ⟨t.toNat, .done (by omega), (Nat.min_eq_left bound).symm⟩
  have loop := Advance.past (show 0 < p by omega) (show origin.toNat ≤ f by omega)
  refine ⟨_, loop, ht.trans ?_⟩
  by_cases within : p ≤ horizon ∧ f ≤ horizon
  · rw [hp, hf, Nat.min_eq_left within.1, Nat.min_eq_left within.2]
  -- both points lie at or beyond the horizon
  have computed := (Advance.past pos le).not_test
  have looped := loop.not_test
  have step : ∀ d k : Nat, d ≤ d * (k + 1) := fun d k => Nat.le_mul_of_pos_right d (Nat.succ_pos k)
  have step₁ := step period.toNat ((floor.toNat - origin.toNat) / period.toNat)
  have step₂ := step p ((f - origin.toNat) / p)
  omega

theorem displayShare_toNat (e : Estimate) (s : DisplaySample) :
    (displayShare e s).toNat = min (e.margin.toNat + s.extra.toNat) horizon :=
  Span.toNat_plus _ _

theorem frameTime_toNat (e : Estimate) (s : DisplaySample) :
    (frameTime e s).toNat = min (frameNeed e s) horizon := by
  unfold frameTime Estimate.work frameNeed
  rw [Span.toNat_plus, Span.toNat_plus, displayShare_toNat]
  omega

/-- What a plan's display time has to pass is clipped in the end only. -/
theorem planFloor_toNat (e : Estimate) (s : DisplaySample) (last now : Instant) :
    (last.latest (now.after (frameTime e s))).toNat =
      min (max last.toNat (now.toNat + frameNeed e s)) horizon := by
  have := last.toNat_le
  rw [Instant.toNat_latest, Instant.toNat_after, frameTime_toNat]
  omega

theorem planFrame_eq_ok_iff {c : Config} {e : Estimate} {s : DisplaySample} {last now : Instant}
    {b : Booking} :
    planFrame c e s last now = .ok b ↔ ∃ period display,
      framePeriod (displayPeriod c s) e c.maxMultiple = .ok period ∧
      firstOnGridAfter s.displayTime period (last.latest (now.after (frameTime e s))) =
        .ok display ∧
      b = { displayTime := display, period, deliveryTime := display.before (displayShare e s),
            wakeUpTime := display.before (frameTime e s) } := by
  unfold planFrame
  simp only [bind_eq_ok_iff, pure, Except.pure, Except.ok.injEq]
  constructor
  · rintro ⟨period, hperiod, display, hdisplay, rfl⟩
    exact ⟨period, display, hperiod, hdisplay, rfl⟩
  · rintro ⟨period, display, hperiod, hdisplay, rfl⟩
    exact ⟨period, hperiod, display, hdisplay, rfl⟩

/-- **Plans**: a plan is what the loops give, cut off at the horizon, with the times of delivery and
wake-up counted back from the display time. -/
theorem planFrame_loops {c : Config} {e : Estimate} {s : DisplaySample} {last now : Instant}
    {b : Booking} (h : planFrame c e s last now = .ok b) :
    ∃ period display, LoopPlan c e s last now period display ∧
      b.period.toNat = min period horizon ∧ b.displayTime.toNat = min display horizon ∧
      b.deliveryTime.toNat = min display horizon - (e.margin.toNat + s.extra.toNat) ∧
      b.wakeUpTime.toNat = min display horizon - frameNeed e s := by
  obtain ⟨period, display, hperiod, hdisplay, rfl⟩ := planFrame_eq_ok_iff.mp h
  obtain ⟨pos, hperiod⟩ := framePeriod_eq_ok_iff.mp hperiod
  rw [displayPeriod_toNat] at pos hperiod
  obtain ⟨p, q, grow₁, grow₂, closed⟩ := grown_periodsTaken pos e c.maxMultiple
  have period_eq : period.toNat = min (capped c.maxMultiple (basePeriod c s) q) horizon := by
    rw [hperiod, Span.toNat_times, displayPeriod_toNat, closed]
  obtain ⟨d, loop, clipped⟩ :=
    firstOnGridAfter_loop period_eq (planFloor_toNat e s last now) hdisplay
  have tests : (· ≤ max last.toNat (now.toNat + frameNeed e s)) =
      fun t => t ≤ last.toNat ∨ t ≤ now.toNat + frameNeed e s := by
    funext t
    rw [eq_iff_iff]
    omega
  refine ⟨_, d, ⟨⟨p, q, grow₁, grow₂, rfl⟩, tests ▸ loop⟩, period_eq, clipped, ?_, ?_⟩
  · rw [Instant.toNat_before, displayShare_toNat, clipped]
    omega
  · rw [Instant.toNat_before, frameTime_toNat, clipped]
    omega

/-- Below the horizon the times of a plan are counted back in full: no time of the frame is clipped
at the clock's zero. -/
theorem planFrame_counts_back {c : Config} {e : Estimate} {s : DisplaySample} {last now : Instant}
    {b : Booking} (h : planFrame c e s last now = .ok b) (below : b.displayTime.toNat < horizon) :
    b.deliveryTime.toNat + (e.margin.toNat + s.extra.toNat) = b.displayTime.toNat ∧
      b.wakeUpTime.toNat + (e.cpu.toNat + e.draw.toNat) = b.deliveryTime.toNat := by
  obtain ⟨period, display, loops, -, hdisplay, hdelivery, hwakeUp⟩ := planFrame_loops h
  have past := loops.reached.not_test
  unfold frameNeed at past hwakeUp
  omega

/-- Below the horizon, a frame delivered by its delivery time leaves the display the time it
needs. -/
theorem planFrame_leaves_extra {c : Config} {e : Estimate} {s : DisplaySample} {last now : Instant}
    {b : Booking} (h : planFrame c e s last now = .ok b) (below : b.displayTime.toNat < horizon) :
    b.deliveryTime.toNat + s.extra.toNat ≤ b.displayTime.toNat := by
  have back := (planFrame_counts_back h below).1
  omega

namespace Scheduler

variable {n : Nat}

/-- A plan below the horizon is later than the last display time handed out, and wakes the
application up in the future. -/
theorem plan_later {s : Scheduler n} {now : Instant} {b : Booking} (h : s.plan now = .ok b) :
    b.displayTime.toNat = horizon ∨ (s.lastDisplay < b.displayTime ∧ now < b.wakeUpTime) := by
  obtain ⟨period, display, loops, -, hdisplay, -, hwakeUp⟩ := planFrame_loops h
  have past := loops.reached.not_test
  rw [Instant.lt_iff, Instant.lt_iff, hdisplay, hwakeUp]
  omega

/-- The delivery time of a plan leaves room for the display and the margin. -/
theorem plan_deliveryTime {s : Scheduler n} {now : Instant} {b : Booking}
    (h : s.plan now = .ok b) :
    b.deliveryTime = b.displayTime.before (displayShare s.latency s.sample) := by
  obtain ⟨period, display, -, -, rfl⟩ := planFrame_eq_ok_iff.mp h
  rfl

/-- **Predictions**: whatever a prediction returns and stores is what the loops give in unbounded
numbers, cut off at the horizon, and the loops give one answer only. -/
theorem predict_agrees_with_loops (s : Scheduler n) (now : Instant) (p : Prediction)
    (returned : (s.predict now).result = .ok p) :
    ∃ period display slot,
      LoopPlan s.config s.latency s.sample s.lastDisplay now period display ∧
      (∀ period' display',
        LoopPlan s.config s.latency s.sample s.lastDisplay now period' display' →
          period' = period ∧ display' = display) ∧
      p.period.toNat = min period horizon ∧
      p.displayTime.toNat = min display horizon ∧
      p.wakeUpTime.toNat = min display horizon - frameNeed s.latency s.sample ∧
      (s.predict now).next.frame? p.id = some slot ∧
      slot.displayTime = p.displayTime ∧ slot.period = p.period ∧
      slot.deliveryTime.toNat =
        min display horizon - (s.latency.margin.toNat + s.sample.extra.toNat) ∧
      slot.times.predicted = now ∧
      (s.predict now).next.lastDisplay = p.displayTime := by
  have effect := predict_effect s now
  rw [returned] at effect
  generalize (s.predict now).next = next at effect
  cases effect with
  | @predicted id b _ plan _ =>
    obtain ⟨period, display, loops, hperiod, hdisplay, hdelivery, hwakeUp⟩ := planFrame_loops plan
    exact ⟨period, display, b.slot id now, loops, fun _ _ => loops.unique, hperiod, hdisplay,
      hwakeUp, Ring.find?_put_self s.ring rfl, rfl, rfl, hdelivery, rfl, rfl⟩

/-- A first prediction so late that the loops leave the horizon behind. -/
theorem predict_agrees_with_loops_at_horizon :
    ((initial .conservative Nat.two_pos : Scheduler 2).predict ⟨18446744073709551000⟩).result =
        .ok ⟨⟨1⟩, ⟨18446744073703551615⟩, ⟨18446744073709551615⟩, ⟨16000000⟩⟩ ∧
      ∃ period display,
        LoopPlan .conservative (Config.firstEstimate .conservative) {} .zero ⟨18446744073709551000⟩
          period display ∧
        min period horizon = 16000000 ∧ min display horizon = horizon := by
  have returned : ((initial .conservative Nat.two_pos : Scheduler 2).predict
      ⟨18446744073709551000⟩).result =
    .ok ⟨⟨1⟩, ⟨18446744073703551615⟩, ⟨18446744073709551615⟩, ⟨16000000⟩⟩ := rfl
  obtain ⟨period, display, _, loops, _, hperiod, hdisplay, _⟩ :=
    predict_agrees_with_loops _ _ _ returned
  exact ⟨returned, period, display, loops, hperiod.symm, hdisplay.symm⟩

end Scheduler

end FramePacing

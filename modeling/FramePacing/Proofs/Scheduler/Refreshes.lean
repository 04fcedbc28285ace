import FramePacing.Proofs.Scheduler.DisplayOrder
import FramePacing.Proofs.Scheduler.Learning
import Mathlib.Data.Nat.ModEq

/-!
# One frame for a refresh

A display refreshes once in a display period. Each frame takes a whole number of display periods,
counted from whatever display time was reported last, so the display times of a run lie on one grid
as long as the reports do (`planFrame_on_grid`, `planFrame_apart`); and they grow. No two frames are
then aimed at the same refresh, however far apart in the run they were predicted and however the
estimates moved in between (`predictions_aim_at_different_refreshes`).

Between deliveries the estimates stand still. Frames predicted there from one report have one
period, and are at least that far apart (`planFrame_spaced`).
-/

namespace FramePacing

variable {n : Nat}

/-- A plan below the horizon lies on the display's grid, a whole number of its periods after the
reported display time. -/
theorem planFrame_on_grid {c : Config} {e : Estimate} {s : DisplaySample} {last now : Instant}
    {b : Booking} (plan : planFrame c e s last now = .ok b)
    (below : b.displayTime.toNat < horizon) :
    ∃ period k, LoopPlan c e s last now period b.displayTime.toNat ∧
      b.period.toNat = min period horizon ∧
      b.displayTime.toNat = s.displayTime.toNat + period * k ∧
      b.displayTime.toNat ≡ s.displayTime.toNat [MOD basePeriod c s] := by
  obtain ⟨period, display, loops, hperiod, hdisplay, -, -⟩ := planFrame_loops plan
  obtain rfl : b.displayTime.toNat = display := by omega
  obtain ⟨m, k, whole, steps⟩ := loops.on_grid
  refine ⟨period, k, loops, hperiod, steps, ?_⟩
  rw [steps, whole, Nat.mul_assoc]
  exact Nat.add_modulus_mul_modEq_iff.mpr rfl

section TwoPlans

variable {c : Config} {e e' : Estimate} {s s' : DisplaySample} {last now last' now' : Instant}
  {b b' : Booking}

/-- Two plans from reports on the same grid are whole display periods apart. -/
theorem planFrame_apart (plan : planFrame c e s last now = .ok b)
    (plan' : planFrame c e' s' last' now' = .ok b') (base : basePeriod c s' = basePeriod c s)
    (aligned : s'.displayTime.toNat ≡ s.displayTime.toNat [MOD basePeriod c s])
    (later : b.displayTime.toNat < b'.displayTime.toNat)
    (below : b'.displayTime.toNat < horizon) :
    ∃ k, 0 < k ∧ b'.displayTime.toNat = b.displayTime.toNat + k * basePeriod c s := by
  obtain ⟨-, -, -, -, -, grid⟩ := planFrame_on_grid plan (Nat.lt_trans later below)
  obtain ⟨-, -, -, -, -, grid'⟩ := planFrame_on_grid plan' below
  rw [base] at grid'
  have same : b.displayTime.toNat ≡ b'.displayTime.toNat [MOD basePeriod c s] :=
    grid.trans (aligned.symm.trans grid'.symm)
  obtain ⟨k, apart⟩ := (Nat.modEq_iff_dvd' (Nat.le_of_lt later)).mp same
  rw [Nat.mul_comm] at apart
  refine ⟨k, Nat.pos_of_ne_zero ?_, by omega⟩
  rintro rfl
  omega

/-- Two plans from the same report and the same estimates have one period, and are at least that
far apart. -/
theorem planFrame_spaced (plan : planFrame c e s last now = .ok b)
    (plan' : planFrame c e s last' now' = .ok b')
    (later : b.displayTime.toNat < b'.displayTime.toNat)
    (below : b'.displayTime.toNat < horizon) :
    b'.period = b.period ∧
      b.displayTime.toNat + b.period.toNat ≤ b'.displayTime.toNat := by
  obtain ⟨period, k, loops, clipped, steps, -⟩ :=
    planFrame_on_grid plan (Nat.lt_trans later below)
  obtain ⟨period', k', loops', clipped', steps', -⟩ := planFrame_on_grid plan' below
  obtain rfl := loops.period_eq loops'
  refine ⟨Span.toNat_inj.mp (clipped'.trans clipped.symm), ?_⟩
  -- on one grid the later frame is at least one step further
  have fewer : k < k' := Nat.lt_of_mul_lt_mul_left (a := period') (by omega)
  have step := Nat.mul_le_mul_left period' fewer
  rw [Nat.mul_succ] at step
  omega

end TwoPlans

theorem Entry.prediction?_eq_some_iff {e : Entry n} {p : Prediction} :
    e.prediction? = some p ↔ e.result = .ok (.predicted p) := by
  unfold Entry.prediction?
  split
  · rename_i q result
    rw [result]
    simp
  · rename_i other
    exact ⟨fun h => (by cases h), fun h => absurd h (other p)⟩

namespace Scheduler

/-- A prediction that was returned had a plan. -/
theorem exists_plan_of_prediction {e : Entry n}
    (made : e.result = (e.before.call e.now e.call).result) {p : Prediction}
    (returned : e.prediction? = some p) :
    ∃ id b, e.before.plan e.now = .ok b ∧ p = b.prediction id ∧
      (e.before.call e.now e.call).next.latency = e.before.latency := by
  obtain ⟨s, now, call, r⟩ := e
  obtain rfl : r = .ok (.predicted p) := Entry.prediction?_eq_some_iff.mp returned
  have effect := call_effect s now call
  dsimp only at made ⊢
  rw [← made] at effect
  generalize (s.call now call).next = next at effect
  cases effect with
  | predicted _ plan _ => exact ⟨_, _, plan, rfl, rfl⟩

/-- As long as nothing is delivered, the estimates stand still. -/
theorem latency_run_of_no_delivery {s : Scheduler n} {calls : List (Instant × Call)}
    (nothing : ∀ e ∈ s.history calls, e.delivery? = none) : (s.run calls).latency = s.latency := by
  induction calls generalizing s with
  | nil => rfl
  | cons c rest ih =>
    have first := (call_effect s c.1 c.2).latency_eq (nothing _ List.mem_cons_self)
    have others := ih fun e he => nothing e (List.mem_cons_of_mem _ he)
    exact others.trans first

/-- **Refreshes**: of two predictions of a run with the same display period, made from reports on
the same grid, the later one lies a positive number of display periods after the earlier one, as
long as it lies below the horizon. If they were made from the same report, and nothing was
delivered in between, they have the same period and are at least that far apart. -/
theorem predictions_aim_at_different_refreshes {c : Config} {s₀ : Scheduler n}
    (created : create n c = .ok s₀) (calls : List (Instant × Call))
    {before between after : List (Entry n)} {e e' : Entry n}
    (split : s₀.history calls = before ++ e :: (between ++ e' :: after)) {p p' : Prediction}
    (first : e.prediction? = some p) (second : e'.prediction? = some p')
    (base : basePeriod c e'.before.sample = basePeriod c e.before.sample)
    (aligned : e'.before.sample.displayTime.toNat ≡ e.before.sample.displayTime.toNat
      [MOD basePeriod c e.before.sample])
    (below : p'.displayTime.toNat < horizon) :
    (∃ k, 0 < k ∧
      p'.displayTime.toNat = p.displayTime.toNat + k * basePeriod c e.before.sample) ∧
    (e'.before.sample = e.before.sample → (∀ x ∈ between, x.delivery? = none) →
      p'.period = p.period ∧ p.displayTime.toNat + p.period.toNat ≤ p'.displayTime.toNat) := by
  have cut : s₀.history calls = (before ++ e :: between) ++ e' :: after := by simpa using split
  obtain ⟨calls', -, -, earlier, there, made', -⟩ := exists_of_history_eq_append_cons cut
  obtain ⟨calls₁, calls₂, rfl, -, here, made, middle⟩ := exists_of_history_eq_append_cons earlier
  obtain ⟨id, b, plan, rfl, taught⟩ := exists_plan_of_prediction made first
  obtain ⟨id', b', plan', rfl, -⟩ := exists_plan_of_prediction made' second
  have later : b.displayTime.toNat < b'.displayTime.toNat := by
    have mem : b.prediction id ∈ predictions (before ++ e :: between) :=
      List.mem_filterMap.mpr ⟨e, by simp, first⟩
    have le := (ordered_run created _).returned_le _ (earlier ▸ mem)
    rw [← there, Instant.le_iff] at le
    rcases plan_later plan' with top | ⟨lt, -⟩
    · exact absurd top (Nat.ne_of_lt below)
    · exact Nat.lt_of_le_of_lt le (Instant.lt_iff.mp lt)
  have config := (config_run created calls₁).1
  have config' := (config_run created (calls₁ ++ (e.now, e.call) :: calls₂)).1
  rw [← here] at config
  rw [← there] at config'
  rw [Scheduler.plan, config] at plan
  rw [Scheduler.plan, config'] at plan'
  refine ⟨planFrame_apart plan plan' base aligned later below, fun same still => ?_⟩
  have estimates : e'.before.latency = e.before.latency := by
    rw [there, run_append, ← taught]
    rw [← middle] at still
    rw [← here]
    exact latency_run_of_no_delivery still
  rw [same, estimates] at plan'
  exact planFrame_spaced plan plan' later below

/-- Between the first and the last prediction of the uneven run one more is returned, one is refused
and a frame is dropped. -/
theorem predictions_aim_at_different_refreshes_uneven :
    ∃ p q p' : Prediction, predictions unevenHistory = [p, q, p'] ∧
      (∃ k, 0 < k ∧ p'.displayTime.toNat = p.displayTime.toNat + k * 11111111) ∧
      p'.period = p.period ∧ p.displayTime.toNat + p.period.toNat ≤ p'.displayTime.toNat := by
  have split : unevenHistory = [_] ++ _ :: ([_, _, _, _] ++ _ :: [_, _, _, _]) := rfl
  obtain ⟨apart, spaced⟩ := predictions_aim_at_different_refreshes
    (create_conservative Nat.two_pos) unevenRun split rfl rfl rfl rfl (by decide)
  have still := spaced rfl (by simp [Entry.delivery?])
  exact ⟨_, _, _, rfl, apart, still⟩

end Scheduler

end FramePacing

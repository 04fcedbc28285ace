import FramePacing.Proofs.Scheduler.Readings
import FramePacing.Proofs.Scheduler.SharedPlans
import Mathlib.Data.List.Forall2

/-!
# What callers say about the time

Of two runs that make the same calls while the clock gives the same readings, and differ in the
times that are claimed only:

* claims that do not come with a wake-up are not read at all, and all steps are the same;
* claims that come with a wake-up reach the frame's record, its CPU sample, the CPU estimate and the
  predictions that are made from it, and nothing else (`claims_stop_at_wake_up`).

The second part has two sides. What the two schedulers measure themselves is always the same. What
they plan, and with it how early a frame is delivered, is the same for each frame up to whose
prediction the CPU estimates agreed (`plannedUpTo`). If the CPU estimates agreed at all predictions,
only the claims themselves and what was learned from them are left to differ.

Nothing is said of the log.
-/

namespace FramePacing

variable {n : Nat}

/-! ### What frames are planned with -/

/-- The frame that a step predicts, and the CPU estimate that it is planned with. -/
def Step.planned? (step : Step n Reply) : Option (FrameId × Span) :=
  match step.result with
  | .ok (.predicted p) => some (p.id, step.next.latency.cpu)
  | _ => none

/-- The frames that are predicted, in order, each with the CPU estimate that it is planned with. -/
def planned (steps : List (Step n Reply)) : List (FrameId × Span) :=
  steps.filterMap Step.planned?

/-- Those up to frame `k`. -/
def plannedUpTo (k : Int) (steps : List (Step n Reply)) : List (FrameId × Span) :=
  (planned steps).filter (·.1.toInt ≤ k)

theorem plannedUpTo_eq {steps steps' : List (Step n Reply)}
    (agree : planned steps = planned steps') (k : Int) :
    plannedUpTo k steps = plannedUpTo k steps' := by
  rw [plannedUpTo, plannedUpTo, agree]

theorem plannedUpTo_eq_nil {k : Int} (before : ∀ id : FrameId, k < id.toInt)
    (steps : List (Step n Reply)) : plannedUpTo k steps = [] :=
  List.filter_eq_nil_iff.mpr fun p _ => by simpa using before p.1

/-- Two steps with results that are measured alike predict the same frame or none. -/
theorem plannedUpTo_cons_eq {k : Int} {step step' : Step n Reply}
    {steps steps' : List (Step n Reply)} {r r' : Reply} (result : step.result = .ok r)
    (result' : step'.result = .ok r') (same : r.measured = r'.measured)
    (agree : plannedUpTo k (step :: steps) = plannedUpTo k (step' :: steps')) :
    (∀ p, r = .predicted p → p.id.toInt ≤ k → step.next.latency.cpu = step'.next.latency.cpu) ∧
      plannedUpTo k steps = plannedUpTo k steps' := by
  cases r with
  | predicted p => cases r' with
    | predicted p' =>
      have ids : p.id = p'.id := by simpa [Reply.measured] using same
      by_cases upTo : p'.id.toInt ≤ k
      · have agree : step.next.latency.cpu = step'.next.latency.cpu ∧
            plannedUpTo k steps = plannedUpTo k steps' := by
          simpa [plannedUpTo, planned, Step.planned?, result, result', ids, upTo] using agree
        exact ⟨fun _ _ _ => agree.1, agree.2⟩
      · refine ⟨?_, by
          simpa [plannedUpTo, planned, Step.planned?, result, result', ids, upTo] using agree⟩
        rintro _ ⟨⟩ upTo'
        exact absurd (ids ▸ upTo') upTo
    | _ => cases same
  | _ => cases r' with
    | predicted _ => cases same
    | _ =>
      exact ⟨nofun, by
        simpa [plannedUpTo, planned, Step.planned?, result, result'] using agree⟩

/-! ### Two runs -/

namespace Scheduler

variable {s s' : Scheduler n} {k : Int}

/-- Two calls that return, and differ in their claims at most. -/
theorem AlikeUpTo.call (alike : s.AlikeUpTo k s') {c c' : Call}
    (calls : c.withoutClaim = c'.withoutClaim) {now : Instant} (returns : (s.call now c).Returns)
    (returns' : (s'.call now c').Returns) {steps steps' : List (Step n Reply)}
    (agree : plannedUpTo k (s.call now c :: steps) = plannedUpTo k (s'.call now c' :: steps')) :
    (s.call now c).AlikeUpTo k (s'.call now c') ∧ plannedUpTo k steps = plannedUpTo k steps' := by
  obtain ⟨r, result⟩ := returns
  obtain ⟨r', result'⟩ := returns'
  have effect := call_effect s now c
  have effect' := call_effect s' now c'
  rw [result] at effect
  rw [result'] at effect'
  have measured := (effect.measured_eq effect' alike.measured calls).2
  obtain ⟨cpu, agree⟩ := plannedUpTo_cons_eq result result' measured agree
  obtain ⟨next, reply⟩ := alike.effect effect effect' calls cpu
  exact ⟨⟨next, r, r', result, result', reply⟩, agree⟩

/-- Two runs in which no call is refused, and which differ in their claims at most, stay alike up to
the frame up to which they plan with the same CPU estimates. -/
theorem AlikeUpTo.stepsReading {calls calls' : List Call} (alike : s.AlikeUpTo k s')
    (differ : calls.map Call.withoutClaim = calls'.map Call.withoutClaim)
    (readings : Nat → Instant)
    (returns : ∀ step ∈ s.stepsReading readings calls, step.Returns)
    (returns' : ∀ step ∈ s'.stepsReading readings calls', step.Returns)
    (agree : plannedUpTo k (s.stepsReading readings calls) =
      plannedUpTo k (s'.stepsReading readings calls')) :
    List.Forall₂ (Step.AlikeUpTo k) (s.stepsReading readings calls)
      (s'.stepsReading readings calls') := by
  induction calls generalizing s s' calls' readings with
  | nil =>
    obtain rfl := List.map_eq_nil_iff.mp differ.symm
    exact .nil
  | cons c rest ih =>
    cases calls' with
    | nil => cases differ
    | cons c' rest' =>
      obtain ⟨call, differ⟩ := List.cons.inj differ
      obtain ⟨returned, returns⟩ := List.forall_mem_cons.mp returns
      obtain ⟨returned', returns'⟩ := List.forall_mem_cons.mp returns'
      obtain ⟨step, agree⟩ := alike.call call returned returned' agree
      -- both runs have read the clock, or neither has
      have reads : s.readsClock c = s'.readsClock c' := by
        rw [← readsClock_measured s c, ← readsClock_measured s' c', alike.measured, call]
      have left : s'.readingsAfter c' readings = s.readingsAfter c readings := by
        simp [readingsAfter, reads]
      rw [left] at returns' agree
      refine .cons step ?_
      rw [left]
      exact ih step.1 differ _ returns returns' agree

end Scheduler

/-! ### Claims that are not read -/

/-- The call without a claim that does not come with a wake-up. -/
def Call.withoutVainClaim : Call → Call
  | .mark id .begin _ => .mark id .begin .zero
  | .mark id .submit _ => .mark id .submit .zero
  | c => c

namespace Scheduler

theorem call_withoutVainClaim (s : Scheduler n) (now : Instant) (c : Call) :
    s.call now c.withoutVainClaim = s.call now c := by
  cases c with
  | mark id milestone reported => cases milestone <;> rfl
  | _ => rfl

theorem readsClock_withoutVainClaim (s : Scheduler n) (c : Call) :
    s.readsClock c.withoutVainClaim = s.readsClock c := by
  cases c with
  | mark id milestone reported => cases milestone <;> rfl
  | _ => rfl

theorem stepsReading_withoutVainClaim (s : Scheduler n) (readings : Nat → Instant)
    (calls : List Call) :
    s.stepsReading readings (calls.map Call.withoutVainClaim) = s.stepsReading readings calls := by
  induction calls generalizing s readings with
  | nil => rfl
  | cons c rest ih =>
    simp [stepsReading, readingsAfter, call_withoutVainClaim, readsClock_withoutVainClaim, ih]

/-- The error of a delivery is the time from the measured delivery to the planned one. -/
theorem error_of_call {s : Scheduler n} {now : Instant} {c : Call} {d : Delivered}
    (result : (s.call now c).result = .ok (.delivered d)) :
    d.error = d.deliveryTime.signedSince d.times.delivered := by
  have effect := call_effect s now c
  rw [result] at effect
  generalize (s.call now c).next = next at effect
  cases effect with
  | delivered _ _ => rfl

theorem map_eq_of_forall₂ {α β : Type} {R : α → α → Prop} {f : α → β} {l l' : List α}
    (related : List.Forall₂ R l l') (same : ∀ a b, R a b → f a = f b) : l.map f = l'.map f := by
  rw [← List.forall₂_eq_eq_eq, List.forall₂_map_left_iff, List.forall₂_map_right_iff]
  exact related.imp same

/-- **Reported times**: let two runs from one scheduler make the same calls with the same readings
of the clock, but for the times that are claimed with milestones. If only claims without a wake-up
differ, all steps are the same, results and refusals included. If claims with a wake-up differ too,
and no call is refused in either run, then:

* at every step the results and the schedulers are the same as far as they are measured;
* if each frame is planned with the same CPU estimate in both runs, at every step the results and
  the schedulers are the same but for what is claimed: the wake-up times, the CPU samples and the
  CPU estimates;
* for each frame, if all frames up to it are planned with the same CPU estimates, every step shows
  the same of it but for what is claimed: its prediction, its record and the report at its end,
  whatever other frames are planned like.

In every run the error of a delivery is the time from the measured delivery to the planned one. -/
theorem claims_stop_at_wake_up (s : Scheduler n) (readings : Nat → Instant)
    (calls calls' : List Call) :
    let steps := s.stepsReading readings calls
    let steps' := s.stepsReading readings calls'
    (calls.map Call.withoutVainClaim = calls'.map Call.withoutVainClaim → steps = steps') ∧
    (calls.map Call.withoutClaim = calls'.map Call.withoutClaim →
      (∀ step ∈ steps, step.Returns) → (∀ step ∈ steps', step.Returns) →
      steps.map Step.measured = steps'.map Step.measured ∧
      (planned steps = planned steps' →
        steps.map Step.unclaimed = steps'.map Step.unclaimed) ∧
      ∀ id : FrameId, plannedUpTo id.toInt steps = plannedUpTo id.toInt steps' →
        steps.map (Step.unclaimedOf id) = steps'.map (Step.unclaimedOf id)) ∧
    ∀ step ∈ steps, ∀ d, step.result = .ok (.delivered d) →
      d.error = d.deliveryTime.signedSince d.times.delivered := by
  intro steps steps'
  refine ⟨fun differ => ?_, fun differ returns returns' => ?_, fun step made d result => ?_⟩
  · show s.stepsReading readings calls = s.stepsReading readings calls'
    rw [← stepsReading_withoutVainClaim s readings calls, differ, stepsReading_withoutVainClaim]
  · have alike (k : Int) (agree : plannedUpTo k steps = plannedUpTo k steps') :
        List.Forall₂ (Step.AlikeUpTo k) steps steps' :=
      (AlikeUpTo.refl k s).stepsReading differ readings returns returns' agree
    refine ⟨?_, fun agree => ?_, fun id agree => ?_⟩
    · -- up to an id that is less than all others no frame is planned
      have before (id : FrameId) : -2 ^ 63 - 1 < id.toInt :=
        Int.lt_of_lt_of_le (by decide) id.value.le_toInt
      have none (steps : List (Step n Reply)) := plannedUpTo_eq_nil before steps
      exact map_eq_of_forall₂ (alike _ ((none steps).trans (none steps').symm))
        fun _ _ => Step.AlikeUpTo.measured_eq
    · have all (id : FrameId) : id.toInt ≤ 2 ^ 63 := Int.le_of_lt id.value.toInt_lt
      exact map_eq_of_forall₂ (alike _ (plannedUpTo_eq agree _))
        fun _ _ alike => alike.unclaimed_eq all
    · exact map_eq_of_forall₂ (alike id.toInt agree) fun _ _ => Step.AlikeUpTo.unclaimedOf_eq
  · obtain ⟨t, now, c, rfl⟩ := exists_of_mem_stepsReading made
    exact error_of_call result

/-- A frame that is delivered, with the times that the caller claims for its two milestones. -/
def claimingCalls (woke begun : Instant) : List Call :=
  [.ingest .owner ⟨⟨100000000⟩, ⟨11111111⟩, ⟨1000000⟩⟩, .predict, .mark ⟨1⟩ .wakeUp woke,
    .mark ⟨1⟩ .begin begun, .deliver ⟨1⟩]

/-- Its steps, while the clock moves by a millisecond with each reading. -/
def claimingSteps (woke begun : Instant) : List (Step 2 Reply) :=
  (initial .conservative Nat.two_pos).stepsReading (fun k => ⟨.ofNat (50000000 + 1000000 * k)⟩)
    (claimingCalls woke begun)

theorem claims_stop_at_wake_up_one_frame :
    claimingSteps ⟨50500000⟩ ⟨0⟩ = claimingSteps ⟨50500000⟩ ⟨60000000⟩ ∧
      claimingSteps ⟨50500000⟩ ⟨0⟩ ≠ claimingSteps ⟨50900000⟩ ⟨0⟩ ∧
      (claimingSteps ⟨50500000⟩ ⟨0⟩).map Step.measured =
        (claimingSteps ⟨50900000⟩ ⟨0⟩).map Step.measured ∧
      (claimingSteps ⟨50500000⟩ ⟨0⟩).map Step.unclaimed =
        (claimingSteps ⟨50900000⟩ ⟨0⟩).map Step.unclaimed ∧
      (claimingSteps ⟨50500000⟩ ⟨0⟩).map (Step.unclaimedOf ⟨1⟩) =
        (claimingSteps ⟨50900000⟩ ⟨0⟩).map (Step.unclaimedOf ⟨1⟩) := by
  have returns (woke : Instant) : ∀ step ∈ claimingSteps woke ⟨0⟩, step.Returns := by
    simp only [claimingSteps, claimingCalls, stepsReading, List.forall_mem_cons]
    exact ⟨⟨_, rfl⟩, ⟨_, rfl⟩, ⟨_, rfl⟩, ⟨_, rfl⟩, ⟨_, rfl⟩, List.forall_mem_nil _⟩
  have agree : planned (claimingSteps ⟨50500000⟩ ⟨0⟩) =
      planned (claimingSteps ⟨50900000⟩ ⟨0⟩) := by decide +kernel
  have runs (calls calls' : List Call) := claims_stop_at_wake_up
    (initial .conservative Nat.two_pos) (fun k => ⟨.ofNat (50000000 + 1000000 * k)⟩) calls calls'
  obtain ⟨measured, unclaimed, frames⟩ :=
    (runs (claimingCalls ⟨50500000⟩ ⟨0⟩) (claimingCalls ⟨50900000⟩ ⟨0⟩)).2.1 rfl
      (returns ⟨50500000⟩) (returns ⟨50900000⟩)
  refine ⟨(runs (claimingCalls ⟨50500000⟩ ⟨0⟩) (claimingCalls ⟨50500000⟩ ⟨60000000⟩)).1 rfl,
    fun same => ?_, measured, unclaimed agree, frames ⟨1⟩ (plannedUpTo_eq agree _)⟩
  have claimed := congrArg (fun steps : List (Step 2 Reply) =>
    steps.map fun step => (step.next.ring.slot ⟨1⟩).times.woke) same
  revert claimed
  decide +kernel

end Scheduler

end FramePacing

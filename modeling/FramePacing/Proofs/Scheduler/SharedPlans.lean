import FramePacing.Proofs.Scheduler.Measured

/-!
# Plans that two schedulers share

A plan is made from the CPU estimate, the latest display time and what is measured
(`plan_eq_of_measured`), and no call but a prediction touches it (`Effect.keepsPlans`). So two
schedulers that have measured the same also share the plan of each frame up to whose prediction
their CPU estimates agreed, and with the plan the error of its delivery.

`AlikeUpTo k` says so of all frames up to `k`, and calls that return keep it, whatever is claimed
with them (`AlikeUpTo.effect`). What is left to differ is erased by `Scheduler.unclaimed` for the
whole of a scheduler, and by `Step.unclaimedOf` for a single frame.
-/

namespace FramePacing

/-! ### What is not claimed -/

/-- The plan in the record of a frame. -/
def Slot.plan (s : Slot) : Instant × Span × Instant := (s.displayTime, s.period, s.deliveryTime)

/-- The record of a frame without the claimed time. -/
def Slot.unclaimed (s : Slot) : Slot := { s with times := s.times.measured }

/-- A scheduler with such records, without the CPU estimate. -/
def Scheduler.unclaimed {n : Nat} (s : Scheduler n) : Scheduler n :=
  { s with
    ring := { s.ring with slots := s.ring.slots.map Slot.unclaimed }
    latency := s.latency.measured }

/-- A report on a delivered frame without the claimed time, the CPU sample and the CPU estimates. -/
def Delivered.unclaimed (d : Delivered) : Delivered :=
  { d with
    times := d.times.measured
    cpuSample := .zero
    previous := d.previous.measured
    updated := d.updated.measured }

/-- Such a result. -/
def Reply.unclaimed : Reply → Reply
  | .delivered d => .delivered d.unclaimed
  | .discarded d => .discarded d.measured
  | r => r

/-- The frame that a result is about. -/
def Reply.frame? : Reply → Option FrameId
  | .predicted p => some p.id
  | .discarded d => some d.id
  | .delivered d => some d.id
  | .marked | .ingested => none

namespace Step

variable {n : Nat}

/-- The scheduler after a step and the result, without what is claimed. -/
def unclaimed (step : Step n Reply) : Scheduler n × Except Fault Reply :=
  (step.next.unclaimed, step.result.map Reply.unclaimed)

/-- What a step shows of a frame, without what is claimed: its record afterwards, and the result if
it is about the frame. -/
def unclaimedOf (id : FrameId) (step : Step n Reply) : Option Slot × Option Reply :=
  ((step.next.frame? id).map Slot.unclaimed,
    (step.result.toOption.filter (·.frame? = some id)).map Reply.unclaimed)

end Step

theorem Slot.unclaimed_eq_iff {s s' : Slot} :
    s.unclaimed = s'.unclaimed ↔ s.measured = s'.measured ∧ s.plan = s'.plan := by
  simp only [unclaimed, measured, plan, Slot.mk.injEq, Prod.mk.injEq]
  constructor
  · rintro ⟨holder, stage, display, period, delivery, times⟩
    exact ⟨⟨holder, stage, trivial, trivial, trivial, times⟩, display, period, delivery⟩
  · rintro ⟨⟨holder, stage, -, -, -, times⟩, display, period, delivery⟩
    exact ⟨holder, stage, display, period, delivery, times⟩

@[simp] theorem Reply.frame?_measured (r : Reply) : r.measured.frame? = r.frame? := by
  cases r <;> rfl

theorem Delivered.unclaimed_eq {d d' : Delivered} (same : d.measured = d'.measured)
    (display : d.displayTime = d'.displayTime) (period : d.period = d'.period)
    (delivery : d.deliveryTime = d'.deliveryTime) (error : d.error = d'.error) :
    d.unclaimed = d'.unclaimed := by
  simp only [measured, Delivered.mk.injEq] at same
  obtain ⟨id, times, -, -, -, -, -, draw, previous, updated⟩ := same
  simp only [unclaimed, Delivered.mk.injEq]
  exact ⟨id, times, display, period, delivery, error, trivial, draw, previous, updated⟩

namespace Scheduler

variable {n : Nat}

/-! ### Plans -/

/-- `t` has the plans of `s`, and holds no frame that `s` does not hold. -/
structure KeepsPlans (s t : Scheduler n) : Prop where
  /-- The plan in each slot is the same. -/
  plan : ∀ i, (t.ring.get i).plan = (s.ring.get i).plan
  /-- A slot is freed at most. -/
  holder : ∀ i id, (t.ring.get i).holder = some id → (s.ring.get i).holder = some id
  /-- No id was used up, -/
  counter : t.counter = s.counter
  /-- and no display time was handed out. -/
  lastDisplay : t.lastDisplay = s.lastDisplay

theorem keepsPlans_withFrame {s : Scheduler n} {id : FrameId} {old slot : Slot}
    (held : s.frame? id = some old) (plan : slot.plan = old.plan)
    (holder : ∀ a, slot.holder = some a → old.holder = some a) :
    KeepsPlans s (s.withFrame id slot) := by
  obtain ⟨rfl, -⟩ := slot_of_frame? held
  have get : ∀ i, (s.withFrame id slot).ring.get i =
      if i = s.ring.index id then slot else s.ring.get i := s.ring.get_put id slot
  refine ⟨fun i => ?_, fun i a => ?_, rfl, rfl⟩
  · rw [get]
    by_cases here : i = s.ring.index id
    · rw [if_pos here, plan, here]
      rfl
    · rw [if_neg here]
  · rw [get]
    by_cases here : i = s.ring.index id
    · rw [if_pos here, here]
      exact holder a
    · rw [if_neg here]
      exact fun h => h

/-- Only predictions write plans. -/
theorem Effect.keepsPlans {s t : Scheduler n} {now : Instant} {c : Call} {r : Reply}
    (effect : Effect s now c t (.ok r)) (other : c ≠ .predict) : KeepsPlans s t := by
  cases effect with
  | predicted _ _ _ => exact absurd rfl other
  | woke held _ => exact keepsPlans_withFrame held rfl fun _ h => h
  | began held _ => exact keepsPlans_withFrame held rfl fun _ h => h
  | discarded held _ => exact keepsPlans_withFrame held rfl fun _ h => by cases h
  | @delivered id slot held _ =>
    have kept : KeepsPlans s (s.withFrame id (slot.stamped now).freed) :=
      keepsPlans_withFrame held rfl fun _ h => by cases h
    exact ⟨kept.plan, kept.holder, rfl, rfl⟩
  | ingested => exact ⟨fun _ => rfl, fun _ _ h => h, rfl, rfl⟩

/-- The plan for the next frame is made from the CPU estimate, the latest display time and what is
measured. -/
theorem plan_eq_of_measured {s s' : Scheduler n} (same : s.measured = s'.measured)
    (cpu : s.latency.cpu = s'.latency.cpu) (display : s.lastDisplay = s'.lastDisplay)
    (now : Instant) : s.plan now = s'.plan now := by
  obtain ⟨config, -, sample, draw, margin⟩ := parts_eq_of_measured same
  have estimates : s.latency = s'.latency := by
    show (⟨s.latency.cpu, s.latency.draw, s.latency.margin⟩ : Estimate) =
      ⟨s'.latency.cpu, s'.latency.draw, s'.latency.margin⟩
    rw [cpu, draw, margin]
  rw [plan, plan, config, estimates, sample, display]

/-! ### Two schedulers -/

/-- The plan in slot `i` is that of a frame up to `k`: no later one was counted, or the slot holds
such a frame. -/
def PlanUpTo (k : Int) (s : Scheduler n) (i : Fin n) : Prop :=
  s.counter.toInt ≤ k ∨ ∃ id, (s.ring.get i).holder = some id ∧ id.toInt ≤ k

/-- Two schedulers that differ at most in what was claimed, in the CPU estimate and in the plans of
frames after `k`. -/
structure AlikeUpTo (k : Int) (s s' : Scheduler n) : Prop where
  /-- They have measured the same. -/
  measured : s.measured = s'.measured
  /-- The plan in a slot is the same, unless it is that of a later frame. -/
  plan : ∀ i, s.PlanUpTo k i → (s.ring.get i).plan = (s'.ring.get i).plan
  /-- The latest display time is the same, unless it is that of a later frame. -/
  lastDisplay : s.counter.toInt ≤ k → s.lastDisplay = s'.lastDisplay

end Scheduler

/-- Two results that differ in what was claimed and what was learned from it, unless they are about
a frame after `k`. -/
structure Reply.AlikeUpTo (k : Int) (r r' : Reply) : Prop where
  /-- They say the same, as far as it is measured. -/
  measured : r.measured = r'.measured
  /-- Of a frame that is not later they say all the same. -/
  unclaimed : (∀ id, r.frame? = some id → id.toInt ≤ k) → r.unclaimed = r'.unclaimed

/-- Two steps that return such results and lead to such schedulers. -/
def Step.AlikeUpTo {n : Nat} (k : Int) (step step' : Step n Reply) : Prop :=
  step.next.AlikeUpTo k step'.next ∧
    ∃ r r', step.result = .ok r ∧ step'.result = .ok r' ∧ r.AlikeUpTo k r'

namespace Scheduler

variable {n : Nat} {s s' t t' : Scheduler n} {k : Int}

theorem AlikeUpTo.refl (k : Int) (s : Scheduler n) : s.AlikeUpTo k s :=
  ⟨rfl, fun _ _ => rfl, fun _ => rfl⟩

/-- Two schedulers stay alike as long as no plan is made. -/
theorem AlikeUpTo.of_keepsPlans (alike : s.AlikeUpTo k s') (measured : t.measured = t'.measured)
    (kept : KeepsPlans s t) (kept' : KeepsPlans s' t') : t.AlikeUpTo k t' := by
  refine ⟨measured, fun i early => ?_, fun counted => ?_⟩
  · have before : s.PlanUpTo k i := early.imp (fun counted => kept.counter ▸ counted)
      fun ⟨id, holder, upTo⟩ => ⟨id, kept.holder i id holder, upTo⟩
    rw [kept.plan, kept'.plan, alike.plan i before]
  · rw [kept.lastDisplay, kept'.lastDisplay, alike.lastDisplay (kept.counter ▸ counted)]

/-- They also stay alike if a frame gets two plans, as long as it is a later one or the plans are
the same. -/
theorem AlikeUpTo.afterPredict (alike : s.AlikeUpTo k s') {id : FrameId}
    (next : s.counter.next? = some id) {b b' : Booking} (plans : id.toInt ≤ k → b = b')
    (now : Instant) : (s.afterPredict id b now).AlikeUpTo k (s'.afterPredict id b' now) := by
  have succ := FrameId.toInt_of_next? next
  refine ⟨by simp [alike.measured], fun i early => ?_, fun counted => ?_⟩
  · have get : ∀ (r : Scheduler n) (b : Booking), (r.afterPredict id b now).ring.get i =
        if i = r.ring.index id then b.slot id now else r.ring.get i :=
      fun r b => r.ring.get_put id (b.slot id now) i
    rw [get, get]
    by_cases here : i = s.ring.index id
    · have upTo : id.toInt ≤ k := by
        rcases early with counted | ⟨a, holder, upTo⟩
        · exact counted
        · rw [get, if_pos here] at holder
          exact Option.some.inj holder ▸ upTo
      rw [if_pos here, if_pos (show i = s'.ring.index id from here), plans upTo]
    · have before : s.PlanUpTo k i := by
        rcases early with counted | ⟨a, holder, upTo⟩
        · have counted : id.toInt ≤ k := counted
          exact .inl (by omega)
        · rw [get, if_neg here] at holder
          exact .inr ⟨a, holder, upTo⟩
      rw [if_neg here, if_neg (show ¬ i = s'.ring.index id from here), alike.plan i before]
  · exact congrArg Booking.displayTime (plans counted)

/-- The records of a frame up to `k`. -/
theorem AlikeUpTo.slot_unclaimed_eq (alike : s.AlikeUpTo k s') {id : FrameId} (upTo : id.toInt ≤ k)
    {slot slot' : Slot} (held : s.frame? id = some slot) (held' : s'.frame? id = some slot') :
    slot.unclaimed = slot'.unclaimed := by
  have measured := measured_eq_of_frame? alike.measured held held'
  obtain ⟨rfl, holder⟩ := slot_of_frame? held
  obtain ⟨rfl, -⟩ := slot_of_frame? held'
  exact Slot.unclaimed_eq_iff.mpr ⟨measured, alike.plan _ (.inr ⟨id, holder, upTo⟩)⟩

/-- Such a frame is delivered equally early. -/
theorem unclaimed_deliveryReport_eq (same : s.measured = s'.measured) (id : FrameId)
    {slot slot' : Slot} (slots : slot.unclaimed = slot'.unclaimed) :
    (s.deliveryReport id slot).unclaimed = (s'.deliveryReport id slot').unclaimed := by
  obtain ⟨measured, plan⟩ := Slot.unclaimed_eq_iff.mp slots
  obtain ⟨display, period, delivery⟩ : slot.displayTime = slot'.displayTime ∧
      slot.period = slot'.period ∧ slot.deliveryTime = slot'.deliveryTime := by
    simpa [Slot.plan] using plan
  obtain ⟨-, -, times⟩ := Slot.measured_eq_iff.mp measured
  obtain ⟨-, -, delivered⟩ := Timestamps.measured_eq_iff.mp times
  have error : slot.deliveryTime.signedSince slot.times.delivered =
      slot'.deliveryTime.signedSince slot'.times.delivered := by rw [delivery, delivered]
  exact Delivered.unclaimed_eq (measured_deliveryReport_eq same id measured) display period
    delivery error

/-- Two calls that return, and differ in their claims at most, keep two schedulers alike, if a
frame up to `k` is predicted with one CPU estimate. -/
theorem AlikeUpTo.effect (alike : s.AlikeUpTo k s') {now : Instant} {c c' : Call} {r r' : Reply}
    (effect : Effect s now c t (.ok r)) (effect' : Effect s' now c' t' (.ok r'))
    (calls : c.withoutClaim = c'.withoutClaim)
    (cpu : ∀ p, r = .predicted p → p.id.toInt ≤ k → t.latency.cpu = t'.latency.cpu) :
    t.AlikeUpTo k t' ∧ r.AlikeUpTo k r' := by
  obtain ⟨next, reply⟩ := effect.measured_eq effect' alike.measured calls
  have kept (other : c ≠ .predict) (other' : c' ≠ .predict) : t.AlikeUpTo k t' :=
    alike.of_keepsPlans next (effect.keepsPlans other) (effect'.keepsPlans other')
  cases effect with
  | @predicted id b counted plan _ => cases effect' with
    | @predicted id' b' counted' plan' _ =>
      obtain ⟨-, counter, -⟩ := parts_eq_of_measured alike.measured
      rw [← counter] at counted'
      obtain rfl := Option.some.inj (counted.symm.trans counted')
      have succ := FrameId.toInt_of_next? counted
      have plans (upTo : id.toInt ≤ k) : b = b' := by
        have display := alike.lastDisplay (by omega)
        rw [plan_eq_of_measured alike.measured (cpu _ rfl upTo) display, plan'] at plan
        exact (Except.ok.inj plan).symm
      refine ⟨alike.afterPredict counted plans now, reply, fun upTo => ?_⟩
      rw [plans (upTo id rfl)]
    | _ => cases calls
  | @delivered id slot held _ => cases effect' with
    | @delivered _ slot' held' _ =>
      cases calls
      refine ⟨kept nofun nofun, reply, fun upTo => congrArg Reply.delivered ?_⟩
      have slots := alike.slot_unclaimed_eq (upTo id rfl) held held'
      have stamped : (slot.stamped now).unclaimed = (slot'.stamped now).unclaimed :=
        congrArg (Slot.stamped · now) slots
      exact unclaimed_deliveryReport_eq alike.measured id stamped
    | _ => cases calls
  | woke _ _ => cases effect' with
    | woke _ _ => exact ⟨kept nofun nofun, reply, fun _ => rfl⟩
    | _ => cases calls
  | began _ _ => cases effect' with
    | began _ _ => exact ⟨kept nofun nofun, reply, fun _ => rfl⟩
    | _ => cases calls
  | discarded _ _ => cases effect' with
    | discarded _ _ => exact ⟨kept nofun nofun, reply, fun _ => reply⟩
    | _ => cases calls
  | ingested => cases effect' with
    | ingested => exact ⟨kept nofun nofun, reply, fun _ => rfl⟩
    | _ => cases calls

/-- All of two schedulers, if no frame is later than `k`. -/
theorem AlikeUpTo.unclaimed_eq (alike : s.AlikeUpTo k s') (counted : s.counter.toInt ≤ k) :
    s.unclaimed = s'.unclaimed := by
  have slots : s.ring.slots.map Slot.unclaimed = s'.ring.slots.map Slot.unclaimed := by
    ext i h : 1
    have measured : (s.ring.get ⟨i, h⟩).measured = (s'.ring.get ⟨i, h⟩).measured := by
      simpa using congrArg (fun t : Scheduler n => t.ring.get ⟨i, h⟩) alike.measured
    rw [Vector.getElem_map, Vector.getElem_map]
    exact Slot.unclaimed_eq_iff.mpr ⟨measured, alike.plan ⟨i, h⟩ (.inl counted)⟩
  have measured := alike.measured
  simp only [Scheduler.measured, Scheduler.mk.injEq] at measured
  obtain ⟨config, -, counter, latency, sample, -, warned⟩ := measured
  simp only [unclaimed, Scheduler.mk.injEq, Ring.mk.injEq]
  exact ⟨config, slots, counter, latency, sample, alike.lastDisplay counted, warned⟩

/-- The record of one frame. -/
theorem AlikeUpTo.frame?_unclaimed_eq {id : FrameId} (alike : s.AlikeUpTo id.toInt s') :
    (s.frame? id).map Slot.unclaimed = (s'.frame? id).map Slot.unclaimed := by
  have found := congrArg (Scheduler.frame? · id) alike.measured
  simp only [frame?_measured] at found
  cases held : s.frame? id with
  | none =>
    rw [held] at found
    rw [Option.map_eq_none_iff.mp found.symm]
  | some slot =>
    rw [held] at found
    obtain ⟨slot', held', -⟩ := Option.map_eq_some_iff.mp found.symm
    rw [held']
    exact congrArg some (alike.slot_unclaimed_eq (Int.le_refl _) held held')

end Scheduler

namespace Step

variable {n : Nat} {k : Int} {step step' : Step n Reply}

theorem AlikeUpTo.measured_eq (alike : step.AlikeUpTo k step') :
    step.measured = step'.measured := by
  obtain ⟨next, r, r', result, result', reply⟩ := alike
  simp [measured, Except.map, result, result', next.measured, reply.measured]

/-- All of two steps, if no frame is later than `k`. -/
theorem AlikeUpTo.unclaimed_eq (alike : step.AlikeUpTo k step')
    (all : ∀ id : FrameId, id.toInt ≤ k) : step.unclaimed = step'.unclaimed := by
  obtain ⟨next, r, r', result, result', reply⟩ := alike
  have schedulers := next.unclaimed_eq (all _)
  have replies := reply.unclaimed fun id _ => all id
  simp [unclaimed, Except.map, result, result', schedulers, replies]

/-- What two steps show of one frame. -/
theorem AlikeUpTo.unclaimedOf_eq {id : FrameId} (alike : step.AlikeUpTo id.toInt step') :
    step.unclaimedOf id = step'.unclaimedOf id := by
  obtain ⟨next, r, r', result, result', reply⟩ := alike
  have frames : r.frame? = r'.frame? := by
    rw [← r.frame?_measured, reply.measured, r'.frame?_measured]
  simp only [unclaimedOf, result, result', next.frame?_unclaimed_eq, Except.toOption,
    Option.filter_some, frames]
  by_cases about : r'.frame? = some id
  · have upTo (a : FrameId) (same : r.frame? = some a) : a.toInt ≤ id.toInt := by
      obtain rfl := Option.some.inj (same.symm.trans (frames.trans about))
      exact Int.le_refl _
    simp [about, reply.unclaimed upTo]
  · simp [about]

end Step

end FramePacing

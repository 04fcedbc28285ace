import FramePacing.Proofs.Planning
import FramePacing.Proofs.Scheduler.History

/-!
# Reports and lives

The life of a frame is what the returned calls of a run did to it (`lifeOf`). A slot that is freed
keeps the times of its frame, and the next frame in the slot starts from there; what is reported at
the end of a frame is still its own life and nothing else (`reports_tell_own_life`).

The invariant `Told` says that each slot tells the life of its frame so far, and that a frame that
was not counted yet has no life.
-/

namespace FramePacing

variable {n : Nat}

/-! ### Lives -/

/-- What a returned call did to a frame. -/
inductive Deed where
  /-- At `now` the frame was predicted to be `p`, and was to be delivered at `deliveryTime`. -/
  | predicted (now : Instant) (p : Prediction) (deliveryTime : Instant)
  /-- The application said when it had woken up. -/
  | woke (reported : Instant)
  /-- The work began at `now`. -/
  | began (now : Instant)
  /-- The frame was delivered or dropped at `now`. -/
  | ended (now : Instant)

/-- What a call did, and to which frame. A refused call did nothing. -/
def Entry.deed? (e : Entry n) : Option (FrameId × Deed) :=
  match e.call, e.result with
  | .predict, .ok (.predicted p) =>
    some (p.id, .predicted e.now p
      (p.displayTime.before (displayShare e.before.latency e.before.sample)))
  | .mark id .wakeUp reported, .ok _ => some (id, .woke reported)
  | .mark id .begin _, .ok _ => some (id, .began e.now)
  | .discard id, .ok _ => some (id, .ended e.now)
  | .deliver id, .ok _ => some (id, .ended e.now)
  | _, _ => none

theorem Entry.deed?_error (s : Scheduler n) (now : Instant) (c : Call) (f : Fault) :
    (⟨s, now, c, .error f⟩ : Entry n).deed? = none := by
  cases c with
  | mark id milestone reported => cases milestone <;> rfl
  | _ => rfl

/-- What a call did to the frame `id`. -/
def Entry.deedTo? (e : Entry n) (id : FrameId) : Option Deed :=
  e.deed?.bind fun d => if id = d.1 then some d.2 else none

theorem Entry.deedTo?_eq_some_iff {e : Entry n} {id : FrameId} {d : Deed} :
    e.deedTo? id = some d ↔ e.deed? = some (id, d) := by
  unfold deedTo?
  rw [Option.bind_eq_some_iff]
  constructor
  · rintro ⟨⟨a, d'⟩, deed, same⟩
    split at same
    · rename_i here
      obtain rfl : id = a := here
      obtain rfl := Option.some.inj same
      exact deed
    · cases same
  · intro deed
    exact ⟨(id, d), deed, if_pos rfl⟩

/-- All that was done to a frame, in order. -/
def lifeOf (h : List (Entry n)) (id : FrameId) : List Deed := h.filterMap (·.deedTo? id)

theorem lifeOf_concat_of_none {h : List (Entry n)} {e : Entry n} (nothing : e.deed? = none)
    (id : FrameId) : lifeOf (h ++ [e]) id = lifeOf h id := by
  simp [lifeOf, Entry.deedTo?, nothing]

theorem lifeOf_concat_of_some {h : List (Entry n)} {e : Entry n} {id : FrameId} {d : Deed}
    (deed : e.deed? = some (id, d)) (a : FrameId) :
    lifeOf (h ++ [e]) a = lifeOf h a ++ if a = id then [d] else [] := by
  unfold lifeOf
  rw [List.filterMap_append]
  by_cases own : a = id
  · simp [Entry.deedTo?, deed, own]
  · simp [Entry.deedTo?, deed, own]

/-! ### What slots tell -/

/-- The life that a slot tells of a frame with the prediction `p`. -/
def Slot.life (s : Slot) (p : Prediction) : List Deed :=
  match s.stage with
  | .ready => []
  | .predicted => [.predicted s.times.predicted p s.deliveryTime]
  | .waitLeft => [.predicted s.times.predicted p s.deliveryTime, .woke s.times.woke]
  | .begun =>
    [.predicted s.times.predicted p s.deliveryTime, .woke s.times.woke, .began s.times.begun]

/-- The slot tells this life, and no other. -/
structure Slot.Tells (s : Slot) (life : List Deed) : Prop where
  /-- The plan is the one that was predicted, and the times are those of the deeds. -/
  own : ∃ p : Prediction, p.displayTime = s.displayTime ∧ p.period = s.period ∧ life = s.life p
  /-- No beginning is left over from an earlier frame. -/
  unbegun : s.stage ≠ .begun → s.times.begun = .zero

theorem Slot.Tells.woken {s : Slot} {life : List Deed} (tells : s.Tells life)
    (stage : s.stage = .predicted) (reported : Instant) :
    (s.woken reported).Tells (life ++ [.woke reported]) := by
  obtain ⟨p, display, period, rfl⟩ := tells.own
  have begun := tells.unbegun (by rw [stage]; intro e; cases e)
  refine ⟨⟨p, display, period, ?_⟩, fun _ => begun⟩
  unfold Slot.life
  rw [stage]
  rfl

theorem Slot.Tells.started {s : Slot} {life : List Deed} (tells : s.Tells life)
    (stage : s.stage = .waitLeft) (now : Instant) :
    (s.started now).Tells (life ++ [.began now]) := by
  obtain ⟨p, display, period, rfl⟩ := tells.own
  refine ⟨⟨p, display, period, ?_⟩, fun other => absurd rfl other⟩
  unfold Slot.life
  rw [stage]
  rfl

namespace Scheduler

/-- A new plan overwrites all that its slot told before. -/
theorem tells_of_plan {s : Scheduler n} {id : FrameId} {now : Instant} {b : Booking}
    (plan : s.plan now = .ok b) :
    (b.slot id now).Tells [.predicted now (b.prediction id)
      ((b.prediction id).displayTime.before (displayShare s.latency s.sample))] := by
  refine ⟨⟨b.prediction id, rfl, rfl, ?_⟩, fun _ => rfl⟩
  show _ = [Deed.predicted now (b.prediction id) b.deliveryTime]
  rw [plan_deliveryTime plan]
  rfl

/-- What the slots of a scheduler tell of the history. -/
structure Told (s : Scheduler n) (h : List (Entry n)) : Prop where
  /-- Each slot tells the life of its frame. -/
  tells : ∀ id slot, s.frame? id = some slot → slot.Tells (lifeOf h id)
  /-- A frame that was not counted yet has no life. -/
  unborn : ∀ id, s.counter.toInt < id.toInt → lifeOf h id = []

theorem told_initial (c : Config) (pos : 0 < n) : Told (initial c pos) [] := by
  refine ⟨fun id slot held => ?_, fun _ _ => rfl⟩
  cases (frame?_initial c pos id).symm.trans held

/-- A call that does nothing to any frame. -/
theorem Told.of_none {s s' : Scheduler n} {h : List (Entry n)} {e : Entry n} (told : Told s h)
    (nothing : e.deed? = none) (counter : s.counter.toInt ≤ s'.counter.toInt)
    (ring : s'.ring = s.ring) : Told s' (h ++ [e]) := by
  refine ⟨fun a slot held => ?_, fun a later => ?_⟩
  · rw [lifeOf_concat_of_none nothing]
    refine told.tells a slot ?_
    rw [← held, frame?, frame?, ring]
  · rw [lifeOf_concat_of_none nothing]
    exact told.unborn a (by omega)

/-- A call that does something to one frame, and leaves the others alone. -/
theorem Told.of_deed {s s' : Scheduler n} {h : List (Entry n)} {e : Entry n} {id : FrameId}
    {d : Deed} {new : Option Slot} (told : Told s h) (deed : e.deed? = some (id, d))
    (counter : s.counter.toInt ≤ s'.counter.toInt) (counted : id.toInt ≤ s'.counter.toInt)
    (frames : ∀ a, s'.frame? a = if a = id then new else s.frame? a)
    (tells : ∀ slot, new = some slot → slot.Tells (lifeOf h id ++ [d])) : Told s' (h ++ [e]) := by
  refine ⟨fun a slot held => ?_, fun a later => ?_⟩
  · rw [frames] at held
    rw [lifeOf_concat_of_some deed]
    by_cases here : a = id
    · subst here
      rw [if_pos rfl] at held ⊢
      exact tells slot held
    · rw [if_neg here] at held ⊢
      rw [List.append_nil]
      exact told.tells a slot held
  · have other : a ≠ id := by
      rintro rfl
      omega
    rw [lifeOf_concat_of_some deed, if_neg other, List.append_nil]
    exact told.unborn a (by omega)

/-- After every call, the slots tell the lives of their frames. -/
theorem Told.call {s s' : Scheduler n} {h : List (Entry n)} {now : Instant} {c : Call}
    {r : Except Fault Reply} (consistent : Consistent s) (told : Told s h)
    (effect : Effect s now c s' r) : Told s' (h ++ [⟨s, now, c, r⟩]) := by
  have up := effect.counter_le
  cases effect with
  | @predicted id b next plan free =>
    have count := FrameId.toInt_of_next? next
    refine told.of_deed rfl up (Int.le_refl _) (frame?_afterPredict free b now) fun slot e => ?_
    obtain rfl := Option.some.inj e
    -- the id is new, so whatever the slot told before was of another frame
    have unborn : lifeOf h id = [] := told.unborn id (by omega)
    show (b.slot id now).Tells (lifeOf h id ++ _)
    rw [unborn]
    exact tells_of_plan plan
  | unbooked _ _ => exact told.of_none rfl up rfl
  | exhausted _ => exact told.of_none rfl up rfl
  | @woke id reported slot held stage =>
    refine told.of_deed rfl up (consistent.counted_of_frame? held).2
      (frame?_withFrame held rfl) fun slot' e => ?_
    obtain rfl := Option.some.inj e
    exact (told.tells id slot held).woken stage reported
  | @began id reported slot held stage =>
    refine told.of_deed rfl up (consistent.counted_of_frame? held).2
      (frame?_withFrame held rfl) fun slot' e => ?_
    obtain rfl := Option.some.inj e
    exact (told.tells id slot held).started stage now
  | discarded held _ =>
    exact told.of_deed rfl up (consistent.counted_of_frame? held).2
      (frame?_freed held _) fun _ e => by cases e
  | delivered held _ =>
    exact told.of_deed rfl up (consistent.counted_of_frame? held).2
      (frame?_freed held _) fun _ e => by cases e
  | ingested => exact told.of_none rfl up rfl
  | @refused c f _ => exact told.of_none (Entry.deed?_error s now c f) up rfl

theorem told_run {c : Config} {s₀ : Scheduler n} (created : create n c = .ok s₀)
    (calls : List (Instant × Call)) : Told (s₀.run calls) (s₀.history calls) :=
  run_induction created (told_initial c) Told.call calls

/-- **Reports**: after every run, what is reported of a frame that is delivered or dropped is its
own life, from its prediction on, and the time of this call. -/
theorem reports_tell_own_life {c : Config} {s₀ : Scheduler n} (created : create n c = .ok s₀)
    (calls : List (Instant × Call)) (now : Instant) (id : FrameId) :
    (∀ d, ((s₀.run calls).deliver id now).result = .ok d →
      d.id = id ∧ d.times.delivered = now ∧ ∃ p : Prediction,
        p.displayTime = d.displayTime ∧ p.period = d.period ∧
        lifeOf (s₀.history calls) id = [.predicted d.times.predicted p d.deliveryTime,
          .woke d.times.woke, .began d.times.begun]) ∧
    (∀ d, ((s₀.run calls).discard id now).result = .ok d →
      d.id = id ∧ d.times.delivered = now ∧ ∃ p deliveryTime,
        (d.stage = .waitLeft ∧ d.times.begun = .zero ∧
          lifeOf (s₀.history calls) id = [.predicted d.times.predicted p deliveryTime,
            .woke d.times.woke]) ∨
        (d.stage = .begun ∧
          lifeOf (s₀.history calls) id = [.predicted d.times.predicted p deliveryTime,
            .woke d.times.woke, .began d.times.begun])) := by
  have told := told_run created calls
  refine ⟨fun d returned => ?_, fun d returned => ?_⟩
  · have effect := deliver_effect (s₀.run calls) now id
    rw [returned] at effect
    generalize ((s₀.run calls).deliver id now).next = next at effect
    cases effect with
    | @delivered _ slot held stage =>
      obtain ⟨p, display, period, life⟩ := (told.tells id slot held).own
      rw [Slot.life, stage] at life
      exact ⟨rfl, rfl, p, display, period, life⟩
  · have effect := discard_effect (s₀.run calls) now id
    rw [returned] at effect
    generalize ((s₀.run calls).discard id now).next = next at effect
    cases effect with
    | @discarded _ slot held stage =>
      have tells := told.tells id slot held
      obtain ⟨p, -, -, life⟩ := tells.own
      refine ⟨rfl, rfl, p, slot.deliveryTime, ?_⟩
      rcases stage with waiting | begun
      · rw [Slot.life, waiting] at life
        have unbegun := tells.unbegun (by rw [waiting]; intro e; cases e)
        exact Or.inl ⟨waiting, unbegun, life⟩
      · rw [Slot.life, begun] at life
        exact Or.inr ⟨begun, life⟩

theorem reports_tell_own_life_uneven :
    (∃ p : Prediction, p.displayTime = ⟨122222222⟩ ∧ p.period = ⟨11111111⟩ ∧
      lifeOf unevenHistory ⟨4⟩ =
        [.predicted ⟨70000000⟩ p ⟨119222222⟩, .woke ⟨74000000⟩, .began ⟨76000000⟩]) ∧
      ∃ p deliveryTime,
        lifeOf unevenHistory ⟨1⟩ =
          [.predicted ⟨50000000⟩ p deliveryTime, .woke ⟨77000000⟩] := by
  have reports := reports_tell_own_life (create_conservative Nat.two_pos) unevenRun ⟨90000000⟩
  obtain ⟨-, -, delivered⟩ := (reports ⟨4⟩).1 _ rfl
  obtain ⟨-, -, p, deliveryTime, dropped⟩ := (reports ⟨1⟩).2 _ rfl
  refine ⟨delivered, p, deliveryTime, ?_⟩
  rcases dropped with ⟨-, -, life⟩ | ⟨begun, -⟩
  · exact life
  · cases begun

end Scheduler

end FramePacing

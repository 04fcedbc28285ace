import FramePacing.Scheduler.Call

/-!
# What a call can do to a scheduler

`Effect s now c s' r` lists, one constructor for each case, what the call `c` makes of a scheduler
`s` while the clock reads `now`: the scheduler `s'` afterwards and the result `r`, with the
conditions under which this happens. `call_effect` says that every call does one of these things.
What a run keeps is proved from here, and no operation is opened again.

The log is not part of it.
-/

namespace FramePacing

/-- The slot of a frame that has just been planned. -/
def Booking.slot (b : Booking) (id : FrameId) (now : Instant) : Slot :=
  { holder := some id, stage := .predicted, displayTime := b.displayTime, period := b.period,
    deliveryTime := b.deliveryTime, times := { predicted := now } }

/-- What the application is told of the plan. -/
def Booking.prediction (b : Booking) (id : FrameId) : Prediction :=
  ⟨id, b.wakeUpTime, b.displayTime, b.period⟩

namespace Slot

/-- The slot after a wake-up. -/
def woken (s : Slot) (woke : Instant) : Slot :=
  { s with stage := .waitLeft, times := { s.times with woke } }

/-- The slot after the work has begun. -/
def started (s : Slot) (now : Instant) : Slot :=
  { s with stage := .begun, times := { s.times with begun := now } }

/-- The slot with the time of its frame's end. -/
def stamped (s : Slot) (now : Instant) : Slot :=
  { s with times := { s.times with delivered := now } }

theorem reserve_eq_ok_iff {s t : Slot} {id : FrameId} {b : Booking} {now : Instant} :
    s.reserve id b now = .ok t ↔ s.isFree ∧ t = b.slot id now := by
  unfold reserve
  split
  · rename_i free
    rw [Except.ok.injEq]
    exact ⟨fun e => ⟨free, e.symm⟩, fun e => e.2.symm⟩
  · rename_i taken
    simp [taken]

/-- What a transition makes of a slot whose stage allows it. -/
theorem require_bind_eq_ok_iff {s t u : Slot} {step : Transition} :
    (s.require step >>= fun _ => pure u) = .ok t ↔ s.stage ∈ step.sources ∧ t = u := by
  rw [bind_eq_ok_iff]
  constructor
  · rintro ⟨_, ok, e⟩
    cases e
    exact ⟨require_eq_ok_iff.mp ok, rfl⟩
  · rintro ⟨stage, rfl⟩
    exact ⟨(), require_eq_ok_iff.mpr stage, rfl⟩

theorem wakeUp_eq_ok_iff {s t : Slot} {woke : Instant} :
    s.wakeUp woke = .ok t ↔ s.stage = .predicted ∧ t = s.woken woke :=
  require_bind_eq_ok_iff.trans (and_congr_left' Transition.mem_sources_wakeUp)

theorem start_eq_ok_iff {s t : Slot} {now : Instant} :
    s.start now = .ok t ↔ s.stage = .waitLeft ∧ t = s.started now :=
  require_bind_eq_ok_iff.trans (and_congr_left' Transition.mem_sources_begin)

theorem finish_eq_ok_iff {s t : Slot} {step : Transition} {now : Instant} :
    s.finish step now = .ok t ↔ s.stage ∈ step.sources ∧ t = s.stamped now :=
  require_bind_eq_ok_iff

end Slot

namespace Scheduler

variable {n : Nat}

/-- A scheduler right after its creation. -/
def initial (c : Config) (pos : 0 < n) : Scheduler n :=
  { config := c, ring := ⟨Vector.replicate n {}, pos⟩, counter := ⟨0⟩, latency := c.firstEstimate,
    sample := {}, lastDisplay := .zero, warned := false }

/-- A scheduler comes of valid settings and a ring with a slot, and of nothing else. -/
theorem create_eq_ok_iff {c : Config} {s : Scheduler n} :
    create n c = .ok s ↔ c.check = .ok () ∧ ∃ pos : 0 < n, s = initial c pos := by
  unfold create Ring.create
  cases c.check with
  | error e => simp
  | ok _ =>
    by_cases pos : 0 < n
    · simp [pos, initial, eq_comm]
    · simp [pos]

theorem create_conservative (pos : 0 < n) :
    create n .conservative = .ok (initial .conservative pos) :=
  create_eq_ok_iff.mpr ⟨rfl, pos, rfl⟩

/-- The plan for the next frame. -/
def plan (s : Scheduler n) (now : Instant) : Except Fault Booking :=
  planFrame s.config s.latency s.sample s.lastDisplay now

/-- Whether the frame that a call names stands where the call needs it. -/
def Permits (s : Scheduler n) : Call → Prop
  | .predict | .ingest _ _ => True
  | .mark id .wakeUp _ => ∃ slot, s.frame? id = some slot ∧ slot.stage = .predicted
  | .mark id .begin _ => ∃ slot, s.frame? id = some slot ∧ slot.stage = .waitLeft
  | .mark _ .submit _ => False
  | .discard id =>
    ∃ slot, s.frame? id = some slot ∧ (slot.stage = .waitLeft ∨ slot.stage = .begun)
  | .deliver id => ∃ slot, s.frame? id = some slot ∧ slot.stage = .begun

/-- The scheduler after the plan `b` for frame `id`. -/
def afterPredict (s : Scheduler n) (id : FrameId) (b : Booking) (now : Instant) : Scheduler n :=
  { s with
    ring := s.ring.put id (b.slot id now)
    counter := id
    lastDisplay := b.displayTime
    warned := s.warned || s.fallsBack }

/-- The scheduler after a prediction that was refused for frame `id`. -/
def afterRefusal (s : Scheduler n) (id : FrameId) : Scheduler n :=
  { s with counter := id, warned := s.warned || s.fallsBack }

/-- The scheduler with another record for a frame. -/
def withFrame (s : Scheduler n) (id : FrameId) (slot : Slot) : Scheduler n :=
  { s with ring := s.ring.put id slot }

/-- Of two records for a frame the second one counts. -/
@[simp] theorem withFrame_withFrame (s : Scheduler n) (id : FrameId) (slot slot' : Slot) :
    (s.withFrame id slot).withFrame id slot' = s.withFrame id slot' := by
  simp [withFrame]

/-- Reports are made of the estimates, not of the ring. -/
@[simp] theorem deliveryReport_withFrame (s : Scheduler n) (id id' : FrameId) (slot slot' : Slot) :
    (s.withFrame id slot).deliveryReport id' slot' = s.deliveryReport id' slot' := rfl

/-- What a call does: the scheduler afterwards and the result. -/
inductive Effect (s : Scheduler n) (now : Instant) :
    Call → Scheduler n → Except Fault Reply → Prop where
  /-- A frame is planned, and its free slot is booked. -/
  | predicted {id : FrameId} {b : Booking} (next : s.counter.next? = some id)
      (plan : s.plan now = .ok b) (free : (s.ring.slot id).isFree) :
      Effect s now .predict (s.afterPredict id b now) (.ok (.predicted (b.prediction id)))
  /-- The frame has no plan or no free slot. Its id is used up. -/
  | unbooked {id : FrameId} {f : Fault} (next : s.counter.next? = some id)
      (refused : s.book id now = .error f) :
      Effect s now .predict (s.afterRefusal id) (.error f)
  /-- No id is left. -/
  | exhausted (next : s.counter.next? = none) : Effect s now .predict s (.error .addOverflow)
  /-- The application woke up for a frame. -/
  | woke {id : FrameId} {reported : Instant} {slot : Slot} (held : s.frame? id = some slot)
      (stage : slot.stage = .predicted) :
      Effect s now (.mark id .wakeUp reported) (s.withFrame id (slot.woken reported)) (.ok .marked)
  /-- The application began the work on a frame. -/
  | began {id : FrameId} {reported : Instant} {slot : Slot} (held : s.frame? id = some slot)
      (stage : slot.stage = .waitLeft) :
      Effect s now (.mark id .begin reported) (s.withFrame id (slot.started now)) (.ok .marked)
  /-- A frame is dropped. -/
  | discarded {id : FrameId} {slot : Slot} (held : s.frame? id = some slot)
      (stage : slot.stage = .waitLeft ∨ slot.stage = .begun) :
      Effect s now (.discard id) (s.withFrame id (slot.stamped now).freed)
        (.ok (.discarded (discardReport id (slot.stamped now))))
  /-- A frame is delivered, and the estimates learn from it. -/
  | delivered {id : FrameId} {slot : Slot} (held : s.frame? id = some slot)
      (stage : slot.stage = .begun) :
      Effect s now (.deliver id)
        { s.withFrame id (slot.stamped now).freed with
          latency := (s.deliveryReport id (slot.stamped now)).updated }
        (.ok (.delivered (s.deliveryReport id (slot.stamped now))))
  /-- A report of the display is taken. -/
  | ingested {source : Source} {sample : DisplaySample} :
      Effect s now (.ingest source sample) { s with sample } (.ok .ingested)
  /-- The named frame does not stand where the call needs it, and nothing happens. -/
  | refused {c : Call} {f : Fault} (h : ¬ s.Permits c) : Effect s now c s (.error f)

/-! ### Every call has one of the effects -/

theorem book_eq_ok_iff {s : Scheduler n} {id : FrameId} {now : Instant} {b : Booking}
    {slot : Slot} :
    s.book id now = .ok (b, slot) ↔
      s.plan now = .ok b ∧ (s.ring.slot id).isFree ∧ slot = b.slot id now := by
  unfold book plan
  simp only [bind_eq_ok_iff, Slot.reserve_eq_ok_iff, pure, Except.pure, Except.ok.injEq,
    Prod.mk.injEq]
  constructor
  · rintro ⟨b', plan, slot', ⟨free, rfl⟩, rfl, rfl⟩
    exact ⟨plan, free, rfl⟩
  · rintro ⟨plan, free, rfl⟩
    exact ⟨b, plan, _, ⟨free, rfl⟩, rfl, rfl⟩

theorem finished_eq_ok_iff {s : Scheduler n} {id : FrameId} {step : Transition} {now : Instant}
    {slot : Slot} :
    s.finished id step now = .ok slot ↔
      ∃ old, s.frame? id = some old ∧ old.stage ∈ step.sources ∧ slot = old.stamped now := by
  simp [finished, bind_eq_ok_iff, Ring.holding_eq_ok_iff, Slot.finish_eq_ok_iff, frame?]

theorem marked_wakeUp_eq_ok_iff {s : Scheduler n} {id : FrameId} {reported now : Instant}
    {slot : Slot} :
    s.marked id .wakeUp reported now = .ok slot ↔
      ∃ old, s.frame? id = some old ∧ old.stage = .predicted ∧ slot = old.woken reported := by
  simp [marked, bind_eq_ok_iff, Ring.holding_eq_ok_iff, Slot.wakeUp_eq_ok_iff, frame?]

theorem marked_begin_eq_ok_iff {s : Scheduler n} {id : FrameId} {reported now : Instant}
    {slot : Slot} :
    s.marked id .begin reported now = .ok slot ↔
      ∃ old, s.frame? id = some old ∧ old.stage = .waitLeft ∧ slot = old.started now := by
  simp [marked, bind_eq_ok_iff, Ring.holding_eq_ok_iff, Slot.start_eq_ok_iff, frame?]

theorem marked_submit_ne_ok {s : Scheduler n} {id : FrameId} {reported now : Instant}
    {slot : Slot} : s.marked id .submit reported now ≠ .ok slot := by
  simp [marked, bind_eq_ok_iff]

theorem predict_effect (s : Scheduler n) (now : Instant) :
    Effect s now .predict (s.predict now).next ((s.predict now).result.map .predicted) := by
  unfold predict
  cases hn : s.counter.next? with
  | none => exact .exhausted hn
  | some id =>
    dsimp only
    cases hb : s.book id now with
    | error f => exact .unbooked hn hb
    | ok r =>
      obtain ⟨b, slot⟩ := r
      obtain ⟨plan, free, rfl⟩ := book_eq_ok_iff.mp hb
      exact .predicted hn plan free

theorem mark_effect (s : Scheduler n) (now : Instant) (id : FrameId) (milestone : Milestone)
    (reported : Instant) :
    Effect s now (.mark id milestone reported) (s.mark id milestone reported now).next
      ((s.mark id milestone reported now).result.map fun _ => .marked) := by
  unfold mark
  cases hm : s.marked id milestone reported now with
  | error f =>
    refine .refused fun h => ?_
    cases milestone with
    | wakeUp =>
      obtain ⟨slot, held, stage⟩ := h
      cases hm.symm.trans (marked_wakeUp_eq_ok_iff.mpr ⟨slot, held, stage, rfl⟩)
    | begin =>
      obtain ⟨slot, held, stage⟩ := h
      cases hm.symm.trans (marked_begin_eq_ok_iff.mpr ⟨slot, held, stage, rfl⟩)
    | submit => exact h
  | ok slot =>
    cases milestone with
    | wakeUp =>
      obtain ⟨old, held, stage, rfl⟩ := marked_wakeUp_eq_ok_iff.mp hm
      exact .woke held stage
    | begin =>
      obtain ⟨old, held, stage, rfl⟩ := marked_begin_eq_ok_iff.mp hm
      exact .began held stage
    | submit => exact absurd hm marked_submit_ne_ok

theorem discard_effect (s : Scheduler n) (now : Instant) (id : FrameId) :
    Effect s now (.discard id) (s.discard id now).next
      ((s.discard id now).result.map .discarded) := by
  unfold discard
  cases hf : s.finished id .discard now with
  | error f =>
    refine .refused ?_
    rintro ⟨slot, held, stage⟩
    cases hf.symm.trans (finished_eq_ok_iff.mpr
      ⟨slot, held, Transition.mem_sources_discard.mpr stage, rfl⟩)
  | ok slot =>
    obtain ⟨old, held, stage, rfl⟩ := finished_eq_ok_iff.mp hf
    exact .discarded held (Transition.mem_sources_discard.mp stage)

theorem deliver_effect (s : Scheduler n) (now : Instant) (id : FrameId) :
    Effect s now (.deliver id) (s.deliver id now).next
      ((s.deliver id now).result.map .delivered) := by
  unfold deliver
  cases hf : s.finished id .deliver now with
  | error f =>
    refine .refused ?_
    rintro ⟨slot, held, stage⟩
    cases hf.symm.trans (finished_eq_ok_iff.mpr
      ⟨slot, held, Transition.mem_sources_deliver.mpr stage, rfl⟩)
  | ok slot =>
    obtain ⟨old, held, stage, rfl⟩ := finished_eq_ok_iff.mp hf
    exact .delivered held (Transition.mem_sources_deliver.mp stage)

/-- **Effects**: every call does one of the things that `Effect` lists. -/
theorem call_effect (s : Scheduler n) (now : Instant) (c : Call) :
    Effect s now c (s.call now c).next (s.call now c).result := by
  cases c with
  | predict => exact predict_effect s now
  | mark id milestone reported => exact mark_effect s now id milestone reported
  | discard id => exact discard_effect s now id
  | deliver id => exact deliver_effect s now id
  | ingest source sample => exact .ingested

/-! ### What a call that returned has done -/

theorem predict_returned {s : Scheduler n} {now : Instant} {p : Prediction}
    (h : (s.predict now).result = .ok p) :
    ∃ b, s.counter.next? = some p.id ∧ s.plan now = .ok b ∧ (s.ring.slot p.id).isFree ∧
      p = b.prediction p.id ∧ (s.predict now).next = s.afterPredict p.id b now := by
  have effect := predict_effect s now
  rw [h] at effect
  generalize (s.predict now).next = next at effect ⊢
  cases effect with
  | @predicted id b counted plan free => exact ⟨b, counted, plan, free, rfl, rfl⟩

theorem deliver_returned {s : Scheduler n} {now : Instant} {id : FrameId} {d : Delivered}
    (h : (s.deliver id now).result = .ok d) :
    ∃ slot, s.frame? id = some slot ∧ slot.stage = .begun ∧
      d = s.deliveryReport id (slot.stamped now) := by
  have effect := deliver_effect s now id
  rw [h] at effect
  generalize (s.deliver id now).next = next at effect
  cases effect with
  | delivered held stage => exact ⟨_, held, stage, rfl⟩

theorem discard_returned {s : Scheduler n} {now : Instant} {id : FrameId} {d : Discarded}
    (h : (s.discard id now).result = .ok d) :
    ∃ slot, s.frame? id = some slot ∧ (slot.stage = .waitLeft ∨ slot.stage = .begun) ∧
      d = discardReport id (slot.stamped now) := by
  have effect := discard_effect s now id
  rw [h] at effect
  generalize (s.discard id now).next = next at effect
  cases effect with
  | discarded held stage => exact ⟨_, held, stage, rfl⟩

/-! ### What a call does that nothing stands in the way of -/

section

variable {s : Scheduler n} {now reported : Instant} {id : FrameId} {slot : Slot}

theorem predict_eq {b : Booking} (next : s.counter.next? = some id) (plan : s.plan now = .ok b)
    (free : (s.ring.slot id).isFree) :
    s.predict now =
      { next := s.afterPredict id b now, result := .ok (b.prediction id),
        notes := s.predictNotes id } := by
  have book := book_eq_ok_iff.mpr ⟨plan, free, rfl⟩
  simp only [predict, next, book]
  rfl

theorem wakeUp_eq (held : s.frame? id = some slot) (stage : slot.stage = .predicted) :
    s.mark id .wakeUp reported now =
      { next := s.withFrame id (slot.woken reported), result := .ok (),
        notes := [.mark id .wakeUp] } := by
  have marked : s.marked id .wakeUp reported now = .ok (slot.woken reported) :=
    marked_wakeUp_eq_ok_iff.mpr ⟨slot, held, stage, rfl⟩
  simp only [mark, marked]
  rfl

theorem begin_eq (held : s.frame? id = some slot) (stage : slot.stage = .waitLeft) :
    s.mark id .begin reported now =
      { next := s.withFrame id (slot.started now), result := .ok (),
        notes := [.mark id .begin] } := by
  have marked : s.marked id .begin reported now = .ok (slot.started now) :=
    marked_begin_eq_ok_iff.mpr ⟨slot, held, stage, rfl⟩
  simp only [mark, marked]
  rfl

theorem discard_eq (held : s.frame? id = some slot)
    (stage : slot.stage = .waitLeft ∨ slot.stage = .begun) :
    s.discard id now =
      { next := s.withFrame id (slot.stamped now).freed,
        result := .ok (discardReport id (slot.stamped now)), notes := [.discard id] } := by
  have finished : s.finished id .discard now = .ok (slot.stamped now) :=
    finished_eq_ok_iff.mpr ⟨slot, held, Transition.mem_sources_discard.mpr stage, rfl⟩
  simp only [discard, finished]
  rfl

theorem deliver_eq (held : s.frame? id = some slot) (stage : slot.stage = .begun) :
    s.deliver id now =
      { next :=
          { s.withFrame id (slot.stamped now).freed with
            latency := (s.deliveryReport id (slot.stamped now)).updated }
        result := .ok (s.deliveryReport id (slot.stamped now))
        notes := [.deliver id, .delivered (s.deliveryReport id (slot.stamped now))] } := by
  have finished : s.finished id .deliver now = .ok (slot.stamped now) :=
    finished_eq_ok_iff.mpr ⟨slot, held, Transition.mem_sources_deliver.mpr stage, rfl⟩
  simp only [deliver, finished]
  rfl

end

/-- Ids are only counted up. -/
theorem Effect.counter_le {s s' : Scheduler n} {now : Instant} {c : Call} {r : Except Fault Reply}
    (effect : Effect s now c s' r) : s.counter.toInt ≤ s'.counter.toInt := by
  have up {id : FrameId} (next : s.counter.next? = some id) : s.counter.toInt ≤ id.toInt := by
    have := FrameId.toInt_of_next? next
    omega
  cases effect with
  | predicted next _ _ => exact up next
  | unbooked next _ => exact up next
  | _ => exact Int.le_refl _

/-- No call changes the settings. -/
theorem Effect.config_eq {s s' : Scheduler n} {now : Instant} {c : Call} {r : Except Fault Reply}
    (effect : Effect s now c s' r) : s'.config = s.config := by
  cases effect <;> rfl

end Scheduler

end FramePacing

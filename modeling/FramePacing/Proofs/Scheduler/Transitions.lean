import FramePacing.Proofs.Scheduler.Consistent

/-!
# The transitions of frames

Marks, drops and deliveries name a frame and move it along the arrows of its life:

    predicted --mark wakeUp--> waitLeft --mark begin--> begun --deliver--> ready
                               waitLeft --discard--> ready
                               begun    --discard--> ready

`Call.Moves` is the list of arrows. A call is accepted exactly if one of its arrows starts where the
frame stands. It then changes the frame's slot and nothing else, a delivery the two measured
estimates besides (`TouchesOnly`); a call that is not accepted changes nothing
(`frames_follow_their_stages`).
-/

namespace FramePacing

/-- The frame that a call names. -/
def Call.subject? : Call → Option FrameId
  | .mark id _ _ => some id
  | .discard id => some id
  | .deliver id => some id
  | .predict => none
  | .ingest _ _ => none

/-- `c.Moves a b`: the call `c` takes the frame that it names from stage `a` to stage `b`. -/
inductive Call.Moves : Call → Stage → Stage → Prop where
  /-- The application wakes up. -/
  | wakeUp (id : FrameId) (reported : Instant) :
    Moves (.mark id .wakeUp reported) .predicted .waitLeft
  /-- The application begins the work. -/
  | begin (id : FrameId) (reported : Instant) : Moves (.mark id .begin reported) .waitLeft .begun
  /-- A frame is dropped before the work. -/
  | discardWaiting (id : FrameId) : Moves (.discard id) .waitLeft .ready
  /-- A frame is dropped during the work. -/
  | discardBegun (id : FrameId) : Moves (.discard id) .begun .ready
  /-- A frame is delivered. -/
  | deliver (id : FrameId) : Moves (.deliver id) .begun .ready

namespace Call

variable {id : FrameId} {reported : Instant} {a b : Stage}

@[simp] theorem moves_wakeUp_iff :
    (mark id .wakeUp reported).Moves a b ↔ a = .predicted ∧ b = .waitLeft := by
  constructor
  · rintro ⟨⟩
    exact ⟨rfl, rfl⟩
  · rintro ⟨rfl, rfl⟩
    exact .wakeUp id reported

@[simp] theorem moves_begin_iff :
    (mark id .begin reported).Moves a b ↔ a = .waitLeft ∧ b = .begun := by
  constructor
  · rintro ⟨⟩
    exact ⟨rfl, rfl⟩
  · rintro ⟨rfl, rfl⟩
    exact .begin id reported

@[simp] theorem not_moves_submit : ¬ (mark id .submit reported).Moves a b := by
  rintro ⟨⟩

@[simp] theorem moves_discard_iff :
    (discard id).Moves a b ↔ (a = .waitLeft ∨ a = .begun) ∧ b = .ready := by
  constructor
  · rintro ⟨⟩
    · exact ⟨Or.inl rfl, rfl⟩
    · exact ⟨Or.inr rfl, rfl⟩
  · rintro ⟨rfl | rfl, rfl⟩
    · exact .discardWaiting id
    · exact .discardBegun id

@[simp] theorem moves_deliver_iff : (deliver id).Moves a b ↔ a = .begun ∧ b = .ready := by
  constructor
  · rintro ⟨⟩
    exact ⟨rfl, rfl⟩
  · rintro ⟨rfl, rfl⟩
    exact .deliver id

end Call

/-- The call was not refused. -/
def Step.Returns {n : Nat} {α : Type} (step : Step n α) : Prop := ∃ r, step.result = .ok r

namespace Scheduler

variable {n : Nat}

/-- Where a frame in flight stands. -/
def stage? (s : Scheduler n) (id : FrameId) : Option Stage := (s.frame? id).map Slot.stage

theorem stage?_eq_some_iff {s : Scheduler n} {id : FrameId} {a : Stage} :
    s.stage? id = some a ↔ ∃ slot, s.frame? id = some slot ∧ slot.stage = a :=
  Option.map_eq_some_iff

theorem stage?_of_frame? {s : Scheduler n} {id : FrameId} {slot : Slot}
    (held : s.frame? id = some slot) : s.stage? id = some slot.stage :=
  stage?_eq_some_iff.mpr ⟨slot, held, rfl⟩

theorem stage?_withFrame {s : Scheduler n} {id : FrameId} {old slot : Slot}
    (held : s.frame? id = some old) (same : slot.holder = old.holder) :
    (s.withFrame id slot).stage? id = some slot.stage := by
  simp [stage?, frame?_withFrame held same]

/-- `s'` differs from `s` in the slot of frame `id` and in the two measured estimates at most. -/
structure TouchesOnly (id : FrameId) (s s' : Scheduler n) : Prop where
  /-- All other slots are the same. -/
  slots : ∀ i, i ≠ s.ring.index id → s'.ring.get i = s.ring.get i
  /-- So are the settings, -/
  config : s'.config = s.config
  /-- the latest id, -/
  counter : s'.counter = s.counter
  /-- the display's report, -/
  sample : s'.sample = s.sample
  /-- the latest display time, -/
  lastDisplay : s'.lastDisplay = s.lastDisplay
  /-- what was warned of, -/
  warned : s'.warned = s.warned
  /-- and the safety margin. -/
  margin : s'.latency.margin = s.latency.margin

theorem touchesOnly_withFrame (s : Scheduler n) (id : FrameId) (slot : Slot) :
    TouchesOnly id s (s.withFrame id slot) := by
  refine ⟨fun i other => ?_, rfl, rfl, rfl, rfl, rfl, rfl⟩
  show (s.ring.put id slot).get i = s.ring.get i
  rw [Ring.get_put, if_neg other]

/-- The ring has no frame `id` any more, and its slot is free. -/
def Released (id : FrameId) (s : Scheduler n) : Prop :=
  s.stage? id = none ∧ (s.ring.slot id).isFree

theorem released_withFrame {s : Scheduler n} {id : FrameId} {old : Slot}
    (held : s.frame? id = some old) (slot : Slot) : Released id (s.withFrame id slot.freed) := by
  constructor
  · simp [stage?, frame?_freed held]
  · show ((s.ring.put id slot.freed).slot id).isFree
    rw [Ring.slot_put_self]
    rfl

/-- The frame `id` stands at stage `b` now, which means that its slot is free if `b` is `ready`. -/
def StandsAt (id : FrameId) (b : Stage) (s : Scheduler n) : Prop :=
  if b = .ready then Released id s else s.stage? id = some b

/-! ### What a call that names a frame does -/

/-- The conditions of the calls are the starts of the arrows. -/
theorem permits_iff_moves {s : Scheduler n} {c : Call} {id : FrameId}
    (names : c.subject? = some id) : s.Permits c ↔ ∃ a b, s.stage? id = some a ∧ c.Moves a b := by
  cases c with
  | predict => cases names
  | ingest source sample => cases names
  | mark id' milestone reported =>
    obtain rfl := Option.some.inj names
    cases milestone with
    | wakeUp => simp [Permits, stage?_eq_some_iff]
    | begin => simp [Permits, stage?_eq_some_iff]
    | submit => simp [Permits]
  | discard id' =>
    obtain rfl := Option.some.inj names
    simp only [Permits, stage?_eq_some_iff, Call.moves_discard_iff]
    constructor
    · rintro ⟨slot, held, stage⟩
      exact ⟨_, _, ⟨slot, held, rfl⟩, stage, rfl⟩
    · rintro ⟨_, _, ⟨slot, held, rfl⟩, stage, -⟩
      exact ⟨slot, held, stage⟩
  | deliver id' =>
    obtain rfl := Option.some.inj names
    simp [Permits, stage?_eq_some_iff]

variable {s s' : Scheduler n} {now : Instant} {c : Call} {id : FrameId}

/-- A refused call that names a frame changes nothing. -/
theorem Effect.unchanged {f : Fault} (effect : Effect s now c s' (.error f))
    (names : c.subject? = some id) : s' = s := by
  cases effect with
  | refused _ => rfl
  | unbooked _ _ => cases names
  | exhausted _ => cases names

/-- An accepted call that names a frame takes it along an arrow, and touches nothing else. -/
theorem Effect.moved {r : Reply} (effect : Effect s now c s' (.ok r))
    (names : c.subject? = some id) :
    (∃ a b, s.stage? id = some a ∧ c.Moves a b ∧ StandsAt id b s') ∧ TouchesOnly id s s' ∧
      (c ≠ .deliver id → s'.latency = s.latency) := by
  cases effect with
  | predicted _ _ _ => cases names
  | ingested => cases names
  | @woke id reported slot held stage =>
    obtain rfl := Option.some.inj names
    have stands : (s.withFrame id (slot.woken reported)).stage? id = some .waitLeft :=
      stage?_withFrame held rfl
    exact ⟨⟨_, _, stage ▸ stage?_of_frame? held, .wakeUp _ _, stands⟩,
      touchesOnly_withFrame s id _, fun _ => rfl⟩
  | @began id reported slot held stage =>
    obtain rfl := Option.some.inj names
    have stands : (s.withFrame id (slot.started now)).stage? id = some .begun :=
      stage?_withFrame held rfl
    exact ⟨⟨_, _, stage ▸ stage?_of_frame? held, .begin _ _, stands⟩,
      touchesOnly_withFrame s id _, fun _ => rfl⟩
  | @discarded id slot held stage =>
    obtain rfl := Option.some.inj names
    have freed := released_withFrame held (slot.stamped now)
    refine ⟨?_, touchesOnly_withFrame s id _, fun _ => rfl⟩
    rcases stage with stage | stage
    · exact ⟨_, _, stage ▸ stage?_of_frame? held, .discardWaiting _, freed⟩
    · exact ⟨_, _, stage ▸ stage?_of_frame? held, .discardBegun _, freed⟩
  | @delivered id slot held stage =>
    obtain rfl := Option.some.inj names
    have freed := released_withFrame held (slot.stamped now)
    have touches := touchesOnly_withFrame s id (slot.stamped now).freed
    exact ⟨⟨_, _, stage ▸ stage?_of_frame? held, .deliver _, freed⟩,
      ⟨touches.slots, rfl, rfl, rfl, rfl, rfl, rfl⟩, fun other => absurd rfl other⟩

/-- A call that names a frame is accepted exactly if an arrow starts where the frame stands. -/
theorem call_returns_iff (s : Scheduler n) (now : Instant) (names : c.subject? = some id) :
    (s.call now c).Returns ↔ ∃ a b, s.stage? id = some a ∧ c.Moves a b := by
  have effect := call_effect s now c
  constructor
  · rintro ⟨r, accepted⟩
    rw [accepted] at effect
    obtain ⟨⟨a, b, stands, move, -⟩, -⟩ := effect.moved names
    exact ⟨a, b, stands, move⟩
  · intro arrow
    have permits := (permits_iff_moves names).mpr arrow
    unfold Step.Returns
    generalize (s.call now c).result = r at effect
    generalize (s.call now c).next = next at effect
    cases effect with
    | refused not => exact absurd permits not
    | unbooked _ _ => cases names
    | exhausted _ => cases names
    | _ => exact ⟨_, rfl⟩

/-- **Transitions**: for every scheduler and every id, a wake-up is accepted exactly if the frame is
in flight and predicted, a beginning if it has left its wait, a submission never, a drop if it has
left its wait or begun, and a delivery if it has begun. A refused call leaves the scheduler as it
was; an accepted one moves the frame along its arrow and touches nothing but the frame's slot, and
only a delivery changes the estimates. -/
theorem frames_follow_their_stages (s : Scheduler n) (now reported : Instant) (id : FrameId) :
    ((s.call now (.mark id .wakeUp reported)).Returns ↔ s.stage? id = some .predicted) ∧
    ((s.call now (.mark id .begin reported)).Returns ↔ s.stage? id = some .waitLeft) ∧
    (¬ (s.call now (.mark id .submit reported)).Returns) ∧
    ((s.call now (.discard id)).Returns ↔
      s.stage? id = some .waitLeft ∨ s.stage? id = some .begun) ∧
    ((s.call now (.deliver id)).Returns ↔ s.stage? id = some .begun) ∧
    ∀ c : Call, c.subject? = some id →
      (¬ (s.call now c).Returns → (s.call now c).next = s) ∧
      ((s.call now c).Returns →
        (∃ a b, s.stage? id = some a ∧ c.Moves a b ∧ StandsAt id b (s.call now c).next) ∧
        TouchesOnly id s (s.call now c).next ∧
        (c ≠ .deliver id → (s.call now c).next.latency = s.latency)) := by
  refine ⟨?_, ?_, ?_, ?_, ?_, fun c names => ⟨fun refusal => ?_, ?_⟩⟩
  · rw [call_returns_iff s now rfl]
    simp
  · rw [call_returns_iff s now rfl]
    simp
  · rw [call_returns_iff s now rfl]
    simp
  · rw [call_returns_iff s now rfl]
    simp [and_or_left, exists_or]
  · rw [call_returns_iff s now rfl]
    simp
  · have effect := call_effect s now c
    cases h : (s.call now c).result with
    | ok r => exact absurd ⟨r, h⟩ refusal
    | error f =>
      rw [h] at effect
      exact effect.unchanged names
  · rintro ⟨r, accepted⟩
    have effect := call_effect s now c
    rw [accepted] at effect
    exact effect.moved names

end Scheduler

end FramePacing

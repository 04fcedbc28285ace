import FramePacing.Proofs.Scheduler.Reports

/-!
# Timelines

A frame has seven times. Three are planned when it is predicted: the wake-up, the delivery and the
display. Below the horizon they are in order and lie after the prediction. Three are read off the
clock: the prediction, the beginning and the end. They are in order if the clock never goes back,
whatever happens to other frames in between (`timelines_in_order`). The seventh is the wake-up as the
application says it. It may be any time at all, and it only counts for the CPU time if it is not
after the beginning.

The clock is read by some calls and not by others, and calls about all frames read the same one. A
frame's own readings are some of those of the history, in the same order (`Clocked.read`), so
nothing has to be said about the other frames.
-/

namespace FramePacing

variable {n : Nat}

/-! ### Readings of the clock -/

/-- What the clock read for a call, if the call read it. -/
def Entry.reading? (e : Entry n) : Option Instant :=
  if e.before.readsClock e.call then some e.now else none

/-- What the clock read in a history, in order. -/
def clockReadings (h : List (Entry n)) : List Instant := h.filterMap Entry.reading?

/-- What the clock read for a deed. The time of a wake-up is only said. -/
def Deed.reading? : Deed → Option Instant
  | .predicted now _ _ => some now
  | .woke _ => none
  | .began now => some now
  | .ended now => some now

/-- The times of a plan that was made at `now`, one after the other. -/
structure Prediction.InOrder (p : Prediction) (now deliveryTime : Instant) : Prop where
  /-- The application is woken up in the future. -/
  ahead : now < p.wakeUpTime
  /-- It is not woken up later than the frame has to be delivered. -/
  delivery : p.wakeUpTime ≤ deliveryTime
  /-- The frame does not have to be delivered later than it is shown. -/
  display : deliveryTime ≤ p.displayTime

/-- A delivery report in order, of a frame that was predicted to be `p`. -/
structure Delivered.InOrder (d : Delivered) (p : Prediction) : Prop where
  /-- It is about the display time that was predicted. -/
  aim : p.displayTime = d.displayTime
  /-- Below the horizon, the plan is in order and lies after the prediction. -/
  planned : d.displayTime.toNat < horizon → p.InOrder d.times.predicted d.deliveryTime
  /-- The frame was not begun before it was predicted. -/
  begun : d.times.predicted ≤ d.times.begun
  /-- It was not delivered before it was begun. -/
  ended : d.times.begun ≤ d.times.delivered
  /-- The draw time goes from there to the delivery. -/
  draw : d.times.begun.toNat + d.drawSample.toNat = d.times.delivered.toNat
  /-- The CPU time goes from the wake-up to the beginning. -/
  cpu : d.times.woke ≤ d.times.begun →
    d.times.woke.toNat + d.cpuSample.toNat = d.times.begun.toNat
  /-- It is none if the wake-up is said to be later than the beginning. -/
  noCpu : d.times.begun < d.times.woke → d.cpuSample = .zero

/-- A drop report in order, of a frame that was predicted to be `p` and to be delivered at
`deliveryTime`. -/
structure Discarded.InOrder (d : Discarded) (p : Prediction) (deliveryTime : Instant) : Prop where
  /-- Below the horizon, the plan is in order and lies after the prediction. -/
  planned : p.displayTime.toNat < horizon → p.InOrder d.times.predicted deliveryTime
  /-- The frame was not dropped before it was predicted. -/
  ended : d.times.predicted ≤ d.times.delivered
  /-- If it was begun, then in between. -/
  begun : d.stage = .begun → d.times.predicted ≤ d.times.begun ∧ d.times.begun ≤ d.times.delivered

namespace Scheduler

theorem inOrder_of_plan {s : Scheduler n} {now : Instant} {b : Booking} (plan : s.plan now = .ok b)
    (below : b.displayTime.toNat < horizon) (id : FrameId) :
    (b.prediction id).InOrder now b.deliveryTime := by
  obtain ⟨display, delivery⟩ := planFrame_counts_back plan below
  obtain atHorizon | ⟨-, ahead⟩ := plan_later plan
  · exact absurd atHorizon (Nat.ne_of_lt below)
  · refine ⟨ahead, ?_, ?_⟩
    · show b.wakeUpTime ≤ b.deliveryTime
      rw [Instant.le_iff]
      omega
    · show b.deliveryTime ≤ b.displayTime
      rw [Instant.le_iff]
      omega

/-! ### One call -/

section

variable {s s' : Scheduler n} {now : Instant} {c : Call} {r : Except Fault Reply}

/-- What the clock read for a deed, it read for the call that did it. -/
theorem Effect.reading?_eq (effect : Effect s now c s' r) {id : FrameId} {d : Deed} {t : Instant}
    (deed : (⟨s, now, c, r⟩ : Entry n).deed? = some (id, d)) (read : d.reading? = some t) :
    (⟨s, now, c, r⟩ : Entry n).reading? = some t := by
  cases effect with
  | predicted next _ _ =>
    cases deed
    cases read
    simp [Entry.reading?, readsClock, next]
  | woke _ _ =>
    cases deed
    cases read
  | began held _ =>
    cases deed
    cases read
    simp [Entry.reading?, readsClock, held]
  | discarded _ _ | delivered _ _ =>
    cases deed
    cases read
    rfl
  | unbooked _ _ | exhausted _ | refused _ =>
    rw [Entry.deed?_error] at deed
    cases deed
  | ingested => cases deed

/-- A frame is predicted with a plan in order. -/
theorem Effect.inOrder (effect : Effect s now c s' r) {id : FrameId} {madeAt due : Instant}
    {p : Prediction}
    (deed : (⟨s, now, c, r⟩ : Entry n).deed? = some (id, .predicted madeAt p due))
    (below : p.displayTime.toNat < horizon) : p.InOrder madeAt due := by
  cases effect with
  | @predicted id _ _ plan _ =>
    cases deed
    have order := inOrder_of_plan plan below id
    rw [plan_deliveryTime plan] at order
    exact order
  | woke _ _ | began _ _ | discarded _ _ | delivered _ _ | ingested => cases deed
  | unbooked _ _ | exhausted _ | refused _ =>
    rw [Entry.deed?_error] at deed
    cases deed

end

/-! ### All calls -/

/-- The life of a frame, on the clock of the history. -/
structure Clocked (h : List (Entry n)) (id : FrameId) : Prop where
  /-- Its times are among those that the clock read, in the same order. -/
  read : ((lifeOf h id).filterMap Deed.reading?).Sublist (clockReadings h)
  /-- Its plan is in order. -/
  planned : ∀ madeAt p due, .predicted madeAt p due ∈ lifeOf h id →
    p.displayTime.toNat < horizon → p.InOrder madeAt due

/-- Every call keeps a life on the clock, whatever frame the call is about. -/
theorem Clocked.call {s s' : Scheduler n} {h : List (Entry n)} {id : FrameId} {now : Instant}
    {c : Call} {r : Except Fault Reply} (clocked : Clocked h id) (effect : Effect s now c s' r) :
    Clocked (h ++ [⟨s, now, c, r⟩]) id := by
  have readings : clockReadings (h ++ [⟨s, now, c, r⟩]) =
      clockReadings h ++ [(⟨s, now, c, r⟩ : Entry n)].filterMap Entry.reading? :=
    List.filterMap_append
  cases new : (⟨s, now, c, r⟩ : Entry n).deedTo? id with
  | none =>
    -- the clock may have been read for another frame
    have life : lifeOf (h ++ [⟨s, now, c, r⟩]) id = lifeOf h id := by simp [lifeOf, new]
    constructor
    · rw [life, readings]
      exact clocked.read.trans (List.sublist_append_left _ _)
    · rw [life]
      exact clocked.planned
  | some d =>
    have deed := Entry.deedTo?_eq_some_iff.mp new
    have life : lifeOf (h ++ [⟨s, now, c, r⟩]) id = lifeOf h id ++ [d] := by simp [lifeOf, new]
    constructor
    · rw [life, readings, List.filterMap_append]
      refine clocked.read.append ?_
      cases read : d.reading? with
      | none => simp [read]
      | some t => simp [read, effect.reading?_eq deed read]
    · intro madeAt p due mem below
      rw [life, List.mem_append, List.mem_singleton] at mem
      rcases mem with old | rfl
      · exact clocked.planned madeAt p due old below
      · exact effect.inOrder deed below

theorem clocked_run {c : Config} {s₀ : Scheduler n} (created : create n c = .ok s₀)
    (calls : List (Instant × Call)) (id : FrameId) : Clocked (s₀.history calls) id :=
  run_induction (P := fun _ h => Clocked h id) created
    (fun _ => ⟨List.Sublist.slnil, fun _ _ _ mem => absurd mem List.not_mem_nil⟩)
    (fun _ clocked effect => clocked.call effect) calls

/-! ### Frames in flight -/

/-- What a slot tells of its frame while the clock reads `now`. -/
theorem times_of_tells {slot : Slot} {life : List Deed} {now : Instant} (tells : slot.Tells life)
    (stage : slot.stage ≠ .ready)
    (forward : (life.filterMap Deed.reading? ++ [now]).Pairwise (· ≤ ·)) :
    slot.times.predicted ≤ now ∧
      (slot.stage = .begun → slot.times.predicted ≤ slot.times.begun ∧ slot.times.begun ≤ now) := by
  obtain ⟨p, -, -, rfl⟩ := tells.own
  unfold Slot.life at forward
  -- the wake-up is only said, so at each stage the readings are those of the other milestones
  cases reached : slot.stage with
  | ready => exact absurd reached stage
  | predicted | waitLeft =>
    rw [reached] at forward
    have order : [slot.times.predicted, now].Pairwise (· ≤ ·) := forward
    have toNow := List.rel_of_pairwise_cons order (List.mem_singleton_self now)
    exact ⟨toNow, fun begun => by cases begun⟩
  | begun =>
    rw [reached] at forward
    have order : [slot.times.predicted, slot.times.begun, now].Pairwise (· ≤ ·) := forward
    simp only [List.pairwise_cons, List.mem_cons, forall_eq_or_imp] at order
    obtain ⟨⟨toBegin, toNow, -⟩, ⟨fromBegin, -⟩, -⟩ := order
    exact ⟨toNow, fun _ => ⟨toBegin, fromBegin⟩⟩

/-- On a clock that has not gone back until `now`, the frame in a slot is in order. -/
theorem order_of_held {c : Config} {s₀ : Scheduler n} (created : create n c = .ok s₀)
    (calls : List (Instant × Call)) {now : Instant} {id : FrameId} {slot : Slot}
    (forward : (clockReadings (s₀.history calls) ++ [now]).Pairwise (· ≤ ·))
    (held : (s₀.run calls).frame? id = some slot) (stage : slot.stage ≠ .ready) :
    (∃ p : Prediction, p.displayTime = slot.displayTime ∧
      lifeOf (s₀.history calls) id = slot.life p ∧
      (p.displayTime.toNat < horizon → p.InOrder slot.times.predicted slot.deliveryTime)) ∧
    slot.times.predicted ≤ now ∧
      (slot.stage = .begun → slot.times.predicted ≤ slot.times.begun ∧ slot.times.begun ≤ now) := by
  have tells := (told_run created calls).tells id slot held
  have clocked := clocked_run created calls id
  refine ⟨?_, times_of_tells tells stage (forward.sublist (clocked.read.append_right [now]))⟩
  obtain ⟨p, display, -, life⟩ := tells.own
  refine ⟨p, display, life, clocked.planned _ p _ ?_⟩
  rw [life]
  cases reached : slot.stage with
  | ready => exact absurd reached stage
  | predicted | waitLeft | begun => simp [Slot.life, reached]

/-! ### Frames that end -/

/-- The beginning is read off the clock, so the draw time is what it says. The CPU time starts with
a time that is only said. -/
theorem inOrder_deliveryReport {s : Scheduler n} {id : FrameId} {slot : Slot} {now : Instant}
    {p : Prediction} (aim : p.displayTime = slot.displayTime)
    (planned : p.displayTime.toNat < horizon → p.InOrder slot.times.predicted slot.deliveryTime)
    (begun : slot.times.predicted ≤ slot.times.begun) (ended : slot.times.begun ≤ now) :
    (s.deliveryReport id (slot.stamped now)).InOrder p where
  aim := aim
  planned := fun below => planned (by rw [aim]; exact below)
  begun := begun
  ended := ended
  draw := by
    show slot.times.begun.toNat + (now.since slot.times.begun).toNat = now.toNat
    rw [Instant.toNat_since]
    exact Nat.add_sub_cancel' (Instant.le_iff.mp ended)
  cpu := by
    intro before
    show slot.times.woke.toNat + (slot.times.begun.since slot.times.woke).toNat = _
    rw [Instant.toNat_since]
    exact Nat.add_sub_cancel' (Instant.le_iff.mp before)
  noCpu := by
    intro after
    show slot.times.begun.since slot.times.woke = .zero
    rw [Span.eq_zero_iff, Instant.toNat_since]
    exact Nat.sub_eq_zero_of_le (Nat.le_of_lt (Instant.lt_iff.mp after))

/-- **Timelines**: if the clock has not gone back until a frame is delivered or dropped, the report
on the frame tells its life in order. The plan is the one that its prediction returned. What the
clock reads while a call does not ask for it, what the application says of its wake-ups, and what is
done to other frames makes no difference. -/
theorem timelines_in_order {c : Config} {s₀ : Scheduler n} (created : create n c = .ok s₀)
    (calls : List (Instant × Call)) (now : Instant) (id : FrameId)
    (forward : (clockReadings (s₀.history calls) ++ [now]).Pairwise (· ≤ ·)) :
    (∀ d, ((s₀.run calls).deliver id now).result = .ok d →
      ∃ p, d.times.delivered = now ∧ d.InOrder p ∧
        lifeOf (s₀.history calls) id = [.predicted d.times.predicted p d.deliveryTime,
          .woke d.times.woke, .began d.times.begun]) ∧
    (∀ d, ((s₀.run calls).discard id now).result = .ok d →
      ∃ p deliveryTime, d.times.delivered = now ∧ d.InOrder p deliveryTime ∧
        ((d.stage = .waitLeft ∧
          lifeOf (s₀.history calls) id = [.predicted d.times.predicted p deliveryTime,
            .woke d.times.woke]) ∨
        (d.stage = .begun ∧
          lifeOf (s₀.history calls) id = [.predicted d.times.predicted p deliveryTime,
            .woke d.times.woke, .began d.times.begun]))) := by
  refine ⟨fun d returned => ?_, fun d returned => ?_⟩
  · obtain ⟨slot, held, stage, rfl⟩ := deliver_returned returned
    obtain ⟨⟨p, aim, life, planned⟩, -, order⟩ :=
      order_of_held created calls forward held (by rw [stage]; decide)
    obtain ⟨begun, ended⟩ := order stage
    refine ⟨p, rfl, inOrder_deliveryReport aim planned begun ended, ?_⟩
    rw [life, Slot.life, stage]
    rfl
  · obtain ⟨slot, held, stage, rfl⟩ := discard_returned returned
    obtain ⟨⟨p, -, life, planned⟩, ended, order⟩ :=
      order_of_held created calls forward held (by rcases stage with h | h <;> rw [h] <;> decide)
    refine ⟨p, slot.deliveryTime, rfl, ⟨planned, ended, order⟩, ?_⟩
    rcases stage with waiting | begun
    · rw [Slot.life, waiting] at life
      exact Or.inl ⟨waiting, life⟩
    · rw [Slot.life, begun] at life
      exact Or.inr ⟨begun, life⟩

/-- A run of two frames on a clock that does not go back. What it reads while it is not asked makes
no difference. Frame 1 is begun before the time at which the application says it woke up. -/
def forwardRun : List (Instant × Call) :=
  [(⟨99000000⟩, .ingest .owner ⟨⟨100000000⟩, ⟨11111111⟩, ⟨1000000⟩⟩), (⟨10000000⟩, .predict),
    (⟨20000000⟩, .predict), (.zero, .mark ⟨1⟩ .wakeUp ⟨42000000⟩),
    (⟨30000000⟩, .mark ⟨1⟩ .begin .zero), (⟨77000000⟩, .mark ⟨2⟩ .wakeUp ⟨25000000⟩)]

theorem timelines_in_order_of_two_frames :
    (∃ d p, (((initial .conservative Nat.two_pos : Scheduler 2).run forwardRun).deliver ⟨1⟩
      ⟨50000000⟩).result = .ok d ∧ d.InOrder p ∧ p.InOrder ⟨10000000⟩ d.deliveryTime ∧
      d.cpuSample = .zero) ∧
    ∃ d p deliveryTime, (((initial .conservative Nat.two_pos : Scheduler 2).run forwardRun).discard
      ⟨2⟩ ⟨50000000⟩).result = .ok d ∧ d.InOrder p deliveryTime ∧ d.stage = .waitLeft := by
  have readings : clockReadings ((initial .conservative Nat.two_pos : Scheduler 2).history
      forwardRun) = [⟨10000000⟩, ⟨20000000⟩, ⟨30000000⟩] := rfl
  have timelines := fun id => timelines_in_order (create_conservative Nat.two_pos) forwardRun
    ⟨50000000⟩ id (by rw [readings]; decide)
  constructor
  · obtain ⟨p, -, order, -⟩ := (timelines ⟨1⟩).1 _ rfl
    exact ⟨_, p, rfl, order, order.planned (by decide), order.noCpu (by decide)⟩
  · obtain ⟨p, deliveryTime, -, order, -⟩ := (timelines ⟨2⟩).2 _ rfl
    exact ⟨_, p, deliveryTime, rfl, order, rfl⟩

end Scheduler

end FramePacing

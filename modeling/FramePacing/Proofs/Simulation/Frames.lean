import FramePacing.Proofs.Scheduler.Consistent
import FramePacing.Simulation.Application

/-!
# Simulated frames step by step

A simulated frame is a sequence of small parts, each of which reads or moves the time, leaves
something on the trail, or makes a call of the scheduler, and any of which may be the last one. What
a part gives and leaves if no fault ends it is `Returns`; one lemma for each part and one for
sequences of them then run a whole frame on paper.

`Launch` collects what has to be so for the next frame to go through. Everything that the frame does
follows from it: the frame returns exactly if there is a launch, and a refresh to show it if it is
delivered, and then its outcome, the application afterwards and the trail are those of the launch
(`start_returns_iff`, `discard_returns_iff`, `deliver_returns_iff`).
-/

namespace FramePacing

namespace FrameM

variable {α β : Type} {p q : Progress}

/-! ### The parts of a frame -/

/-- Run on `p`, the part of a frame gives `a` and leaves `q`. -/
def Returns (x : FrameM α) (p : Progress) (a : α) (q : Progress) : Prop := x.run p = (.ok a, q)

theorem run_bind (x : FrameM α) (f : α → FrameM β) (p : Progress) :
    (x >>= f).run p = match x.run p with
      | (.ok a, r) => (f a).run r
      | (.error e, r) => (.error e, r) := by
  show ExceptT.bindCont f (x.run p).1 (x.run p).2 = _
  cases x.run p with
  | mk result r => cases result <;> rfl

@[simp] theorem returns_bind_iff {x : FrameM α} {f : α → FrameM β} {b : β} :
    (x >>= f).Returns p b q ↔ ∃ a r, x.Returns p a r ∧ (f a).Returns r b q := by
  unfold Returns
  rw [run_bind]
  cases x.run p with
  | mk result r =>
    cases result with
    | error e =>
      constructor
      · rintro ⟨⟩
      · rintro ⟨_, _, ⟨⟩, -⟩
    | ok a =>
      constructor
      · exact fun h => ⟨a, r, rfl, h⟩
      · rintro ⟨_, _, ⟨⟩, h⟩
        exact h

/-- A part of a frame leaves no choice. -/
theorem Returns.unique {x : FrameM α} {a a' : α} {q' : Progress} (h : x.Returns p a q)
    (h' : x.Returns p a' q') : a = a' ∧ q = q' := by
  have same := h.symm.trans h'
  rw [Prod.mk.injEq, Except.ok.injEq] at same
  exact same

@[simp] theorem returns_pure_iff {a b : α} :
    (pure a : FrameM α).Returns p b q ↔ a = b ∧ p = q := by
  show (Except.ok a, p) = (Except.ok b, q) ↔ _
  rw [Prod.mk.injEq, Except.ok.injEq]

@[simp] theorem returns_lift_iff {x : Except Fault α} {a : α} :
    (liftM x : FrameM α).Returns p a q ↔ x = .ok a ∧ p = q := by
  show (x, p) = (Except.ok a, q) ↔ _
  rw [Prod.mk.injEq]

@[simp] theorem returns_modify_iff {f : Progress → Progress} {u : Unit} :
    (modify f : FrameM Unit).Returns p u q ↔ f p = q := by
  show (Except.ok (), f p) = (Except.ok u, q) ↔ _
  simp

@[simp] theorem returns_emit_iff {x : Emission} {u : Unit} :
    (emit x).Returns p u q ↔ { p with trail := p.trail ++ [x] } = q :=
  returns_modify_iff

@[simp] theorem returns_now_iff {t : Instant} : now.Returns p t q ↔ p.app.now = t ∧ p = q := by
  show (Except.ok p.app.now, p) = (Except.ok t, q) ↔ _
  rw [Prod.mk.injEq, Except.ok.injEq]

@[simp] theorem returns_display_iff {d : Display} :
    display.Returns p d q ↔ p.app.display = d ∧ p = q := by
  show (Except.ok p.app.display, p) = (Except.ok d, q) ↔ _
  rw [Prod.mk.injEq, Except.ok.injEq]

/-- What a tracer leaves of an event on the trail. -/
def traced (t : Tracer) (e : Event) : List Emission := if t.forwards then [.event e] else []

@[simp] theorem returns_trace_iff {t : Tracer} {e : Event} {u : Unit} :
    (trace t e).Returns p u q ↔ { p with trail := p.trail ++ traced t e } = q := by
  unfold trace traced
  split <;> simp

@[simp] theorem returns_elapse_iff {d : Span} {u : Unit} :
    (elapse d).Returns p u q ↔
      { p with app := { p.app with now := p.app.now.wrappingAfter d } } = q :=
  returns_modify_iff

@[simp] theorem returns_sleepUntil_iff {goal : Instant} {u : Unit} :
    (sleepUntil goal).Returns p u q ↔
      p.app.now ≤ goal ∧ { p with app := { p.app with now := goal } } = q := by
  have run : (sleepUntil goal).run p = ((Clock.advanceManual p.app.now goal).1,
      { p with app := { p.app with now := (Clock.advanceManual p.app.now goal).2 } }) := rfl
  unfold Returns
  rw [run, Prod.mk.injEq, Clock.advanceManual]
  by_cases h : p.app.now ≤ goal
  · simp [h]
  · simp [h]

@[simp] theorem returns_call_iff {f : Scheduler 2 → Instant → Step 2 α} {a : α} :
    (call f).Returns p a q ↔ (f p.app.scheduler p.app.now).result = .ok a ∧
      { app := { p.app with scheduler := (f p.app.scheduler p.app.now).next },
        trail := p.trail ++ (f p.app.scheduler p.app.now).notes.map .note } = q := by
  have run : (call f).run p = ((f p.app.scheduler p.app.now).result,
      { app := { p.app with scheduler := (f p.app.scheduler p.app.now).next },
        trail := p.trail ++ (f p.app.scheduler p.app.now).notes.map .note }) := rfl
  unfold Returns
  rw [run, Prod.mk.injEq]

@[simp] theorem returns_mark_iff {t : Tracer} {id : FrameId} {milestone : Milestone} {u : Unit} :
    (mark t id milestone).Returns p u q ↔
      (p.app.scheduler.mark id milestone p.app.now p.app.now).result = .ok () ∧
      { app := { p.app with
          scheduler := (p.app.scheduler.mark id milestone p.app.now p.app.now).next }
        trail := p.trail ++
          (p.app.scheduler.mark id milestone p.app.now p.app.now).notes.map .note ++
          traced t (.reached id milestone p.app.now) } = q := by
  unfold mark
  simp only [returns_bind_iff, returns_now_iff, returns_call_iff, returns_trace_iff]
  constructor
  · rintro ⟨_, _, ⟨rfl, rfl⟩, _, _, ⟨marked, rfl⟩, rfl⟩
    exact ⟨marked, rfl⟩
  · rintro ⟨marked, rfl⟩
    exact ⟨_, _, ⟨rfl, rfl⟩, _, _, ⟨marked, rfl⟩, rfl⟩

end FrameM

/-! ### What a frame does that nothing stands in the way of -/

namespace Workload

/-- When the application wakes up for a frame. -/
def woke (w : Workload) (p : Prediction) : Instant := p.wakeUpTime.wrappingAfter w.wakeDelay

/-- When it begins the work. -/
def begun (w : Workload) (p : Prediction) : Instant := (w.woke p).wrappingAfter w.cpu

/-- When the work is done. -/
def done (w : Workload) (p : Prediction) : Instant := (w.begun p).wrappingAfter w.draw

end Workload

/-- The next frame of an application, if nothing stands in its way. -/
structure Launch (a : Application) where
  /-- What the display reports. -/
  sample : DisplaySample
  /-- The plan of the frame. -/
  booking : Booking
  /-- Its id. -/
  id : FrameId
  /-- The report is the display's. -/
  reported : a.display.report a.now = .ok sample
  /-- The id is the next one. -/
  counted : a.scheduler.counter.next? = some id
  /-- The plan is made from the report. -/
  planned : (a.scheduler.ingest sample).plan a.now = .ok booking
  /-- The slot of the frame is free. -/
  free : (a.scheduler.ring.slot id).isFree
  /-- Its wake-up time has not passed. -/
  ahead : a.now ≤ booking.wakeUpTime

namespace Launch

variable {a : Application} (l : Launch a) (t : Tracer) (w : Workload)

/-- What the application is told of the frame. -/
def prediction : Prediction := l.booking.prediction l.id

/-- The scheduler once the frame is planned. -/
def scheduler : Scheduler 2 := (a.scheduler.ingest l.sample).afterPredict l.id l.booking a.now

/-- The record of the frame once its work has begun. -/
def slot : Slot :=
  ((l.booking.slot l.id a.now).woken (w.woke l.prediction)).started (w.begun l.prediction)

/-- The application then. -/
def working : Application :=
  { scheduler := l.scheduler.withFrame l.id (l.slot w), now := w.begun l.prediction,
    display := a.display }

/-- What has been logged and traced until then. -/
def trail : List Emission :=
  FrameM.traced t (.sampled a.now l.sample) ++
  ((a.scheduler.ingest l.sample).predictNotes l.id).map .note ++
  FrameM.traced t (.predicted l.prediction a.now) ++
  [.note (.mark l.id .wakeUp)] ++ FrameM.traced t (.reached l.id .wakeUp (w.woke l.prediction)) ++
  [.note (.mark l.id .begin)] ++ FrameM.traced t (.reached l.id .begin (w.begun l.prediction))

/-- The report on the frame, if it is dropped. -/
def drop : Discarded := Scheduler.discardReport l.id ((l.slot w).stamped (w.begun l.prediction))

/-- The application after the drop. -/
def dropped : Application :=
  { scheduler := l.scheduler.withFrame l.id ((l.slot w).stamped (w.begun l.prediction)).freed
    now := w.begun l.prediction, display := a.display }

/-- The report on the frame, if it is delivered. -/
def delivery : Delivered :=
  l.scheduler.deliveryReport l.id ((l.slot w).stamped (w.done l.prediction))

/-- The application after the delivery. -/
def delivered : Application :=
  { scheduler :=
      { l.scheduler.withFrame l.id ((l.slot w).stamped (w.done l.prediction)).freed with
        latency := (l.delivery w).updated }
    now := w.done l.prediction, display := a.display }

/-- The outcome of the frame, if it is delivered and shown at `shown`. -/
def outcome (shown : Instant) : Outcome := ⟨l.prediction, .delivered (l.delivery w), some shown⟩

/-- What is logged in the end of a frame that is shown late. -/
def lateNotes (shown : Instant) : List Note :=
  if (l.outcome w shown).shownLate then [.missed l.id (shown.since l.prediction.displayTime)]
  else []

/-- What has been logged and traced of a frame that is dropped. -/
def dropTrail : List Emission :=
  l.trail t w ++ [.note (.discard l.id)] ++ FrameM.traced t (.ofDiscarded (l.drop w))

/-- What has been logged and traced of a frame that is delivered. -/
def deliveryTrail (shown : Instant) : List Emission :=
  l.trail t w ++ [.note (.deliver l.id), .note (.delivered (l.delivery w))] ++
  FrameM.traced t (.delivered (.ofReport (l.delivery w))) ++ (l.lateNotes w shown).map .note

/-! The calls of the scheduler, one after the other. -/

theorem predict_eq : (a.scheduler.ingest l.sample).predict a.now =
    { next := l.scheduler, result := .ok l.prediction,
      notes := (a.scheduler.ingest l.sample).predictNotes l.id } :=
  Scheduler.predict_eq l.counted l.planned l.free

theorem wakeUp_eq (now : Instant) : l.scheduler.mark l.id .wakeUp now now =
    { next := l.scheduler.withFrame l.id ((l.booking.slot l.id a.now).woken now)
      result := .ok (), notes := [.mark l.id .wakeUp] } := by
  have held : l.scheduler.frame? l.id = some (l.booking.slot l.id a.now) :=
    Ring.find?_put_self _ rfl
  exact Scheduler.wakeUp_eq held rfl

theorem begin_eq (woke now : Instant) :
    (l.scheduler.withFrame l.id ((l.booking.slot l.id a.now).woken woke)).mark l.id .begin now now =
      { next := l.scheduler.withFrame l.id (((l.booking.slot l.id a.now).woken woke).started now)
        result := .ok (), notes := [.mark l.id .begin] } := by
  have held : (l.scheduler.withFrame l.id ((l.booking.slot l.id a.now).woken woke)).frame? l.id =
      some ((l.booking.slot l.id a.now).woken woke) := l.scheduler.frame?_withFrame_self rfl
  rw [Scheduler.begin_eq held rfl, Scheduler.withFrame_withFrame]

theorem frame?_working : (l.working w).scheduler.frame? l.id = some (l.slot w) :=
  l.scheduler.frame?_withFrame_self rfl

theorem discard_eq : (l.working w).scheduler.discard l.id (w.begun l.prediction) =
    { next := (l.dropped w).scheduler, result := .ok (l.drop w), notes := [.discard l.id] } := by
  rw [Scheduler.discard_eq (l.frame?_working w) (Or.inr rfl)]
  simp [working, dropped, drop]

theorem deliver_eq : (l.working w).scheduler.deliver l.id (w.done l.prediction) =
    { next := (l.delivered w).scheduler, result := .ok (l.delivery w),
      notes := [.deliver l.id, .delivered (l.delivery w)] } := by
  rw [Scheduler.deliver_eq (l.frame?_working w) rfl]
  simp [working, delivered, delivery]

end Launch

namespace FrameM

variable {t : Tracer} {w : Workload} {a : Application} {trail : List Emission} {q : Progress}

/-- The frame is begun. -/
theorem start_run (l : Launch a) (t : Tracer) (w : Workload) (trail : List Emission) :
    (start t w).Returns ⟨a, trail⟩ l.prediction ⟨l.working w, trail ++ l.trail t w⟩ := by
  unfold start
  simp only [returns_bind_iff, returns_now_iff, returns_display_iff, returns_lift_iff,
    returns_modify_iff, returns_trace_iff, returns_elapse_iff, returns_sleepUntil_iff,
    returns_mark_iff, returns_call_iff, returns_pure_iff, and_assoc, exists_and_left,
    exists_eq_left', exists_const]
  refine ⟨l.sample, l.reported, l.prediction, ?_⟩
  have named : l.prediction.id = l.id := rfl
  simp only [l.predict_eq, l.wakeUp_eq, l.begin_eq, named, true_and]
  refine ⟨l.ahead, ?_⟩
  simp [Launch.trail, Launch.working, Launch.slot, Workload.woke, Workload.begun]

/-- The frame is dropped. -/
theorem discard_run (l : Launch a) (t : Tracer) (w : Workload) (trail : List Emission) :
    (discard t w).Returns ⟨a, trail⟩ ⟨l.prediction, .discarded (l.drop w), none⟩
      ⟨l.dropped w, trail ++ l.dropTrail t w⟩ := by
  unfold discard
  simp only [returns_bind_iff, returns_trace_iff, returns_call_iff, returns_pure_iff, and_assoc,
    exists_and_left, exists_eq_left', exists_const]
  refine ⟨l.prediction, _, start_run l t w trail, l.drop w, ?_⟩
  have now : (l.working w).now = w.begun l.prediction := rfl
  have named : l.prediction.id = l.id := rfl
  simp only [now, named, l.discard_eq, true_and]
  simp [Launch.dropped, Launch.working, Launch.dropTrail]

/-- The frame is delivered, if some refresh shows it. -/
theorem deliver_run (l : Launch a) (t : Tracer) (w : Workload) (trail : List Emission)
    {shown : Instant} (shows : a.display.presentation (w.done l.prediction) = .ok shown) :
    (deliver t w).Returns ⟨a, trail⟩ (l.outcome w shown)
      ⟨l.delivered w, trail ++ l.deliveryTrail t w shown⟩ := by
  unfold deliver
  simp only [returns_bind_iff, returns_trace_iff, returns_call_iff, returns_elapse_iff,
    returns_display_iff, returns_lift_iff, and_assoc, exists_and_left, exists_eq_left',
    exists_const]
  refine ⟨l.prediction, _, start_run l t w trail, l.delivery w, ?_⟩
  have now : (l.working w).now.wrappingAfter w.draw = w.done l.prediction := rfl
  have named : l.prediction.id = l.id := rfl
  simp only [now, named, l.deliver_eq, true_and]
  refine ⟨shown, shows, ?_⟩
  have result : (⟨l.prediction, .delivered (l.delivery w), some shown⟩ : Outcome) =
      l.outcome w shown := rfl
  rw [result]
  by_cases late : (l.outcome w shown).shownLate
  · -- what is said of a late frame is a difference that exists
    have after : l.prediction.displayTime.toNat < shown.toNat := by
      simpa [Launch.outcome, Outcome.shownLate, Instant.lt_iff] using late
    have difference := Instant.sinceExact_of_le (Instant.le_iff.mpr (Nat.le_of_lt after))
    rw [if_pos late]
    refine returns_bind_iff.mpr ⟨_, _, returns_lift_iff.mpr ⟨difference, rfl⟩, ?_⟩
    refine returns_bind_iff.mpr ⟨(), _, returns_emit_iff.mpr rfl, ?_⟩
    simp [late, Launch.delivered, Launch.working, Launch.deliveryTrail, Launch.lateNotes]
  · simp [late, Launch.delivered, Launch.working, Launch.deliveryTrail, Launch.lateNotes]

/-! ### What a frame that returned has done -/

/-- The work on a frame is begun exactly if nothing stands in its way. -/
theorem start_returns_iff {p : Prediction} :
    (start t w).Returns ⟨a, trail⟩ p q ↔
      ∃ l : Launch a, p = l.prediction ∧ q = ⟨l.working w, trail ++ l.trail t w⟩ := by
  constructor
  · intro h
    have steps := h
    unfold start at steps
    simp only [returns_bind_iff, returns_now_iff, returns_display_iff, returns_lift_iff,
      returns_modify_iff, returns_trace_iff, returns_elapse_iff, returns_sleepUntil_iff,
      returns_mark_iff, returns_call_iff, returns_pure_iff, and_assoc, exists_and_left,
      exists_eq_left', exists_const] at steps
    obtain ⟨sample, reported, p', predicted, asleep, -⟩ := steps
    obtain ⟨b, counted, planned, free, told, -⟩ := Scheduler.predict_returned predicted
    have ahead : a.now ≤ b.wakeUpTime := by
      rw [told] at asleep
      exact asleep
    let l : Launch a := ⟨sample, b, p'.id, reported, counted, planned, free, ahead⟩
    exact ⟨l, h.unique (start_run l t w trail)⟩
  · rintro ⟨l, rfl, rfl⟩
    exact start_run l t w trail

/-- A frame is dropped exactly if nothing stands in its way. -/
theorem discard_returns_iff {o : Outcome} :
    (discard t w).Returns ⟨a, trail⟩ o q ↔
      ∃ l : Launch a, o = ⟨l.prediction, .discarded (l.drop w), none⟩ ∧
        q = ⟨l.dropped w, trail ++ l.dropTrail t w⟩ := by
  constructor
  · intro h
    obtain ⟨p, r, started, -⟩ := returns_bind_iff.mp h
    obtain ⟨l, -, -⟩ := start_returns_iff.mp started
    exact ⟨l, h.unique (discard_run l t w trail)⟩
  · rintro ⟨l, rfl, rfl⟩
    exact discard_run l t w trail

/-- A frame is delivered exactly if nothing stands in its way and some refresh shows it. -/
theorem deliver_returns_iff {o : Outcome} :
    (deliver t w).Returns ⟨a, trail⟩ o q ↔
      ∃ (l : Launch a) (shown : Instant),
        a.display.presentation (w.done l.prediction) = .ok shown ∧ o = l.outcome w shown ∧
        q = ⟨l.delivered w, trail ++ l.deliveryTrail t w shown⟩ := by
  constructor
  · intro h
    have steps := h
    unfold deliver at steps
    simp only [returns_bind_iff, returns_display_iff, returns_lift_iff, returns_trace_iff,
      returns_elapse_iff, returns_call_iff, and_assoc, exists_and_left, exists_eq_left',
      exists_const] at steps
    obtain ⟨p, r, started, report, delivered, shown, shows, -⟩ := steps
    obtain ⟨l, rfl, rfl⟩ := start_returns_iff.mp started
    have shows : a.display.presentation (w.done l.prediction) = .ok shown := by
      have same : (l.working w).scheduler.deliver l.prediction.id
          ((l.working w).now.wrappingAfter w.draw) = _ := l.deliver_eq w
      rw [same] at delivered
      cases delivered
      exact shows
    exact ⟨l, shown, shows, h.unique (deliver_run l t w trail shows)⟩
  · rintro ⟨l, shown, shows, rfl, rfl⟩
    exact deliver_run l t w trail shows

end FrameM

/-- How things stand once the work on a frame has begun: the frame was planned as `b` from the
display's report `sample`, the application slept and woke up, and nothing else has changed. -/
structure Begun (a : Application) (w : Workload) (sample : DisplaySample) (b : Booking)
    (p : Prediction) (a' : Application) : Prop where
  /-- The report is the display's. -/
  reported : a.display.report a.now = .ok sample
  /-- The plan is made from it. -/
  planned : (a.scheduler.ingest sample).plan a.now = .ok b
  /-- The application is told of the plan. -/
  told : p = b.prediction p.id
  /-- It is asleep until the time it was told. -/
  asleep : a.now ≤ p.wakeUpTime
  /-- Since then it has woken up and begun. -/
  now : a'.now = w.begun p
  /-- The display is the same. -/
  display : a'.display = a.display
  /-- The estimates are the same. -/
  latency : a'.scheduler.latency = a.scheduler.latency
  /-- The frame is in flight, with its plan and the times of its milestones. -/
  frame : a'.scheduler.frame? p.id =
    some (((b.slot p.id a.now).woken (w.woke p)).started (w.begun p))

theorem Launch.begun {a : Application} (l : Launch a) (w : Workload) :
    Begun a w l.sample l.booking l.prediction (l.working w) :=
  ⟨l.reported, l.planned, rfl, l.ahead, rfl, rfl, rfl, l.frame?_working w⟩

/-- The report on a delivered frame is the scheduler's, and the display in force shows the frame. -/
theorem FrameM.deliver_returns {t : Tracer} {w : Workload} {a : Application}
    {trail : List Emission} {q : Progress} {o : Outcome}
    (h : (deliver t w).Returns ⟨a, trail⟩ o q) :
    ∃ sample b a' report shown, Begun a w sample b o.prediction a' ∧
      report = a'.scheduler.deliveryReport o.prediction.id
        ((((b.slot o.prediction.id a.now).woken (w.woke o.prediction)).started
          (w.begun o.prediction)).stamped (w.done o.prediction)) ∧
      a.display.presentation report.times.delivered = .ok shown ∧
      o.ending = .delivered report ∧ o.presentedAt = some shown := by
  obtain ⟨l, shown, shows, rfl, -⟩ := deliver_returns_iff.mp h
  exact ⟨l.sample, l.booking, l.working w, l.delivery w, shown, l.begun w, rfl, shows, rfl, rfl⟩

/-- A frame has an outcome exactly if it was run to its end. -/
theorem Application.play_eq_ok_iff {frame : FrameM Outcome} {a : Application} {o : Outcome} :
    (play frame a).result = .ok o ↔ ∃ q, frame.Returns ⟨a, []⟩ o q := by
  show (frame.run ⟨a, []⟩).1 = .ok o ↔ _
  constructor
  · exact fun h => ⟨(frame.run ⟨a, []⟩).2, Prod.ext h rfl⟩
  · rintro ⟨q, h⟩
    exact congrArg Prod.fst h

theorem Application.play_eq_of_returns {frame : FrameM Outcome} {a : Application} {o : Outcome}
    {q : Progress} (h : frame.Returns ⟨a, []⟩ o q) :
    play frame a = ⟨q.app, .ok o, q.trail⟩ := by
  unfold FrameM.Returns at h
  simp [play, h]

namespace Launch

open Application

variable {a : Application} (l : Launch a) (t : Tracer) (w : Workload)

/-- What becomes of the frame, if it is dropped. -/
theorem discardNext_eq : a.discardNext t w =
    ⟨l.dropped w, .ok ⟨l.prediction, .discarded (l.drop w), none⟩, l.dropTrail t w⟩ :=
  play_eq_of_returns (FrameM.discard_run l t w [])

/-- What becomes of the frame, if it is delivered. -/
theorem deliverNext_eq {shown : Instant}
    (shows : a.display.presentation (w.done l.prediction) = .ok shown) :
    a.deliverNext t w =
      ⟨l.delivered w, .ok (l.outcome w shown), l.deliveryTrail t w shown⟩ :=
  play_eq_of_returns (FrameM.deliver_run l t w [] shows)

end Launch

end FramePacing

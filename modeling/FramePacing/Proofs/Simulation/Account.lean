import FramePacing.Proofs.Recording.Truncation
import FramePacing.Proofs.Simulation.Presentation
import Mathlib.Data.List.Forall2

/-!
# The recording of a session

A recorder behind the tracer of an application takes down what its frames trace. If no fault ends a
frame, the recording is an account of the session (`recording_tells_session`): read back, it gives
five events for each frame, in order, and each says of the frame what its outcome says of it
(`PlayedFrame.Tells`). The recorder is no party to what it takes down: without it the same frames
have the same outcomes and lead to the same application.

All of it is read off the launch of each frame. The outcome, the application afterwards and the
trail are given there in terms of the plan and the workload, and of the three only the trail knows
the tracer.
-/

namespace FramePacing

/-! ### Recordings of trails -/

/-- The recording of the frames of a history, one after another. -/
def recordingOf (frames : List PlayedFrame) : Recording :=
  frames.foldl (fun r f => r.recordAll (trailEvents f.run.trail)) {}

theorem Recording.events_recordAll (es : List Event) : (recordAll {} es).events = es := by
  have whole := decode_bytesOf_append es []
  rw [List.append_nil, decode_nil, List.append_nil] at whole
  exact whole

theorem events_recordingOf (frames : List PlayedFrame) :
    (recordingOf frames).events = frames.flatMap fun f => trailEvents f.run.trail := by
  have once : recordingOf frames =
      Recording.recordAll {} (frames.flatMap fun f => trailEvents f.run.trail) := by
    unfold Recording.recordAll
    rw [List.foldl_flatMap]
    rfl
  rw [once, Recording.events_recordAll]

@[simp] theorem trailEvents_append (trail trail' : List Emission) :
    trailEvents (trail ++ trail') = trailEvents trail ++ trailEvents trail' :=
  List.filterMap_append

@[simp] theorem trailEvents_notes (notes : List Note) :
    trailEvents (notes.map .note) = [] := by
  simp [trailEvents]

@[simp] theorem trailEvents_note_cons (n : Note) (trail : List Emission) :
    trailEvents (.note n :: trail) = trailEvents trail := rfl

@[simp] theorem trailEvents_traced (e : Event) :
    trailEvents (FrameM.traced .attached e) = [e] := rfl

/-! ### Accounts of frames -/

namespace FrameFate

/-- The frame, as its report has it. -/
def id : FrameFate → FrameId
  | .delivered d => d.id
  | .discarded d => d.id

/-- The times of its milestones. -/
def times : FrameFate → Timestamps
  | .delivered d => d.times
  | .discarded d => d.times

/-- What there is to tell of the end of a frame: its report, and of a delivery the estimates after
it. -/
def event : FrameFate → Event
  | .delivered d =>
    .delivered
      { id := d.id, times := d.times, displayTime := d.displayTime, deliveryTime := d.deliveryTime,
        period := d.period, error := d.error, cpu := d.updated.cpu, draw := d.updated.draw }
  | .discarded d => .discarded d.id d.stage d.times.delivered

end FrameFate

/-- `f.Tells es`: the frame `f` returned, and the events `es` are an account of it. They say what
the display reported when the frame began, what was predicted then, when the application woke up and
began the work, and how the frame ended. -/
def PlayedFrame.Tells (f : PlayedFrame) (es : List Event) : Prop :=
  ∃ (o : Outcome) (sample : DisplaySample), f.run.result = .ok o ∧
    f.before.display.report f.before.now = .ok sample ∧
    o.ending.id = o.prediction.id ∧ o.ending.times.predicted = f.before.now ∧
    es =
      [.sampled f.before.now sample,
        .predicted o.prediction f.before.now,
        .reached o.prediction.id .wakeUp o.ending.times.woke,
        .reached o.prediction.id .begin o.ending.times.begun,
        o.ending.event]

namespace Launch

variable {a : Application} (l : Launch a) (w : Workload)

theorem trailEvents_trail : trailEvents (l.trail .attached w) =
    [.sampled a.now l.sample, .predicted l.prediction a.now,
      .reached l.id .wakeUp (w.woke l.prediction),
      .reached l.id .begin (w.begun l.prediction)] := by
  simp [trail]

theorem tells_delivered (shown : Instant) :
    (⟨a, l.delivered w, .ok (l.outcome w shown), l.deliveryTrail .attached w shown⟩ :
      PlayedFrame).Tells (trailEvents (l.deliveryTrail .attached w shown)) := by
  refine ⟨_, l.sample, rfl, l.reported, rfl, rfl, ?_⟩
  simp only [deliveryTrail, trailEvents_append, trailEvents_trail, trailEvents_note_cons,
    trailEvents_traced, trailEvents_notes]
  rfl

theorem tells_dropped :
    (⟨a, l.dropped w, .ok ⟨l.prediction, .discarded (l.drop w), none⟩, l.dropTrail .attached w⟩ :
      PlayedFrame).Tells (trailEvents (l.dropTrail .attached w)) := by
  refine ⟨_, l.sample, rfl, l.reported, rfl, rfl, ?_⟩
  simp only [dropTrail, trailEvents_append, trailEvents_trail, trailEvents_note_cons,
    trailEvents_traced]
  rfl

end Launch

/-! ### Frames that returned -/

namespace Application

variable {a : Application} {t : Tracer} {w : Workload} {o : Outcome}

/-- A frame that is delivered has gone through its launch. -/
theorem exists_launch_of_deliverNext (returned : (a.deliverNext t w).result = .ok o) :
    ∃ (l : Launch a) (shown : Instant),
      a.display.presentation (w.done l.prediction) = .ok shown := by
  obtain ⟨q, returns⟩ := play_eq_ok_iff.mp returned
  obtain ⟨l, shown, shows, -, -⟩ := FrameM.deliver_returns_iff.mp returns
  exact ⟨l, shown, shows⟩

/-- So has a frame that is dropped. -/
theorem nonempty_launch_of_discardNext (returned : (a.discardNext t w).result = .ok o) :
    Nonempty (Launch a) := by
  obtain ⟨q, returns⟩ := play_eq_ok_iff.mp returned
  obtain ⟨l, -, -⟩ := FrameM.discard_returns_iff.mp returns
  exact ⟨l⟩

/-- The outcome of a delivered frame and the application afterwards do not know the tracer. -/
theorem deliverNext_congr (returned : (a.deliverNext t w).result = .ok o) (t' : Tracer) :
    (a.deliverNext t' w).app = (a.deliverNext t w).app ∧
      (a.deliverNext t' w).result = (a.deliverNext t w).result := by
  obtain ⟨l, shown, shows⟩ := exists_launch_of_deliverNext returned
  rw [l.deliverNext_eq t w shows, l.deliverNext_eq t' w shows]
  exact ⟨rfl, rfl⟩

theorem discardNext_congr (returned : (a.discardNext t w).result = .ok o) (t' : Tracer) :
    (a.discardNext t' w).app = (a.discardNext t w).app ∧
      (a.discardNext t' w).result = (a.discardNext t w).result := by
  obtain ⟨l⟩ := nonempty_launch_of_discardNext returned
  rw [l.discardNext_eq t w, l.discardNext_eq t' w]
  exact ⟨rfl, rfl⟩

end Application

/-- The same action with another tracer. -/
def Action.through (t : Tracer) : Action → Action
  | .deliver _ w => .deliver t w
  | .discard _ w => .discard t w
  | action => action

namespace Application

/-- Frames with an attached tracer that return tell their own account. -/
theorem frames_tell (a : Application) (actions : List Action)
    (returns : ∀ f ∈ a.frames (actions.map (Action.through .attached)),
      ∃ o, f.run.result = .ok o) :
    ∀ f ∈ a.frames (actions.map (Action.through .attached)), f.Tells (trailEvents f.run.trail) := by
  induction actions generalizing a with
  | nil =>
    intro f mem
    cases mem
  | cons action rest ih =>
    cases action with
    | deliver t w =>
      obtain ⟨⟨o, returned⟩, others⟩ := List.forall_mem_cons.mp returns
      refine List.forall_mem_cons.mpr ⟨?_, ih _ others⟩
      obtain ⟨l, shown, shows⟩ := exists_launch_of_deliverNext returned
      rw [l.deliverNext_eq .attached w shows]
      exact l.tells_delivered w shown
    | discard t w =>
      obtain ⟨⟨o, returned⟩, others⟩ := List.forall_mem_cons.mp returns
      refine List.forall_mem_cons.mpr ⟨?_, ih _ others⟩
      obtain ⟨l⟩ := nonempty_launch_of_discardNext returned
      rw [l.discardNext_eq .attached w]
      exact l.tells_dropped w
    | elapse d => exact ih _ returns
    | switch origin refreshPeriod extra => exact ih _ returns

/-- If all frames return, the tracer makes no difference to their outcomes and to the application
afterwards. -/
theorem frames_through_eq (a : Application) (actions : List Action) {t : Tracer}
    (returns : ∀ f ∈ a.frames (actions.map (Action.through t)), ∃ o, f.run.result = .ok o)
    (t' : Tracer) :
    (a.frames (actions.map (Action.through t'))).map (fun f => f.run.result) =
        (a.frames (actions.map (Action.through t))).map (fun f => f.run.result) ∧
      a.perform (actions.map (Action.through t')) = a.perform (actions.map (Action.through t)) := by
  induction actions generalizing a with
  | nil => exact ⟨rfl, rfl⟩
  | cons action rest ih =>
    have frame {r r' : FrameRun} (same : r'.app = r.app ∧ r'.result = r.result)
        (others : ∀ f ∈ r.app.frames (rest.map (Action.through t)), ∃ o, f.run.result = .ok o) :
        r'.result :: (r'.app.frames (rest.map (Action.through t'))).map (fun f => f.run.result) =
            r.result :: (r.app.frames (rest.map (Action.through t))).map (fun f => f.run.result) ∧
          r'.app.perform (rest.map (Action.through t')) =
            r.app.perform (rest.map (Action.through t)) := by
      obtain ⟨results, last⟩ := ih r.app others
      rw [same.1, same.2, results, last]
      exact ⟨rfl, rfl⟩
    cases action with
    | deliver _ w =>
      obtain ⟨⟨o, returned⟩, others⟩ := List.forall_mem_cons.mp returns
      exact frame (deliverNext_congr returned t') others
    | discard _ w =>
      obtain ⟨⟨o, returned⟩, others⟩ := List.forall_mem_cons.mp returns
      exact frame (discardNext_congr returned t') others
    | elapse d => exact ih _ returns
    | switch origin refreshPeriod extra => exact ih _ returns

/-- **Accounts**: if every frame of a session with an attached tracer returns, the recording reads
as the accounts of its frames, one after another; and the same session without a tracer has the same
outcomes and leads to the same application. -/
theorem recording_tells_session (a : Application) (actions : List Action)
    (returns : ∀ f ∈ a.frames (actions.map (Action.through .attached)),
      ∃ o, f.run.result = .ok o) :
    (∃ accounts : List (List Event),
      List.Forall₂ PlayedFrame.Tells (a.frames (actions.map (Action.through .attached))) accounts ∧
      (recordingOf (a.frames (actions.map (Action.through .attached)))).events =
        accounts.flatten) ∧
    (a.frames (actions.map (Action.through .detached))).map (fun f => f.run.result) =
      (a.frames (actions.map (Action.through .attached))).map (fun f => f.run.result) ∧
    a.perform (actions.map (Action.through .detached)) =
      a.perform (actions.map (Action.through .attached)) := by
  refine ⟨⟨_, ?_, (events_recordingOf _).trans List.flatMap_def⟩,
    frames_through_eq a actions returns .detached⟩
  rw [List.forall₂_map_right_iff, List.forall₂_same]
  exact frames_tell a actions returns

/-- A frame is dropped before the display changes, and one is delivered afterwards. -/
def twoFrames : List Action := switchingHistory ++ [.deliver .ignoring .short]

theorem recording_tells_session_two_frames :
    ∃ accounts : List (List Event), accounts.length = 2 ∧
      (recordingOf (newApplication.frames (twoFrames.map (Action.through .attached)))).events =
        accounts.flatten ∧
      newApplication.perform (twoFrames.map (Action.through .detached)) =
        newApplication.perform (twoFrames.map (Action.through .attached)) := by
  have returns : ∀ f ∈ newApplication.frames (twoFrames.map (Action.through .attached)),
      ∃ o, f.run.result = .ok o :=
    List.forall_mem_cons.mpr ⟨⟨_, rfl⟩, List.forall_mem_cons.mpr ⟨⟨_, rfl⟩, List.forall_mem_nil _⟩⟩
  obtain ⟨⟨accounts, tells, events⟩, -, last⟩ :=
    recording_tells_session newApplication twoFrames returns
  have two : (newApplication.frames (twoFrames.map (Action.through .attached))).length = 2 := rfl
  exact ⟨accounts, tells.length_eq.symm.trans two, events, last⟩

end Application

end FramePacing

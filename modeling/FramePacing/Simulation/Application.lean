import FramePacing.Scheduler.Call
import FramePacing.Simulation.Display
import FramePacing.Trace.Tracer

/-!
# Simulated applications

An application on simulated time. For each frame it passes the display's report to its scheduler,
asks for a prediction, sleeps, wakes up, begins and delivers or drops the frame, and the workload
says how long each part takes.

A frame is run on a `Progress`: the application as it stands and the trail of what was logged and
traced, in the order in which it happened. A fault ends the frame and keeps both.
-/

namespace FramePacing

/-- How long the application takes for a frame. -/
structure Workload where
  /-- From the predicted wake-up time to the wake-up. -/
  wakeDelay : Span
  /-- From the wake-up to the beginning of the work. -/
  cpu : Span
  /-- From there to the delivery. -/
  draw : Span
  deriving DecidableEq, Inhabited

namespace Workload

/-- A light frame. -/
def short : Workload := ⟨⟨20000⟩, ⟨20000⟩, ⟨1200000⟩⟩

/-- A heavy frame. -/
def long : Workload := ⟨⟨20000⟩, ⟨1000000⟩, ⟨4000000⟩⟩

end Workload

/-- How a frame ended. -/
inductive FrameFate where
  /-- It was delivered. -/
  | delivered (report : Delivered)
  /-- It was dropped after it had begun. -/
  | discarded (report : Discarded)
  deriving DecidableEq, Inhabited

/-- The outcome of a simulated frame. -/
structure Outcome where
  /-- What was predicted. -/
  prediction : Prediction
  /-- How the frame ended. -/
  ending : FrameFate
  /-- The refresh that showed it, if it was delivered. -/
  presentedAt : Option Instant
  deriving DecidableEq, Inhabited

namespace Outcome

/-- Whether the frame was shown after its predicted time. -/
def shownLate (o : Outcome) : Bool := o.presentedAt.any (o.prediction.displayTime < ·)

/-- The delivery report, if the frame was delivered. -/
def delivered? (o : Outcome) : Option Delivered :=
  match o.ending with
  | .delivered report => some report
  | .discarded _ => none

end Outcome

/-- An application on simulated time: a scheduler with two slots, on a clock moved by hand. -/
structure Application where
  /-- The scheduler. -/
  scheduler : Scheduler 2
  /-- The time. -/
  now : Instant
  /-- The display in force. -/
  display : Display

/-- Something that a frame left on the trail. -/
inductive Emission where
  /-- Something logged. -/
  | note (n : Note)
  /-- Something traced. -/
  | event (e : Event)

/-- The notes of a trail. -/
def trailNotes (trail : List Emission) : List Note :=
  trail.filterMap fun
    | .note n => some n
    | .event _ => none

/-- The events of a trail. -/
def trailEvents (trail : List Emission) : List Event :=
  trail.filterMap fun
    | .note _ => none
    | .event e => some e

/-- A frame under way. -/
structure Progress where
  /-- The application as it stands. -/
  app : Application
  /-- What happened so far. -/
  trail : List Emission

/-- A part of a frame, which a fault may cut short. -/
abbrev FrameM := ExceptT Fault (StateM Progress)

namespace FrameM

/-- The time. -/
def now : FrameM Instant := return (← get).app.now

/-- The display in force. -/
def display : FrameM Display := return (← get).app.display

/-- Leaves something on the trail. -/
def emit (x : Emission) : FrameM Unit := modify fun p => { p with trail := p.trail ++ [x] }

/-- Traces an event, if the tracer lets it through. -/
def trace (t : Tracer) (e : Event) : FrameM Unit := if t.forwards then emit (.event e) else pure ()

/-- Lets time pass, wrapping round. -/
def elapse (d : Span) : FrameM Unit :=
  modify fun p => { p with app := { p.app with now := p.app.now.wrappingAfter d } }

/-- Sleeps until an instant, which must not lie in the past. -/
def sleepUntil (goal : Instant) : FrameM Unit := do
  let (result, time) := Clock.advanceManual (← now) goal
  modify fun p => { p with app := { p.app with now := time } }
  result

/-- Takes what a scheduler's step says. -/
def adopt {α : Type} (step : Step 2 α) : FrameM α := do
  modify fun p =>
    { app := { p.app with scheduler := step.next }, trail := p.trail ++ step.notes.map .note }
  step.result

/-- Makes a call of the scheduler at the present time. -/
def call {α : Type} (f : Scheduler 2 → Instant → Step 2 α) : FrameM α := do
  let p ← get
  adopt (f p.app.scheduler p.app.now)

/-- Reports a milestone of a frame. -/
def mark (t : Tracer) (id : FrameId) (milestone : Milestone) : FrameM Unit := do
  let time ← now
  call fun s now => s.mark id milestone time now
  trace t (.reached id milestone time)

/-- Runs a frame up to the beginning of its work. -/
def start (t : Tracer) (w : Workload) : FrameM Prediction := do
  let time ← now
  let sample ← (← display).report time
  modify fun p => { p with app := { p.app with scheduler := p.app.scheduler.ingest sample } }
  trace t (.sampled time sample)
  let prediction ← call fun s now => s.predict now
  trace t (.predicted prediction time)
  sleepUntil prediction.wakeUpTime
  elapse w.wakeDelay
  mark t prediction.id .wakeUp
  elapse w.cpu
  mark t prediction.id .begin
  return prediction

/-- Runs a frame to its delivery. -/
def deliver (t : Tracer) (w : Workload) : FrameM Outcome := do
  let prediction ← start t w
  elapse w.draw
  let report ← call fun s now => s.deliver prediction.id now
  trace t (.delivered (.ofReport report))
  let shown ← (← display).presentation report.times.delivered
  let outcome : Outcome :=
    { prediction, ending := .delivered report, presentedAt := some shown }
  if outcome.shownLate then
    let late ← shown.sinceExact prediction.displayTime
    emit (.note (.missed prediction.id late))
  return outcome

/-- Runs a frame up to the beginning of its work, then drops it. -/
def discard (t : Tracer) (w : Workload) : FrameM Outcome := do
  let prediction ← start t w
  let report ← call fun s now => s.discard prediction.id now
  trace t (.ofDiscarded report)
  return { prediction, ending := .discarded report, presentedAt := none }

end FrameM

/-- What became of a simulated frame. -/
structure FrameRun where
  /-- The application afterwards. -/
  app : Application
  /-- The outcome, or the fault that ended the frame. -/
  result : Except Fault Outcome
  /-- What was logged and traced, in order. -/
  trail : List Emission

namespace Application

/-- An application whose time starts at `start`. -/
def create (c : Config) (display : Display) (start : Instant) : Except Fault Application := do
  let scheduler ← Scheduler.createValid 2 c
  return { scheduler, now := start, display }

/-- Runs a frame. -/
def play (frame : FrameM Outcome) (a : Application) : FrameRun :=
  let (result, p) := frame.run ⟨a, []⟩
  { app := p.app, result, trail := p.trail }

/-- Runs the next frame to its delivery. -/
def deliverNext (a : Application) (t : Tracer) (w : Workload) : FrameRun :=
  play (FrameM.deliver t w) a

/-- Runs the next frame up to the beginning of its work, then drops it. -/
def discardNext (a : Application) (t : Tracer) (w : Workload) : FrameRun :=
  play (FrameM.discard t w) a

/-- Lets time pass between frames, wrapping round. -/
def elapse (a : Application) (d : Span) : Application := { a with now := a.now.wrappingAfter d }

/-- Switches to another display from the next frame on. -/
def withDisplay (a : Application) (display : Display) : Application := { a with display }

end Application

end FramePacing

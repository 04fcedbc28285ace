import FramePacing.Scheduler.Basic
import FramePacing.Time.Clock

/-!
# Calls and runs

The operations of a scheduler as data. A run is a list of calls, each with what the clock reads
while it is made; calls that are refused are part of it, and the scheduler is used on after them.

A scheduler with a clock of its own makes a call with the clock's reading, and the clock notices
only those calls that read it: each reads it once or not at all (`Scheduler.readsClock`).
-/

namespace FramePacing

/-- Where a display's report comes from. All sources write the same place. -/
inductive Source where
  /-- The scheduler's owner. -/
  | owner
  /-- A handle that was given away. -/
  | handle (k : Nat)
  deriving DecidableEq, Inhabited

/-- A call of a scheduler. -/
inductive Call where
  /-- Predict the next frame. -/
  | predict
  /-- Report a milestone of a frame, with the time that the caller claims. -/
  | mark (id : FrameId) (milestone : Milestone) (reported : Instant)
  /-- Drop a frame. -/
  | discard (id : FrameId)
  /-- Deliver a frame. -/
  | deliver (id : FrameId)
  /-- Take a display's report. -/
  | ingest (source : Source) (sample : DisplaySample)
  deriving DecidableEq, Inhabited

/-- The result of a call. -/
inductive Reply where
  /-- A frame was predicted. -/
  | predicted (p : Prediction)
  /-- A milestone was recorded. -/
  | marked
  /-- A frame was dropped. -/
  | discarded (d : Discarded)
  /-- A frame was delivered. -/
  | delivered (d : Delivered)
  /-- A report was taken. -/
  | ingested
  deriving DecidableEq, Inhabited

/-- The same step with its result renamed. -/
def Step.map {n : Nat} {α β : Type} (f : α → β) (s : Step n α) : Step n β :=
  { next := s.next, result := s.result.map f, notes := s.notes }

namespace Scheduler

variable {n : Nat}

/-- Makes a call while the clock reads `now`. -/
def call (s : Scheduler n) (now : Instant) : Call → Step n Reply
  | .predict => (s.predict now).map .predicted
  | .mark id milestone reported => (s.mark id milestone reported now).map fun _ => .marked
  | .discard id => (s.discard id now).map .discarded
  | .deliver id => (s.deliver id now).map .delivered
  | .ingest _ sample => { next := s.ingest sample, result := .ok .ingested, notes := [] }

/-- Whether a call reads the clock. A call that completes a frame reads it before anything else, a
begin only once the frame is known to be in flight. -/
def readsClock (s : Scheduler n) : Call → Bool
  | .predict => s.counter.next?.isSome
  | .mark id .begin _ => (s.frame? id).isSome
  | .mark _ _ _ => false
  | .discard _ | .deliver _ => true
  | .ingest _ _ => false

/-- The scheduler after a run. -/
def run (s : Scheduler n) (calls : List (Instant × Call)) : Scheduler n :=
  calls.foldl (fun s c => (s.call c.1 c.2).next) s

end Scheduler

/-- A scheduler and the clock it reads. -/
structure ClockedScheduler (n : Nat) where
  /-- The scheduler. -/
  scheduler : Scheduler n
  /-- The clock. -/
  clock : Clock

namespace ClockedScheduler

variable {n : Nat}

/-- Makes a call with the clock's reading. -/
def call (s : ClockedScheduler n) (c : Call) :
    ClockedScheduler n × Except Fault Reply × List Note :=
  let step := s.scheduler.call s.clock.now c
  let clock := if s.scheduler.readsClock c then s.clock.afterReading else s.clock
  (⟨step.next, clock⟩, step.result, step.notes)

/-- Applies a function to the clock. -/
def withClock (s : ClockedScheduler n) (f : Clock → Clock) : ClockedScheduler n :=
  { s with clock := f s.clock }

end ClockedScheduler

end FramePacing

import FramePacing.Fault
import FramePacing.Frame.Timing

/-!
# Slots

A slot holds the record of one frame in flight. Each operation checks that the slot's stage allows
it and says how the slot looks afterwards. A slot that is freed keeps the old times and predictions;
the next reservation overwrites all of them.
-/

namespace FramePacing

/-- The record of a frame in flight. -/
structure Slot where
  /-- The frame, if the slot is not free. -/
  holder : Option FrameId := none
  /-- Where the frame stands. -/
  stage : Stage := .ready
  /-- When the frame was predicted to be shown. -/
  displayTime : Instant := .zero
  /-- The period chosen for it. -/
  period : Span := .zero
  /-- When it has to be delivered for that. -/
  deliveryTime : Instant := .zero
  /-- When its milestones were reached. -/
  times : Timestamps := {}
  deriving DecidableEq, Inhabited

/-- What a prediction writes into the slot of its frame. -/
structure Booking where
  /-- When the frame is to be shown. -/
  displayTime : Instant
  /-- The period chosen for it. -/
  period : Span
  /-- When it has to be delivered. -/
  deliveryTime : Instant
  /-- When the application is to wake up. -/
  wakeUpTime : Instant
  deriving DecidableEq, Inhabited

namespace Slot

/-- Whether the slot is free. -/
def isFree (s : Slot) : Bool := s.holder.isNone && s.stage = .ready

/-- Books a free slot for a frame, at the time of its prediction. -/
def reserve (s : Slot) (id : FrameId) (b : Booking) (now : Instant) : Except Fault Slot :=
  if s.isFree then
    .ok { holder := some id, stage := .predicted, displayTime := b.displayTime, period := b.period,
          deliveryTime := b.deliveryTime, times := { predicted := now } }
  else .error (.slotTaken id s.holder s.stage)

/-- Refuses a transition that the slot's stage does not allow. -/
def require (s : Slot) (step : Transition) : Except Fault Unit :=
  if s.stage ∈ step.sources then .ok () else .error (.wrongStage step s.holder s.stage)

theorem require_eq_ok_iff {s : Slot} {step : Transition} :
    s.require step = .ok () ↔ s.stage ∈ step.sources := by
  unfold require
  split <;> simp_all

/-- The application woke up at `woke`, as it says. -/
def wakeUp (s : Slot) (woke : Instant) : Except Fault Slot := do
  s.require .wakeUp
  return { s with stage := .waitLeft, times := { s.times with woke } }

/-- The application began the work. -/
def start (s : Slot) (now : Instant) : Except Fault Slot := do
  s.require .begin
  return { s with stage := .begun, times := { s.times with begun := now } }

/-- The slot of a frame that ends now, as it is right before it is freed. -/
def finish (s : Slot) (step : Transition) (now : Instant) : Except Fault Slot := do
  s.require step
  return { s with times := { s.times with delivered := now } }

/-- The slot after its frame has ended. -/
def freed (s : Slot) : Slot := { s with holder := none, stage := .ready }

/-- The slot in diagnostics. -/
def inspect (s : Slot) : String :=
  inspectRecord "FrameSlot"
    [("frame_id", inspectOption FrameId.inspect s.holder),
     ("state", s.stage.text),
     ("predicted_display_time", s.displayTime.inspect),
     ("predicted_display_period", s.period.inspect),
     ("predicted_delivery_time", s.deliveryTime.inspect),
     ("timestamps",
      inspectRecord "FrameTimestamps"
        [("predicted", s.times.predicted.inspect),
         ("wait_woke", s.times.woke.inspect),
         ("begin", s.times.begun.inspect),
         ("delivered", s.times.delivered.inspect)])]

end Slot

/-- The sample in diagnostics. -/
def DisplaySample.inspect (s : DisplaySample) : String :=
  inspectRecord "DisplayTimingSample"
    [("predicted_display_time", s.displayTime.inspect),
     ("predicted_display_period", s.period.inspect),
     ("extra", s.extra.inspect)]

end FramePacing

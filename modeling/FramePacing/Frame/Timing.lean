import FramePacing.Frame.Id
import FramePacing.Time.Basic

/-!
# Timing data

What a display reports, what a scheduler predicts from it, and when the milestones of a frame were
reached.
-/

namespace FramePacing

/-- A display's latest report on itself. -/
structure DisplaySample where
  /-- When it expects to show its next frame. -/
  displayTime : Instant := .zero
  /-- The refresh period it runs at, empty if it is not known. -/
  period : Span := .zero
  /-- The time it needs between delivery and display. -/
  extra : Span := .zero
  deriving DecidableEq, Inhabited

/-- What a scheduler hands to the application for its next frame. -/
structure Prediction where
  /-- The new frame. -/
  id : FrameId
  /-- When to wake up and start. -/
  wakeUpTime : Instant
  /-- When the frame is expected to be shown. -/
  displayTime : Instant
  /-- The period chosen for the frame, a whole number of display periods. -/
  period : Span
  deriving DecidableEq, Inhabited

/-- When each milestone of a frame was reached; the clock's zero until it is. -/
structure Timestamps where
  /-- When the prediction was made. -/
  predicted : Instant := .zero
  /-- When the application says it woke up. -/
  woke : Instant := .zero
  /-- When the work began, by the scheduler's clock. -/
  begun : Instant := .zero
  /-- When the frame was delivered or dropped, by the scheduler's clock. -/
  delivered : Instant := .zero
  deriving DecidableEq, Inhabited

end FramePacing

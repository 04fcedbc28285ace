import FramePacing.Frame.Stage
import FramePacing.Frame.Timing
import FramePacing.Latency

/-!
# Reports on finished frames

What a scheduler says about a frame that was delivered, and about one that was dropped.
-/

namespace FramePacing

/-- A delivered frame. -/
structure Delivered where
  /-- The frame. -/
  id : FrameId
  /-- When its milestones were reached. -/
  times : Timestamps
  /-- When it was predicted to be shown. -/
  displayTime : Instant
  /-- The period chosen for it. -/
  period : Span
  /-- When it was to be delivered. -/
  deliveryTime : Instant
  /-- How long before that time it was delivered; negative for a late frame. -/
  error : Int64
  /-- The measured time from wake-up to begin. -/
  cpuSample : Span
  /-- The measured time from begin to delivery. -/
  drawSample : Span
  /-- The estimates before this frame. -/
  previous : Estimate
  /-- The estimates after it. -/
  updated : Estimate
  deriving DecidableEq, Inhabited

/-- Whether a delivery error is that of a late frame. -/
def isLateError (error : Int64) : Bool := error < 0

/-- Whether the frame was delivered late. -/
def Delivered.late (d : Delivered) : Bool := isLateError d.error

/-- A dropped frame. -/
structure Discarded where
  /-- The frame. -/
  id : FrameId
  /-- The stage that it had reached. -/
  stage : Stage
  /-- When its milestones were reached; it was dropped at `delivered`. -/
  times : Timestamps
  deriving DecidableEq, Inhabited

end FramePacing

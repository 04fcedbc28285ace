import FramePacing.Frame.Report

/-!
# Trace events

What happens to frames, as the application that drives a scheduler sees it: one event for each
prediction, milestone, delivery, drop and display report.
-/

namespace FramePacing

/-- A delivery as it is traced. -/
structure Delivery where
  /-- The frame. -/
  id : FrameId
  /-- When its milestones were reached. -/
  times : Timestamps
  /-- When it was predicted to be shown. -/
  displayTime : Instant
  /-- When it was to be delivered. -/
  deliveryTime : Instant
  /-- The period chosen for it. -/
  period : Span
  /-- How long before that time it was delivered; negative for a late frame. -/
  error : Int64
  /-- The estimate of the CPU time after it. -/
  cpu : Span
  /-- The estimate of the draw time after it. -/
  draw : Span
  deriving DecidableEq, Inhabited

/-- What is traced of a delivery report. -/
def Delivery.ofReport (d : Delivered) : Delivery :=
  { id := d.id, times := d.times, displayTime := d.displayTime, deliveryTime := d.deliveryTime,
    period := d.period, error := d.error, cpu := d.updated.cpu, draw := d.updated.draw }

/-- Whether the delivery was late. -/
def Delivery.late (d : Delivery) : Bool := isLateError d.error

/-- A trace event. -/
inductive Event where
  /-- A frame was predicted at `madeAt`. -/
  | predicted (p : Prediction) (madeAt : Instant)
  /-- A frame reached a milestone. -/
  | reached (id : FrameId) (milestone : Milestone) (time : Instant)
  /-- A frame was delivered. -/
  | delivered (d : Delivery)
  /-- A frame was dropped. -/
  | discarded (id : FrameId) (stage : Stage) (time : Instant)
  /-- A display's report arrived. -/
  | sampled (receivedAt : Instant) (sample : DisplaySample)
  deriving DecidableEq, Inhabited

/-- What is traced of a drop report. -/
def Event.ofDiscarded (d : Discarded) : Event := .discarded d.id d.stage d.times.delivered

end FramePacing

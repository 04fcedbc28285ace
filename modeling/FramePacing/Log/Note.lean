import FramePacing.Decimal.Rounding
import FramePacing.Frame.Report
import FramePacing.Log.Record

/-!
# Notes

What a scheduler and a simulation log, as data. Each note has one record.
-/

namespace FramePacing

/-- Something that was logged. -/
inductive Note where
  /-- A prediction was asked for. -/
  | predict (id : FrameId)
  /-- A milestone was reported. -/
  | mark (id : FrameId) (milestone : Milestone)
  /-- A frame is to be dropped. -/
  | discard (id : FrameId)
  /-- A frame is to be delivered. -/
  | deliver (id : FrameId)
  /-- A prediction falls back on the configured period. -/
  | fallback (period : Span)
  /-- A frame was delivered. -/
  | delivered (report : Delivered)
  /-- A frame was shown `late` after its predicted time. -/
  | missed (id : FrameId) (late : Span)

namespace Note

/-- Where a scheduler's records come from. -/
def schedulerTarget : String := "pacer_core::pacer"

/-- Where a simulation's records come from. -/
def simulationTarget : String := "pacer_harness::sim"

/-- The level of a note. -/
def level : Note → LogLevel
  | .predict _ | .mark _ _ | .discard _ | .deliver _ => .trace
  | .fallback _ => .warn
  | .delivered _ | .missed _ _ => .debug

/-- The part of the library that makes a note. -/
def target : Note → String
  | .missed _ _ => simulationTarget
  | _ => schedulerTarget

/-- The message of a note. -/
def message : Note → String
  | .predict _ => "predict"
  | .mark _ _ => "mark_point"
  | .discard _ => "mark_discarded"
  | .deliver _ => "mark_delivered"
  | .fallback _ => "predicting before any display timing sample; using fallback period"
  | .delivered d =>
    "delivered frame " ++ fixedPlaces 2 (Span.ofDistance d.error).millis ++ "ms " ++
      if d.late then "late" else "early"
  | .missed _ late => "missed display by " ++ fixedPlaces 3 late.millis ++ "ms"

/-- The values of a note. -/
def fields : Note → List (String × LogValue)
  | .predict id | .discard id | .deliver id | .missed id _ => [("frame_id", .int id.toInt)]
  | .mark id milestone => [("frame_id", .int id.toInt), ("point", .inspected milestone.text)]
  | .fallback period => [("fallback_ms", .float period.millis)]
  | .delivered d =>
    [("frame_id", .int d.id.toInt),
     ("period_ms", .float d.period.millis),
     ("cpu_old_ms", .float d.previous.cpu.millis),
     ("cpu_new_ms", .float d.cpuSample.millis),
     ("draw_old_ms", .float d.previous.draw.millis),
     ("draw_new_ms", .float d.drawSample.millis)]

/-- The record of a note. -/
def record (n : Note) : LogRecord := ⟨n.level, n.target, n.message, n.fields⟩

end Note

end FramePacing

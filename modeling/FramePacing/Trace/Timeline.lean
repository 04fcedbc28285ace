import FramePacing.Time.Exact
import FramePacing.Trace.Json
import FramePacing.Trace.Recording
import FramePacing.Trace.Writer

/-!
# Timelines

A recording as trace viewers show it: marks, spans and counters on two tracks, one for the
application and one for the display. A delivered frame becomes three spans (the sleep, the CPU work
and the drawing), a counter with the latency estimates, and a mark that says whether it was late;
every other event becomes one mark.

The items keep their times in nanoseconds; their JSON form gives them in microseconds.
-/

namespace FramePacing

/-- Where an item is shown. -/
inductive Track where
  /-- The application's track. -/
  | application
  /-- The display's track. -/
  | display
  deriving DecidableEq, Inhabited

/-- The number of a track. -/
def Track.number : Track → Nat
  | .application => 0
  | .display => 1

/-- An item of a timeline. -/
inductive TimelineItem where
  /-- A point of a track. -/
  | mark (name category : String) (track : Track) (time : Instant) (values : List (String × Json))
  /-- A stretch of a frame on the application's track. -/
  | span (name : String) (start stop : Instant) (frame : FrameId)
  /-- Named values at a time. -/
  | counter (name : String) (time : Instant) (values : List (String × Json))

/-- The length of a span, empty if its end lies before its start. -/
def spanLength (start stop : Instant) : Span := stop.since start

@[simp] theorem toNat_spanLength (start stop : Instant) :
    (spanLength start stop).toNat = stop.toNat - start.toNat :=
  Instant.toNat_since stop start

/-- The frame id as a value of an item. -/
def FrameId.json (id : FrameId) : Json := .int id.toInt

namespace TimelineItem

/-- The JSON object of an item, its members in alphabetical order. -/
def json : TimelineItem → Json
  | .mark name category track time values =>
    .object
      [("args", .object values), ("cat", .text category), ("name", .text name),
       ("ph", .text "i"), ("pid", .int 0), ("s", .text "t"), ("tid", .int track.number),
       ("ts", .float time.micros)]
  | .span name start stop frame =>
    .object
      [("args", .object [("frame_id", frame.json)]), ("cat", .text "Frame"),
       ("dur", .float (spanLength start stop).micros), ("name", .text name), ("ph", .text "X"),
       ("pid", .int 0), ("tid", .int Track.application.number), ("ts", .float start.micros)]
  | .counter name time values =>
    .object
      [("args", .object values), ("name", .text name), ("ph", .text "C"), ("pid", .int 0),
       ("ts", .float time.micros)]

end TimelineItem

/-- The start of the CPU span: one nanosecond after the wake-up, so that viewers do not nest it into
the sleep. -/
def cpuStart (t : Timestamps) : Instant := t.woke.after ⟨1⟩

/-- The items of a delivered frame. -/
def Delivery.items (d : Delivery) : List TimelineItem :=
  [.span "sleep" d.times.predicted d.times.woke d.id,
   .span "cpu" (cpuStart d.times) d.times.begun d.id,
   .span "draw" d.times.begun d.times.delivered d.id,
   .counter "latency" d.times.delivered
     [("cpu_ms", .float d.cpu.millis), ("draw_ms", .float d.draw.millis)],
   .mark (if d.late then "late" else "early") "Frame" .application d.times.delivered
     [("display_us", .float d.displayTime.micros), ("error_us", .float (d.error.toFloat / 1e3)),
      ("frame_id", d.id.json)]]

/-- The items of an event. -/
def Event.items : Event → List TimelineItem
  | .predicted p madeAt =>
    [.mark "predict" "Pacer" .application madeAt
      [("display_us", .float p.displayTime.micros), ("frame_id", p.id.json),
       ("period_us", .float p.period.micros), ("wake_up_us", .float p.wakeUpTime.micros)]]
  | .reached id milestone time =>
    [.mark milestone.text "Frame" .application time [("frame_id", id.json)]]
  | .delivered d => d.items
  | .discarded id stage time =>
    [.mark "discarded" "Frame" .application time
      [("frame_id", id.json), ("state", .text stage.text)]]
  | .sampled receivedAt s =>
    [.mark "timing_sample" "Compositor" .display receivedAt
      [("display_us", .float s.displayTime.micros), ("extra_us", .float s.extra.micros),
       ("period_us", .float s.period.micros)]]

/-- The timeline of a recording. -/
def timeline (recording : List UInt8) : List TimelineItem := (decode recording).flatMap Event.items

/-- The text of a recording's timeline in the pieces in which it is written. -/
def timelinePieces (recording : List UInt8) : List String :=
  (Json.array ((timeline recording).map TimelineItem.json)).pieces 0

/-- Writes the timeline of a recording, and says whether all of it was taken. -/
def exportTimeline (recording : List UInt8) (w : Writer) : Bool × Writer :=
  w.putAll (timelinePieces recording)

end FramePacing

import FramePacing.Decimal.Rounding
import FramePacing.Trace.Event
import FramePacing.Trace.Writer

/-!
# Transcripts

One line of text for each event, with times in milliseconds to three places. A transcript goes to a
writer whose failures are ignored.
-/

namespace FramePacing

/-- An instant in a transcript. -/
def Instant.inTranscript (t : Instant) : String := fixedPlaces 3 t.millis

/-- A span in a transcript. -/
def Span.inTranscript (d : Span) : String := fixedPlaces 3 d.millis

namespace Event

/-- The line of an event in the pieces in which it is written. -/
def pieces : Event → List String
  | .predicted p madeAt =>
    ["[predict] frame=", p.id.text, " at=", madeAt.inTranscript, "ms wake=",
     p.wakeUpTime.inTranscript, "ms display=", p.displayTime.inTranscript, "ms period=",
     p.period.inTranscript, "ms\n"]
  | .reached id milestone time =>
    ["[point] frame=", id.text, " ", milestone.text, " at ", time.inTranscript, "ms\n"]
  | .delivered d =>
    ["[delivered] frame=", d.id.text, " ", (Span.ofDistance d.error).inTranscript, "ms ",
     if d.late then "LATE" else "early", " cpu=", d.cpu.inTranscript, "ms draw=",
     d.draw.inTranscript, "ms\n"]
  | .discarded id stage time =>
    ["[discarded] frame=", id.text, " from ", stage.text, " at ", time.inTranscript, "ms\n"]
  | .sampled receivedAt s =>
    ["[sample] at=", receivedAt.inTranscript, "ms display=", s.displayTime.inTranscript,
     "ms period=", s.period.inTranscript, "ms extra=", s.extra.inTranscript, "ms\n"]

/-- The line of an event. -/
def line (e : Event) : String := String.join e.pieces

end Event

/-- Writes the line of an event and ignores whether it fits. -/
def Writer.putEvent (w : Writer) (e : Event) : Writer := (w.putAll e.pieces).2

/-- Writes the lines of events. -/
def Writer.putEvents (w : Writer) (es : List Event) : Writer := es.foldl putEvent w

end FramePacing

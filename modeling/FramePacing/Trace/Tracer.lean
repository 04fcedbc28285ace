import FramePacing.Trace.Recording
import FramePacing.Trace.Transcript

/-!
# Tracers

A tracer passes the events of an application on to its sink, if it has one. The sink of this library
writes a transcript and a recording side by side; neither sees whether the other fails.
-/

namespace FramePacing

/-- What a tracer does with events. -/
inductive Tracer where
  /-- It has no sink. -/
  | detached
  /-- Its sink ignores all events. -/
  | ignoring
  /-- It passes events on. -/
  | attached
  deriving DecidableEq, Inhabited

/-- Whether events get through. -/
def Tracer.forwards (t : Tracer) : Bool := t = .attached

/-- A tracer in diagnostics. -/
def Tracer.inspect (_ : Tracer) : String := inspectClosed "Tracer"

/-- A transcript in diagnostics. -/
def Writer.inspect (_ : Writer) : String := inspectClosed "PrettyPrintSink"

/-- A transcript and a recording of the same events. -/
structure Sinks where
  /-- The transcript. -/
  transcript : Writer := {}
  /-- The recording. -/
  recording : Recording := {}

namespace Sinks

/-- Passes an event to both. -/
def accept (s : Sinks) (e : Event) : Sinks :=
  { transcript := s.transcript.putEvent e, recording := s.recording.record e }

/-- Passes on those events that get through a tracer. -/
def acceptAll (s : Sinks) (t : Tracer) (es : List Event) : Sinks :=
  if t.forwards then es.foldl accept s else s

end Sinks

end FramePacing

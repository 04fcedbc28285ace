import FramePacing.Frame.Report
import FramePacing.Frame.Ring
import FramePacing.Log.Note
import FramePacing.Scheduler.Plan

/-!
# The frame scheduler

A scheduler tells an application when to wake up so that its next frame is delivered just in time
for a refresh of the display, and learns from each delivered frame how long the work takes. At most
`n` frames are in flight, each in the slot of its id.

Every operation is a total function. It takes what the scheduler's clock reads at that moment, and
answers with a `Step`: the scheduler afterwards, the result or the fault for which the call was
refused, and what was logged. A refused call leaves everything as it was, but a refused prediction
has used up an id and may have logged that it fell back on the configured period.
-/

namespace FramePacing

/-- A scheduler with `n` slots. -/
structure Scheduler (n : Nat) where
  /-- Its settings. -/
  config : Config
  /-- The frames in flight. -/
  ring : Ring n
  /-- The id of the latest prediction, zero before the first. -/
  counter : FrameId
  /-- The latency estimates. -/
  latency : Estimate
  /-- The display's latest report. -/
  sample : DisplaySample
  /-- The latest display time handed out, the clock's zero before the first. -/
  lastDisplay : Instant
  /-- Whether it has said that it falls back on the configured period. -/
  warned : Bool

/-- Why no scheduler could be made. -/
inductive CreationError where
  /-- The settings are refused. -/
  | config (cause : ConfigError)
  /-- The ring is refused. -/
  | fault (cause : Fault)

/-- What a call did. -/
structure Step (n : Nat) (α : Type) where
  /-- The scheduler afterwards. -/
  next : Scheduler n
  /-- The result, or why the call was refused. -/
  result : Except Fault α
  /-- What was logged, in order. -/
  notes : List Note

namespace Scheduler

variable {n : Nat}

/-! ### Creation -/

/-- A scheduler with no frame in flight. The settings are checked before the ring. -/
def create (n : Nat) (c : Config) : Except CreationError (Scheduler n) :=
  match c.check with
  | .error e => .error (.config e)
  | .ok () =>
    match Ring.create n with
    | .error f => .error (.fault f)
    | .ok ring =>
      .ok { config := c, ring, counter := ⟨0⟩, latency := c.firstEstimate, sample := {},
            lastDisplay := .zero, warned := false }

/-- As `create`, for callers that take refused settings for a fault of their own. -/
def createValid (n : Nat) (c : Config) : Except Fault (Scheduler n) :=
  match create n c with
  | .error (.config e) => .error (.badConfig e)
  | .error (.fault f) => .error f
  | .ok s => .ok s

/-! ### Frames in flight -/

/-- The record of a frame in flight. -/
def frame? (s : Scheduler n) (id : FrameId) : Option Slot := s.ring.find? id

/-- The number of frames in flight. -/
def liveCount (s : Scheduler n) : Nat := s.ring.liveCount

/-! ### Operations -/

/-- Whether a prediction made now falls back on the configured period for the first time. -/
def fallsBack (s : Scheduler n) : Bool := s.sample.period = Span.zero && !s.warned

/-- What a prediction logs for frame `id`. -/
def predictNotes (s : Scheduler n) (id : FrameId) : List Note :=
  .predict id :: if s.fallsBack then [.fallback s.config.fallbackPeriod] else []

/-- Plans frame `id` and books its slot. -/
def book (s : Scheduler n) (id : FrameId) (now : Instant) : Except Fault (Booking × Slot) := do
  let b ← planFrame s.config s.latency s.sample s.lastDisplay now
  let slot ← (s.ring.slot id).reserve id b now
  return (b, slot)

/-- Predicts the next frame and reserves its slot. The id is used up even if the call is refused. -/
def predict (s : Scheduler n) (now : Instant) : Step n Prediction :=
  match s.counter.next? with
  | none => { next := s, result := .error .addOverflow, notes := [] }
  | some id =>
    let counted := { s with counter := id, warned := s.warned || s.fallsBack }
    match s.book id now with
    | .error f => { next := counted, result := .error f, notes := s.predictNotes id }
    | .ok (b, slot) =>
      { next := { counted with ring := s.ring.put id slot, lastDisplay := b.displayTime }
        result := .ok ⟨id, b.wakeUpTime, b.displayTime, b.period⟩
        notes := s.predictNotes id }

/-- The slot of a frame in flight after a milestone. The caller's `reported` time counts for the
wake-up only: the beginning is measured by the scheduler's own clock. -/
def marked (s : Scheduler n) (id : FrameId) (milestone : Milestone) (reported now : Instant) :
    Except Fault Slot := do
  let slot ← s.ring.holding id
  match milestone with
  | .wakeUp => slot.wakeUp reported
  | .begin => slot.start now
  | .submit => .error (.untracked milestone id)

/-- Records that the application reached a milestone of a frame. -/
def mark (s : Scheduler n) (id : FrameId) (milestone : Milestone) (reported now : Instant) :
    Step n Unit :=
  let notes := [.mark id milestone]
  match s.marked id milestone reported now with
  | .error f => { next := s, result := .error f, notes }
  | .ok slot => { next := { s with ring := s.ring.put id slot }, result := .ok (), notes }

/-- The slot of a frame in flight that ends now. -/
def finished (s : Scheduler n) (id : FrameId) (step : Transition) (now : Instant) :
    Except Fault Slot := do
  let slot ← s.ring.holding id
  slot.finish step now

/-- The report on a dropped frame, from its slot. -/
def discardReport (id : FrameId) (slot : Slot) : Discarded :=
  { id, stage := slot.stage, times := slot.times }

/-- Drops a frame. The latency estimates do not learn from it. -/
def discard (s : Scheduler n) (id : FrameId) (now : Instant) : Step n Discarded :=
  let notes := [.discard id]
  match s.finished id .discard now with
  | .error f => { next := s, result := .error f, notes }
  | .ok slot =>
    { next := { s with ring := s.ring.put id slot.freed }
      result := .ok (discardReport id slot), notes }

/-- The report on a delivered frame, from its slot. A wake-up that is said to lie after the
beginning counts as no time at all. -/
def deliveryReport (s : Scheduler n) (id : FrameId) (slot : Slot) : Delivered :=
  let cpuSample := slot.times.begun.since slot.times.woke
  let drawSample := slot.times.delivered.since slot.times.begun
  { id
    times := slot.times
    displayTime := slot.displayTime
    period := slot.period
    deliveryTime := slot.deliveryTime
    error := slot.deliveryTime.signedSince slot.times.delivered
    cpuSample, drawSample
    previous := s.latency
    updated := s.latency.learn s.config.smoothing cpuSample drawSample }

/-- Delivers a frame and takes its measured times into account. -/
def deliver (s : Scheduler n) (id : FrameId) (now : Instant) : Step n Delivered :=
  match s.finished id .deliver now with
  | .error f => { next := s, result := .error f, notes := [.deliver id] }
  | .ok slot =>
    let report := s.deliveryReport id slot
    { next := { s with ring := s.ring.put id slot.freed, latency := report.updated }
      result := .ok report
      notes := [.deliver id, .delivered report] }

/-- Takes a display's report. The newest one replaces all others. -/
def ingest (s : Scheduler n) (sample : DisplaySample) : Scheduler n := { s with sample }

end Scheduler

end FramePacing

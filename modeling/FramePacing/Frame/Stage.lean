/-!
# The life of a frame

A frame in flight goes through the stages below, and a slot is `ready` between two frames:

    ready → predicted → waitLeft → begun → ready
                           └─────────────→ ready

The arrows after the prediction are the `Transition`s, each of which is allowed from the stages in
`Transition.sources` only.
-/

namespace FramePacing

/-- Where a slot stands. -/
inductive Stage where
  /-- Free for the next prediction. -/
  | ready
  /-- Predicted; the application has not woken up for the frame yet. -/
  | predicted
  /-- The application woke up and left its wait. -/
  | waitLeft
  /-- The application began work on the frame. -/
  | begun
  deriving DecidableEq, Inhabited

/-- The stage's name. -/
def Stage.text : Stage → String
  | .ready => "Ready"
  | .predicted => "Predicted"
  | .waitLeft => "WaitLeft"
  | .begun => "Begun"

/-- A point that the application reports while it works on a frame. -/
inductive Milestone where
  /-- Woke up after sleeping until the predicted time. -/
  | wakeUp
  /-- Began the work on the frame. -/
  | begin
  /-- Submitted the work. Frame schedulers do not follow it. -/
  | submit
  deriving DecidableEq, Inhabited

/-- The milestone's name. -/
def Milestone.text : Milestone → String
  | .wakeUp => "WakeUp"
  | .begin => "Begin"
  | .submit => "Submit"

/-- What can happen to a frame in flight. -/
inductive Transition where
  /-- The application wakes up. -/
  | wakeUp
  /-- The application begins the work. -/
  | begin
  /-- The frame is delivered, which frees its slot. -/
  | deliver
  /-- The frame is dropped, which frees its slot. -/
  | discard
  deriving DecidableEq, Inhabited

namespace Transition

/-- The stages that allow the transition. -/
def sources : Transition → List Stage
  | .wakeUp => [.predicted]
  | .begin => [.waitLeft]
  | .deliver => [.begun]
  | .discard => [.waitLeft, .begun]

theorem mem_sources_wakeUp {s : Stage} : s ∈ wakeUp.sources ↔ s = .predicted := List.mem_singleton

theorem mem_sources_begin {s : Stage} : s ∈ begin.sources ↔ s = .waitLeft := List.mem_singleton

theorem mem_sources_deliver {s : Stage} : s ∈ deliver.sources ↔ s = .begun := List.mem_singleton

theorem mem_sources_discard {s : Stage} : s ∈ discard.sources ↔ s = .waitLeft ∨ s = .begun := by
  simp [sources]

/-- The transition as a verb. -/
def verb : Transition → String
  | .wakeUp => "wake up"
  | .begin => "begin"
  | .deliver => "deliver"
  | .discard => "discard"

end Transition

end FramePacing

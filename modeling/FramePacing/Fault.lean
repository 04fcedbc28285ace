import FramePacing.Config
import FramePacing.Frame.Id
import FramePacing.Frame.Stage

/-!
# Faults

Why a call is refused: arithmetic that leaves the words, or a caller that breaks the contract of the
thing it calls. A refused call says so instead of its result; what it changed before stays changed.
-/

namespace FramePacing

/-- The cause of a refused call. -/
inductive Fault where
  /-- A sum does not fit its word. -/
  | addOverflow
  /-- A difference is negative. -/
  | subtractOverflow
  /-- A product does not fit its word. -/
  | multiplyOverflow
  /-- A quotient by zero. -/
  | divideByZero
  /-- A remainder by zero. -/
  | remainderByZero
  /-- A position outside a sequence of `len` elements. -/
  | outOfBounds (len index : Nat)
  /-- A range whose ends are not in order. -/
  | emptyRange (low high : Float)
  /-- Counting units that have no length. -/
  | zeroUnit
  /-- A clock that is set by hand was told to go back. -/
  | clockRewind (previous target : Instant)
  /-- A ring without slots. -/
  | emptyRing
  /-- A display that never refreshes. -/
  | zeroRefresh
  /-- The slot of a new frame still holds another one. -/
  | slotTaken (id : FrameId) (holder : Option FrameId) (stage : Stage)
  /-- The slot of the frame holds another one or none. -/
  | notInFlight (id : FrameId) (holder : Option FrameId)
  /-- The frame's stage does not allow the transition. -/
  | wrongStage (step : Transition) (holder : Option FrameId) (stage : Stage)
  /-- A milestone that schedulers do not follow. -/
  | untracked (milestone : Milestone) (id : FrameId)
  /-- Settings that fail their check. -/
  | badConfig (cause : ConfigError)

/-- A computation in two parts gives a result exactly if both parts do. -/
theorem bind_eq_ok_iff {α β : Type} {x : Except Fault α} {f : α → Except Fault β} {b : β} :
    x >>= f = .ok b ↔ ∃ a, x = .ok a ∧ f a = .ok b := by
  cases x with
  | error e => simp [bind, Except.bind]
  | ok a => simp [bind, Except.bind]

/-- It gives a fault exactly if the first part does, or the second one after it. -/
theorem bind_eq_error_iff {α β : Type} {x : Except Fault α} {f : α → Except Fault β}
    {fault : Fault} :
    x >>= f = .error fault ↔ x = .error fault ∨ ∃ a, x = .ok a ∧ f a = .error fault := by
  cases x with
  | error e => simp [bind, Except.bind]
  | ok a => simp [bind, Except.bind]

/-- The fault's text. -/
def Fault.message : Fault → String
  | .addOverflow => "attempt to add with overflow"
  | .subtractOverflow => "attempt to subtract with overflow"
  | .multiplyOverflow => "attempt to multiply with overflow"
  | .divideByZero => "attempt to divide by zero"
  | .remainderByZero => "attempt to calculate the remainder with a divisor of zero"
  | .outOfBounds len index => s!"index out of bounds: the len is {len} but the index is {index}"
  | .emptyRange low high =>
    "min > max, or either was NaN. min = " ++ Layout.diagnostic.float low ++
      ", max = " ++ Layout.diagnostic.float high
  | .zeroUnit => "cannot divide a duration into zero-length units"
  | .clockRewind previous target =>
    s!"manual clock cannot go backwards ({previous.toNat} -> {target.toNat})"
  | .emptyRing => "a slot ring needs at least one slot"
  | .zeroRefresh => "a display needs a non-zero refresh period"
  | .slotTaken id holder stage =>
    s!"cannot predict frame {id.text}: slot still holds frame " ++
      inspectOption FrameId.inspect holder ++ s!" in state {stage.text}"
  | .notInFlight id holder =>
    "assertion \x60left == right\x60 failed: " ++ s!"frame {id.text} is not in flight\n  left: " ++
      inspectOption FrameId.inspect holder ++ "\n right: " ++
      inspectOption FrameId.inspect (some id)
  | .wrongStage step holder stage =>
    s!"cannot {step.verb} frame " ++ inspectOption FrameId.inspect holder ++
      s!" in state {stage.text} (expected one of " ++ inspectList Stage.text step.sources ++ ")"
  | .untracked milestone id =>
    s!"the application pacer does not track {milestone.text} (frame {id.text})"
  | .badConfig cause => "invalid pacer configuration: " ++ cause.message

end FramePacing

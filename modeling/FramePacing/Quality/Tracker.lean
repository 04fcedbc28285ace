import FramePacing.Simulation.Application

/-!
# Pacing quality

A tracker sums up how well frames are paced: how many were shown late, a grade, and the times from
wake-up to display of the latest `n` frames, oldest first, as numbers or as a line of characters.
-/

namespace FramePacing

/-! ### Samples and grades -/

/-- What one frame says about the pacing. -/
structure FrameQuality where
  /-- From the predicted wake-up to the predicted display, in milliseconds. -/
  wakeToDisplay : Float
  /-- How long before its time the frame was delivered, in milliseconds; negative if late. -/
  deliveryError : Float
  /-- Whether the frame was shown after its predicted time. -/
  missed : Bool

/-- The sample of an outcome; a dropped frame has none. -/
def FrameQuality.ofOutcome? (o : Outcome) : Except Fault (Option FrameQuality) :=
  match o.delivered? with
  | none => .ok none
  | some report => do
    let budget ← o.prediction.displayTime.sinceExact o.prediction.wakeUpTime
    return some ⟨budget.millis, report.error.toFloat / 1e6, o.shownLate⟩

/-- A grade of the pacing. -/
inductive Grade where
  /-- Close to the deadline, and almost nothing is late. -/
  | a
  /-- Good, with occasional misses. -/
  | b
  /-- Usable. -/
  | c
  /-- Poor. -/
  | d
  deriving DecidableEq, Inhabited

/-- The letter of a grade. -/
def Grade.text : Grade → String
  | .a => "A"
  | .b => "B"
  | .c => "C"
  | .d => "D"

/-- The grade for a distance from the deadline in milliseconds and a number of late frames in a
thousand. -/
def Grade.of (distance lateRate : Float) : Grade :=
  if distance < 2.0 && lateRate < 1.0 then .a
  else if distance < 4.0 && lateRate < 10.0 then .b
  else if distance < 8.0 && lateRate < 50.0 then .c
  else .d

/-- What a tracker says after a frame. -/
structure QualityReport where
  /-- The grade. -/
  grade : Grade
  /-- Late frames in a thousand. -/
  lateRate : Float
  /-- The frame's delivery error in milliseconds. -/
  deliveryError : Float
  /-- The number of frames. -/
  total : UInt64
  /-- The number of late frames. -/
  late : UInt64

/-! ### Trackers -/

/-- A tracker that remembers `n` frames. -/
structure Tracker (n : Nat) where
  /-- The remembered times from wake-up to display, in milliseconds. -/
  memory : Vector Float n
  /-- Where the next one goes, which is where the oldest one is. -/
  cursor : Nat
  /-- The number of frames. -/
  total : UInt64
  /-- The number of late frames. -/
  late : UInt64

namespace Tracker

variable {n : Nat}

/-- A tracker whose memory is filled with one value. -/
def create (n : Nat) (seed : Float) : Tracker n :=
  { memory := Vector.replicate n seed, cursor := 0, total := 0, late := 0 }

/-- What trackers are filled with unless told otherwise. -/
def defaultSeed : Float := 7.0

/-- One more, clipped. -/
def count (w : UInt64) : UInt64 := clip (w.toNat + 1)

/-- What the tracker says after a frame with the given delivery error. -/
def report (t : Tracker n) (deliveryError : Float) : QualityReport :=
  let lateRate := t.late.toFloat * 1000.0 / t.total.toFloat
  { grade := .of deliveryError.abs lateRate, lateRate, deliveryError, total := t.total,
    late := t.late }

/-- Takes a frame into account. A tracker without memory counts it and fails. -/
def add (t : Tracker n) (s : FrameQuality) : Except Fault QualityReport × Tracker n :=
  let counted := { t with total := count t.total }
  if h : t.cursor < n then
    let t' : Tracker n :=
      { counted with
        memory := t.memory.set t.cursor s.wakeToDisplay h
        cursor := (t.cursor + 1) % n
        late := if s.missed then count t.late else t.late }
    (.ok (t'.report s.deliveryError), t')
  else (.error (.outOfBounds n t.cursor), counted)

/-- The remembered times, oldest first. -/
def recent (t : Tracker n) : List Float :=
  List.ofFn fun i : Fin n =>
    have h : (t.cursor + i) % n < n := Nat.mod_lt _ i.pos
    t.memory[(t.cursor + i) % n]

end Tracker

/-! ### Sparklines -/

/-- The characters of a sparkline, from low to high. -/
def sparkLevels : List Char := " .:-=+*#%@".toList

/-- A value held within two ends, which have to be in order. What is not a number stays so. -/
def clampFloat (low high x : Float) : Except Fault Float :=
  if low ≤ high then
    let x := if x < low then low else x
    .ok (if high < x then high else x)
  else .error (.emptyRange low high)

/-- The character for a value on a scale between two ends. -/
def sparkChar (low high x : Float) : Except Fault Char := do
  let held ← clampFloat low high x
  let t := (held - low) / (high - low)
  let level := (t * (sparkLevels.length.toFloat - 1.0) + 0.5).toUInt64.toNat
  match sparkLevels[level]? with
  | some c => return c
  | none => .error (.outOfBounds sparkLevels.length level)

/-- The remembered times of a tracker as a line of characters, oldest first. -/
def Tracker.sparkline {n : Nat} (t : Tracker n) (low high : Float) : Except Fault String :=
  String.ofList <$> t.recent.mapM (sparkChar low high)

end FramePacing

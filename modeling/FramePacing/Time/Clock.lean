import FramePacing.Fault

/-!
# Clocks

A scheduler reads the time and nothing else from its clock. Three clocks are modelled: one that is
moved by hand, one that moves by a fixed tick whenever it is read, and the system's monotonic clock,
whose reading arrives in seconds and nanoseconds.
-/

namespace FramePacing

/-! ### System readings -/

/-- A reading of the system's monotonic clock. -/
structure Timespec where
  /-- Whole seconds. -/
  seconds : Int64
  /-- Nanoseconds within the second. -/
  nanos : Int64
  deriving DecidableEq, Inhabited

namespace Timespec

/-- The reading as an instant. A negative part counts as zero, the nanoseconds stay within one
second, and what exceeds the instants is the last one. -/
def toInstant (t : Timespec) : Instant :=
  ⟨clip (t.seconds.toInt.toNat * 1000000000 + min t.nanos.toInt.toNat 999999999)⟩

/-- The reading that stands for an instant. -/
def ofInstant (t : Instant) : Timespec :=
  ⟨Int64.ofNat (t.toNat / 1000000000), Int64.ofNat (t.toNat % 1000000000)⟩

end Timespec

/-! ### Clocks -/

/-- A source of time. -/
inductive Clock where
  /-- Stands still until it is moved. -/
  | manual (now : Instant)
  /-- Moves by `tick` after every reading. -/
  | ticking (now : Instant) (tick : Span)
  /-- The system's clock, at its next reading. -/
  | monotonic (reading : Timespec)
  deriving Inhabited

namespace Clock

/-- What a reading gives. -/
def now : Clock → Instant
  | .manual t => t
  | .ticking t _ => t
  | .monotonic reading => reading.toInstant

/-- The clock after a reading. -/
def afterReading : Clock → Clock
  | .manual t => .manual t
  | .ticking t tick => .ticking (t.wrappingAfter tick) tick
  | .monotonic reading => .monotonic reading

/-- Moves the clock on by a span, wrapping round. The system's clock cannot be moved. -/
def advance (d : Span) : Clock → Clock
  | .manual t => .manual (t.wrappingAfter d)
  | .ticking t tick => .ticking (t.wrappingAfter d) tick
  | .monotonic reading => .monotonic reading

/-- Sets the clock. The system's clock takes the reading that stands for the instant. -/
def set (goal : Instant) : Clock → Clock
  | .manual _ => .manual goal
  | .ticking _ tick => .ticking goal tick
  | .monotonic _ => .monotonic (.ofInstant goal)

/-- Moves the time of a manual clock on to `goal`. To go back is a fault, and the clock stays where
it is. -/
def advanceManual (now goal : Instant) : Except Fault Unit × Instant :=
  if now ≤ goal then (.ok (), goal) else (.error (.clockRewind now goal), now)

/-- Moves the clock to an instant. Only a manual clock insists on going forward. -/
def advanceTo (goal : Instant) : Clock → Except Fault Unit × Clock
  | .manual t => (advanceManual t goal).map id .manual
  | c => (.ok (), c.set goal)

end Clock

end FramePacing

import FramePacing.Frame.Timing
import FramePacing.Time.Exact

/-!
# Simulated displays

A display that refreshes on a fixed grid `origin + k · refreshPeriod` and needs some time between
the delivery of a frame and the refresh that shows it.
-/

namespace FramePacing

/-- A display on a fixed grid. -/
structure Display where
  /-- A refresh on the grid. -/
  origin : Instant
  /-- The time between refreshes. -/
  refreshPeriod : Span
  /-- The time needed between delivery and refresh. -/
  extra : Span
  deriving DecidableEq, Inhabited

namespace Display

/-- A display, unless it were never to refresh. -/
def create (origin : Instant) (refreshPeriod extra : Span) : Except Fault Display :=
  if refreshPeriod = Span.zero then .error .zeroRefresh else .ok ⟨origin, refreshPeriod, extra⟩

/-- The first refresh strictly after an instant, clipped. -/
def refreshAfter (d : Display) (now : Instant) : Except Fault Instant :=
  if now < d.origin then .ok d.origin
  else do
    let gap ← now.sinceExact d.origin
    let whole ← divideExact gap.nanos d.refreshPeriod.nanos
    let steps ← addExact whole 1
    return d.origin.after (d.refreshPeriod.times steps.toNat)

/-- The first refresh at an instant or after it: the first one strictly after the nanosecond
before. -/
def refreshFrom (d : Display) (t : Instant) : Except Fault Instant := d.refreshAfter (t.before ⟨1⟩)

/-- The refresh that shows a frame delivered at an instant. -/
def presentation (d : Display) (delivered : Instant) : Except Fault Instant :=
  d.refreshFrom (delivered.after d.extra)

/-- What the display reports at an instant. -/
def report (d : Display) (now : Instant) : Except Fault DisplaySample := do
  let displayTime ← d.refreshAfter now
  return { displayTime, period := d.refreshPeriod, extra := d.extra }

end Display

end FramePacing

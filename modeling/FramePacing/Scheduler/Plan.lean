import FramePacing.Frame.Slot
import FramePacing.Latency

/-!
# Planning a frame

A frame is planned from the display's latest report, the latency estimates, the last display time
that was handed out and the time now:

* its period is the least number of display periods that covers the CPU time and the draw time, each
  on its own, up to a limit if there is one;
* its display time is the first point of the display's grid after the last one handed out that
  leaves enough time for the work;
* the wake-up and delivery times are counted back from there.
-/

namespace FramePacing

/-- The period of a frame: as many display periods as the estimates need, within the limit. -/
def framePeriod (base : Span) (e : Estimate) (limit : Option UInt32) : Except Fault Span := do
  let cpu ← e.cpu.unitsCovering base
  let draw ← e.draw.unitsCovering base
  let needed := max (max cpu draw) 1
  let multiple := match limit with
    | some k => min needed k.toNat
    | none => needed
  return base.times multiple

/-- The first point of the grid `origin, origin + period, …` strictly after `floor`, clipped. -/
def firstOnGridAfter (origin : Instant) (period : Span) (floor : Instant) : Except Fault Instant :=
  if floor < origin then .ok origin
  else do
    let gap ← floor.sinceExact origin
    let whole ← divideExact gap.nanos period.nanos
    let steps ← addExact whole 1
    return origin.after (period.times steps.toNat)

/-- The display period that a plan is based on. -/
def displayPeriod (c : Config) (s : DisplaySample) : Span :=
  if s.period = Span.zero then c.fallbackPeriod else s.period

/-- The time that a display and the safety margin take out of a frame. -/
def displayShare (e : Estimate) (s : DisplaySample) : Span := e.margin.plus s.extra

/-- The time that a frame takes in all. -/
def frameTime (e : Estimate) (s : DisplaySample) : Span := e.work.plus (displayShare e s)

/-- Plans the next frame. -/
def planFrame (c : Config) (e : Estimate) (s : DisplaySample) (last now : Instant) :
    Except Fault Booking := do
  let period ← framePeriod (displayPeriod c s) e c.maxMultiple
  let floor := last.latest (now.after (frameTime e s))
  let displayTime ← firstOnGridAfter s.displayTime period floor
  return { displayTime, period,
           deliveryTime := displayTime.before (displayShare e s),
           wakeUpTime := displayTime.before (frameTime e s) }

end FramePacing

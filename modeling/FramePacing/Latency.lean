import FramePacing.Time.Exact

/-!
# Application latency

Two latencies of the application are followed, from wake-up to begin and from begin to delivery.
Each estimate moves towards every sample by a weight that depends on whether the sample exceeds it.
The safety margin on top of them never adapts.
-/

namespace FramePacing

/-- The weights of a filter. -/
structure Smoothing where
  /-- The weight of the estimate when the sample exceeds it. -/
  rising : Float
  /-- The weight of the estimate otherwise. -/
  falling : Float

/-- The mean of an estimate and a sample with weights `alpha` and `1 - alpha`, in seconds. -/
def blend (alpha : Float) (current sample : Span) : Span :=
  .ofSeconds (current.seconds * alpha + sample.seconds * (1.0 - alpha))

namespace Smoothing

/-- The same weight in both directions. -/
def uniform (alpha : Float) : Smoothing := ⟨alpha, alpha⟩

/-- The weight of the estimate for a sample. -/
def weight (f : Smoothing) (current sample : Span) : Float :=
  if current < sample then f.rising else f.falling

/-- The estimate after a sample. -/
def smooth (f : Smoothing) (current sample : Span) : Span :=
  blend (f.weight current sample) current sample

end Smoothing

/-- The times that a frame is expected to need. -/
structure Estimate where
  /-- From wake-up to begin. -/
  cpu : Span
  /-- From begin to delivery. -/
  draw : Span
  /-- The safety margin. -/
  margin : Span
  deriving DecidableEq, Inhabited

namespace Estimate

/-- The application's share of a frame. -/
def work (e : Estimate) : Span := e.cpu.plus e.draw

/-- Takes the measured times of a delivered frame into account, each on its own. -/
def learn (e : Estimate) (f : Smoothing) (cpu draw : Span) : Estimate :=
  { e with cpu := f.smooth e.cpu cpu, draw := f.smooth e.draw draw }

/-- The estimate in diagnostics. -/
def inspect (e : Estimate) : String :=
  inspectRecord "LatencyEstimate"
    [("cpu_time", e.cpu.inspect), ("draw_time", e.draw.inspect), ("margin", e.margin.inspect)]

end Estimate

/-- The estimates that a scheduler starts from. -/
def Config.firstEstimate (c : Config) : Estimate := ⟨c.initialCpu, c.initialDraw, c.margin⟩

/-- The filter that the settings ask for. -/
def Config.smoothing (c : Config) : Smoothing := ⟨c.alphaRising, c.alphaFalling⟩

end FramePacing

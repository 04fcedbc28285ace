import FramePacing.Decimal.Layout
import FramePacing.Inspect
import FramePacing.Time.Basic

/-!
# Configuration

The settings of a scheduler, two presets, and the check that every scheduler's settings pass. The
check looks at the weights first, then at the fallback period, then at the limit on the period.
-/

namespace FramePacing

/-- The settings of a scheduler. -/
structure Config where
  /-- The first estimate of the time from wake-up to begin. -/
  initialCpu : Span
  /-- The first estimate of the time from begin to delivery. -/
  initialDraw : Span
  /-- The safety margin, which never adapts. -/
  margin : Span
  /-- The weight of the old estimate when a sample exceeds it. -/
  alphaRising : Float
  /-- The weight of the old estimate otherwise. -/
  alphaFalling : Float
  /-- The period assumed while the display reports none. -/
  fallbackPeriod : Span
  /-- The greatest number of display periods that one frame may take, if there is one. -/
  maxMultiple : Option UInt32

/-- The two weights of the latency filter. -/
inductive Alpha where
  /-- For samples above the estimate. -/
  | rising
  /-- For all others. -/
  | falling
  deriving DecidableEq

/-- The name of a weight's setting. -/
def Alpha.text : Alpha → String
  | .rising => "alpha_rising"
  | .falling => "alpha_falling"

/-- Why settings are refused. -/
inductive ConfigError where
  /-- A weight is not a number from zero to one. -/
  | alphaOutOfRange (alpha : Alpha) (value : Float)
  /-- The fallback period is empty. -/
  | zeroFallbackPeriod
  /-- Frames may take no period at all. -/
  | zeroPeriodCap

/-- The error's text. -/
def ConfigError.message : ConfigError → String
  | .alphaOutOfRange alpha value =>
    alpha.text ++ " must be within 0.0..=1.0, got " ++ Layout.plain.float value
  | .zeroFallbackPeriod => "fallback_period must be non-zero"
  | .zeroPeriodCap => "max_period_multiple must be at least 1"

namespace Config

/-- Two milliseconds of every kind, a filter that moves by a fifth of the way, and 16 ms to fall
back on. -/
def conservative : Config :=
  { initialCpu := ⟨2000000⟩
    initialDraw := ⟨2000000⟩
    margin := ⟨2000000⟩
    alphaRising := 0.8
    alphaFalling := 0.8
    fallbackPeriod := ⟨16000000⟩
    maxMultiple := none }

/-- Rises fast and falls slowly. -/
def responsive : Config := { conservative with alphaRising := 0.5, alphaFalling := 0.9 }

/-- The value of a weight. -/
def alpha (c : Config) : Alpha → Float
  | .rising => c.alphaRising
  | .falling => c.alphaFalling

/-- Whether a weight lies between zero and one. No comparison holds of a value that is not a
number. -/
def alphaInRange (x : Float) : Bool := 0.0 ≤ x && x ≤ 1.0

/-- Checks the settings and names the first fault. -/
def check (c : Config) : Except ConfigError Unit :=
  match [Alpha.rising, Alpha.falling].find? (fun a => !alphaInRange (c.alpha a)) with
  | some a => .error (.alphaOutOfRange a (c.alpha a))
  | none =>
    if c.fallbackPeriod = Span.zero then .error .zeroFallbackPeriod
    else if c.maxMultiple = some 0 then .error .zeroPeriodCap
    else .ok ()

theorem check_eq_ok_iff {c : Config} :
    c.check = .ok () ↔ (∀ a, alphaInRange (c.alpha a)) ∧ c.fallbackPeriod ≠ Span.zero ∧
      c.maxMultiple ≠ some 0 := by
  have weights : (∀ a, alphaInRange (c.alpha a)) ↔
      [Alpha.rising, Alpha.falling].find? (fun a => !alphaInRange (c.alpha a)) = none := by
    rw [List.find?_eq_none]
    constructor
    · intro h a _
      simp [h a]
    · intro h a
      have := h a (by cases a <;> simp)
      simpa using this
  unfold check
  split
  · rename_i found
    simp [weights, found]
  · rename_i none
    split
    · rename_i empty
      simp [empty]
    · rename_i some
      split
      · rename_i zero
        simp [zero]
      · rename_i limit
        exact ⟨fun _ => ⟨weights.mpr none, some, limit⟩, fun _ => rfl⟩

/-- The settings in diagnostics. -/
def inspect (c : Config) : String :=
  inspectRecord "PacerConfig"
    [("initial_cpu_time", c.initialCpu.inspect),
     ("initial_draw_time", c.initialDraw.inspect),
     ("margin", c.margin.inspect),
     ("alpha_rising", Layout.diagnostic.float c.alphaRising),
     ("alpha_falling", Layout.diagnostic.float c.alphaFalling),
     ("fallback_period", c.fallbackPeriod.inspect),
     ("max_period_multiple", inspectOption (fun (k : UInt32) => toString k.toNat) c.maxMultiple)]

end Config

end FramePacing

import FramePacing.Decimal.Layout

/-!
# Log records

A log record has a level, the part of the library it comes from, a message and named values. Its
line shows all of them; the time of day is not part of it.
-/

namespace FramePacing

/-- How much a record matters. -/
inductive LogLevel where
  /-- Something failed. -/
  | error
  /-- Something is likely to be wrong. -/
  | warn
  /-- Something worth knowing. -/
  | info
  /-- Something that helps to find a problem. -/
  | debug
  /-- Everything else. -/
  | trace
  deriving DecidableEq, Inhabited

namespace LogLevel

/-- The level's name. -/
def text : LogLevel → String
  | .error => "ERROR"
  | .warn => "WARN"
  | .info => "INFO"
  | .debug => "DEBUG"
  | .trace => "TRACE"

/-- How verbose one has to be to see the level. -/
def verbosity : LogLevel → Nat
  | .error => 1
  | .warn => 2
  | .info => 3
  | .debug => 4
  | .trace => 5

end LogLevel

/-- A named value of a record. -/
inductive LogValue where
  /-- An integer. -/
  | int (i : Int)
  /-- A float. -/
  | float (x : Float)
  /-- The diagnostic text of a value. -/
  | inspected (s : String)
  /-- A string, shown in quotes. -/
  | quoted (s : String)

/-- The value in a line. -/
def LogValue.text : LogValue → String
  | .int i => toString i
  | .float x => Layout.diagnostic.float x
  | .inspected s => s
  | .quoted s => "\"" ++ s ++ "\""

/-- A log record. -/
structure LogRecord where
  /-- How much it matters. -/
  level : LogLevel
  /-- The part of the library it comes from. -/
  target : String
  /-- What happened. -/
  message : String
  /-- The values that go with it. -/
  fields : List (String × LogValue)

/-- The record's line, without its end. -/
def LogRecord.line (r : LogRecord) : String :=
  let fields := r.fields.map fun (key, value) => s!" {key}={value.text}"
  r.level.text ++ " " ++ r.target ++ ": " ++ r.message ++ String.join fields

end FramePacing

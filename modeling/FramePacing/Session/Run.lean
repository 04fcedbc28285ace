import FramePacing.Log.Filter
import FramePacing.Quality.Tracker
import FramePacing.Session.OutputPath
import FramePacing.Trace.Timeline

/-!
# A sample session

A session of 120 simulated frames on a display of 90 refreshes a second: light frames, then heavy
ones of which some are dropped, then frames that overload the display. The transcript of its events
and those log lines that its filter shows appear on one console; its recording becomes a timeline
file.
-/

namespace FramePacing.Session

/-! ### The script -/

/-- The number of frames. -/
def frameCount : Nat := 120

/-- The filter of a session that is not given one. -/
def defaultFilter : String := "pacer_core=debug,pacer_harness=debug"

/-- The file that a session writes unless it is told otherwise. -/
def defaultPath : String := "pacer_trace.json"

/-- The display: 90 Hz, and one millisecond between delivery and refresh. -/
def display : Display := ⟨.zero, ⟨11111111⟩, ⟨1000000⟩⟩

/-- When the session starts. -/
def start : Instant := ⟨1000000000⟩

/-- What the application does on frame `i`, and whether it drops the frame. -/
def workload (i : Nat) : Workload × Bool :=
  if i < 40 then (.short, false)
  else if i < 80 then (.long, i % 10 == 5)
  else ({ Workload.long with draw := ⟨14000000⟩ }, false)

/-! ### The run -/

/-- Where a session's own log records come from. -/
def target : String := "pacer_demo"

/-- The record that sums up the pacing after frame `i`. -/
def pacingRecord (i : Nat) (r : QualityReport) (sparkline : String) : LogRecord :=
  { level := .info, target, message := "wake-to-display [" ++ sparkline ++ "]"
    fields :=
      [("frame", .int (i + 1)), ("grade", .quoted r.grade.text),
       ("late_per_1000", .float r.lateRate)] }

/-- The record with the estimates at the end. -/
def finalRecord (e : Estimate) : LogRecord :=
  { level := .info, target, message := "final latency estimate"
    fields := [("cpu_ms", .float e.cpu.millis), ("draw_ms", .float e.draw.millis)] }

/-- A session under way. -/
structure State where
  /-- The application. -/
  app : Application
  /-- The quality of its pacing. -/
  tracker : Tracker 32
  /-- The lines on the console, without their ends, the latest one first. -/
  console : List String := []
  /-- The recording. -/
  recording : Recording := {}

namespace State

/-- Shows a log record, if the filter lets it through. -/
def log (f : LogFilter) (s : State) (r : LogRecord) : State :=
  if f.shows r then { s with console := r.line :: s.console } else s

/-- Takes what a frame left on its trail. -/
def take (f : LogFilter) (s : State) : Emission → State
  | .note n => s.log f n.record
  | .event e =>
    { s with
      console := (e.line.dropEnd 1).copy :: s.console
      recording := s.recording.record e }

/-- Runs frame `i`, and sums up the pacing after every twentieth frame that was delivered. -/
def frame (f : LogFilter) (s : State) (i : Nat) : Except Fault State := do
  let (work, drop) := workload i
  let run := if drop then s.app.discardNext .attached work else s.app.deliverNext .attached work
  let s := run.trail.foldl (take f) { s with app := run.app }
  match ← FrameQuality.ofOutcome? (← run.result) with
  | none => return s
  | some sample =>
    let (report, tracker) := s.tracker.add sample
    let report ← report
    let s := { s with tracker }
    if i % 20 = 19 then
      return s.log f (pacingRecord i report (← tracker.sparkline 0.0 30.0))
    else return s

end State

/-- Runs all frames. -/
def run (f : LogFilter) : Except Fault State := do
  let app ← Application.create .responsive display start
  let s ← (List.range frameCount).foldlM (State.frame f)
    { app, tracker := .create 32 Tracker.defaultSeed }
  return s.log f (finalRecord s.app.scheduler.latency)

/-! ### The ending -/

/-- What a session leaves behind. -/
structure Ending where
  /-- The exit code. -/
  exit : Nat
  /-- The lines on the console. -/
  console : List String
  /-- What it says about failures. -/
  complaints : String
  /-- The text of the file it wrote. -/
  file : Option String

/-- The last line of a session that wrote its file. -/
def summary (path : String) : String := "Wrote " ++ path ++ s!" ({frameCount} frames)"

/-- What is said when the file cannot be created. -/
def complaint (path cause : String) : String :=
  "Error: failed to create " ++ path ++ "\n\nCaused by:\n    " ++ cause ++ "\n"

/-- A session that ended in a fault. -/
def faulted (warnings : String) (f : Fault) : Ending :=
  { exit := 101, console := [], complaints := warnings ++ f.message ++ "\n", file := none }

/-- Plays a session with a filter and a path, where `create` says whether the file can be created,
or else why not. -/
def play (filter path : Option String) (create : String → Except String Unit) : Ending :=
  let (f, warnings) := LogFilter.read (filter.getD defaultFilter)
  let warnings := String.join (warnings.map (· ++ "\n"))
  let path := path.getD defaultPath
  match run f with
  | .error fault => faulted warnings fault
  | .ok s =>
    match create path with
    | .error cause =>
      { exit := 1, console := s.console.reverse, complaints := warnings ++ complaint path cause,
        file := none }
    | .ok () =>
      { exit := 0, console := (summary path :: s.console).reverse, complaints := warnings,
        file := some (exportTimeline s.recording.toList {}).2.text }

end FramePacing.Session

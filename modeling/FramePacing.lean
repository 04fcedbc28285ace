import FramePacing.Config
import FramePacing.Decimal.Binary
import FramePacing.Decimal.Layout
import FramePacing.Decimal.Rounding
import FramePacing.Decimal.Shortest
import FramePacing.Fault
import FramePacing.Frame.Id
import FramePacing.Frame.Report
import FramePacing.Frame.Ring
import FramePacing.Frame.Slot
import FramePacing.Frame.Stage
import FramePacing.Frame.Timing
import FramePacing.Inspect
import FramePacing.Latency
import FramePacing.Log.Filter
import FramePacing.Log.Note
import FramePacing.Log.Pattern
import FramePacing.Log.Pattern.Bracket
import FramePacing.Log.Pattern.Symbol
import FramePacing.Log.Record
import FramePacing.Main
import FramePacing.Proofs.Scheduler.Effect
import FramePacing.Quality.Tracker
import FramePacing.Scheduler.Basic
import FramePacing.Scheduler.Call
import FramePacing.Scheduler.Plan
import FramePacing.Session.OutputPath
import FramePacing.Session.Run
import FramePacing.Simulation.Application
import FramePacing.Simulation.Display
import FramePacing.Text.CharClass
import FramePacing.Time.Basic
import FramePacing.Time.Clock
import FramePacing.Time.Exact
import FramePacing.Trace.Event
import FramePacing.Trace.Json
import FramePacing.Trace.Recording
import FramePacing.Trace.Timeline
import FramePacing.Trace.Tracer
import FramePacing.Trace.Transcript
import FramePacing.Trace.Writer
import FramePacing.Proofs.Planning
import FramePacing.Proofs.Scheduler.Consistent
import FramePacing.Proofs.Scheduler.History
import FramePacing.Proofs.Scheduler.DisplayOrder
import FramePacing.Proofs.Scheduler.LiveFrames
import FramePacing.Proofs.Scheduler.Reports
import FramePacing.Proofs.Scheduler.Transitions
import FramePacing.Proofs.Overflow
import FramePacing.Proofs.Scheduler.Occupancy
import FramePacing.Proofs.Recording.Records
import FramePacing.Proofs.Recording.Truncation
import FramePacing.Proofs.Recording.Normalization
import FramePacing.Proofs.Scheduler.Learning
import FramePacing.Proofs.Scheduler.Refreshes
import FramePacing.Proofs.Simulation.Frames
import FramePacing.Proofs.Simulation.Histories
import FramePacing.Proofs.Simulation.Presentation
import FramePacing.Proofs.Scheduler.Window
import FramePacing.Proofs.Scheduler.ReportedTimes
import FramePacing.Proofs.Simulation.Account
import FramePacing.Proofs.Simulation.Contract
import FramePacing.Proofs.Scheduler.NewestSample
import FramePacing.Proofs.Scheduler.Interchange
import FramePacing.Proofs.Scheduler.RefusedPredictions
import FramePacing.Proofs.Scheduler.Lateness
import FramePacing.Proofs.Recording.Progress
import FramePacing.Proofs.Simulation.FirstRefresh
import FramePacing.Proofs.Simulation.Measurements
import FramePacing.Proofs.Scheduler.Timelines
import FramePacing.Proofs.SystemClock
import FramePacing.Proofs.Quality.SlidingWindow
import FramePacing.Proofs.Timeline.FrameSpans
import FramePacing.Proofs.Timeline.Accounting
import FramePacing.Proofs.Trace.FailingWriters
import FramePacing.Proofs.Scheduler.CallLog

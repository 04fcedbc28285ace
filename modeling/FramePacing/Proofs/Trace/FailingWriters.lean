import FramePacing.Trace.Timeline
import FramePacing.Trace.Tracer

/-!
# Writers that run out of room

A writer that takes so many bytes in all and then fails may fail anywhere, within any piece of any
line, and a transcript goes on to try the lines that follow. Still nothing is lost but the end. As
the writer has no memory of how its text was cut, the lines of a transcript are taken like one text,
failures in between or not (`Writer.putEvents_eq_put`), and so is the text of a timeline; and of one
text a writer with limited room has the beginning (`Writer.put_limitedTo`).

That a transcript has one line for each event rests on its pieces: the texts of numbers, milestones
and stages have no line break in them.
-/

namespace FramePacing

namespace Writer

/-- A writer that takes `limit` bytes in all and then fails. -/
def limitedTo (limit : Nat) : Writer := { room := some limit }

/-- **Lines**: a transcript has of its lines what its writer takes of them as one text, even if the
failures in between are ignored. -/
theorem putEvents_eq_put (w : Writer) (es : List Event) :
    w.putEvents es = (w.put (String.join (es.map Event.line))).2 := by
  induction es generalizing w with
  | nil =>
    rw [List.map_nil, String.join_nil, put_empty]
    rfl
  | cons e es ih =>
    have first : w.putEvent e = (w.put e.line).2 := by
      rw [putEvent, putAll_eq_put_join]
      rfl
    have rest : w.putEvents (e :: es) = (w.putEvent e).putEvents es := rfl
    rw [rest, ih, first, put_put, List.map_cons, String.join_cons]

/-! ### The beginning of a text -/

theorem put_new (s : String) : ({} : Writer).put s = (true, { written := s.toByteArray }) := by
  rw [put_unlimited, ByteArray.empty_append]

/-- A new writer with limited room has the beginning of a text, and says whether that is all. -/
theorem put_limitedTo (limit : Nat) (s : String) :
    ((limitedTo limit).put s).1 = decide (s.toByteArray.size ≤ limit) ∧
      ((limitedTo limit).put s).2.written =
        s.toByteArray.extract 0 (min limit s.toByteArray.size) := by
  have same : s.toByteArray.extract 0 limit =
      s.toByteArray.extract 0 (min limit s.toByteArray.size) := by
    rcases Nat.le_total limit s.toByteArray.size with le | ge
    · rw [Nat.min_eq_left le]
    · rw [Nat.min_eq_right ge, ByteArray.extract_zero_size]
      exact Nat.max_eq_left ge ▸ ByteArray.extract_zero_max_size
  rw [limitedTo, put_limited, ByteArray.empty_append]
  exact ⟨rfl, same⟩

end Writer

/-! ### Lines -/

/-- There is no line break in the text. -/
def Unbroken (s : String) : Prop := '\n' ∉ s.toList

instance (s : String) : Decidable (Unbroken s) := inferInstanceAs (Decidable ('\n' ∉ s.toList))

@[simp] theorem unbroken_append {a b : String} :
    Unbroken (a ++ b) ↔ Unbroken a ∧ Unbroken b := by
  simp [Unbroken]

theorem unbroken_join {pieces : List String} (h : ∀ p ∈ pieces, Unbroken p) :
    Unbroken (String.join pieces) := by
  unfold Unbroken
  rw [String.toList_join, List.mem_flatMap]
  rintro ⟨p, mem, broken⟩
  exact h p mem broken

theorem unbroken_replicate (k : Nat) {c : Char} (h : c ≠ '\n') :
    Unbroken (String.ofList (List.replicate k c)) := by
  simp [Unbroken, h.symm]

@[simp] theorem unbroken_nat (k : Nat) : Unbroken k.repr := by
  unfold Unbroken
  rw [Nat.repr_eq_ofList_toDigits, String.toList_ofList]
  intro mem
  cases Nat.isDigit_of_mem_toDigits (by decide) (by decide) mem

@[simp] theorem unbroken_int (i : Int) : Unbroken i.repr := by
  cases i with
  | ofNat k => exact unbroken_nat k
  | negSucc k => exact unbroken_append.mpr ⟨by decide, unbroken_nat (k + 1)⟩

theorem unbroken_ite (p : Prop) [Decidable p] {a b : String} (ha : Unbroken a)
    (hb : Unbroken b) : Unbroken (if p then a else b) := by
  split <;> assumption

@[simp] theorem unbroken_fixedPlaces (places : Nat) (x : Float) :
    Unbroken (fixedPlaces places x) := by
  have sign (negative : Bool) : Unbroken (if negative then "-" else "") :=
    unbroken_ite _ (by decide) (by decide)
  unfold fixedPlaces
  split
  · decide
  · exact unbroken_append.mpr ⟨sign _, by decide⟩
  · have zeros (k : Nat) := unbroken_replicate k (c := '0') (by decide)
    have point : Unbroken "." := by decide
    simp [placedDigits, sign, zeros, point]

/-- A text that ends in a line break and has no other. -/
def IsLine (s : String) : Prop := ∃ content, s = content ++ "\n" ∧ Unbroken content

theorem Event.pieces_eq (e : Event) : e.pieces = e.pieces.dropLast ++ ["ms\n"] := by
  cases e <;> rfl

theorem Event.unbroken_of_mem_pieces (e : Event) : ∀ p ∈ e.pieces.dropLast, Unbroken p := by
  have milestone (m : Milestone) : Unbroken m.text := by cases m <;> decide
  have stage (s : Stage) : Unbroken s.text := by cases s <;> decide
  have verdict (late : Bool) : Unbroken (if late then "LATE" else "early") :=
    unbroken_ite _ (by decide) (by decide)
  cases e <;>
    simp +decide [pieces, FrameId.text, Instant.inTranscript, Span.inTranscript, milestone, stage,
      verdict]

/-- **Lines**: the text of an event is one line. -/
theorem Event.isLine_line (e : Event) : IsLine e.line := by
  refine ⟨String.join (e.pieces.dropLast ++ ["ms"]), ?_, ?_⟩
  · have ends : "ms\n" = "ms" ++ "\n" := rfl
    rw [line, pieces_eq, ends]
    simp [String.append_assoc]
  · refine unbroken_join (List.forall_mem_append.mpr ⟨e.unbroken_of_mem_pieces, ?_⟩)
    decide

/-! ### What is lost -/

/-- `part` has the first `limit` bytes of what `whole` has, or all of it if it has no more. -/
def Writer.IsBeginning (limit : Nat) (whole part : Writer) : Prop :=
  part.written = whole.written.extract 0 (min limit whole.written.size)

theorem Writer.isBeginning_put (limit : Nat) (s : String) :
    IsBeginning limit (({} : Writer).put s).2 ((limitedTo limit).put s).2 := by
  rw [IsBeginning, put_new]
  exact (put_limitedTo limit s).2

/-- The transcript and the recording go their own ways. -/
theorem Sinks.acceptAll_attached (s : Sinks) (es : List Event) :
    s.acceptAll .attached es =
      { transcript := s.transcript.putEvents es, recording := s.recording.recordAll es } := by
  show es.foldl accept s = _
  induction es generalizing s with
  | nil => rfl
  | cons e es ih => exact ih (s.accept e)

open Writer in
/-- **Failing writers**: if a transcript goes to a writer that takes `limit` bytes in all and then
fails, it is the first `limit` bytes of what it is without a limit, which is one line for each event,
in order. Events are passed on all the same, as a transcript has no way to report a failure, and the
recording beside it has all of them. Of any timeline the same writer has the first `limit` bytes,
and the export fails exactly if these are not all. -/
theorem failing_writers_lose_only_the_tail (es : List Event) (limit : Nat) :
    (∀ e : Event, IsLine e.line) ∧
    ({} : Writer).putEvents es = { written := (String.join (es.map Event.line)).toUTF8 } ∧
    IsBeginning limit (({} : Writer).putEvents es)
      (Sinks.acceptAll { transcript := limitedTo limit } .attached es).transcript ∧
    (Sinks.acceptAll { transcript := limitedTo limit } .attached es).recording =
      Recording.recordAll {} es ∧
    ∀ recording : List UInt8,
      let whole := exportTimeline recording {}
      let part := exportTimeline recording (limitedTo limit)
      whole.1 = true ∧ IsBeginning limit whole.2 part.2 ∧
        (part.1 = false ↔ limit < whole.2.written.size) := by
  rw [Sinks.acceptAll_attached]
  refine ⟨Event.isLine_line, ?_, ?_, rfl, fun recording => ?_⟩
  · rw [putEvents_eq_put, put_new]
    rfl
  · rw [putEvents_eq_put, putEvents_eq_put]
    exact isBeginning_put limit _
  · simp only [exportTimeline, putAll_eq_put_join]
    refine ⟨rfl, isBeginning_put limit _, ?_⟩
    rw [(put_limitedTo limit _).1, put_new]
    simp

end FramePacing

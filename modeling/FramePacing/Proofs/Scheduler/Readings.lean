import FramePacing.Proofs.Scheduler.Effect

/-!
# Runs on a sequence of readings

A clock that is read gives one reading after another, and a call takes the next one only if it reads
the clock. Two runs on the same sequence of readings can be compared even if one of them makes calls
that the other does not make: as long as those calls do not read the clock, the others get the same
readings in both runs.
-/

namespace FramePacing

namespace Scheduler

variable {n : Nat}

/-- The readings that a call leaves. -/
def readingsAfter (s : Scheduler n) (c : Call) (readings : Nat → Instant) : Nat → Instant :=
  if s.readsClock c then fun k => readings (k + 1) else readings

/-- The steps of a run while the clock gives one reading after another. A call that does not read
the clock leaves the reading to the next one. -/
def stepsReading (s : Scheduler n) (readings : Nat → Instant) : List Call → List (Step n Reply)
  | [] => []
  | c :: rest =>
    let step := s.call (readings 0) c
    step :: step.next.stepsReading (s.readingsAfter c readings) rest

/-- The scheduler after such a run, and the readings that are left. -/
def runReading (s : Scheduler n) (readings : Nat → Instant) :
    List Call → Scheduler n × (Nat → Instant)
  | [] => (s, readings)
  | c :: rest => (s.call (readings 0) c).next.runReading (s.readingsAfter c readings) rest

/-- Each step of such a run is a call, made to what the run had led to. -/
theorem exists_of_mem_stepsReading {s : Scheduler n} {readings : Nat → Instant}
    {calls : List Call} {step : Step n Reply} (made : step ∈ s.stepsReading readings calls) :
    ∃ (t : Scheduler n) (now : Instant) (c : Call), step = t.call now c := by
  induction calls generalizing s readings with
  | nil => cases made
  | cons c rest ih =>
    rcases List.mem_cons.mp made with first | later
    · exact ⟨s, readings 0, c, first⟩
    · exact ih later

/-- The reading is of no use to a call that does not read the clock. -/
theorem call_eq_of_not_readsClock {s : Scheduler n} {c : Call} (unread : s.readsClock c = false)
    (now now' : Instant) : s.call now c = s.call now' c := by
  cases c with
  | predict =>
    have none : s.counter.next? = none :=
      Option.isNone_iff_eq_none.mp (Option.isSome_eq_false_iff.mp unread)
    simp [call, predict, none]
  | mark id milestone reported =>
    cases milestone with
    | wakeUp => rfl
    | submit => rfl
    | begin =>
      cases found : s.ring.holding id with
      | ok slot =>
        have held : s.frame? id = some slot := Ring.holding_eq_ok_iff.mp found
        simp [readsClock, held] at unread
      | error f => simp [call, mark, marked, found, bind, Except.bind]
  | discard id => cases unread
  | deliver id => cases unread
  | ingest source sample => rfl

/-- A run goes on from where its first part has ended. -/
theorem runReading_append (s : Scheduler n) (readings : Nat → Instant) (calls calls' : List Call) :
    s.runReading readings (calls ++ calls') =
      (s.runReading readings calls).1.runReading (s.runReading readings calls).2 calls' := by
  induction calls generalizing s readings with
  | nil => rfl
  | cons c rest ih => exact ih _ _

end Scheduler

end FramePacing

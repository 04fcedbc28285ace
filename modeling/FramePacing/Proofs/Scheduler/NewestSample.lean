import FramePacing.Proofs.Scheduler.Readings

/-!
# The newest report of the display

Reports of the display arrive at any moment and from any side: from the scheduler's owner or through
a handle, of which there may be many. All of them are written to one place, and only a prediction
reads it, once. So a prediction is planned from the newest report as a whole, and for the calls
about frames it makes no difference

* if a report is left out that another one replaces before the next prediction;
* if a report arrives before or after calls that are neither predictions nor reports

(`newest_sample_counts`).

Two schedulers `Agree` if they differ in the report that they hold at most. One call that is no
prediction keeps them so and gives the same result in both (`Agree.call`), and the next report makes
them equal.
-/

namespace FramePacing

variable {n : Nat}

/-- The report that a call hands in. All other calls are about frames. -/
def Call.sample? : Call → Option DisplaySample
  | .ingest _ sample => some sample
  | _ => none

/-- The newest report among the calls, whatever source it comes from, and `first` without one. -/
def newestSample (first : DisplaySample) (calls : List Call) : DisplaySample :=
  (calls.filterMap Call.sample?).getLast?.getD first

/-- The step without the report that the scheduler holds afterwards. -/
def Step.withoutSample (step : Step n Reply) : Step n Reply :=
  { step with next := step.next.ingest {} }

namespace Scheduler

/-- The steps of the calls about frames in a run, in order. -/
def frameSteps (s : Scheduler n) (readings : Nat → Instant) (calls : List Call) :
    List (Step n Reply) :=
  ((calls.zip (s.stepsReading readings calls)).filter fun p => p.1.sample?.isNone).map Prod.snd

/-- In two runs on the same readings of the clock, the calls about frames do the same, but for the
report that the scheduler holds meanwhile, and both runs end with the same scheduler and the same
readings left. -/
def SameFrames (s : Scheduler n) (readings : Nat → Instant) (calls calls' : List Call) : Prop :=
  (s.frameSteps readings calls).map Step.withoutSample =
      (s.frameSteps readings calls').map Step.withoutSample ∧
    s.runReading readings calls = s.runReading readings calls'

/-! ### The report that a scheduler holds -/

/-- A call replaces the report as a whole, or leaves it alone. -/
theorem Effect.sample_eq {s s' : Scheduler n} {now : Instant} {c : Call} {r : Except Fault Reply}
    (effect : Effect s now c s' r) : s'.sample = c.sample?.getD s.sample := by
  cases effect with
  | @refused c f not =>
    cases c with
    | ingest source sample => exact absurd trivial not
    | _ => rfl
  | _ => rfl

/-- After a run, the scheduler holds the newest report. -/
theorem sample_runReading (s : Scheduler n) (readings : Nat → Instant) (calls : List Call) :
    (s.runReading readings calls).1.sample = newestSample s.sample calls := by
  induction calls generalizing s readings with
  | nil => rfl
  | cons c rest ih =>
    have step := (call_effect s (readings 0) c).sample_eq
    show ((s.call (readings 0) c).next.runReading _ rest).1.sample = _
    rw [ih, step, newestSample, newestSample]
    cases h : c.sample? with
    | none => simp [h]
    | some sample => simp [h, List.getLast?_cons]

/-! ### Schedulers that agree but for the report -/

/-- Two schedulers that differ in the report that they hold at most: the next one makes them
equal. -/
def Agree (s s' : Scheduler n) : Prop := ∀ sample, s.ingest sample = s'.ingest sample

theorem agree_ingest (s : Scheduler n) (sample : DisplaySample) : Agree (s.ingest sample) s :=
  fun _ => rfl

theorem Agree.eq_of_sample_eq {s s' : Scheduler n} (agree : Agree s s')
    (same : s.sample = s'.sample) : s = s' :=
  calc
    s = s.ingest s.sample := rfl
    _ = s'.ingest s.sample := agree s.sample
    _ = s' := by rw [same]; rfl

/-- A call that is neither a prediction nor a report does not notice what report the scheduler
holds. -/
theorem call_ingest (s : Scheduler n) (sample : DisplaySample) (now : Instant) {c : Call}
    (blind : c ≠ .predict) (framed : c.sample? = none) :
    (s.ingest sample).call now c =
      { s.call now c with next := (s.call now c).next.ingest sample } := by
  cases c with
  | predict => exact absurd rfl blind
  | mark id milestone reported =>
    have marked : (s.ingest sample).marked id milestone reported now =
        s.marked id milestone reported now := rfl
    simp only [call, mark, marked]
    cases s.marked id milestone reported now <;> rfl
  | discard id =>
    have finished : (s.ingest sample).finished id .discard now = s.finished id .discard now := rfl
    simp only [call, discard, finished]
    cases s.finished id .discard now <;> rfl
  | deliver id =>
    have finished : (s.ingest sample).finished id .deliver now = s.finished id .deliver now := rfl
    simp only [call, deliver, finished]
    cases s.finished id .deliver now <;> rfl
  | ingest source sample' => cases framed

/-- One call that is no prediction: the results are the same, and the schedulers agree
afterwards. -/
theorem Agree.call {s s' : Scheduler n} (agree : Agree s s') (now : Instant) {c : Call}
    (blind : c ≠ .predict) :
    Agree (s.call now c).next (s'.call now c).next ∧
      (s.call now c).withoutSample = (s'.call now c).withoutSample := by
  cases framed : c.sample? with
  | some sample =>
    cases c with
    | ingest source sample' =>
      have same : (s.call now (.ingest source sample')) = s'.call now (.ingest source sample') := by
        simp only [Scheduler.call, agree sample']
      rw [same]
      exact ⟨fun _ => rfl, rfl⟩
    | _ => cases framed
  | none =>
    have step (sample : DisplaySample) :
        ({ s.call now c with next := (s.call now c).next.ingest sample } : Step n Reply) =
          { s'.call now c with next := (s'.call now c).next.ingest sample } := by
      rw [← call_ingest s sample now blind framed, ← call_ingest s' sample now blind framed,
        agree sample]
    exact ⟨fun sample => congrArg Step.next (step sample), step {}⟩

/-- Whether a call reads the clock does not depend on the report. -/
theorem Agree.readingsAfter_eq {s s' : Scheduler n} (agree : Agree s s') (c : Call)
    (readings : Nat → Instant) : s.readingsAfter c readings = s'.readingsAfter c readings := by
  have reads (t : Scheduler n) : t.readsClock c = (t.ingest {}).readsClock c := by
    cases c with
    | mark id milestone reported => cases milestone <;> rfl
    | _ => rfl
  simp only [readingsAfter, reads s, reads s', agree {}]

/-! ### The steps of the calls about frames -/

theorem frameSteps_cons (s : Scheduler n) (readings : Nat → Instant) (c : Call)
    (rest : List Call) :
    s.frameSteps readings (c :: rest) =
      (if c.sample?.isNone then [s.call (readings 0) c] else []) ++
        (s.call (readings 0) c).next.frameSteps (s.readingsAfter c readings) rest := by
  unfold frameSteps
  rw [stepsReading, List.zip_cons_cons, List.filter_cons]
  split <;> rfl

/-- A report is no call about a frame. -/
theorem frameSteps_ingest_cons (s : Scheduler n) (readings : Nat → Instant) (source : Source)
    (sample : DisplaySample) (rest : List Call) :
    s.frameSteps readings (.ingest source sample :: rest) =
      (s.ingest sample).frameSteps readings rest := frameSteps_cons s readings _ rest

theorem frameSteps_append (s : Scheduler n) (readings : Nat → Instant) (calls calls' : List Call) :
    s.frameSteps readings (calls ++ calls') =
      s.frameSteps readings calls ++
        (s.runReading readings calls).1.frameSteps (s.runReading readings calls).2 calls' := by
  induction calls generalizing s readings with
  | nil => rfl
  | cons c rest ih =>
    rw [List.cons_append, frameSteps_cons, frameSteps_cons, ih, List.append_assoc]
    rfl

/-- Without a prediction, two schedulers that agree go through the same steps and agree at the
end. -/
theorem Agree.run {s s' : Scheduler n} (agree : Agree s s') (readings : Nat → Instant)
    {calls : List Call} (blind : ∀ c ∈ calls, c ≠ .predict) :
    (s.frameSteps readings calls).map Step.withoutSample =
        (s'.frameSteps readings calls).map Step.withoutSample ∧
      Agree (s.runReading readings calls).1 (s'.runReading readings calls).1 ∧
      (s.runReading readings calls).2 = (s'.runReading readings calls).2 := by
  induction calls generalizing s s' readings with
  | nil => exact ⟨rfl, agree, rfl⟩
  | cons c rest ih =>
    obtain ⟨first, blind⟩ := List.forall_mem_cons.mp blind
    obtain ⟨next, step⟩ := agree.call (readings 0) first
    obtain ⟨steps, last, left⟩ := ih next (s.readingsAfter c readings) blind
    have reads := agree.readingsAfter_eq c readings
    refine ⟨?_, ?_, ?_⟩
    · rw [frameSteps_cons, frameSteps_cons, ← reads, List.map_append, List.map_append, steps]
      split
      · rw [List.map_singleton, List.map_singleton, step]
      · rfl
    · rw [runReading, runReading, ← reads]
      exact last
    · rw [runReading, runReading, ← reads]
      exact left

/-- A change that makes no difference wherever it is made makes none in the middle of a run. -/
theorem sameFrames_within {calls calls' : List Call}
    (same : ∀ (s : Scheduler n) (readings : Nat → Instant), SameFrames s readings calls calls')
    (s : Scheduler n) (readings : Nat → Instant) (before after : List Call) :
    SameFrames s readings (before ++ (calls ++ after)) (before ++ (calls' ++ after)) := by
  obtain ⟨steps, last⟩ := same (s.runReading readings before).1 (s.runReading readings before).2
  refine ⟨?_, ?_⟩
  · simp only [frameSteps_append, List.map_append, steps, last]
  · simp only [runReading_append, last]

/-- A report that is replaced before the next prediction might as well not have come. -/
theorem sameFrames_replaced (s : Scheduler n) (readings : Nat → Instant) (source source' : Source)
    (sample sample' : DisplaySample) {between : List Call} (blind : ∀ c ∈ between, c ≠ .predict) :
    SameFrames s readings (.ingest source sample :: (between ++ [.ingest source' sample']))
      (between ++ [.ingest source' sample']) := by
  obtain ⟨steps, agree, left⟩ := (agree_ingest s sample).run readings blind
  have reported := agree sample'
  refine ⟨?_, ?_⟩
  · rw [frameSteps_ingest_cons, frameSteps_append, frameSteps_append, frameSteps_ingest_cons,
      frameSteps_ingest_cons, List.map_append, List.map_append, steps]
    rfl
  · show (s.ingest sample).runReading readings _ = _
    rw [runReading_append, runReading_append, left]
    exact congrArg (·, _) reported

/-- A report may come before or after calls that are neither predictions nor reports. -/
theorem sameFrames_moved (s : Scheduler n) (readings : Nat → Instant) (source : Source)
    (sample : DisplaySample) {between : List Call}
    (blind : ∀ c ∈ between, c ≠ .predict ∧ c.sample? = none) :
    SameFrames s readings (.ingest source sample :: between)
      (between ++ [.ingest source sample]) := by
  obtain ⟨steps, agree, left⟩ :=
    (agree_ingest s sample).run readings fun c mem => (blind c mem).1
  -- none of the calls replaces the report
  have none : between.filterMap Call.sample? = [] :=
    List.filterMap_eq_nil_iff.mpr fun c mem => (blind c mem).2
  have kept : ((s.ingest sample).runReading readings between).1.sample = sample := by
    rw [sample_runReading, newestSample, none]
    rfl
  have last : ((s.ingest sample).runReading readings between).1 =
      (s.runReading readings between).1.ingest sample := by
    have moved : Agree ((s.ingest sample).runReading readings between).1
        ((s.runReading readings between).1.ingest sample) := agree
    exact moved.eq_of_sample_eq kept
  refine ⟨?_, ?_⟩
  · rw [frameSteps_ingest_cons, frameSteps_append, frameSteps_ingest_cons, List.map_append, steps]
    exact (List.append_nil _).symm
  · show (s.ingest sample).runReading readings _ = _
    rw [runReading_append]
    exact Prod.ext last left

/-- Runs on readings keep the settings. -/
theorem config_runReading (s : Scheduler n) (readings : Nat → Instant) (calls : List Call) :
    (s.runReading readings calls).1.config = s.config := by
  induction calls generalizing s readings with
  | nil => rfl
  | cons c rest ih => exact (ih _ _).trans (call_effect s (readings 0) c).config_eq

/-- **The newest report**: at every moment of a run, whichever sides the reports came from, the
scheduler holds the newest one as a whole, or zeros before the first, and what it predicts is
planned from that. A report that another one replaces before the next prediction may as well not
come, and a report may come earlier or later past calls that are neither predictions nor reports:
the calls about frames give the same results and log the same, the scheduler is the same after each
of them but for the report that it holds in the meantime, and it is wholly the same at every moment
after the change. -/
theorem newest_sample_counts {c : Config} {s₀ : Scheduler n} (created : create n c = .ok s₀)
    (readings : Nat → Instant) :
    (∀ calls now,
      (s₀.runReading readings calls).1.sample = newestSample ⟨.zero, .zero, .zero⟩ calls ∧
      ∀ p, ((s₀.runReading readings calls).1.predict now).result = .ok p →
        ∃ b, planFrame c (s₀.runReading readings calls).1.latency
              (newestSample ⟨.zero, .zero, .zero⟩ calls)
              (s₀.runReading readings calls).1.lastDisplay now = .ok b ∧
          p = b.prediction p.id) ∧
    (∀ before between after source source' sample sample', (∀ c ∈ between, c ≠ .predict) →
      SameFrames s₀ readings
        (before ++ .ingest source sample :: (between ++ .ingest source' sample' :: after))
        (before ++ (between ++ .ingest source' sample' :: after))) ∧
    ∀ before between after source sample,
      (∀ c ∈ between, c ≠ .predict ∧ c.sample? = none) →
      SameFrames s₀ readings (before ++ .ingest source sample :: (between ++ after))
        (before ++ (between ++ .ingest source sample :: after)) := by
  obtain ⟨-, pos, rfl⟩ := create_eq_ok_iff.mp created
  refine ⟨fun calls now => ?_, ?_, ?_⟩
  · have held := sample_runReading (initial c pos) readings calls
    have config := config_runReading (initial c pos) readings calls
    refine ⟨held, fun p returned => ?_⟩
    obtain ⟨b, -, plan, -, prediction, -⟩ := predict_returned returned
    rw [Scheduler.plan, held, config] at plan
    exact ⟨b, plan, prediction⟩
  · intro before between after source source' sample sample' blind
    have replaced := sameFrames_within
      (fun s readings => sameFrames_replaced s readings source source' sample sample' blind)
      (initial c pos) readings before after
    simpa using replaced
  · intro before between after source sample blind
    have moved := sameFrames_within
      (fun s readings => sameFrames_moved s readings source sample blind)
      (initial c pos) readings before after
    simpa using moved

/-- A frame is predicted and begun, and another one predicted; meanwhile the display reports through
two handles and the owner. -/
def reportedCalls : List Call :=
  [.ingest (.handle 1) ⟨⟨100000000⟩, ⟨11111111⟩, ⟨1000000⟩⟩, .predict,
    .ingest (.handle 2) ⟨⟨300000000⟩, ⟨5000000⟩, ⟨0⟩⟩, .mark ⟨1⟩ .wakeUp ⟨51000000⟩,
    .mark ⟨1⟩ .begin ⟨0⟩, .ingest .owner ⟨⟨200000000⟩, ⟨16000000⟩, ⟨2000000⟩⟩, .predict]

/-- The same without the report through the second handle, and with the owner's one before the
milestones. -/
def reportedEarlier : List Call :=
  [.ingest (.handle 1) ⟨⟨100000000⟩, ⟨11111111⟩, ⟨1000000⟩⟩, .predict,
    .ingest .owner ⟨⟨200000000⟩, ⟨16000000⟩, ⟨2000000⟩⟩, .mark ⟨1⟩ .wakeUp ⟨51000000⟩,
    .mark ⟨1⟩ .begin ⟨0⟩, .predict]

theorem newest_sample_counts_from_three_sides :
    ((initial .conservative Nat.two_pos : Scheduler 2).runReading (fun _ => ⟨50000000⟩)
        reportedCalls).1.sample = ⟨⟨200000000⟩, ⟨16000000⟩, ⟨2000000⟩⟩ ∧
      SameFrames (initial .conservative Nat.two_pos : Scheduler 2) (fun _ => ⟨50000000⟩)
        reportedCalls reportedEarlier := by
  obtain ⟨held, replaced, moved⟩ :=
    newest_sample_counts (create_conservative Nat.two_pos) fun _ => ⟨50000000⟩
  have without := replaced
    [.ingest (.handle 1) ⟨⟨100000000⟩, ⟨11111111⟩, ⟨1000000⟩⟩, .predict]
    [.mark ⟨1⟩ .wakeUp ⟨51000000⟩, .mark ⟨1⟩ .begin ⟨0⟩] [.predict] (.handle 2) .owner
    ⟨⟨300000000⟩, ⟨5000000⟩, ⟨0⟩⟩ ⟨⟨200000000⟩, ⟨16000000⟩, ⟨2000000⟩⟩ (by decide)
  have earlier := moved
    [.ingest (.handle 1) ⟨⟨100000000⟩, ⟨11111111⟩, ⟨1000000⟩⟩, .predict]
    [.mark ⟨1⟩ .wakeUp ⟨51000000⟩, .mark ⟨1⟩ .begin ⟨0⟩] [.predict] .owner
    ⟨⟨200000000⟩, ⟨16000000⟩, ⟨2000000⟩⟩ (by decide)
  exact ⟨(held reportedCalls .zero).1, without.1.trans earlier.1.symm,
    without.2.trans earlier.2.symm⟩

end Scheduler

end FramePacing

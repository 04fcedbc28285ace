import FramePacing.Proofs.Scheduler.History

/-!
# The log of a run

Every call about a frame leaves one trace record, which names the frame and comes before all else,
whether the call is then accepted or not. A debug record tells of each delivery that was returned,
and of nothing else. And a scheduler warns once in its life that it falls back on the configured
period: when a prediction reads a report of the display without a period for the first time.

`Logs` lists what the calls log, one constructor for each case, and the first two facts are read off
it. The warning is a matter of the whole run. Whether a scheduler has warned is whether its history
has a prediction that found no period (`Warned`), be it refused or not, because the flag is set
before anything that can fail.
-/

namespace FramePacing

variable {n : Nat}

/-! ### What is logged -/

/-- The records begin with a trace record that names frame `id`, and there is no other one. -/
structure TracedOnce (id : FrameId) (records : List LogRecord) : Prop where
  /-- A trace record comes first and names the frame. -/
  first : ∃ r, records.head? = some r ∧ r.level = .trace ∧
    r.fields.lookup "frame_id" = some (.int id.toInt)
  /-- The others are no trace records. -/
  others : ∀ r ∈ records.tail, r.level ≠ .trace

/-- The last word of the message is that something is late. -/
def LogRecord.SaysLate (r : LogRecord) : Prop := " late".toList <:+ r.message.toList

theorem exists_message_delivered (d : Delivered) :
    ∃ amount, (Note.delivered d).record.message =
      amount ++ if d.late then " late" else " early" := by
  refine ⟨"delivered frame " ++ fixedPlaces 2 (Span.ofDistance d.error).millis ++ "ms", ?_⟩
  have message : (Note.delivered d).record.message = "delivered frame " ++
      fixedPlaces 2 (Span.ofDistance d.error).millis ++ "ms " ++
        if d.late then "late" else "early" := rfl
  have blank : "ms " = "ms" ++ " " := rfl
  have word : (if d.late then " late" else " early") =
      " " ++ if d.late then "late" else "early" := by
    cases d.late <;> rfl
  rw [message, blank, word]
  simp only [String.append_assoc]

theorem saysLate_delivered_iff (d : Delivered) :
    (Note.delivered d).record.SaysLate ↔ d.late = true := by
  obtain ⟨amount, message⟩ := exists_message_delivered d
  rw [LogRecord.SaysLate, message, String.toList_append]
  cases d.late with
  | true => simp [List.suffix_append]
  | false =>
    rw [iff_false_right Bool.false_ne_true]
    rintro ⟨before, same⟩
    have last := congrArg List.getLast? same
    simp at last

namespace Entry

/-- What a call logged, in order. -/
def records (e : Entry n) : List LogRecord := (e.before.call e.now e.call).notes.map Note.record

/-- What it logged at a level. -/
def recordsAt (level : LogLevel) (e : Entry n) : List LogRecord :=
  e.records.filter fun r => r.level = level

/-- The call is traced once if it is about a frame: the frame that it names or, for a prediction,
the one after the latest, as long as an id is left. -/
def Traced (e : Entry n) : Prop :=
  match e.call with
  | .predict => ∀ id : FrameId, id.toInt = e.before.counter.toInt + 1 → TracedOnce id e.records
  | .mark id _ _ | .discard id | .deliver id => TracedOnce id e.records
  | .ingest _ _ => e.records = []

/-- The call leaves a debug record exactly if it is a delivery that returned, and this says whether
the frame was late. -/
def TellsDelivery (e : Entry n) : Prop :=
  match e.call, e.result with
  | .deliver _, .ok reply =>
    ∃ d r, reply = .delivered d ∧ e.recordsAt .debug = [r] ∧ (r.SaysLate ↔ d.late)
  | _, _ => e.recordsAt .debug = []

/-- Whether the call is a prediction that reads a report without a period, accepted or not. One that
finds no id left does not come to read it. -/
def findsNoPeriod (e : Entry n) : Bool :=
  e.call = .predict && e.before.counter.next?.isSome && e.before.sample.period = .zero

end Entry

namespace Scheduler

/-- What a call logs, which depends on its result in the case of a delivery only. -/
inductive Logs (s : Scheduler n) : Call → Except Fault Reply → List Note → Prop where
  /-- A prediction, accepted or refused, may warn that it falls back on the configured period. -/
  | predict {id : FrameId} {r : Except Fault Reply} (next : s.counter.next? = some id) :
      Logs s .predict r (s.predictNotes id)
  /-- Without an id there is nothing to log. -/
  | exhausted {r : Except Fault Reply} (next : s.counter.next? = none) : Logs s .predict r []
  /-- A milestone, accepted or refused. -/
  | mark {id : FrameId} {milestone : Milestone} {reported : Instant} {r : Except Fault Reply} :
      Logs s (.mark id milestone reported) r [.mark id milestone]
  /-- A drop, accepted or refused. -/
  | discard {id : FrameId} {r : Except Fault Reply} : Logs s (.discard id) r [.discard id]
  /-- A delivery that is returned. -/
  | delivered {id : FrameId} {d : Delivered} :
      Logs s (.deliver id) (.ok (.delivered d)) [.deliver id, .delivered d]
  /-- A delivery that is refused. -/
  | undelivered {id : FrameId} {f : Fault} : Logs s (.deliver id) (.error f) [.deliver id]
  /-- A report of the display. -/
  | ingest {source : Source} {sample : DisplaySample} {r : Except Fault Reply} :
      Logs s (.ingest source sample) r []

theorem predict_logs (s : Scheduler n) (now : Instant) :
    Logs s .predict ((s.predict now).result.map .predicted) (s.predict now).notes := by
  unfold predict
  split
  · rename_i none
    exact .exhausted none
  · rename_i id next
    split <;> exact .predict next

theorem mark_logs (s : Scheduler n) (now : Instant) (id : FrameId) (milestone : Milestone)
    (reported : Instant) :
    Logs s (.mark id milestone reported)
      ((s.mark id milestone reported now).result.map fun _ => .marked)
      (s.mark id milestone reported now).notes := by
  unfold mark
  dsimp only
  split <;> exact .mark

theorem discard_logs (s : Scheduler n) (now : Instant) (id : FrameId) :
    Logs s (.discard id) ((s.discard id now).result.map .discarded) (s.discard id now).notes := by
  unfold discard
  dsimp only
  split <;> exact .discard

theorem deliver_logs (s : Scheduler n) (now : Instant) (id : FrameId) :
    Logs s (.deliver id) ((s.deliver id now).result.map .delivered) (s.deliver id now).notes := by
  unfold deliver
  split
  · exact .undelivered
  · exact .delivered

/-- **Logs**: every call logs what `Logs` says. -/
theorem call_logs (s : Scheduler n) (now : Instant) (c : Call) :
    Logs s c (s.call now c).result (s.call now c).notes := by
  cases c with
  | predict => exact predict_logs s now
  | mark id milestone reported => exact mark_logs s now id milestone reported
  | discard id => exact discard_logs s now id
  | deliver id => exact deliver_logs s now id
  | ingest source sample => exact .ingest

/-! ### What one call logs -/

/-- A call about a frame is traced. -/
theorem call_traced (s : Scheduler n) (now : Instant) (c : Call) :
    (⟨s, now, c, (s.call now c).result⟩ : Entry n).Traced := by
  have logs := call_logs s now c
  unfold Entry.Traced Entry.records
  dsimp only
  generalize (s.call now c).result = r, (s.call now c).notes = notes at logs
  cases logs with
  | @predict id _ next =>
    intro id' succ
    obtain rfl : id' = id := by
      rw [FrameId.next?_eq_some_iff] at next
      exact FrameId.toInt_inj.mp (succ.trans next.symm)
    refine ⟨⟨_, rfl, rfl, rfl⟩, ?_⟩
    have warn : LogLevel.warn ≠ .trace := by decide
    simp only [predictNotes, List.map_cons, List.tail_cons]
    split
    · exact List.forall_mem_singleton.mpr warn
    · exact List.forall_mem_nil _
  | exhausted none =>
    intro id succ
    cases none.symm.trans (FrameId.next?_eq_some_iff.mpr succ)
  | mark | discard | undelivered => exact ⟨⟨_, rfl, rfl, rfl⟩, List.forall_mem_nil _⟩
  | delivered =>
    have debug : LogLevel.debug ≠ .trace := by decide
    exact ⟨⟨_, rfl, rfl, rfl⟩, List.forall_mem_singleton.mpr debug⟩
  | ingest => rfl

/-- The debug records tell of the deliveries that are returned. -/
theorem call_tellsDelivery (s : Scheduler n) (now : Instant) (c : Call) :
    (⟨s, now, c, (s.call now c).result⟩ : Entry n).TellsDelivery := by
  have logs := call_logs s now c
  unfold Entry.TellsDelivery Entry.recordsAt Entry.records
  dsimp only
  generalize (s.call now c).result = r, (s.call now c).notes = notes at logs
  cases logs with
  | predict next =>
    simp only [predictNotes]
    split <;> rfl
  | @delivered id d => exact ⟨d, _, rfl, rfl, saysLate_delivered_iff d⟩
  | _ => rfl

/-- The record of a warning that the settings `c` are fallen back on. -/
def fallbackRecord (c : Config) : LogRecord := (Note.fallback c.fallbackPeriod).record

theorem findsNoPeriod_predict {s : Scheduler n} {id : FrameId} (next : s.counter.next? = some id)
    (now : Instant) (r : Except Fault Reply) :
    (⟨s, now, .predict, r⟩ : Entry n).findsNoPeriod = decide (s.sample.period = .zero) := by
  simp [Entry.findsNoPeriod, next]

theorem findsNoPeriod_of_ne_predict {e : Entry n} (other : e.call ≠ .predict) :
    e.findsNoPeriod = false := by
  simp [Entry.findsNoPeriod, other]

/-- A prediction that finds no period warns, unless the scheduler has done so before. -/
theorem warnings_eq (e : Entry n) :
    e.recordsAt .warn =
      if e.findsNoPeriod && !e.before.warned then [fallbackRecord e.before.config] else [] := by
  obtain ⟨s, now, c, r⟩ := e
  have logs := call_logs s now c
  unfold Entry.recordsAt Entry.records
  dsimp only
  generalize (s.call now c).result = r', (s.call now c).notes = notes at logs
  cases logs with
  | @predict id _ next =>
    rw [findsNoPeriod_predict next]
    show ((s.predictNotes id).map Note.record).filter (fun r => r.level = .warn) =
      if s.fallsBack then [fallbackRecord s.config] else []
    unfold predictNotes
    cases s.fallsBack <;> rfl
  | exhausted none => simp [Entry.findsNoPeriod, none]
  | _ => rfl

/-! ### What a run warns of -/

/-- Whatever comes of a call, the scheduler has warned afterwards if it had before or has just found
no period. -/
theorem Effect.warned_eq {s s' : Scheduler n} {now : Instant} {c : Call} {r : Except Fault Reply}
    (effect : Effect s now c s' r) :
    s'.warned = (s.warned || (⟨s, now, c, r⟩ : Entry n).findsNoPeriod) := by
  have known : (s.warned || s.fallsBack) = (s.warned || decide (s.sample.period = .zero)) := by
    unfold fallsBack
    cases s.warned <;> simp
  cases effect with
  | predicted next _ _ | unbooked next _ => rwa [findsNoPeriod_predict next]
  | exhausted none => simp [Entry.findsNoPeriod, none]
  | @refused c _ not =>
    have other : c ≠ .predict := by
      rintro rfl
      exact not trivial
    rw [findsNoPeriod_of_ne_predict other, Bool.or_false]
  | _ => exact (Bool.or_false s.warned).symm

/-- A scheduler has warned if its history has a prediction that found no period, and then once. -/
structure Warned (s : Scheduler n) (h : List (Entry n)) : Prop where
  /-- It knows whether there was such a prediction. -/
  warned_eq : s.warned = h.any Entry.findsNoPeriod
  /-- There is one warning or none. -/
  length_warnings : (h.flatMap (Entry.recordsAt .warn)).length = s.warned.toNat

theorem warned_initial (c : Config) (pos : 0 < n) : Warned (initial c pos) [] := ⟨rfl, rfl⟩

/-- Every call keeps the account of the warnings. -/
theorem Warned.call {s s' : Scheduler n} {h : List (Entry n)} {now : Instant} {c : Call}
    {r : Except Fault Reply} (warned : Warned s h) (effect : Effect s now c s' r) :
    Warned s' (h ++ [⟨s, now, c, r⟩]) := by
  constructor
  · rw [effect.warned_eq, warned.warned_eq]
    simp
  · rw [List.flatMap_append, List.length_append, warned.length_warnings, effect.warned_eq,
      List.flatMap_singleton, warnings_eq]
    cases s.warned <;> cases Entry.findsNoPeriod _ <;> rfl

theorem warned_run {c : Config} {s₀ : Scheduler n} (created : create n c = .ok s₀)
    (calls : List (Instant × Call)) : Warned (s₀.run calls) (s₀.history calls) :=
  run_induction created (warned_initial c) (fun _ => Warned.call) calls

/-- **The log**: each call of a run about a frame is traced once, by a record that names the frame and
comes first, whether the call is accepted or refused; a debug record tells of each delivery that is
returned and says whether it was late, and of nothing else; and the first prediction that reads a
report without a period warns of it, accepted or not, and nothing else ever does. -/
theorem log_accounts_for_calls {c : Config} {s₀ : Scheduler n} (created : create n c = .ok s₀)
    (calls : List (Instant × Call)) :
    (∀ e ∈ s₀.history calls, e.Traced ∧ e.TellsDelivery) ∧
    (∀ h e h', s₀.history calls = h ++ e :: h' →
      e.recordsAt .warn =
        if e.findsNoPeriod && !h.any Entry.findsNoPeriod then [fallbackRecord c] else []) ∧
    ((s₀.history calls).flatMap (Entry.recordsAt .warn)).length ≤ 1 := by
  refine ⟨fun e made => ?_, fun h e h' split => ?_, ?_⟩
  · obtain ⟨h, h', split⟩ := List.append_of_mem made
    obtain ⟨-, -, -, -, -, result, -⟩ := exists_of_history_eq_append_cons split
    obtain ⟨s, now, call, r⟩ := e
    obtain rfl : r = (s.call now call).result := result
    exact ⟨call_traced s now call, call_tellsDelivery s now call⟩
  · obtain ⟨calls₁, -, -, rfl, before, -⟩ := exists_of_history_eq_append_cons split
    rw [warnings_eq, before, (warned_run created calls₁).warned_eq, (config_run created calls₁).1]
  · rw [(warned_run created calls).length_warnings]
    exact Bool.toNat_le _

/-- In a ring of one slot, the display's report loses its period while a frame is in flight. Two
predictions are refused before the frame is delivered. -/
def warningRun : List (Instant × Call) :=
  [(⟨10000000⟩, .ingest .owner ⟨⟨100000000⟩, ⟨11111111⟩, ⟨1000000⟩⟩), (⟨50000000⟩, .predict),
    (⟨60000000⟩, .ingest .owner ⟨⟨200000000⟩, ⟨0⟩, ⟨1000000⟩⟩), (⟨61000000⟩, .predict),
    (⟨62000000⟩, .predict), (⟨93000000⟩, .mark ⟨1⟩ .wakeUp ⟨93000000⟩),
    (⟨94000000⟩, .mark ⟨1⟩ .begin ⟨0⟩), (⟨130000000⟩, .deliver ⟨1⟩)]

/-- The history of that run. -/
def warningHistory : List (Entry 1) := (initial .conservative Nat.one_pos).history warningRun

theorem log_accounts_for_refused_predictions :
    (warningHistory[3].result = .error (.slotTaken ⟨2⟩ (some ⟨1⟩) .predicted) ∧
      TracedOnce ⟨2⟩ warningHistory[3].records ∧
      warningHistory[3].recordsAt .warn = [fallbackRecord .conservative]) ∧
    (warningHistory[4].result = .error (.slotTaken ⟨3⟩ (some ⟨1⟩) .predicted) ∧
      TracedOnce ⟨3⟩ warningHistory[4].records ∧ warningHistory[4].recordsAt .warn = []) ∧
    ∃ r, warningHistory[7].recordsAt .debug = [r] ∧ r.SaysLate := by
  obtain ⟨accounts, warns, -⟩ :=
    log_accounts_for_calls (create_conservative Nat.one_pos) warningRun
  have first := warns (warningHistory.take 3) warningHistory[3] (warningHistory.drop 4) rfl
  have second := warns (warningHistory.take 4) warningHistory[4] (warningHistory.drop 5) rfl
  rw [if_pos (by decide +kernel)] at first
  rw [if_neg (by decide +kernel)] at second
  refine ⟨⟨rfl, ?_, first⟩, ⟨rfl, ?_, second⟩, ?_⟩
  · exact (accounts warningHistory[3] (List.getElem_mem _)).1 ⟨2⟩ rfl
  · exact (accounts warningHistory[4] (List.getElem_mem _)).1 ⟨3⟩ rfl
  · obtain ⟨d, r, ⟨rfl⟩, told, late⟩ := (accounts warningHistory[7] (List.getElem_mem _)).2
    exact ⟨r, told, late.mpr rfl⟩

end Scheduler

end FramePacing

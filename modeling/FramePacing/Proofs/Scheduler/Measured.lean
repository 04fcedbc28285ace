import FramePacing.Proofs.Scheduler.Transitions

/-!
# What a scheduler measures itself

With each milestone a caller claims a time. `Scheduler.measured` keeps what does not descend from
claims and erases what may: the CPU time of the estimates, the claimed time and the plan in each
slot, and the latest display time. A call that returns keeps the measured parts of two schedulers
equal, whatever is claimed with it (`Effect.measured_eq`), because whether a call is accepted, and
what it writes there, depends on nothing that is erased. For a prediction that is so only if it
returns: the CPU time can make the plan overflow.
-/

namespace FramePacing

/-- The call without the time that is claimed with it. -/
def Call.withoutClaim : Call → Call
  | .mark id milestone _ => .mark id milestone .zero
  | c => c

/-! ### What is measured -/

/-- The estimates without the one that learns from claims. -/
def Estimate.measured (e : Estimate) : Estimate := { e with cpu := .zero }

/-- The times without the claimed one. -/
def Timestamps.measured (t : Timestamps) : Timestamps := { t with woke := .zero }

/-- The record of a frame without the claimed time and without its plan. -/
def Slot.measured (s : Slot) : Slot :=
  { s with displayTime := .zero, period := .zero, deliveryTime := .zero, times := s.times.measured }

/-- A ring of such records. -/
def Ring.measured {n : Nat} (r : Ring n) : Ring n := { r with slots := r.slots.map Slot.measured }

/-- A scheduler with such records and estimates, without the latest display time. -/
def Scheduler.measured {n : Nat} (s : Scheduler n) : Scheduler n :=
  { s with ring := s.ring.measured, latency := s.latency.measured, lastDisplay := .zero }

/-- A report on a delivered frame without what was claimed and planned. -/
def Delivered.measured (d : Delivered) : Delivered :=
  { d with
    times := d.times.measured
    displayTime := .zero
    period := .zero
    deliveryTime := .zero
    error := 0
    cpuSample := .zero
    previous := d.previous.measured
    updated := d.updated.measured }

/-- A report on a dropped frame without the claimed time. -/
def Discarded.measured (d : Discarded) : Discarded := { d with times := d.times.measured }

/-- Such a result. Of a prediction, the id. -/
def Reply.measured : Reply → Reply
  | .predicted p => .predicted ⟨p.id, .zero, .zero, .zero⟩
  | .marked => .marked
  | .discarded d => .discarded d.measured
  | .delivered d => .delivered d.measured
  | .ingested => .ingested

/-- The scheduler after a step and the result, as far as they are measured. -/
def Step.measured {n : Nat} (step : Step n Reply) : Scheduler n × Except Fault Reply :=
  (step.next.measured, step.result.map Reply.measured)

theorem Estimate.measured_eq_iff {e e' : Estimate} :
    e.measured = e'.measured ↔ e.draw = e'.draw ∧ e.margin = e'.margin := by
  simp [measured]

theorem Timestamps.measured_eq_iff {t t' : Timestamps} :
    t.measured = t'.measured ↔
      t.predicted = t'.predicted ∧ t.begun = t'.begun ∧ t.delivered = t'.delivered := by
  simp [measured]

namespace Slot

theorem measured_eq_iff {s s' : Slot} :
    s.measured = s'.measured ↔
      s.holder = s'.holder ∧ s.stage = s'.stage ∧ s.times.measured = s'.times.measured := by
  simp [measured]

variable (s : Slot) (now : Instant)

@[simp] theorem measured_woken : (s.woken now).measured = s.measured.woken .zero := rfl

@[simp] theorem measured_started : (s.started now).measured = s.measured.started now := rfl

@[simp] theorem measured_stamped : (s.stamped now).measured = s.measured.stamped now := rfl

@[simp] theorem measured_freed : s.freed.measured = s.measured.freed := rfl

end Slot

namespace Ring

variable {n : Nat} (r : Ring n)

@[simp] theorem get_measured (i : Fin n) : r.measured.get i = (r.get i).measured :=
  Vector.getElem_map Slot.measured _

@[simp] theorem slot_measured (id : FrameId) : r.measured.slot id = (r.slot id).measured :=
  r.get_measured (r.index id)

@[simp] theorem measured_put (id : FrameId) (s : Slot) :
    (r.put id s).measured = r.measured.put id s.measured :=
  congrArg (Ring.mk · r.nonempty) Vector.map_set

end Ring

/-- What a delivery says of itself and of the estimates, as far as it is measured. -/
theorem Scheduler.measured_deliveryReport {n : Nat} (s : Scheduler n) (id : FrameId) (slot : Slot) :
    (s.deliveryReport id slot).measured =
      { id
        times := slot.times.measured
        displayTime := .zero
        period := .zero
        deliveryTime := .zero
        error := 0
        cpuSample := .zero
        drawSample := slot.times.delivered.since slot.times.begun
        previous := s.latency.measured
        updated :=
          { s.latency.measured with
            draw := s.config.smoothing.smooth s.latency.draw
              (slot.times.delivered.since slot.times.begun) } } := rfl

namespace Scheduler

variable {n : Nat}

@[simp] theorem measured_ring (s : Scheduler n) : s.measured.ring = s.ring.measured := rfl

@[simp] theorem frame?_measured (s : Scheduler n) (id : FrameId) :
    s.measured.frame? id = (s.frame? id).map Slot.measured := by
  show s.ring.measured.find? id = (s.ring.find? id).map Slot.measured
  unfold Ring.find?
  rw [Ring.slot_measured]
  by_cases held : (s.ring.slot id).holder = some id
  · simp [held, Slot.measured]
  · simp [held, Slot.measured]

@[simp] theorem measured_withFrame (s : Scheduler n) (id : FrameId) (slot : Slot) :
    (s.withFrame id slot).measured = s.measured.withFrame id slot.measured := by
  simp [measured, withFrame]

/-- The plan of a frame is not measured. -/
@[simp] theorem measured_afterPredict (s : Scheduler n) (id : FrameId) (b : Booking)
    (now : Instant) :
    (s.afterPredict id b now).measured =
      s.measured.afterPredict id ⟨.zero, .zero, .zero, .zero⟩ now := by
  simp only [measured, afterPredict, Ring.measured_put]
  rfl

theorem readsClock_measured (s : Scheduler n) (c : Call) :
    s.measured.readsClock c.withoutClaim = s.readsClock c := by
  cases c with
  | mark id milestone reported => cases milestone <;> simp [Call.withoutClaim, readsClock]
  | _ => rfl

/-! ### A call made to both of two schedulers -/

section

variable {s s' : Scheduler n}

/-- What two schedulers share that have measured the same. -/
theorem parts_eq_of_measured (same : s.measured = s'.measured) :
    s.config = s'.config ∧ s.counter = s'.counter ∧ s.sample = s'.sample ∧
      s.latency.draw = s'.latency.draw ∧ s.latency.margin = s'.latency.margin := by
  simp only [measured, Scheduler.mk.injEq, Estimate.measured_eq_iff] at same
  obtain ⟨config, -, counter, ⟨draw, margin⟩, sample, -, -⟩ := same
  exact ⟨config, counter, sample, draw, margin⟩

/-- The records of a frame in two schedulers with the same measured parts. -/
theorem measured_eq_of_frame? (same : s.measured = s'.measured) {id : FrameId}
    {slot slot' : Slot} (held : s.frame? id = some slot) (held' : s'.frame? id = some slot') :
    slot.measured = slot'.measured := by
  have found := congrArg (Scheduler.frame? · id) same
  simpa [held, held'] using found

theorem measured_eq_of_latency (same : s.measured = s'.measured) {e e' : Estimate}
    (latency : e.measured = e'.measured) :
    ({ s with latency := e } : Scheduler n).measured =
      ({ s' with latency := e' } : Scheduler n).measured := by
  show { s.measured with latency := e.measured } = { s'.measured with latency := e'.measured }
  rw [same, latency]

/-- Reports on frames with the same measured records. -/
theorem measured_discardReport_eq (id : FrameId) {slot slot' : Slot}
    (slots : slot.measured = slot'.measured) :
    (discardReport id slot).measured = (discardReport id slot').measured := by
  obtain ⟨-, stage, times⟩ := Slot.measured_eq_iff.mp slots
  simp [Discarded.measured, discardReport, stage, times]

theorem measured_deliveryReport_eq (same : s.measured = s'.measured) (id : FrameId)
    {slot slot' : Slot} (slots : slot.measured = slot'.measured) :
    (s.deliveryReport id slot).measured = (s'.deliveryReport id slot').measured := by
  obtain ⟨config, -, -, draw, margin⟩ := parts_eq_of_measured same
  have latency : s.latency.measured = s'.latency.measured :=
    Estimate.measured_eq_iff.mpr ⟨draw, margin⟩
  obtain ⟨-, -, times⟩ := Slot.measured_eq_iff.mp slots
  obtain ⟨-, begun, delivered⟩ := Timestamps.measured_eq_iff.mp times
  rw [measured_deliveryReport, measured_deliveryReport, config, latency, draw, times, begun,
    delivered]

/-- Two calls that return, and differ in their claims at most, keep the measured parts equal. -/
theorem Effect.measured_eq {t t' : Scheduler n} {now : Instant} {c c' : Call} {r r' : Reply}
    (effect : Effect s now c t (.ok r)) (effect' : Effect s' now c' t' (.ok r'))
    (same : s.measured = s'.measured) (calls : c.withoutClaim = c'.withoutClaim) :
    t.measured = t'.measured ∧ r.measured = r'.measured := by
  cases effect with
  | predicted next _ _ => cases effect' with
    | predicted next' _ _ =>
      obtain ⟨-, counter, -⟩ := parts_eq_of_measured same
      rw [counter] at next
      obtain rfl := Option.some.inj (next.symm.trans next')
      exact ⟨by simp [same], rfl⟩
    | _ => cases calls
  | woke held _ => cases effect' with
    | woke held' _ =>
      cases calls
      have slots := measured_eq_of_frame? same held held'
      exact ⟨by simp [same, slots], rfl⟩
    | _ => cases calls
  | began held _ => cases effect' with
    | began held' _ =>
      cases calls
      have slots := measured_eq_of_frame? same held held'
      exact ⟨by simp [same, slots], rfl⟩
    | _ => cases calls
  | @discarded id slot held _ => cases effect' with
    | @discarded _ slot' held' _ =>
      cases calls
      have slots : (slot.stamped now).measured = (slot'.stamped now).measured := by
        simp [measured_eq_of_frame? same held held']
      have report := measured_discardReport_eq id slots
      exact ⟨by simp [same, slots], congrArg Reply.discarded report⟩
    | _ => cases calls
  | @delivered id slot held _ => cases effect' with
    | @delivered _ slot' held' _ =>
      cases calls
      have slots : (slot.stamped now).measured = (slot'.stamped now).measured := by
        simp [measured_eq_of_frame? same held held']
      have report := measured_deliveryReport_eq same id slots
      have freed : (s.withFrame id (slot.stamped now).freed).measured =
          (s'.withFrame id (slot'.stamped now).freed).measured := by simp [same, slots]
      have updated := congrArg Delivered.updated report
      exact ⟨measured_eq_of_latency freed updated, congrArg Reply.delivered report⟩
    | _ => cases calls
  | @ingested _ sample => cases effect' with
    | ingested =>
      cases calls
      have next := congrArg (Scheduler.ingest · sample) same
      exact ⟨next, rfl⟩
    | _ => cases calls

end

end Scheduler

end FramePacing

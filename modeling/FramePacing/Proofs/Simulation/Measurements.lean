import FramePacing.Proofs.Scheduler.Lateness
import FramePacing.Proofs.Simulation.Presentation

/-!
# What a simulated frame measures

An application that is run on simulated time does just what its workload says: it oversleeps, works
and draws for as long as it is told. The scheduler sees none of this. It plans a frame by its own
estimate, on a grid of refreshes, takes the times of the milestones, and reports differences.

The two accounts agree. What is measured is the workload, and the delivery error is what the
estimate has over the work (`delivery_measures_workload`). The display time that a frame aims at,
its period, the safety margin and the display's share are all in the plan, but none of them is in
the error: a plan counts back from the display time to the delivery, and the simulation counts
forward from a wake-up time that was counted back from the same point.
-/

namespace FramePacing

/-- The application's share of a frame, as it is estimated, however long it is. -/
def Estimate.total (e : Estimate) : Nat := e.cpu.toNat + e.draw.toNat

namespace Workload

/-- How long the application takes from the predicted wake-up time to the delivery. -/
def total (w : Workload) : Nat := w.wakeDelay.toNat + w.cpu.toNat + w.draw.toNat

variable {w : Workload} {p : Prediction}

/-! If the clock does not wrap round before the work is done, every milestone is as late as the
workload makes it. -/

theorem toNat_woke (fits : p.wakeUpTime.toNat + w.total ≤ horizon) :
    (w.woke p).toNat = p.wakeUpTime.toNat + w.wakeDelay.toNat := by
  unfold total at fits
  exact Instant.toNat_wrappingAfter (by omega)

theorem toNat_begun (fits : p.wakeUpTime.toNat + w.total ≤ horizon) :
    (w.begun p).toNat = p.wakeUpTime.toNat + w.wakeDelay.toNat + w.cpu.toNat := by
  have woke := toNat_woke fits
  unfold total at fits
  rw [← woke]
  exact Instant.toNat_wrappingAfter (by omega)

theorem toNat_done (fits : p.wakeUpTime.toNat + w.total ≤ horizon) :
    (w.done p).toNat = p.wakeUpTime.toNat + w.total := by
  have begun := toNat_begun fits
  have done : (w.done p).toNat = (w.begun p).toNat + w.draw.toNat := by
    unfold total at fits
    exact Instant.toNat_wrappingAfter (by omega)
  rw [done, begun]
  unfold total
  omega

end Workload

/-! ### One frame -/

namespace Launch

variable {a : Application} (l : Launch a) (w : Workload)

theorem samples_delivery (fits : l.prediction.wakeUpTime.toNat + w.total ≤ horizon) :
    (l.delivery w).cpuSample = w.cpu ∧ (l.delivery w).drawSample = w.draw := by
  have woke := Workload.toNat_woke fits
  have begun := Workload.toNat_begun fits
  unfold Workload.total at fits
  exact ⟨Instant.since_wrappingAfter (by omega), Instant.since_wrappingAfter (by omega)⟩

/-- A frame is woken up so long before its delivery time as its work is estimated to take. -/
theorem estimate_fits (below : l.prediction.displayTime.toNat < horizon) :
    l.prediction.wakeUpTime.toNat + a.scheduler.latency.total = l.booking.deliveryTime.toNat :=
  (planFrame_counts_back l.planned below).2

/-- The wake-up time, and with it the margin, the display's share and the grid, has cancelled
out. -/
theorem lead_delivery (below : l.prediction.displayTime.toNat < horizon)
    (fits : l.prediction.wakeUpTime.toNat + w.total ≤ horizon) :
    (l.delivery w).lead = (a.scheduler.latency.total : Int) - w.total := by
  have estimated := l.estimate_fits below
  have worked := Workload.toNat_done fits
  show (l.booking.deliveryTime.toNat : Int) - (w.done l.prediction).toNat = _
  omega

end Launch

namespace Application

/-- **Measurements**: whatever state an application is in, and so whatever has happened to it, a
frame that it delivers below the horizon, before the clock wraps round, has the measurements of its
workload. The error, if it fits in a signed word, is the estimate before the frame less the time
that the frame took from its wake-up time on, and the frame is called late exactly if that time is
the longer one. -/
theorem delivery_measures_workload (a : Application) {t : Tracer} {w : Workload} {o : Outcome}
    (returned : (a.deliverNext t w).result = .ok o)
    (below : o.prediction.displayTime.toNat < horizon)
    (fits : o.prediction.wakeUpTime.toNat + w.total ≤ horizon) :
    ∃ d, o.ending = .delivered d ∧
      d.times.woke.toNat = o.prediction.wakeUpTime.toNat + w.wakeDelay.toNat ∧
      d.cpuSample = w.cpu ∧ d.drawSample = w.draw ∧ d.previous = a.scheduler.latency ∧
      d.lead = (d.previous.total : Int) - w.total ∧
      (FitsSigned ((d.previous.total : Int) - w.total) →
        d.error.toInt = (d.previous.total : Int) - w.total ∧
        (d.late ↔ d.previous.total < w.total)) := by
  obtain ⟨q, returns⟩ := play_eq_ok_iff.mp returned
  obtain ⟨l, shown, -, rfl, -⟩ := FrameM.deliver_returns_iff.mp returns
  obtain ⟨cpu, draw⟩ := l.samples_delivery w fits
  have lead : (l.delivery w).lead = ((l.delivery w).previous.total : Int) - w.total :=
    l.lead_delivery w below fits
  refine ⟨l.delivery w, rfl, Workload.toNat_woke fits, cpu, draw, rfl, lead, fun signed => ?_⟩
  rw [← lead] at signed ⊢
  obtain ⟨error, late⟩ := Delivered.late_iff_of_fits (Instant.toInt_signedSince _ _) signed
  refine ⟨error, late.trans ?_⟩
  rw [lead]
  omega

/-- The frame took 6.000001 ms, and its work was estimated to take 4 ms. -/
theorem delivery_measures_workload_after_switch :
    ∃ o d,
      ((newApplication.perform switchingHistory).deliverNext .detached
        ⟨⟨20000⟩, ⟨1000000⟩, ⟨4980001⟩⟩).result = .ok o ∧
      o.ending = .delivered d ∧ d.times.woke.toNat = o.prediction.wakeUpTime.toNat + 20000 ∧
      d.cpuSample = ⟨1000000⟩ ∧ d.drawSample = ⟨4980001⟩ ∧ d.error.toInt = -2000001 ∧ d.late := by
  obtain ⟨o, returned, aim, wakeUp⟩ : ∃ o,
      ((newApplication.perform switchingHistory).deliverNext .detached
        ⟨⟨20000⟩, ⟨1000000⟩, ⟨4980001⟩⟩).result = .ok o ∧ o.prediction.displayTime = ⟨16111111⟩ ∧
      o.prediction.wakeUpTime = ⟨9611111⟩ :=
    ⟨_, rfl, rfl, rfl⟩
  obtain ⟨d, ending, woke, cpu, draw, previous, -, error⟩ :=
    delivery_measures_workload _ returned (by rw [aim]; decide) (by rw [wakeUp]; decide)
  have estimate : d.previous.total = 4000000 := by
    rw [previous]
    rfl
  rw [estimate] at error
  obtain ⟨error, late⟩ := error ⟨by decide, by decide⟩
  exact ⟨o, d, returned, ending, woke, cpu, draw, error, late.mpr (by decide)⟩

end Application

end FramePacing

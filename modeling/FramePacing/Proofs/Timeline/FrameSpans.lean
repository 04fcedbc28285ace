import FramePacing.Trace.Timeline
import Mathlib.Data.List.Pairwise

/-!
# The spans of a delivered frame

A viewer stacks spans that overlap. The sleep, the work and the drawing of a frame come one after
another, so their spans should not, and to keep the work out of the sleep its span starts one
nanosecond late.

A span is written as a start and a length, and the length is never negative. So the nanosecond is
taken from the work where there is any, and the three spans follow one another. A frame whose work
begins at the instant of its wake-up has none to take it from: its work is shown as an empty span
one nanosecond after the drawing has started (`stretches_eq`).
-/

namespace FramePacing

/-! ### Spans as viewers see them -/

/-- The time that a span covers, in nanoseconds. -/
structure Stretch where
  /-- What is covered. -/
  name : String
  /-- Where the span starts. -/
  start : Nat
  /-- Where its length takes it. -/
  stop : Nat
  deriving DecidableEq

/-- Neither of two spans is over when the other one starts. -/
def Stretch.Overlaps (a b : Stretch) : Prop := a.start < b.stop ∧ b.start < a.stop

instance (a b : Stretch) : Decidable (a.Overlaps b) := inferInstanceAs (Decidable (_ ∧ _))

/-- What an item covers, if it is a span: its length from its start on. -/
def TimelineItem.stretch? : TimelineItem → Option Stretch
  | .span name start stop _ => some ⟨name, start.toNat, start.toNat + (spanLength start stop).toNat⟩
  | .mark _ _ _ _ _ => none
  | .counter _ _ _ => none

/-- The spans of a delivered frame, as they are exported. -/
def Delivery.stretches (d : Delivery) : List Stretch := d.items.filterMap TimelineItem.stretch?

/-- The milestones of a frame come in order, and the last one before the end of the clock's
range. -/
structure Timestamps.InOrder (t : Timestamps) : Prop where
  /-- It woke up after it was predicted. -/
  woke : t.predicted ≤ t.woke
  /-- It began after it woke up. -/
  begun : t.woke ≤ t.begun
  /-- It was delivered after it began. -/
  delivered : t.begun ≤ t.delivered
  /-- There is an instant after its delivery. -/
  before_end : t.delivered.toNat < horizon

/-! ### Their ends -/

theorem toNat_cpuStart {t : Timestamps} (inOrder : t.InOrder) :
    (cpuStart t).toNat = t.woke.toNat + 1 := by
  have begun := Instant.le_iff.mp inOrder.begun
  have delivered := Instant.le_iff.mp inOrder.delivered
  have before_end := inOrder.before_end
  have one : (⟨1⟩ : Span).toNat = 1 := rfl
  rw [cpuStart, Instant.toNat_after, one]
  omega

namespace Delivery

variable {d : Delivery}

/-- The three spans. Only that of the work may end elsewhere than at its milestone. -/
theorem stretches_eq (inOrder : d.times.InOrder) :
    d.stretches =
      [⟨"sleep", d.times.predicted.toNat, d.times.woke.toNat⟩,
        ⟨"cpu", d.times.woke.toNat + 1, max (d.times.woke.toNat + 1) d.times.begun.toNat⟩,
        ⟨"draw", d.times.begun.toNat, d.times.delivered.toNat⟩] := by
  have sleep := Nat.add_sub_of_le (Instant.le_iff.mp inOrder.woke)
  have draw := Nat.add_sub_of_le (Instant.le_iff.mp inOrder.delivered)
  have cpu : d.times.woke.toNat + 1 + (d.times.begun.toNat - (d.times.woke.toNat + 1)) =
      max (d.times.woke.toNat + 1) d.times.begun.toNat := by
    omega
  simp [stretches, items, TimelineItem.stretch?, toNat_cpuStart inOrder, sleep, draw, cpu]

/-- The spans of a frame overlap where the work begins at the wake-up and the drawing takes more
than a nanosecond. -/
theorem pairwise_not_overlaps_iff (inOrder : d.times.InOrder) :
    d.stretches.Pairwise (fun a b => ¬ a.Overlaps b) ↔
      d.times.woke < d.times.begun ∨ d.times.delivered.toNat ≤ d.times.woke.toNat + 1 := by
  have woke := Instant.le_iff.mp inOrder.woke
  have begun := Instant.le_iff.mp inOrder.begun
  have delivered := Instant.le_iff.mp inOrder.delivered
  rw [stretches_eq inOrder, Instant.lt_iff]
  simp only [Stretch.Overlaps, not_and, Nat.not_lt, List.pairwise_cons, List.mem_cons,
    List.not_mem_nil, or_false, forall_eq_or_imp, forall_eq, false_implies, implies_true,
    List.Pairwise.nil, and_true]
  omega

/-- **The spans of a frame** whose milestones come in order: the sleep ends before the work starts,
the drawing ends with the delivery, and the work ends no later than the drawing starts exactly if it
began after the wake-up. If it did, no two of the spans overlap; if it began at the wake-up, its
span is within that of the drawing, unless the drawing is over by then. -/
theorem frame_spans_follow_unless_begun_at_wake_up (inOrder : d.times.InOrder) :
    ∃ sleep cpu draw : Stretch, d.stretches = [sleep, cpu, draw] ∧
      [sleep.name, cpu.name, draw.name] = ["sleep", "cpu", "draw"] ∧
      sleep.stop < cpu.start ∧ (cpu.stop ≤ draw.start ↔ d.times.woke < d.times.begun) ∧
      draw.stop = d.times.delivered.toNat ∧
      (d.stretches.Pairwise (fun a b => ¬ a.Overlaps b) ↔
        d.times.woke < d.times.begun ∨ d.times.delivered.toNat ≤ d.times.woke.toNat + 1) := by
  have begun := Instant.le_iff.mp inOrder.begun
  have cpuEnd : max (d.times.woke.toNat + 1) d.times.begun.toNat ≤ d.times.begun.toNat ↔
      d.times.woke < d.times.begun := by
    rw [Instant.lt_iff]
    omega
  exact ⟨_, _, _, stretches_eq inOrder, rfl, Nat.lt_succ_self _, cpuEnd, rfl,
    pairwise_not_overlaps_iff inOrder⟩

/-- A frame that slept for no time, worked for a nanosecond and was drawn in no time. -/
def briefFrame : Delivery := { (default : Delivery) with times := ⟨⟨5⟩, ⟨5⟩, ⟨6⟩, ⟨6⟩⟩ }

theorem frame_spans_follow_in_brief_frame :
    briefFrame.times.InOrder ∧
      (∃ sleep cpu draw : Stretch, briefFrame.stretches = [sleep, cpu, draw] ∧
        sleep.stop < cpu.start ∧ cpu.stop ≤ draw.start ∧ draw.stop = 6) ∧
      briefFrame.stretches.Pairwise fun a b => ¬ a.Overlaps b := by
  have inOrder : briefFrame.times.InOrder := ⟨by decide, by decide, by decide, by decide⟩
  have begunLater : briefFrame.times.woke < briefFrame.times.begun := by decide
  obtain ⟨sleep, cpu, draw, spans, -, wakes, follows, ends, apart⟩ :=
    frame_spans_follow_unless_begun_at_wake_up inOrder
  exact ⟨inOrder, ⟨sleep, cpu, draw, spans, wakes, follows.mpr begunLater, ends⟩,
    apart.mpr (Or.inl begunLater)⟩

/-- A frame that began its work at the instant of its wake-up. -/
def promptFrame : Delivery :=
  { (default : Delivery) with times := ⟨⟨0⟩, ⟨1000000⟩, ⟨1000000⟩, ⟨2000000⟩⟩ }

/-- It is not so that the work always ends before the drawing starts: that of a frame that began at
its wake-up ends a nanosecond after. -/
theorem not_all_frame_spans_follow :
    ¬ ∀ d : Delivery, d.times.InOrder → ∃ sleep cpu draw : Stretch,
      d.stretches = [sleep, cpu, draw] ∧ sleep.stop < cpu.start ∧ cpu.stop ≤ draw.start ∧
        draw.stop = d.times.delivered.toNat := by
  intro all
  have inOrder : promptFrame.times.InOrder := ⟨by decide, by decide, by decide, by decide⟩
  obtain ⟨sleep, cpu, draw, spans, -, follows, -⟩ := all promptFrame inOrder
  have spans' : promptFrame.stretches =
      [⟨"sleep", 0, 1000000⟩, ⟨"cpu", 1000001, 1000001⟩, ⟨"draw", 1000000, 2000000⟩] :=
    stretches_eq inOrder
  rw [spans'] at spans
  cases spans
  exact absurd follows (by decide)

end Delivery

end FramePacing

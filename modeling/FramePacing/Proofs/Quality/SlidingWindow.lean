import FramePacing.Quality.Tracker
import Mathlib.Data.List.DropRight

/-!
# The window of a tracker

A tracker keeps its latest `n` times in a ring: the cursor is where the oldest one lies, the next
one takes its place, and the cursor moves on. Read from the cursor on, the ring is a list that loses
its first element and gets a new last one (`recent_noted`), so after any number of frames it is the
end of a long list: of the seed `n` times and then all times that came (`Tracker.Keeps`). The
counters never lose a frame before they reach the greatest word, and there they stay.
-/

namespace FramePacing

/-! ### What a tracker keeps and reports -/

/-- What a report says after the frames `seen`. -/
structure QualityReport.SumsUp (seen : List FrameQuality) (r : QualityReport) : Prop where
  /-- It has the number of frames, clipped. -/
  total : r.total.toNat = min seen.length horizon
  /-- It has the number of frames that were late, clipped. -/
  late : r.late.toNat = min (seen.countP (·.missed)) horizon
  /-- No more frames were late than there were. -/
  late_le : r.late ≤ r.total
  /-- There was a frame. -/
  ne_zero : r.total ≠ 0
  /-- The rate is the one of these two numbers. -/
  lateRate : r.lateRate = r.late.toFloat * 1000.0 / r.total.toFloat

namespace Tracker

variable {n : Nat} {t : Tracker n} {seed : Float} {seen : List FrameQuality}

/-- The tracker after frames one after another. -/
def after (t : Tracker n) (frames : List FrameQuality) : Tracker n :=
  frames.foldl (fun t s => (t.add s).2) t

/-- What a tracker that was filled with `seed` keeps of the frames `seen`. -/
structure Keeps (seed : Float) (seen : List FrameQuality) (t : Tracker n) : Prop where
  /-- The latest times, and the seed in the places that none has taken yet. -/
  recent : t.recent = (List.replicate n seed ++ seen.map (·.wakeToDisplay)).rtake n
  /-- The cursor goes round. -/
  cursor : t.cursor = seen.length % n
  /-- The number of frames, clipped. -/
  total : t.total.toNat = min seen.length horizon
  /-- The number of late frames, clipped. -/
  late : t.late.toNat = min (seen.countP (·.missed)) horizon

/-! ### The ring as a list -/

@[simp] theorem length_recent (t : Tracker n) : t.recent.length = n := by
  simp [recent]

theorem getElem?_recent (t : Tracker n) {i : Nat} (h : i < n) :
    t.recent[i]? = t.memory[(t.cursor + i) % n]? := by
  simp [recent, h, Nat.mod_lt _ (Nat.zero_lt_of_lt h)]

/-- The remembered times are those that one meets going round from the cursor. -/
theorem recent_eq {times : List Float} (length : times.length = n)
    (met : ∀ i < n, t.memory[(t.cursor + i) % n]? = times[i]?) : t.recent = times := by
  apply List.ext_getElem?
  intro i
  by_cases inside : i < n
  · rw [getElem?_recent t inside, met i inside]
  · have beyond := Nat.not_lt.mp inside
    rw [List.getElem?_eq_none (by simpa using beyond), List.getElem?_eq_none (by omega)]

/-- The tracker after one more frame. -/
def noted (t : Tracker n) (s : FrameQuality) (h : t.cursor < n) : Tracker n :=
  { memory := t.memory.set t.cursor s.wakeToDisplay h
    cursor := (t.cursor + 1) % n
    total := count t.total
    late := if s.missed then count t.late else t.late }

theorem add_of_lt (s : FrameQuality) (h : t.cursor < n) :
    t.add s = (.ok ((t.noted s h).report s.deliveryError), t.noted s h) :=
  dif_pos h

/-- Going round from a place, one comes back to it after `n` steps and no earlier. -/
theorem add_mod_eq_self_iff {c k : Nat} (h : c < n) (pos : 0 < k) (le : k ≤ n) :
    (c + k) % n = c ↔ k = n := by
  constructor
  · intro back
    by_contra other
    rcases Nat.lt_or_ge (c + k) n with inside | beyond
    · rw [Nat.mod_eq_of_lt inside] at back
      omega
    · rw [Nat.mod_eq_sub_mod beyond, Nat.mod_eq_of_lt (by omega)] at back
      omega
  · rintro rfl
    rw [Nat.add_mod_right, Nat.mod_eq_of_lt h]

/-- The oldest time goes, and the new one comes last. -/
theorem recent_noted (s : FrameQuality) (h : t.cursor < n) :
    (t.noted s h).recent = t.recent.tail ++ [s.wakeToDisplay] := by
  have pos : 0 < n := Nat.zero_lt_of_lt h
  refine recent_eq (by simp; omega) ?_
  intro i inside
  -- from the new cursor on, one is a step ahead of the old one, and comes back to it last
  have ahead : ((t.cursor + 1) % n + i) % n = (t.cursor + (i + 1)) % n := by
    rw [Nat.mod_add_mod, Nat.add_assoc, Nat.add_comm 1 i]
  have back := add_mod_eq_self_iff h (Nat.succ_pos i) inside
  show (t.memory.set t.cursor s.wakeToDisplay h)[((t.cursor + 1) % n + i) % n]? = _
  rw [ahead]
  by_cases last : i + 1 = n
  · have before : t.recent.tail.length = i := by
      rw [List.length_tail, length_recent]
      omega
    rw [back.mpr last, Vector.getElem?_set_self,
      List.getElem?_append_right (Nat.le_of_eq before), before, Nat.sub_self]
    rfl
  · rw [Vector.getElem?_set_ne _ (Ne.symm (mt back.mp last)),
      List.getElem?_append_left (by simp; omega), List.getElem?_tail,
      getElem?_recent _ (Nat.lt_of_le_of_ne inside last)]

/-! ### Frame after frame -/

theorem toNat_count (w : UInt64) : (count w).toNat = min (w.toNat + 1) horizon := toNat_clip _

/-- The last elements without their first one are the last ones but one less. -/
theorem tail_rtake {α : Type} {xs : List α} {m : Nat} (enough : m + 1 ≤ xs.length) :
    (xs.rtake (m + 1)).tail = xs.rtake m := by
  have next : xs.length - (m + 1) + 1 = xs.length - m := by omega
  rw [List.rtake, List.rtake, List.tail_drop, next]

theorem Keeps.cursor_lt (pos : 0 < n) (h : Keeps seed seen t) : t.cursor < n := by
  rw [h.cursor]
  exact Nat.mod_lt _ pos

theorem keeps_create (n : Nat) (seed : Float) : Keeps seed [] (create n seed) where
  recent := by
    have all : (List.replicate n seed).rtake n = List.replicate n seed := by
      simp [List.rtake]
    rw [List.map_nil, List.append_nil, all]
    refine recent_eq (by simp) ?_
    intro i inside
    simp [create, inside, Nat.mod_lt i (Nat.zero_lt_of_lt inside)]
  cursor := (Nat.zero_mod n).symm
  total := rfl
  late := rfl

theorem Keeps.noted (pos : 0 < n) (h : Keeps seed seen t) (s : FrameQuality) :
    Keeps seed (seen ++ [s]) (t.noted s (h.cursor_lt pos)) where
  recent := by
    obtain ⟨m, rfl⟩ := Nat.exists_eq_add_one_of_ne_zero (Nat.ne_of_gt pos)
    rw [recent_noted, h.recent, tail_rtake (by simp), List.map_append, ← List.append_assoc]
    exact (List.rtake_concat_succ _ _ _).symm
  cursor := by
    show (t.cursor + 1) % n = _
    rw [h.cursor, Nat.mod_add_mod, List.length_append]
    rfl
  total := by
    show (count t.total).toNat = _
    rw [toNat_count, h.total, List.length_append, List.length_singleton]
    omega
  late := by
    show (if s.missed then count t.late else t.late).toNat = _
    rw [List.countP_append, List.countP_singleton]
    split
    · rw [toNat_count, h.late]
      omega
    · exact h.late

theorem after_concat (t : Tracker n) (seen : List FrameQuality) (s : FrameQuality) :
    t.after (seen ++ [s]) = ((t.after seen).add s).2 := by
  simp [after]

theorem keeps_after (pos : 0 < n) (seed : Float) (seen : List FrameQuality) :
    Keeps seed seen ((create n seed).after seen) := by
  induction seen using List.reverseRecOn with
  | nil => exact keeps_create n seed
  | append_singleton seen s ih =>
    rw [after_concat, add_of_lt s (ih.cursor_lt pos)]
    exact ih.noted pos s

theorem Keeps.sumsUp (h : Keeps seed seen t) (some : seen ≠ []) (deliveryError : Float) :
    (t.report deliveryError).SumsUp seen where
  total := h.total
  late := h.late
  late_le := by
    have fewer := List.countP_le_length (p := (·.missed)) (l := seen)
    show t.late ≤ t.total
    rw [UInt64.le_iff_toNat_le, h.late, h.total]
    omega
  ne_zero := by
    have pos := List.length_pos_iff.mpr some
    have counted : t.total.toNat ≠ 0 := by
      rw [h.total]
      unfold horizon
      omega
    exact fun zero => counted (congrArg UInt64.toNat zero)
  lateRate := rfl

/-- **The window slides**: after any frames, a tracker that remembers some has the latest times in
order, and its seed for those that never came; its cursor is within its memory; and the report on
whatever comes next counts all frames and all late ones up to the greatest word, so that it never
divides by zero. -/
theorem tracker_slides_and_counts (pos : 0 < n) (seed : Float) (seen : List FrameQuality) :
    ((create n seed).after seen).recent =
        (List.replicate n seed ++ seen.map (·.wakeToDisplay)).rtake n ∧
      ((create n seed).after seen).cursor < n ∧
      ∀ s, ∃ report, (((create n seed).after seen).add s).1 = .ok report ∧
        report.SumsUp (seen ++ [s]) := by
  have kept := keeps_after pos seed seen
  refine ⟨kept.recent, kept.cursor_lt pos, ?_⟩
  intro s
  refine ⟨_, congrArg Prod.fst (add_of_lt s (kept.cursor_lt pos)), ?_⟩
  exact (kept.noted pos s).sumsUp (by simp) s.deliveryError

/-- Five frames, two of them late. -/
def fiveFrames : List FrameQuality :=
  [⟨1.0, 0.5, false⟩, ⟨2.0, -3.0, true⟩, ⟨3.0, 0.25, false⟩, ⟨4.0, -1.5, true⟩, ⟨5.0, 1.0, false⟩]

/-- A tracker of four has gone round once after five frames, and counts the sixth one as late. -/
theorem tracker_slides_and_counts_beyond_four :
    0 < 4 ∧ ((create 4 0.0).after fiveFrames).recent = [2.0, 3.0, 4.0, 5.0] ∧
      ∃ report, (((create 4 0.0).after fiveFrames).add ⟨6.0, -0.5, true⟩).1 = .ok report ∧
        report.total.toNat = 6 ∧ report.late.toNat = 3 := by
  obtain ⟨recent, -, reports⟩ := tracker_slides_and_counts (n := 4) (by decide) 0.0 fiveFrames
  obtain ⟨report, returned, sums⟩ := reports ⟨6.0, -0.5, true⟩
  exact ⟨by decide, recent, report, returned, sums.total, sums.late⟩

end Tracker

end FramePacing

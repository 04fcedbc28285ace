import FramePacing.Frame.Slot

/-!
# The ring of slots

A ring has a fixed positive number of slots, and frame `id` may only use slot `id mod n`. It holds a
set of frames: `find?_put_self`, `find?_put_free` and `find?_put_of_ne` say what a write does to it.
-/

namespace FramePacing

/-- A ring of `n` slots. -/
structure Ring (n : Nat) where
  /-- The slots in index order. -/
  slots : Vector Slot n
  /-- There is one at least. -/
  nonempty : 0 < n

/-- The slot of a frame in a ring of `len` slots, which has to have some. -/
def FrameId.slotInExact (id : FrameId) (len : Nat) : Except Fault Nat :=
  if len = 0 then .error .remainderByZero else .ok (id.slotIn len)

namespace Ring

variable {n : Nat}

/-- A ring with every slot free, unless it were to have none. -/
def create (n : Nat) : Except Fault (Ring n) :=
  if h : 0 < n then .ok ⟨Vector.replicate n {}, h⟩ else .error .emptyRing

/-- The position of a frame's slot. -/
def index (r : Ring n) (id : FrameId) : Fin n := ⟨id.slotIn n, id.slotIn_lt r.nonempty⟩

/-- The slot at a position. -/
def get (r : Ring n) (i : Fin n) : Slot := r.slots[i]

/-- The slot that a frame maps to, whatever it holds. -/
def slot (r : Ring n) (id : FrameId) : Slot := r.get (r.index id)

/-- Writes the slot that a frame maps to. -/
def put (r : Ring n) (id : FrameId) (s : Slot) : Ring n :=
  { r with slots := r.slots.set (r.index id) s }

/-- The slot that holds a frame. -/
def find? (r : Ring n) (id : FrameId) : Option Slot :=
  let s := r.slot id
  if s.holder = some id then some s else none

/-- The slot that holds a frame, which has to be in flight. -/
def holding (r : Ring n) (id : FrameId) : Except Fault Slot :=
  let s := r.slot id
  if s.holder = some id then .ok s else .error (.notInFlight id s.holder)

/-- How many frames are in flight. -/
def liveCount (r : Ring n) : Nat := r.slots.toList.countP fun s => s.stage != .ready

/-- The frames in flight and where they stand, oldest first. -/
def live (r : Ring n) : List (FrameId × Stage) :=
  let held := r.slots.toList.filterMap fun s => s.holder.map fun id => (id, s.stage)
  held.mergeSort fun a b => a.1.toInt ≤ b.1.toInt

/-! ### Look-ups after a write -/

theorem get_put (r : Ring n) (id : FrameId) (s : Slot) (i : Fin n) :
    (r.put id s).get i = if i = r.index id then s else r.get i := by
  show (r.slots.set (r.index id).val s)[i.val] = _
  rw [Vector.getElem_set]
  by_cases h : i = r.index id
  · rw [if_pos h, if_pos (congrArg Fin.val h.symm)]
  · rw [if_neg h, if_neg fun e => h (Fin.ext e.symm)]
    rfl

theorem slot_put (r : Ring n) (id id' : FrameId) (s : Slot) :
    (r.put id s).slot id' = if r.index id' = r.index id then s else r.slot id' :=
  get_put r id s (r.index id')

@[simp] theorem slot_put_self (r : Ring n) (id : FrameId) (s : Slot) :
    (r.put id s).slot id = s := by simp [slot_put]

/-- Of two writes for a frame the second one counts. -/
@[simp] theorem put_put (r : Ring n) (id : FrameId) (s s' : Slot) :
    (r.put id s).put id s' = r.put id s' := by
  simp [put, index]

/-- Writes to two slots may change places. -/
theorem put_comm (r : Ring n) {id id' : FrameId} (ne : r.index id ≠ r.index id') (s s' : Slot) :
    (r.put id s).put id' s' = (r.put id' s').put id s := by
  have apart : (r.index id).val ≠ (r.index id').val := fun e => ne (Fin.ext e)
  simp only [put]
  congr 1
  exact Vector.set_comm s s' apart

/-! ### The frames that a ring holds -/

theorem find?_eq_some_iff {r : Ring n} {id : FrameId} {s : Slot} :
    r.find? id = some s ↔ r.slot id = s ∧ s.holder = some id := by
  unfold find?
  dsimp only
  split
  · rename_i h
    rw [Option.some.injEq]
    exact ⟨fun e => ⟨e, e ▸ h⟩, fun e => e.1⟩
  · rename_i h
    simp only [reduceCtorEq, false_iff]
    rintro ⟨rfl, e⟩
    exact h e

theorem find?_eq_none_iff {r : Ring n} {id : FrameId} :
    r.find? id = none ↔ (r.slot id).holder ≠ some id := by
  simp [find?]

theorem holding_eq_ok_iff {r : Ring n} {id : FrameId} {s : Slot} :
    r.holding id = .ok s ↔ r.find? id = some s := by
  unfold holding find?
  dsimp only
  split <;> simp

/-- A slot written for a frame that it holds is found under that frame. -/
theorem find?_put_self (r : Ring n) {id : FrameId} {s : Slot} (h : s.holder = some id) :
    (r.put id s).find? id = some s :=
  find?_eq_some_iff.mpr ⟨slot_put_self r id s, h⟩

/-- A free slot written for a frame takes the frame out of the ring. -/
theorem find?_put_free (r : Ring n) {id : FrameId} {s : Slot} (h : s.holder = none) :
    (r.put id s).find? id = none := by
  rw [find?_eq_none_iff, slot_put_self, h]
  simp

/-- A write for one frame leaves all others alone, as long as its slot holds none of them before or
afterwards. -/
theorem find?_put_of_ne (r : Ring n) {id id' : FrameId} {s : Slot} (ne : id' ≠ id)
    (before : ∀ a, (r.slot id).holder = some a → a = id) (after : ∀ a, s.holder = some a → a = id) :
    (r.put id s).find? id' = r.find? id' := by
  unfold find?
  rw [slot_put]
  by_cases h : r.index id' = r.index id
  · -- the two frames share the slot, which holds neither the one nor the other way round
    have same : r.slot id' = r.slot id := congrArg r.get h
    rw [if_pos h, same, if_neg fun e => ne (after id' e), if_neg fun e => ne (before id' e)]
  · rw [if_neg h]

end Ring

end FramePacing

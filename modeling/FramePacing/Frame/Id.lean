/-!
# Frame ids

Frames are numbered from 1 in the order in which they are predicted. In a ring of `len` slots frame
`id` lives in slot `id mod len`, where a negative id counts as the unsigned word of its bits.
-/

namespace FramePacing

/-- The number of a frame. -/
structure FrameId where
  /-- The signed word that recordings hold. -/
  value : Int64
  deriving DecidableEq, Inhabited

namespace FrameId

/-- The id that recordings use for no frame. -/
def absent : FrameId := ⟨-1⟩

/-- The id as an integer. -/
def toInt (id : FrameId) : Int := id.value.toInt

/-- The slot of a frame in a ring of `len` slots. -/
def slotIn (id : FrameId) (len : Nat) : Nat := id.value.toUInt64.toNat % len

theorem slotIn_lt (id : FrameId) {len : Nat} (h : 0 < len) : id.slotIn len < len :=
  Nat.mod_lt _ h

/-- The id after this one, if there is one. -/
def next? (id : FrameId) : Option FrameId :=
  if id.value = Int64.maxValue then none else some ⟨id.value + 1⟩

theorem toInt_inj {id id' : FrameId} : id.toInt = id'.toInt ↔ id = id' := by
  cases id; cases id'
  simp [toInt, Int64.toInt_inj]

/-- Ids that were handed out count from 1, and their slots are the remainders. -/
theorem slotIn_of_nonneg {id : FrameId} (h : 0 ≤ id.toInt) (len : Nat) :
    (id.slotIn len : Int) = id.toInt % len := by
  have word : id.value.toUInt64.toNat = id.toInt.toNat :=
    Int64.toNat_toUInt64_of_le (Int64.le_iff_toInt_le.mpr h)
  have int : ((id.toInt.toNat : Nat) : Int) = id.toInt := Int.toNat_of_nonneg h
  unfold slotIn
  rw [word, Int.natCast_emod, int]

theorem toInt_of_next? {id id' : FrameId} (h : id.next? = some id') :
    id'.toInt = id.toInt + 1 := by
  unfold next? at h
  split at h
  · cases h
  · rename_i ne
    obtain rfl := Option.some.inj h
    have lower := id.value.le_toInt
    have upper := id.value.toInt_lt
    have below : id.value.toInt ≠ 2 ^ 63 - 1 := fun e =>
      ne (Int64.toInt_inj.mp (e.trans Int64.toInt_maxValue.symm))
    show (id.value + 1).toInt = id.value.toInt + 1
    rw [Int64.toInt_add, show (1 : Int64).toInt = 1 from rfl]
    exact Int.bmod_eq_of_le (by omega) (by omega)

/-- There is a next id exactly if some id comes right after. -/
theorem next?_eq_some_iff {id id' : FrameId} :
    id.next? = some id' ↔ id'.toInt = id.toInt + 1 := by
  refine ⟨toInt_of_next?, fun succ => ?_⟩
  cases h : id.next? with
  | some id'' =>
    rw [toInt_inj.mp ((toInt_of_next? h).trans succ.symm)]
  | none =>
    -- the last id has no successor among the words
    have last : id.value = Int64.maxValue := by simpa [next?] using h
    have := id'.value.toInt_lt
    have top : id.toInt = 2 ^ 63 - 1 := (congrArg Int64.toInt last).trans Int64.toInt_maxValue
    unfold toInt at succ top
    omega

/-- The id in messages. -/
def text (id : FrameId) : String := toString id.toInt

/-- The id in diagnostics. -/
def inspect (id : FrameId) : String := s!"FrameId({id.text})"

end FrameId

end FramePacing

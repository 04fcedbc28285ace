import FramePacing.Proofs.Recording.Normalization

/-!
# Reading on

A reader may be asked for events again after it has found none. It is then somewhere in the middle
of a record, and takes what comes next for a tag. `Attempt` lists what one attempt does to its
position, whatever the bytes: it passes a whole record, a byte that is no tag, or the tag and the
first fields of a record that is cut short, and at the end it stays. So every attempt before the end
gets on, and the end is reached after as many attempts as there are bytes (`reader_gets_on`).

The reader holds the bytes that it has not read yet. They are always the last ones of the recording
(`readAgain_suffix`), which is why it has a position.
-/

namespace FramePacing

/-! ### What an attempt leaves -/

theorem readFields_suffix (ws : List Nat) (bytes : List UInt8) :
    (readFields ws bytes).2 <:+ bytes := by
  induction ws generalizing bytes with
  | nil => exact List.suffix_refl bytes
  | cons w ws ih =>
    unfold readFields
    cases first : readField? w bytes with
    | none => exact List.suffix_refl bytes
    | some field =>
      obtain ⟨v, rest⟩ := field
      obtain ⟨-, rfl⟩ := readField?_eq_some_iff.mp first
      exact (ih rest).trans (List.suffix_append _ rest)

/-- The tag is passed, even if nothing else is. -/
theorem readRecord_cons_suffix (tag : UInt8) (bytes : List UInt8) :
    (readRecord (tag :: bytes)).2 <:+ bytes := by
  cases known : RecordKind.ofTag? tag with
  | none =>
    simp only [readRecord, known]
    exact List.suffix_refl bytes
  | some k =>
    simp only [readRecord, known]
    exact readFields_suffix k.layout bytes

theorem readRecord_suffix (bytes : List UInt8) : (readRecord bytes).2 <:+ bytes := by
  cases bytes with
  | nil => exact List.suffix_refl []
  | cons tag bytes => exact (readRecord_cons_suffix tag bytes).trans (List.suffix_cons tag bytes)

/-- Each attempt has a result. -/
theorem length_results (k : Nat) (bytes : List UInt8) : (readAgain k bytes).1.length = k := by
  induction k generalizing bytes with
  | zero => rfl
  | succ k ih => exact congrArg Nat.succ (ih _)

/-- Further attempts go on from what the first ones have left. -/
theorem readAgain_add (k j : Nat) (bytes : List UInt8) :
    readAgain (k + j) bytes =
      ((readAgain k bytes).1 ++ (readAgain j (readAgain k bytes).2).1,
        (readAgain j (readAgain k bytes).2).2) := by
  induction k generalizing bytes with
  | zero => rw [Nat.zero_add]; rfl
  | succ k ih =>
    rw [Nat.succ_add]
    simp only [readAgain, ih, List.cons_append]

theorem readAgain_suffix (k : Nat) (bytes : List UInt8) : (readAgain k bytes).2 <:+ bytes := by
  induction k generalizing bytes with
  | zero => exact List.suffix_refl bytes
  | succ k ih => exact (ih _).trans (readRecord_suffix bytes)

theorem readAgain_nil (k : Nat) : readAgain k [] = (List.replicate k none, []) := by
  induction k with
  | zero => rfl
  | succ k ih =>
    simp only [readAgain, readRecord, ih, List.replicate_succ]

/-! ### Positions -/

/-- How many bytes are behind the reader after `k` attempts. -/
def readPosition (bytes : List UInt8) (k : Nat) : Nat := bytes.length - (readAgain k bytes).2.length

theorem readPosition_le (bytes : List UInt8) (k : Nat) : readPosition bytes k ≤ bytes.length :=
  Nat.sub_le _ _

theorem length_readAgain (bytes : List UInt8) (k : Nat) :
    readPosition bytes k + (readAgain k bytes).2.length = bytes.length :=
  Nat.sub_add_cancel (readAgain_suffix k bytes).length_le

/-- The reader has read all bytes before its position, and none after it. -/
theorem readAgain_eq_drop (bytes : List UInt8) (k : Nat) :
    (readAgain k bytes).2 = bytes.drop (readPosition bytes k) :=
  List.suffix_iff_eq_drop.mp (readAgain_suffix k bytes)

/-- What an attempt to read at the position `pos` finds, and the position afterwards. -/
inductive Attempt (bytes : List UInt8) (pos : Nat) : Option Event → Nat → Prop where
  /-- An event is read, and its record is passed. -/
  | read {e : Event} (tag : bytes[pos]? = some e.kind.tag) :
    Attempt bytes pos (some e) (pos + e.kind.size)
  /-- The next byte is no tag, and is passed. -/
  | unknown {tag : UInt8} (next : bytes[pos]? = some tag) (h : ∀ k : RecordKind, k.tag ≠ tag) :
    Attempt bytes pos none (pos + 1)
  /-- The next byte is a tag, but its record is cut short. The tag is passed, and not as many bytes
  as the record should have. -/
  | short {k : RecordKind} {pos' : Nat} (tag : bytes[pos]? = some k.tag)
    (cut : bytes.length < pos + k.size) (on : pos < pos') (less : pos' < pos + k.size) :
    Attempt bytes pos none pos'
  /-- Nothing is left, and nothing is passed. -/
  | ended (h : pos = bytes.length) : Attempt bytes pos none pos

/-! ### One attempt -/

/-- Moving a code into range keeps the tag. -/
theorem RawRecord.head?_normalized (r : RawRecord) : r.normalized.head? = some r.kind.tag := by
  unfold normalized
  split
  · rfl
  · rfl

/-- An event is of the kind that the tag of its record announces. -/
theorem RawRecord.kind_eq {r : RawRecord} {e : Event} (same : e.encode = r.normalized) :
    e.kind = r.kind := by
  have heads : some e.kind.tag = some r.kind.tag := by
    rw [← r.head?_normalized, ← same]
    rfl
  exact RecordKind.tag_injective (Option.some.inj heads)

theorem RawRecord.length_bytes (r : RawRecord) : r.bytes.length = r.kind.size := by
  rw [← r.complete, Nat.add_comm]
  rfl

/-- What is left of the bytes says where the reader is. -/
theorem getElem?_of_suffix {rest bytes : List UInt8} (h : rest <:+ bytes) :
    bytes[bytes.length - rest.length]? = rest.head? := by
  rw [← List.head?_drop, ← List.suffix_iff_eq_drop.mp h]

/-- **One attempt**, whatever the bytes that are left. -/
theorem attempt_readRecord {rest bytes : List UInt8} (h : rest <:+ bytes) :
    Attempt bytes (bytes.length - rest.length) (readRecord rest).1
      (bytes.length - (readRecord rest).2.length) := by
  have here := getElem?_of_suffix h
  have fits := h.length_le
  cases result : (readRecord rest).1 with
  | some e =>
    have read : readRecord rest = (some e, (readRecord rest).2) := Prod.ext result rfl
    obtain ⟨r, split, same⟩ := readRecord_eq_some_iff.mp read
    have kind := r.kind_eq same
    have passed : bytes.length - (readRecord rest).2.length =
        bytes.length - rest.length + e.kind.size := by
      have := congrArg List.length split
      rw [List.length_append, r.length_bytes, ← kind] at this
      omega
    rw [passed]
    refine .read ?_
    rw [here, split, kind]
    rfl
  | none =>
    cases readRecord_eq_none_iff.mp result with
    | empty => exact .ended rfl
    | @unknown tag rest unknown =>
      have passed : (readRecord (tag :: rest)).2 = rest := by
        simp only [readRecord, RecordKind.ofTag?_eq_none_iff.mpr unknown]
      rw [List.length_cons] at fits
      have next : bytes.length - rest.length = bytes.length - (tag :: rest).length + 1 := by
        rw [List.length_cons]
        omega
      rw [passed, next]
      exact .unknown here unknown
    | @short k rest short =>
      -- the tag is passed, and at most all that is left, which is less than the record needs
      have on := (readRecord_cons_suffix k.tag rest).length_le
      rw [List.length_cons] at fits
      refine .short here ?_ ?_ ?_ <;> rw [List.length_cons] <;> omega

/-! ### All attempts -/

theorem exists_attempt (bytes : List UInt8) (k : Nat) :
    ∃ result, (readAgain (k + 1) bytes).1 = (readAgain k bytes).1 ++ [result] ∧
      Attempt bytes (readPosition bytes k) result (readPosition bytes (k + 1)) := by
  have next : readAgain (k + 1) bytes =
      ((readAgain k bytes).1 ++ [(readRecord (readAgain k bytes).2).1],
        (readRecord (readAgain k bytes).2).2) :=
    readAgain_add k 1 bytes
  refine ⟨(readRecord (readAgain k bytes).2).1, ?_, ?_⟩
  · rw [next]
  · unfold readPosition
    rw [next]
    exact attempt_readRecord (readAgain_suffix k bytes)

namespace Attempt

variable {bytes : List UInt8} {pos pos' : Nat} {result : Option Event}

/-- Before the end, the reader gets on. -/
theorem lt (h : Attempt bytes pos result pos') (before : pos < bytes.length) : pos < pos' := by
  cases h with
  | @read e =>
    have : 0 < e.kind.size := by
      unfold RecordKind.size
      omega
    omega
  | unknown => omega
  | short _ _ on => exact on
  | ended last => omega

/-- At the end, it stays. -/
theorem eq (h : Attempt bytes pos result pos') (last : bytes.length ≤ pos) : pos' = pos := by
  have none : bytes[pos]? = none := List.getElem?_eq_none last
  cases h with
  | read tag | short tag =>
    rw [none] at tag
    cases tag
  | unknown next =>
    rw [none] at next
    cases next
  | ended => rfl

end Attempt

/-- Every attempt passes at least one byte, as long as there are any. -/
theorem min_le_readPosition (bytes : List UInt8) (k : Nat) :
    min k bytes.length ≤ readPosition bytes k := by
  induction k with
  | zero => omega
  | succ k ih =>
    obtain ⟨result, -, attempt⟩ := exists_attempt bytes k
    rcases Nat.lt_or_ge (readPosition bytes k) bytes.length with before | last
    · have := attempt.lt before
      omega
    · rw [attempt.eq last]
      omega

/-- **The reader gets on**, whatever the bytes, and never leaves them. Each attempt takes it on as
`Attempt` says: by the fixed size of the record of an event that it gives, and otherwise by one byte
at least and by less than the record that its tag announces, but for the end, where it stays. So
after as many attempts as there are bytes all of them are read, and further attempts find
nothing. -/
theorem reader_gets_on (bytes : List UInt8) :
    (∀ k, readPosition bytes k ≤ bytes.length ∧
      (readAgain k bytes).2 = bytes.drop (readPosition bytes k) ∧
      ∃ result, (readAgain (k + 1) bytes).1 = (readAgain k bytes).1 ++ [result] ∧
        Attempt bytes (readPosition bytes k) result (readPosition bytes (k + 1))) ∧
    (∀ j, readPosition bytes (bytes.length + j) = bytes.length ∧
      (readAgain (bytes.length + j) bytes).1 =
        (readAgain bytes.length bytes).1 ++ List.replicate j none) ∧
    RecordKind.predicted.size = 41 ∧ RecordKind.reached.size = 18 ∧
    RecordKind.delivered.size = 89 ∧ RecordKind.discarded.size = 18 ∧
    RecordKind.sampled.size = 33 := by
  refine ⟨fun k => ⟨readPosition_le bytes k, readAgain_eq_drop bytes k, exists_attempt bytes k⟩,
    fun j => ⟨?_, ?_⟩, rfl, rfl, rfl, rfl, rfl⟩
  · have low := min_le_readPosition bytes (bytes.length + j)
    have high := readPosition_le bytes (bytes.length + j)
    omega
  · have low := min_le_readPosition bytes bytes.length
    have all := length_readAgain bytes bytes.length
    have left : (readAgain bytes.length bytes).2 = [] := List.length_eq_zero_iff.mp (by omega)
    rw [readAgain_add, left, readAgain_nil]

/-- The tag of a milestone, followed by one of a prediction and a byte that is no tag: none of the
two records is whole. -/
example : (List.range 5).map (readPosition [2, 1, 9]) = [0, 1, 2, 3, 3] := by
  decide

end FramePacing

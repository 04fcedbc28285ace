import FramePacing.Trace.Recording
import Mathlib.Algebra.Order.Ring.Nat
import Mathlib.Data.List.Forall2

/-!
# Records and their bytes

What is written of one event is read back, whatever follows it, and of a record that is cut short
nothing is read. Fields come first: reading fields of given widths gives the values `vs` and leaves
`rest` exactly if the bytes are those of `vs`, which fit their widths, and then `rest`
(`readFields_eq_some_iff`). The five kinds of record then differ in their layout only.
-/

namespace FramePacing

/-! ### Little-endian numbers -/

theorem ofLittleEndian_littleEndian {w v : Nat} (fits : v < 256 ^ w) :
    ofLittleEndian (littleEndian w v) = v := by
  induction w generalizing v with
  | zero =>
    obtain rfl : v = 0 := by simpa using fits
    rfl
  | succ w ih =>
    have high : v / 256 < 256 ^ w := by
      rw [Nat.div_lt_iff_lt_mul (by decide), ← Nat.pow_succ]
      exact fits
    simp only [littleEndian, ofLittleEndian, ih high, UInt8.toNat_ofNat']
    omega

theorem littleEndian_ofLittleEndian (bs : List UInt8) :
    littleEndian bs.length (ofLittleEndian bs) = bs := by
  induction bs with
  | nil => rfl
  | cons b bs ih =>
    have low : UInt8.ofNat (b.toNat + 256 * ofLittleEndian bs) = b := by
      rw [← UInt8.toNat_inj, UInt8.toNat_ofNat']
      have := b.toNat_lt
      omega
    have high : (b.toNat + 256 * ofLittleEndian bs) / 256 = ofLittleEndian bs := by
      have := b.toNat_lt
      omega
    simp only [List.length_cons, ofLittleEndian, littleEndian, low, high, ih]

theorem ofLittleEndian_lt (bs : List UInt8) : ofLittleEndian bs < 256 ^ bs.length := by
  induction bs with
  | nil => simp [ofLittleEndian]
  | cons b bs ih =>
    have := b.toNat_lt
    simp only [ofLittleEndian, List.length_cons, Nat.pow_succ]
    omega

/-! ### Fields -/

/-- Each value fits the width of its field. -/
def Fits (widths values : List Nat) : Prop := List.Forall₂ (fun w v => v < 256 ^ w) widths values

theorem readField?_eq_some_iff {w v : Nat} {bytes rest : List UInt8} :
    readField? w bytes = some (v, rest) ↔ v < 256 ^ w ∧ bytes = littleEndian w v ++ rest := by
  unfold readField?
  dsimp only
  constructor
  · intro h
    split at h
    · rename_i enough
      obtain ⟨rfl, rfl⟩ := Prod.mk.inj (Option.some.inj h)
      have bound := ofLittleEndian_lt (bytes.take w)
      have back := littleEndian_ofLittleEndian (bytes.take w)
      rw [enough] at bound back
      exact ⟨bound, by rw [back, List.take_append_drop]⟩
    · cases h
  · rintro ⟨fits, rfl⟩
    have length := length_littleEndian w v
    rw [List.take_left' length, List.drop_left' length, if_pos length,
      ofLittleEndian_littleEndian fits]

theorem readFields_eq_some_iff {ws vs : List Nat} {bytes rest : List UInt8} :
    readFields ws bytes = (some vs, rest) ↔
      Fits ws vs ∧ bytes = Event.encodeFields ws vs ++ rest := by
  induction ws generalizing vs bytes with
  | nil =>
    simp only [readFields, Prod.mk.injEq, Option.some.injEq, Fits, List.forall₂_nil_left_iff]
    constructor
    · rintro ⟨rfl, rfl⟩
      exact ⟨rfl, rfl⟩
    · rintro ⟨rfl, rfl⟩
      exact ⟨rfl, rfl⟩
  | cons w ws ih =>
    unfold readFields
    constructor
    · intro h
      cases first : readField? w bytes with
      | none => simp [first] at h
      | some field =>
        obtain ⟨v, middle⟩ := field
        simp only [first, Prod.mk.injEq, Option.map_eq_some_iff] at h
        obtain ⟨⟨vs', more, rfl⟩, rest_eq⟩ := h
        obtain ⟨fits, rfl⟩ := readField?_eq_some_iff.mp first
        obtain ⟨fits', rfl⟩ := ih.mp (Prod.ext more rest_eq)
        exact ⟨.cons fits fits', (List.append_assoc _ _ _).symm⟩
    · rintro ⟨fits, rfl⟩
      obtain ⟨v, vs', fit, fits', rfl⟩ := List.forall₂_cons_left_iff.mp fits
      have first : readField? w (Event.encodeFields (w :: ws) (v :: vs') ++ rest) =
          some (v, Event.encodeFields ws vs' ++ rest) :=
        readField?_eq_some_iff.mpr ⟨fit, List.append_assoc _ _ _⟩
      have more : readFields ws (Event.encodeFields ws vs' ++ rest) = (some vs', rest) :=
        ih.mpr ⟨fits', rfl⟩
      simp only [first, more, Option.map_some]

theorem width_cons (w : Nat) (ws : List Nat) :
    (w :: ws).foldl (· + ·) 0 = w + ws.foldl (· + ·) 0 := by
  rw [List.foldl_cons, Nat.zero_add]
  exact @List.foldl_assoc Nat (· + ·) _ ws w 0

theorem length_encodeFields {ws vs : List Nat} (fits : Fits ws vs) :
    (Event.encodeFields ws vs).length = ws.foldl (· + ·) 0 := by
  induction fits with
  | nil => rfl
  | @cons w v ws vs _ _ ih =>
    have first : Event.encodeFields (w :: ws) (v :: vs) =
        littleEndian w v ++ Event.encodeFields ws vs := rfl
    rw [first, List.length_append, length_littleEndian, ih, width_cons]

/-! ### Codes -/

@[simp] theorem Instant.ofCode_toNat (t : Instant) : Instant.ofCode t.toNat = t := by
  simp [Instant.ofCode, Instant.toNat]

@[simp] theorem Span.ofCode_toNat (d : Span) : Span.ofCode d.toNat = d := by
  simp [Span.ofCode, Span.toNat]

@[simp] theorem ofSignedCode_signedCode (x : Int64) : ofSignedCode (signedCode x) = x := by
  simp [ofSignedCode, signedCode]

@[simp] theorem FrameId.ofCode_code (id : FrameId) : FrameId.ofCode id.code = id := by
  simp [FrameId.ofCode, FrameId.code]

@[simp] theorem Milestone.ofCode_code (m : Milestone) : Milestone.ofCode m.code = m := by
  cases m <;> rfl

@[simp] theorem Stage.ofCode_code (s : Stage) : Stage.ofCode s.code = s := by
  cases s <;> rfl

theorem word_fits (w : UInt64) : w.toNat < 256 ^ 8 := w.toNat_lt

theorem Milestone.code_fits (m : Milestone) : m.code < 256 ^ 1 := by cases m <;> decide

theorem Stage.code_fits (s : Stage) : s.code < 256 ^ 1 := by cases s <;> decide

/-! ### Records -/

namespace Event

/-- The fields of an event fit the layout of its record. -/
theorem fits_fields (e : Event) : Fits e.kind.layout e.fields := by
  cases e <;>
    simp only [kind, RecordKind.layout, fields, Fits, List.forall₂_cons, word_fits, FrameId.code,
      signedCode, Instant.toNat, Span.toNat, Milestone.code_fits, Stage.code_fits, true_and,
      List.Forall₂.nil]

/-- Its fields say all about an event. -/
theorem ofFields?_fields (e : Event) : ofFields? e.kind e.fields = some e := by
  cases e <;> simp [kind, fields, ofFields?]

/-- A record is read back, and what follows it is left. -/
theorem readRecord_encode_append (e : Event) (rest : List UInt8) :
    readRecord (e.encode ++ rest) = (some e, rest) := by
  have values : readFields e.kind.layout (encodeFields e.kind.layout e.fields ++ rest) =
      (some e.fields, rest) :=
    readFields_eq_some_iff.mpr ⟨e.fits_fields, rfl⟩
  simp only [encode, List.cons_append, readRecord, RecordKind.ofTag?_tag]
  rw [values]
  simp [ofFields?_fields]

/-- Nothing is read of a record that is cut short. -/
theorem readRecord_take_encode {e : Event} {n : Nat} (short : n < e.encode.length) :
    (readRecord (e.encode.take n)).1 = none := by
  cases n with
  | zero => simp [readRecord]
  | succ n =>
    simp only [encode, List.take_succ_cons, readRecord, RecordKind.ofTag?_tag]
    generalize hread : readFields e.kind.layout _ = result
    obtain ⟨values, rest⟩ := result
    cases values with
    | none => rfl
    | some vs =>
      -- whatever was read has as many bytes as the record's own fields
      obtain ⟨fits, cut⟩ := readFields_eq_some_iff.mp hread
      have same := (length_encodeFields fits).trans (length_encodeFields e.fits_fields).symm
      have length := congrArg List.length cut
      simp only [List.length_take, List.length_append, encode, List.length_cons] at length short
      omega

end Event

end FramePacing

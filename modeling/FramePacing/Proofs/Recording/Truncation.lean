import FramePacing.Proofs.Recording.Records

/-!
# Recordings cut short or followed by other bytes

A recording is read one record at a time, so what is read of it is decided at its front: a record
that is there in full is read and the rest is again a recording (`decode_encode_append`), and one
that is cut short ends it (`decode_take_encode`). By induction on the events, a recording cut after
`n` bytes gives the longest prefix of them whose own recording fits in `n` bytes, and bytes behind a
recording are read as if they stood alone.
-/

namespace FramePacing

/-! ### Reading from the front -/

theorem decode_eq_cons {bytes rest : List UInt8} {e : Event}
    (h : readRecord bytes = (some e, rest)) : decode bytes = e :: decode rest := by
  unfold decode
  rw [readEvents]
  split
  · rename_i h'
    rw [h] at h'
    cases h'
  · rename_i h'
    obtain ⟨⟨rfl⟩, rfl⟩ := Prod.mk.inj (h.symm.trans h')
    rfl

theorem decode_eq_nil {bytes : List UInt8} (h : (readRecord bytes).1 = none) :
    decode bytes = [] := by
  unfold decode
  rw [readEvents]
  split
  · rfl
  · rename_i h'
    rw [h'] at h
    cases h

@[simp] theorem decode_nil : decode [] = [] := decode_eq_nil rfl

@[simp] theorem decode_encode_append (e : Event) (rest : List UInt8) :
    decode (e.encode ++ rest) = e :: decode rest :=
  decode_eq_cons (e.readRecord_encode_append rest)

theorem decode_take_encode {e : Event} {n : Nat} (short : n < e.encode.length) :
    decode (e.encode.take n) = [] :=
  decode_eq_nil (Event.readRecord_take_encode short)

/-! ### The recorder's bytes -/

namespace Recording

theorem toList_recordAll (r : Recording) (es : List Event) :
    (r.recordAll es).toList = r.toList ++ es.flatMap Event.encode := by
  induction es generalizing r with
  | nil => simp [recordAll]
  | cons e es ih =>
    have := ih (r.record e)
    simpa [recordAll] using this

/-- The bytes of a fresh recording after the given events. -/
def bytesOf (es : List Event) : List UInt8 := (recordAll {} es).toList

@[simp] theorem bytesOf_nil : bytesOf [] = [] := rfl

@[simp] theorem bytesOf_cons (e : Event) (es : List Event) :
    bytesOf (e :: es) = e.encode ++ bytesOf es := by
  have empty : ({} : Recording).toList = [] := rfl
  simp [bytesOf, toList_recordAll, empty]

end Recording

open Recording

/-! ### Cuts -/

/-- Of the prefixes of `es` whose recordings fit in `n` bytes, `p` is the longest. -/
structure LongestFitting (n : Nat) (es p : List Event) : Prop where
  /-- It is a prefix. -/
  isPrefix : p <+: es
  /-- Its recording fits. -/
  fits : (bytesOf p).length ≤ n
  /-- None that fits is longer. -/
  longest : ∀ q, q <+: es → (bytesOf q).length ≤ n → q.length ≤ p.length

namespace LongestFitting

theorem nil (n : Nat) : LongestFitting n [] [] where
  isPrefix := List.nil_prefix
  fits := Nat.zero_le n
  longest := fun _ hq _ => hq.length_le

/-- Nothing fits where the first record does not. -/
theorem of_short {n : Nat} {e : Event} (es : List Event) (short : n < e.encode.length) :
    LongestFitting n (e :: es) [] where
  isPrefix := List.nil_prefix
  fits := Nat.zero_le n
  longest := by
    intro q hq fits
    obtain rfl | ⟨q, rfl, -⟩ := List.prefix_cons_iff.mp hq
    · exact Nat.le_refl _
    · rw [bytesOf_cons, List.length_append] at fits
      omega

/-- With room for one more record, one more fits. -/
theorem cons {n : Nat} {es p : List Event} (e : Event) (h : LongestFitting n es p) :
    LongestFitting (e.encode.length + n) (e :: es) (e :: p) where
  isPrefix := List.cons_prefix_cons.mpr ⟨rfl, h.isPrefix⟩
  fits := by
    have := h.fits
    rw [bytesOf_cons, List.length_append]
    omega
  longest := by
    intro q hq fits
    obtain rfl | ⟨q, rfl, more⟩ := List.prefix_cons_iff.mp hq
    · exact Nat.zero_le _
    · rw [bytesOf_cons, List.length_append, Nat.add_le_add_iff_left] at fits
      exact Nat.succ_le_succ (h.longest q more fits)

end LongestFitting

theorem longestFitting_decode_take (es : List Event) (n : Nat) :
    LongestFitting n es (decode ((bytesOf es).take n)) := by
  induction es generalizing n with
  | nil =>
    rw [bytesOf_nil, List.take_nil, decode_nil]
    exact .nil n
  | cons e es ih =>
    rw [bytesOf_cons]
    by_cases short : n < e.encode.length
    · rw [List.take_append_of_le_length (Nat.le_of_lt short), decode_take_encode short]
      exact .of_short es short
    · obtain ⟨m, rfl⟩ := Nat.exists_eq_add_of_le (Nat.le_of_not_lt short)
      rw [List.take_length_add_append, decode_encode_append]
      exact (ih m).cons e

theorem decode_bytesOf_append (es : List Event) (tail : List UInt8) :
    decode (bytesOf es ++ tail) = es ++ decode tail := by
  induction es with
  | nil => simp
  | cons e es ih => simp [ih]

/-- **Cut and extended recordings**: a recording cut after `n` bytes reads as the longest prefix of
its events whose recording fits there, a whole one as all of them, and one with further bytes behind
it as its events and then what those bytes read as. -/
theorem decode_of_cut_or_extended_recording (es : List Event) :
    (∀ n, LongestFitting n es (decode ((bytesOf es).take n))) ∧
    decode (bytesOf es) = es ∧
    ∀ tail, decode (bytesOf es ++ tail) = es ++ decode tail := by
  have extended := decode_bytesOf_append es
  have whole : decode (bytesOf es) = es := by simpa using extended []
  exact ⟨longestFitting_decode_take es, whole, extended⟩

/-- A recording whose second record lacks its last byte gives the first one. -/
example :
    decode ((bytesOf [.reached ⟨1⟩ .wakeUp ⟨10⟩, .reached ⟨1⟩ .begin ⟨12⟩]).take 35) =
      [.reached ⟨1⟩ .wakeUp ⟨10⟩] := by
  cbv

end FramePacing

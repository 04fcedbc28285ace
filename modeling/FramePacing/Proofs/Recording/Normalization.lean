import FramePacing.Proofs.Recording.Truncation

/-!
# Any bytes, read and recorded again

The reader is not confined to what a recorder writes. It accepts every byte string and cuts it into
records by their tags alone (`RawRecord`), up to a place where no record can be read
(`Unreadable`): the end, a byte that is no tag, or a record that is cut short. Recording what was
read gives the same bytes again, but for milestones and stages out of range, which are read as the
last one of their kind (`RawRecord.normalized`).

One record is the whole matter: `readRecord_eq_some_iff` says which bytes are read as which event,
and `readRecord_eq_none_iff` which are not read at all. The rest is an induction along the reader.
-/

namespace FramePacing

open Recording

/-! ### Records as bytes -/

namespace RecordKind

/-- The last number in use for a record's milestone or stage. -/
def lastCode? : RecordKind → Option UInt8
  | .reached => some 2
  | .discarded => some 3
  | _ => none

theorem ofTag?_eq_some_iff {tag : UInt8} {k : RecordKind} : ofTag? tag = some k ↔ tag = k.tag := by
  constructor
  · unfold ofTag?
    split <;> rintro ⟨⟩ <;> rfl
  · rintro rfl
    exact ofTag?_tag k

theorem ofTag?_eq_none_iff {tag : UInt8} : ofTag? tag = none ↔ ∀ k : RecordKind, k.tag ≠ tag := by
  rw [Option.eq_none_iff_forall_ne_some]
  exact forall_congr' fun k => not_congr (ofTag?_eq_some_iff.trans eq_comm)

theorem tag_injective {k k' : RecordKind} (h : k.tag = k'.tag) : k = k' :=
  Option.some.inj ((ofTag?_tag k).symm.trans (ofTag?_eq_some_iff.mpr h))

end RecordKind

/-- The bytes of a record: as many as its kind has, whatever they are. -/
structure RawRecord where
  /-- The kind that its tag announces. -/
  kind : RecordKind
  /-- What follows the tag. -/
  payload : List UInt8
  /-- No byte is missing. -/
  complete : 1 + payload.length = kind.size

namespace RawRecord

/-- All bytes of the record. -/
def bytes (r : RawRecord) : List UInt8 := r.kind.tag :: r.payload

/-- The bytes of the record with its milestone or stage, which comes after the tag and the eight
bytes of the frame, moved into range. -/
def normalized (r : RawRecord) : List UInt8 :=
  match r.kind.lastCode? with
  | some last => r.bytes.modify 9 (min · last)
  | none => r.bytes

/-- Its milestone or stage, if it has one, is in range. -/
def InRange (r : RawRecord) : Prop :=
  ∀ last ∈ r.kind.lastCode?, ∀ code ∈ r.bytes[9]?, code ≤ last

theorem length_normalized (r : RawRecord) : r.normalized.length = r.bytes.length := by
  unfold normalized
  split
  · exact List.length_modify _ _ _
  · rfl

/-- Nothing is moved exactly if all is in range. -/
theorem normalized_eq_bytes_iff (r : RawRecord) : r.normalized = r.bytes ↔ r.InRange := by
  have kept : ∀ code last : UInt8, min code last = code ↔ code ≤ last := by
    intro code last
    rw [← UInt8.toNat_inj, UInt8.toNat_min, UInt8.le_iff_toNat_le]
    omega
  unfold normalized InRange
  cases r.kind.lastCode? with
  | none => simp
  | some last =>
    simp only [Option.mem_some_iff, forall_eq', List.ext_getElem?_iff, List.getElem?_modify]
    constructor
    · intro same code here
      have := same 9
      simpa [Option.mem_def.mp here, kept] using this
    · intro small i
      by_cases here : 9 = i
      · subst here
        cases hcode : r.bytes[9]? with
        | none => rfl
        | some code => simp [(kept code last).mpr (small code hcode)]
      · simp [here]

end RawRecord

/-- No record can be read at the front of these bytes. -/
inductive Unreadable : List UInt8 → Prop where
  /-- There is no byte. -/
  | empty : Unreadable []
  /-- The first byte is no tag. -/
  | unknown {tag : UInt8} {rest : List UInt8} (h : ∀ k : RecordKind, k.tag ≠ tag) :
    Unreadable (tag :: rest)
  /-- The first byte is a tag, but the record that it announces needs more bytes. -/
  | short {k : RecordKind} {rest : List UInt8} (h : 1 + rest.length < k.size) :
    Unreadable (k.tag :: rest)

/-! ### Codes of any value -/

theorem Instant.toNat_ofCode {v : Nat} (fits : v < 256 ^ 8) : (Instant.ofCode v).toNat = v :=
  UInt64.toNat_ofNat_of_lt' fits

theorem Span.toNat_ofCode {v : Nat} (fits : v < 256 ^ 8) : (Span.ofCode v).toNat = v :=
  UInt64.toNat_ofNat_of_lt' fits

theorem signedCode_ofSignedCode {v : Nat} (fits : v < 256 ^ 8) : signedCode (ofSignedCode v) = v :=
  UInt64.toNat_ofNat_of_lt' fits

theorem FrameId.code_ofCode {v : Nat} (fits : v < 256 ^ 8) : (FrameId.ofCode v).code = v :=
  signedCode_ofSignedCode fits

theorem Milestone.code_ofCode (v : Nat) : (Milestone.ofCode v).code = min v 2 := by
  rcases v with _ | _ | v
  · rfl
  · rfl
  · show 2 = min (v + 2) 2
    omega

theorem Stage.code_ofCode (v : Nat) : (Stage.ofCode v).code = min v 3 := by
  rcases v with _ | _ | _ | v
  · rfl
  · rfl
  · rfl
  · show 3 = min (v + 3) 3
    omega

/-- A code that fits a byte is cut off as a byte. -/
theorem littleEndian_min {v : Nat} (fits : v < 256 ^ 1) (last : UInt8) :
    littleEndian 1 (min v last.toNat) = [min (UInt8.ofNat v) last] := by
  have := last.toNat_lt
  refine congrArg (· :: []) (UInt8.toNat_inj.mp ?_)
  rw [UInt8.toNat_min, UInt8.toNat_ofNat', UInt8.toNat_ofNat']
  omega

/-! ### One record -/

/-- Bytes of the right number are fields. -/
theorem exists_fields {ws : List Nat} {bytes : List UInt8}
    (length : bytes.length = ws.foldl (· + ·) 0) :
    ∃ vs, Fits ws vs ∧ bytes = Event.encodeFields ws vs := by
  induction ws generalizing bytes with
  | nil => exact ⟨[], .nil, List.length_eq_zero_iff.mp length⟩
  | cons w ws ih =>
    rw [width_cons] at length
    have first : (bytes.take w).length = w := List.length_take_of_le (by omega)
    obtain ⟨vs, fits, rest⟩ := @ih (bytes.drop w) (by rw [List.length_drop]; omega)
    have fit := ofLittleEndian_lt (bytes.take w)
    have back := littleEndian_ofLittleEndian (bytes.take w)
    rw [first] at fit back
    refine ⟨_ :: vs, .cons fit fits, ?_⟩
    show bytes = littleEndian w _ ++ Event.encodeFields ws vs
    rw [back, ← rest, List.take_append_drop]

/-- The values of a record's fields with a code out of range moved into range. -/
def RecordKind.settled : RecordKind → List Nat → List Nat
  | .reached, [id, milestone, time] => [id, min milestone 2, time]
  | .discarded, [id, stage, time] => [id, min stage 3, time]
  | _, values => values

/-- As many values as a record has fields are an event. -/
theorem Event.exists_ofFields? {k : RecordKind} {vs : List Nat}
    (length : vs.length = k.layout.length) : ∃ e, ofFields? k vs = some e := by
  cases k with
  | predicted => match vs, length with | [_, _, _, _, _], _ => exact ⟨_, rfl⟩
  | reached => match vs, length with | [_, _, _], _ => exact ⟨_, rfl⟩
  | delivered => match vs, length with | [_, _, _, _, _, _, _, _, _, _, _], _ => exact ⟨_, rfl⟩
  | discarded => match vs, length with | [_, _, _], _ => exact ⟨_, rfl⟩
  | sampled => match vs, length with | [_, _, _, _], _ => exact ⟨_, rfl⟩

/-- Its fields are the values, but for a code out of range. -/
theorem Event.fields_of_ofFields? {k : RecordKind} {vs : List Nat} {e : Event}
    (fits : Fits k.layout vs) (h : ofFields? k vs = some e) :
    e.kind = k ∧ e.fields = k.settled vs := by
  unfold ofFields? at h
  split at h <;> cases h <;>
    simp only [Fits, RecordKind.layout, List.forall₂_cons] at fits <;>
    simp only [kind, fields, RecordKind.settled, FrameId.code_ofCode, Instant.toNat_ofCode,
      Span.toNat_ofCode, signedCode_ofSignedCode, Milestone.code_ofCode, Stage.code_ofCode, fits,
      and_self]

theorem RawRecord.normalized_eq {r : RawRecord} {vs : List Nat} (fits : Fits r.kind.layout vs)
    (payload : r.payload = Event.encodeFields r.kind.layout vs) :
    r.normalized = r.kind.tag :: Event.encodeFields r.kind.layout (r.kind.settled vs) := by
  obtain ⟨k, p, complete⟩ := r
  obtain rfl : p = Event.encodeFields k.layout vs := payload
  -- the code is one byte, at the same place in both kinds that have one
  have moved (tag last : UInt8) {id code time : Nat} (fits : Fits [8, 1, 8] [id, code, time]) :
      (tag :: Event.encodeFields [8, 1, 8] [id, code, time]).modify 9 (min · last) =
        tag :: Event.encodeFields [8, 1, 8] [id, min code last.toNat, time] := by
    simp only [Fits, List.forall₂_cons] at fits
    simp only [Event.encodeFields, List.zipWith_cons_cons, List.flatten_cons,
      littleEndian_min fits.2.1]
    rfl
  cases k with
  | reached =>
    obtain ⟨id, code, time, rfl⟩ := List.length_eq_three.mp fits.length_eq.symm
    exact moved _ 2 fits
  | discarded =>
    obtain ⟨id, code, time, rfl⟩ := List.length_eq_three.mp fits.length_eq.symm
    exact moved _ 3 fits
  | _ => rfl

/-- A whole record is read, whatever its bytes, and what follows it is left. -/
theorem exists_readRecord (r : RawRecord) (rest : List UInt8) :
    ∃ e, readRecord (r.bytes ++ rest) = (some e, rest) ∧ e.encode = r.normalized := by
  have width : r.payload.length = r.kind.layout.foldl (· + ·) 0 := by
    have := r.complete
    unfold RecordKind.size at this
    omega
  obtain ⟨vs, fits, payload⟩ := exists_fields width
  obtain ⟨e, made⟩ := Event.exists_ofFields? fits.length_eq.symm
  obtain ⟨kind, fields⟩ := Event.fields_of_ofFields? fits made
  have values : readFields r.kind.layout (r.payload ++ rest) = (some vs, rest) :=
    readFields_eq_some_iff.mpr ⟨fits, by rw [payload]⟩
  refine ⟨e, ?_, ?_⟩
  · simp only [RawRecord.bytes, List.cons_append, readRecord, RecordKind.ofTag?_tag]
    rw [values]
    simp [made]
  · rw [Event.encode, kind, fields, RawRecord.normalized_eq fits payload]

/-- **One record**: an event is read of a whole record, from which its own differs in a code out of
range only. -/
theorem readRecord_eq_some_iff {bytes rest : List UInt8} {e : Event} :
    readRecord bytes = (some e, rest) ↔
      ∃ r : RawRecord, bytes = r.bytes ++ rest ∧ e.encode = r.normalized := by
  constructor
  · intro h
    cases bytes with
    | nil => cases h
    | cons tag bytes =>
      unfold readRecord at h
      cases known : RecordKind.ofTag? tag with
      | none => simp [known] at h
      | some k =>
        obtain rfl := RecordKind.ofTag?_eq_some_iff.mp known
        simp only [known, Prod.mk.injEq, Option.bind_eq_some_iff] at h
        obtain ⟨⟨vs, values, made⟩, rest_eq⟩ := h
        obtain ⟨fits, rfl⟩ := readFields_eq_some_iff.mp (Prod.ext values rest_eq)
        let r : RawRecord := ⟨k, Event.encodeFields k.layout vs, by
          rw [length_encodeFields fits, RecordKind.size]⟩
        obtain ⟨kind, fields⟩ := Event.fields_of_ofFields? fits made
        refine ⟨r, rfl, ?_⟩
        rw [Event.encode, kind, fields, RawRecord.normalized_eq (r := r) fits rfl]
  · rintro ⟨r, rfl, same⟩
    obtain ⟨e', read, same'⟩ := exists_readRecord r rest
    have back := e.readRecord_encode_append rest
    rw [same, ← same', e'.readRecord_encode_append rest] at back
    rw [read]
    exact back

/-- Where no event is read, no record is there. -/
theorem readRecord_eq_none_iff {bytes : List UInt8} :
    (readRecord bytes).1 = none ↔ Unreadable bytes := by
  constructor
  · intro h
    cases bytes with
    | nil => exact .empty
    | cons tag rest =>
      cases known : RecordKind.ofTag? tag with
      | none => exact .unknown (RecordKind.ofTag?_eq_none_iff.mp known)
      | some k =>
        obtain rfl := RecordKind.ofTag?_eq_some_iff.mp known
        refine .short (Nat.lt_of_not_le fun enough => ?_)
        have width : (rest.take (k.size - 1)).length = k.size - 1 :=
          List.length_take_of_le (by omega)
        -- what is there of the payload is a whole record
        let r : RawRecord := ⟨k, rest.take (k.size - 1), by
          rw [width, RecordKind.size]
          omega⟩
        obtain ⟨e, read, -⟩ := exists_readRecord r (rest.drop (k.size - 1))
        have whole : r.bytes ++ rest.drop (k.size - 1) = k.tag :: rest :=
          congrArg (k.tag :: ·) (List.take_append_drop _ _)
        rw [← whole, read] at h
        cases h
  · rintro (_ | unknown | short)
    · rfl
    · simp [readRecord, RecordKind.ofTag?_eq_none_iff.mpr unknown]
    · rename_i k rest
      cases h : (readRecord (k.tag :: rest)).1 with
      | none => rfl
      | some e =>
        obtain ⟨r, split, -⟩ := readRecord_eq_some_iff.mp (Prod.ext h rfl)
        obtain ⟨tag, payload⟩ := List.cons.inj split
        have complete := r.complete
        rw [← RecordKind.tag_injective tag] at complete
        have length : _ = (r.payload ++ _).length := congrArg List.length payload
        rw [List.length_append] at length
        omega

/-! ### All records -/

/-- Any bytes are whole records and then none. The reader gives one event for each record, and stops
at what follows the last one. -/
theorem exists_records (bytes : List UInt8) :
    ∃ (rs : List RawRecord) (tail : List UInt8),
      bytes = rs.flatMap RawRecord.bytes ++ tail ∧ Unreadable tail ∧
      readAgain rs.length bytes = ((decode bytes).map some, tail) ∧
      bytesOf (decode bytes) = rs.flatMap RawRecord.normalized := by
  induction bytes using readEvents.induct with
  | case1 bytes rest stop =>
    have none : (readRecord bytes).1 = none := congrArg Prod.fst stop
    refine ⟨[], bytes, rfl, readRecord_eq_none_iff.mp none, ?_, ?_⟩
    · rw [decode_eq_nil none]
      rfl
    · rw [decode_eq_nil none]
      rfl
  | case2 bytes e rest read _ _ _ ih =>
    obtain ⟨rs, tail, split, stops, attempts, again⟩ := ih
    obtain ⟨r, front, same⟩ := readRecord_eq_some_iff.mp read
    have events := decode_eq_cons read
    refine ⟨r :: rs, tail, ?_, stops, ?_, ?_⟩
    · rw [front, split, List.flatMap_cons, List.append_assoc]
    · simp only [List.length_cons, readAgain, read, attempts, events, List.map_cons]
    · rw [events, bytesOf_cons, same, again, List.flatMap_cons]

theorem length_flatMap_normalized (rs : List RawRecord) :
    (rs.flatMap RawRecord.normalized).length = (rs.flatMap RawRecord.bytes).length := by
  induction rs with
  | nil => rfl
  | cons r rs ih => simp only [List.flatMap_cons, List.length_append, r.length_normalized, ih]

theorem flatMap_normalized_eq_iff (rs : List RawRecord) :
    rs.flatMap RawRecord.normalized = rs.flatMap RawRecord.bytes ↔ ∀ r ∈ rs, r.InRange := by
  induction rs with
  | nil => simp
  | cons r rs ih =>
    rw [List.flatMap_cons, List.flatMap_cons, List.forall_mem_cons, ← r.normalized_eq_bytes_iff,
      ← ih]
    constructor
    · intro same
      exact List.append_inj same r.length_normalized
    · rintro ⟨first, others⟩
      rw [first, others]

/-- **Reading, then recording**: any bytes are whole records and then bytes that no record can be
read of. One attempt for each record gives the events, and leaves the rest. To record these events
gives as many bytes as the records have, which are those of the records but for milestones and
stages out of range, and which read as the same events. They are the same bytes exactly if all
milestones and stages are in range. -/
theorem recording_of_decoded_bytes (bytes : List UInt8) :
    ∃ (rs : List RawRecord) (tail : List UInt8),
      bytes = rs.flatMap RawRecord.bytes ++ tail ∧ Unreadable tail ∧
      readAgain rs.length bytes = ((decode bytes).map some, tail) ∧
      (bytesOf (decode bytes)).length = (rs.flatMap RawRecord.bytes).length ∧
      bytesOf (decode bytes) = rs.flatMap RawRecord.normalized ∧
      decode (bytesOf (decode bytes)) = decode bytes ∧
      (bytesOf (decode bytes) = rs.flatMap RawRecord.bytes ↔ ∀ r ∈ rs, r.InRange) := by
  obtain ⟨rs, tail, split, stops, attempts, again⟩ := exists_records bytes
  refine ⟨rs, tail, split, stops, attempts, ?_, again, ?_, ?_⟩
  · rw [again, length_flatMap_normalized]
  · simpa using decode_bytesOf_append (decode bytes) []
  · rw [again, flatMap_normalized_eq_iff]

/-- A milestone numbered 7 reads as the last one and is recorded as such. The byte after the record
is no tag. -/
example :
    bytesOf (decode [2, 1, 0, 0, 0, 0, 0, 0, 0, 7, 5, 0, 0, 0, 0, 0, 0, 0, 9]) =
      [2, 1, 0, 0, 0, 0, 0, 0, 0, 2, 5, 0, 0, 0, 0, 0, 0, 0] := by
  cbv

end FramePacing

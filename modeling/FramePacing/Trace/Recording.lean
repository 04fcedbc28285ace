import FramePacing.Trace.Event

/-!
# Recordings

The binary form of a list of events. An event is one record: a tag byte and then fields of one or
eight bytes, little end first, in the order of the record's layout. Records follow one another
without separators.

Reading goes record by record. It stops at an unknown tag or a record that is cut short, and the
rest is then what follows the last field that could be read, so that reading on from there is
possible. A milestone or stage that is out of range reads as the last one.
-/

namespace FramePacing

/-! ### Little-endian numbers -/

/-- The `w` low bytes of a number, the lowest first. -/
def littleEndian : Nat → Nat → List UInt8
  | 0, _ => []
  | w + 1, v => UInt8.ofNat v :: littleEndian w (v / 256)

/-- The number with the given bytes. -/
def ofLittleEndian : List UInt8 → Nat
  | [] => 0
  | b :: bs => b.toNat + 256 * ofLittleEndian bs

@[simp] theorem length_littleEndian (w v : Nat) : (littleEndian w v).length = w := by
  induction w generalizing v with
  | zero => rfl
  | succ w ih => simp [littleEndian, ih]

/-! ### Layouts -/

/-- The kinds of record. -/
inductive RecordKind where
  /-- A prediction. -/
  | predicted
  /-- A milestone. -/
  | reached
  /-- A delivery. -/
  | delivered
  /-- A drop. -/
  | discarded
  /-- A display's report. -/
  | sampled
  deriving DecidableEq, Inhabited

namespace RecordKind

/-- The byte that announces a record. -/
def tag : RecordKind → UInt8
  | .predicted => 1
  | .reached => 2
  | .delivered => 3
  | .discarded => 4
  | .sampled => 5

/-- The record that a byte announces. -/
def ofTag? : UInt8 → Option RecordKind
  | 1 => some .predicted
  | 2 => some .reached
  | 3 => some .delivered
  | 4 => some .discarded
  | 5 => some .sampled
  | _ => none

/-- The widths of a record's fields in bytes. -/
def layout : RecordKind → List Nat
  | .predicted => [8, 8, 8, 8, 8]
  | .reached => [8, 1, 8]
  | .delivered => [8, 8, 8, 8, 8, 8, 8, 8, 8, 8, 8]
  | .discarded => [8, 1, 8]
  | .sampled => [8, 8, 8, 8]

/-- The bytes of a record, its tag among them. -/
def size (k : RecordKind) : Nat := 1 + k.layout.foldl (· + ·) 0

theorem ofTag?_tag (k : RecordKind) : ofTag? k.tag = some k := by cases k <;> rfl

end RecordKind

/-! ### Fields -/

/-- The number of a milestone in a record. -/
def Milestone.code : Milestone → Nat
  | .wakeUp => 0
  | .begin => 1
  | .submit => 2

/-- The milestone of a number. -/
def Milestone.ofCode : Nat → Milestone
  | 0 => .wakeUp
  | 1 => .begin
  | _ => .submit

/-- The number of a stage in a record. -/
def Stage.code : Stage → Nat
  | .ready => 0
  | .predicted => 1
  | .waitLeft => 2
  | .begun => 3

/-- The stage of a number. -/
def Stage.ofCode : Nat → Stage
  | 0 => .ready
  | 1 => .predicted
  | 2 => .waitLeft
  | _ => .begun

/-- A signed word as a field. -/
def signedCode (x : Int64) : Nat := x.toUInt64.toNat

/-- The signed word of a field. -/
def ofSignedCode (n : Nat) : Int64 := (UInt64.ofNat n).toInt64

/-- The instant of a field. -/
def Instant.ofCode (n : Nat) : Instant := ⟨UInt64.ofNat n⟩

/-- The span of a field. -/
def Span.ofCode (n : Nat) : Span := ⟨UInt64.ofNat n⟩

/-- The frame of a field. -/
def FrameId.ofCode (n : Nat) : FrameId := ⟨ofSignedCode n⟩

/-- A frame as a field. -/
def FrameId.code (id : FrameId) : Nat := signedCode id.value

namespace Event

/-- The kind of an event's record. -/
def kind : Event → RecordKind
  | .predicted _ _ => .predicted
  | .reached _ _ _ => .reached
  | .delivered _ => .delivered
  | .discarded _ _ _ => .discarded
  | .sampled _ _ => .sampled

/-- The fields of an event's record. -/
def fields : Event → List Nat
  | .predicted p madeAt =>
    [p.id.code, madeAt.toNat, p.wakeUpTime.toNat, p.displayTime.toNat, p.period.toNat]
  | .reached id milestone time => [id.code, milestone.code, time.toNat]
  | .delivered d =>
    [d.id.code, d.times.predicted.toNat, d.times.woke.toNat, d.times.begun.toNat,
     d.times.delivered.toNat, d.displayTime.toNat, d.deliveryTime.toNat, d.period.toNat,
     signedCode d.error, d.cpu.toNat, d.draw.toNat]
  | .discarded id stage time => [id.code, stage.code, time.toNat]
  | .sampled receivedAt s =>
    [receivedAt.toNat, s.displayTime.toNat, s.period.toNat, s.extra.toNat]

/-- The event with the given fields, if there are as many as its record has. -/
def ofFields? : RecordKind → List Nat → Option Event
  | .predicted, [id, madeAt, wake, display, period] =>
    some (.predicted ⟨.ofCode id, .ofCode wake, .ofCode display, .ofCode period⟩ (.ofCode madeAt))
  | .reached, [id, milestone, time] =>
    some (.reached (.ofCode id) (.ofCode milestone) (.ofCode time))
  | .delivered, [id, made, woke, begun, ended, display, delivery, period, error, cpu, draw] =>
    some (.delivered
      { id := .ofCode id
        times := ⟨.ofCode made, .ofCode woke, .ofCode begun, .ofCode ended⟩
        displayTime := .ofCode display
        deliveryTime := .ofCode delivery
        period := .ofCode period
        error := ofSignedCode error
        cpu := .ofCode cpu
        draw := .ofCode draw })
  | .discarded, [id, stage, time] =>
    some (.discarded (.ofCode id) (.ofCode stage) (.ofCode time))
  | .sampled, [receivedAt, display, period, extra] =>
    some (.sampled (.ofCode receivedAt) ⟨.ofCode display, .ofCode period, .ofCode extra⟩)
  | _, _ => none

/-! ### Writing -/

/-- Fields of the given widths. -/
def encodeFields (widths values : List Nat) : List UInt8 :=
  (List.zipWith littleEndian widths values).flatten

/-- An event's record. -/
def encode (e : Event) : List UInt8 := e.kind.tag :: encodeFields e.kind.layout e.fields

end Event

/-! ### Reading -/

/-- A field of `w` bytes and what follows it, unless there are too few. -/
def readField? (w : Nat) (bytes : List UInt8) : Option (Nat × List UInt8) :=
  let field := bytes.take w
  if field.length = w then some (ofLittleEndian field, bytes.drop w) else none

/-- Fields of the given widths, and what follows the last one that could be read. -/
def readFields : List Nat → List UInt8 → Option (List Nat) × List UInt8
  | [], bytes => (some [], bytes)
  | w :: ws, bytes =>
    match readField? w bytes with
    | none => (none, bytes)
    | some (v, rest) =>
      let (vs, rest) := readFields ws rest
      (vs.map (v :: ·), rest)

/-- One record and what follows it. Where there is none, the rest is what follows the tag and the
fields that could be read. -/
def readRecord : List UInt8 → Option Event × List UInt8
  | [] => (none, [])
  | tag :: bytes =>
    match RecordKind.ofTag? tag with
    | none => (none, bytes)
    | some k =>
      let (values, rest) := readFields k.layout bytes
      (values.bind (Event.ofFields? k), rest)

theorem length_readFields_le (ws : List Nat) (bytes : List UInt8) :
    (readFields ws bytes).2.length ≤ bytes.length := by
  induction ws generalizing bytes with
  | nil => exact Nat.le_refl _
  | cons w ws ih =>
    unfold readFields readField?
    by_cases h : (bytes.take w).length = w
    · simp only [h, if_true]
      have := ih (bytes.drop w)
      rw [List.length_drop] at this
      omega
    · simp only [h, if_false]
      omega

theorem length_readRecord_lt {bytes rest : List UInt8} {e : Event}
    (h : readRecord bytes = (some e, rest)) : rest.length < bytes.length := by
  cases bytes with
  | nil => simp [readRecord] at h
  | cons tag bytes =>
    unfold readRecord at h
    cases hk : RecordKind.ofTag? tag with
    | none => simp [hk] at h
    | some k =>
      simp only [hk, Prod.mk.injEq] at h
      have := length_readFields_le k.layout bytes
      rw [h.2] at this
      simp only [List.length_cons]
      omega

/-- The events of a recording up to the first record that cannot be read, and what is left there. -/
def readEvents (bytes : List UInt8) : List Event × List UInt8 :=
  match _h : readRecord bytes with
  | (none, rest) => ([], rest)
  | (some e, rest) =>
    let (es, rest) := readEvents rest
    (e :: es, rest)
termination_by bytes.length
decreasing_by exact length_readRecord_lt (by assumption)

/-- The events of a recording up to the first record that cannot be read. -/
def decode (bytes : List UInt8) : List Event := (readEvents bytes).1

/-- What further attempts to read give, one after another, and what is left after them. -/
def readAgain : Nat → List UInt8 → List (Option Event) × List UInt8
  | 0, bytes => ([], bytes)
  | k + 1, bytes =>
    let (e, rest) := readRecord bytes
    let (es, rest) := readAgain k rest
    (e :: es, rest)

/-! ### The recorder -/

/-- A recording that grows. -/
structure Recording where
  /-- The records so far. -/
  bytes : ByteArray := .empty

namespace Recording

/-- The bytes of a recording. -/
def toList (r : Recording) : List UInt8 := r.bytes.data.toList

/-- Adds an event. -/
def record (r : Recording) (e : Event) : Recording := ⟨r.bytes ++ e.encode.toByteArray⟩

/-- Adds events in order. -/
def recordAll (r : Recording) (es : List Event) : Recording := es.foldl record r

@[simp] theorem toList_record (r : Recording) (e : Event) :
    (r.record e).toList = r.toList ++ e.encode := by
  simp [record, toList, ByteArray.data_append]

/-- The events of a recording. -/
def events (r : Recording) : List Event := decode r.toList

/-- The recording in diagnostics. -/
def inspect (r : Recording) : String :=
  inspectRecord "RecorderSink"
    [("buf", inspectList (fun (b : UInt8) => toString b.toNat) r.toList)]

end Recording

end FramePacing

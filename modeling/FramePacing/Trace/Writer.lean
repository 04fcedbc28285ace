/-!
# Text writers

A writer takes text piece by piece. One with limited room takes what fits of a piece and then fails;
from then on it takes nothing but empty pieces.

How a text is cut into pieces makes no difference: they are taken as their whole text would be
(`putAll_eq_put_join`), and a piece that follows a failure adds no more than if it had been part of
the piece that failed (`put_put`).
-/

namespace FramePacing

/-- A destination for text. -/
structure Writer where
  /-- How many bytes it still takes, if there is a limit. -/
  room : Option Nat := none
  /-- What it has taken. -/
  written : ByteArray := .empty

namespace Writer

/-- Takes what fits of a piece, and says whether that was all of it. -/
def put (w : Writer) (piece : String) : Bool × Writer :=
  let bytes := piece.toUTF8
  match w.room with
  | none => (true, { w with written := w.written ++ bytes })
  | some room =>
    if bytes.size ≤ room then
      (true, ⟨some (room - bytes.size), w.written ++ bytes⟩)
    else
      (false, ⟨some 0, w.written ++ bytes.extract 0 room⟩)

/-- Takes pieces up to the first that does not fit, and says whether all of them did. -/
def putAll (w : Writer) : List String → Bool × Writer
  | [] => (true, w)
  | piece :: rest =>
    match w.put piece with
    | (true, w) => w.putAll rest
    | (false, w) => (false, w)

/-- What it has taken, as text. -/
def text (w : Writer) : String := (String.fromUTF8? w.written).getD ""

/-! ### Text in pieces -/

/-- A writer without a limit takes everything. -/
theorem put_unlimited (earlier : ByteArray) (s : String) :
    (⟨none, earlier⟩ : Writer).put s = (true, ⟨none, earlier ++ s.toByteArray⟩) := rfl

/-- A writer with limited room takes what fits. -/
theorem put_limited (room : Nat) (earlier : ByteArray) (s : String) :
    (⟨some room, earlier⟩ : Writer).put s =
      (decide (s.utf8ByteSize ≤ room),
        ⟨some (room - s.utf8ByteSize), earlier ++ s.toByteArray.extract 0 room⟩) := by
  by_cases fits : s.utf8ByteSize ≤ room
  · have whole : s.toByteArray.extract 0 room = s.toByteArray :=
      Nat.max_eq_left fits ▸ ByteArray.extract_zero_max_size
    simp [put, fits, whole]
  · have full : room - s.utf8ByteSize = 0 := by omega
    simp [put, fits, full]

/-- Nothing is added where no room is left, and nothing is not too much. -/
theorem put_full (earlier : ByteArray) (s : String) :
    ((⟨some 0, earlier⟩ : Writer).put s).2 = ⟨some 0, earlier⟩ := by
  simp [put_limited]

theorem put_empty (w : Writer) : w.put "" = (true, w) := by
  obtain ⟨_ | room, earlier⟩ := w
  · simp [put_unlimited]
  · have none : ByteArray.empty.extract 0 room = .empty :=
      ByteArray.extract_eq_empty_iff.mpr (Nat.min_le_right _ _)
    simp [put_limited, none]

variable {w : Writer} {a : String}

/-- After a piece that fits the writer goes on with the next one. -/
theorem put_append_of_fits (fits : (w.put a).1 = true) (b : String) :
    w.put (a ++ b) = (w.put a).2.put b := by
  obtain ⟨_ | room, earlier⟩ := w
  · simp [put_unlimited, ByteArray.append_assoc]
  · have size : a.toByteArray.size = a.utf8ByteSize := String.size_toByteArray
    have le : a.utf8ByteSize ≤ room := by simpa [put_limited] using fits
    have sum : a.utf8ByteSize + b.utf8ByteSize ≤ room ↔
        b.utf8ByteSize ≤ room - a.utf8ByteSize := by omega
    simp [put_limited, ByteArray.extract_append, ByteArray.append_assoc, size, sum, Nat.sub_sub]

/-- A piece that does not fit is the last one. -/
theorem put_append_of_fails (fails : (w.put a).1 = false) (b : String) :
    w.put (a ++ b) = w.put a := by
  obtain ⟨_ | room, earlier⟩ := w
  · cases fails
  · have size : a.toByteArray.size = a.utf8ByteSize := String.size_toByteArray
    have gt : room < a.utf8ByteSize := by simpa [put_limited] using fails
    have none : b.toByteArray.extract 0 (room - a.utf8ByteSize) = .empty := by
      rw [Nat.sub_eq_zero_of_le (Nat.le_of_lt gt)]
      exact ByteArray.extract_same
    have more : ¬ a.utf8ByteSize + b.utf8ByteSize ≤ room := by omega
    have full : room - (a.utf8ByteSize + b.utf8ByteSize) = room - a.utf8ByteSize := by omega
    simp [put_limited, ByteArray.extract_append, size, none, more, full, gt]

/-- **Pieces**: how a text is cut makes no difference to what is taken of it, nor to whether all of
it is. -/
theorem putAll_eq_put_join (w : Writer) (pieces : List String) :
    w.putAll pieces = w.put (String.join pieces) := by
  induction pieces generalizing w with
  | nil =>
    rw [String.join_nil, put_empty]
    rfl
  | cons piece rest ih =>
    rw [String.join_cons, putAll]
    rcases taken : w.put piece with ⟨_ | _, after⟩
    · rw [put_append_of_fails (congrArg Prod.fst taken), taken]
    · rw [put_append_of_fits (congrArg Prod.fst taken), taken]
      exact ih after

/-- A text that is tried after another one, whether or not that one fitted, adds what the two add as
one text. -/
theorem put_put (w : Writer) (a b : String) : ((w.put a).2.put b).2 = (w.put (a ++ b)).2 := by
  cases taken : (w.put a).1 with
  | true => rw [put_append_of_fits taken]
  | false =>
    rw [put_append_of_fails taken]
    obtain ⟨_ | room, earlier⟩ := w
    · cases taken
    · have full : room - a.utf8ByteSize = 0 := by
        have : room < a.utf8ByteSize := by simpa [put_limited] using taken
        omega
      rw [put_limited, full]
      exact put_full _ b

end Writer

end FramePacing

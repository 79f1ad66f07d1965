import Mathlib.Tactic

namespace EmbeddedAlerts
namespace Framing

/-!
# Length-delimited frames in a byte stream

A frame is its length in four big-endian bytes, followed by that many bytes.
Neither side may exceed a limit on the length.  The reader keeps what has
arrived and not been read, and whether it has already taken the head of the
next frame out of it.

The bytes of a stream may arrive in any pieces.  The laws below are therefore
about `unread`, the bytes that the reader still owes an answer for, and not
about its buffer: reading one frame removes exactly that frame's encoding from
them, and a reader that waits has no complete frame there.  A stream is cut
into frames in one way only, so a reader finds what a writer put there.
-/

/-- A length in four bytes, the most significant first. -/
def head (length : Nat) : List UInt8 :=
  [UInt8.ofNat (length / 2 ^ 24), UInt8.ofNat (length / 2 ^ 16), UInt8.ofNat (length / 2 ^ 8),
    UInt8.ofNat length]

def readHead (first second third fourth : UInt8) : Nat :=
  first.toNat * 2 ^ 24 + second.toNat * 2 ^ 16 + third.toNat * 2 ^ 8 + fourth.toNat

def encode (frame : List UInt8) : List UInt8 := head frame.length ++ frame

/-- Whether the reader still has to take a head, or has taken one. -/
inductive Phase where
  | head
  | data (length : Nat)
deriving DecidableEq

structure Reader where
  phase : Phase
  buffer : List UInt8
deriving DecidableEq

def Reader.fresh : Reader := ⟨.head, []⟩

inductive Pulled where
  | frame (bytes : List UInt8)
  | waiting
  | oversized
deriving DecidableEq

/-- Bytes arrive. -/
def Reader.feed (reader : Reader) (bytes : List UInt8) : Reader :=
  { reader with buffer := reader.buffer ++ bytes }

def pullData (length : Nat) (buffer : List UInt8) : Pulled × Reader :=
  if buffer.length < length then (.waiting, ⟨.data length, buffer⟩)
  else (.frame (buffer.take length), ⟨.head, buffer.drop length⟩)

/-- Read one frame, if it is there. -/
def Reader.pull (limit : Nat) (reader : Reader) : Pulled × Reader :=
  match reader.phase, reader.buffer with
  | .data length, buffer => pullData length buffer
  | .head, first :: second :: third :: fourth :: rest =>
      if limit < readHead first second third fourth then (.oversized, reader)
      else pullData (readHead first second third fourth) rest
  | .head, _ => (.waiting, reader)

/-- What arrived and was not returned in a frame. -/
def Reader.unread (reader : Reader) : List UInt8 :=
  match reader.phase with
  | .head => reader.buffer
  | .data length => Framing.head length ++ reader.buffer

/-- A head that was taken had passed the limit. -/
def Reader.Within (limit : Nat) (reader : Reader) : Prop :=
  forall length, reader.phase = .data length -> length ≤ limit

/-! ## Heads -/

theorem readHead_lt (first second third fourth : UInt8) :
    readHead first second third fourth < 2 ^ 32 := by
  have := first.toNat_lt
  have := second.toNat_lt
  have := third.toNat_lt
  have := fourth.toNat_lt
  unfold readHead
  omega

theorem head_readHead (first second third fourth : UInt8) :
    head (readHead first second third fourth) = [first, second, third, fourth] := by
  have firstByte := first.toNat_lt
  have secondByte := second.toNat_lt
  have thirdByte := third.toNat_lt
  have fourthByte := fourth.toNat_lt
  simp only [head, List.cons.injEq, and_true, ← UInt8.toNat_inj, UInt8.toNat_ofNat', readHead]
  omega

theorem exists_head {length : Nat} (short : length < 2 ^ 32) :
    Exists fun first => Exists fun second => Exists fun third => Exists fun fourth =>
      head length = [first, second, third, fourth] ∧
      readHead first second third fourth = length := by
  refine ⟨_, _, _, _, rfl, ?_⟩
  simp only [readHead, UInt8.toNat_ofNat']
  omega

@[simp] theorem length_encode (frame : List UInt8) : (encode frame).length = frame.length + 4 := by
  simp only [encode, head, List.length_append, List.length_cons, List.length_nil]
  omega

/-! ## Reading one frame -/

section

variable {limit : Nat} {reader next : Reader}

@[simp] theorem unread_feed (reader : Reader) (bytes : List UInt8) :
    (reader.feed bytes).unread = reader.unread ++ bytes := by
  rcases reader with ⟨phase, buffer⟩
  cases phase with
  | head => rfl
  | data length => exact (List.append_assoc _ _ _).symm

theorem pullData_frame {length : Nat} {buffer bytes : List UInt8}
    (pulled : pullData length buffer = (.frame bytes, next)) :
    bytes.length = length ∧ head length ++ buffer = encode bytes ++ next.unread ∧
      next.phase = .head := by
  unfold pullData at pulled
  split at pulled
  · cases pulled
  · next enough =>
      cases pulled
      have full : (buffer.take length).length = length := by
        rw [List.length_take]
        omega
      refine ⟨full, ?_, rfl⟩
      rw [encode, full, List.append_assoc]
      exact congrArg _ (List.take_append_drop length buffer).symm

theorem pullData_waiting {length : Nat} {buffer : List UInt8}
    (pulled : pullData length buffer = (.waiting, next)) :
    buffer.length < length ∧ next = ⟨.data length, buffer⟩ := by
  unfold pullData at pulled
  split at pulled
  · next short =>
      cases pulled
      exact ⟨short, rfl⟩
  · cases pulled

theorem pullData_ne_oversized (length : Nat) (buffer : List UInt8) :
    (pullData length buffer).1 ≠ .oversized := by
  unfold pullData
  split
  · intro impossible
    cases impossible
  · intro impossible
    cases impossible

/-- What a reader does is decided by what it has not read yet.  Either a head
is missing, or the head is over the limit, or it names the length of the data
to take. -/
theorem pull_cases (within : reader.Within limit) :
    (reader.unread.length < 4 ∧ reader.pull limit = (.waiting, reader)) ∨
      (Exists fun length => Exists fun rest => limit < length ∧ length < 2 ^ 32 ∧
        reader.unread = head length ++ rest ∧ reader.pull limit = (.oversized, reader)) ∨
      Exists fun length => Exists fun rest => length ≤ limit ∧
        reader.unread = head length ++ rest ∧ reader.pull limit = pullData length rest := by
  rcases reader with ⟨phase, buffer⟩
  cases phase with
  | data length => exact Or.inr (Or.inr ⟨length, buffer, within length rfl, rfl, rfl⟩)
  | head =>
      match buffer with
      | [] => exact Or.inl ⟨by decide, rfl⟩
      | [_] => exact Or.inl ⟨by simp [Reader.unread], rfl⟩
      | [_, _] => exact Or.inl ⟨by simp [Reader.unread], rfl⟩
      | [_, _, _] => exact Or.inl ⟨by simp [Reader.unread], rfl⟩
      | first :: second :: third :: fourth :: rest =>
          have spelled : first :: second :: third :: fourth :: rest =
              head (readHead first second third fourth) ++ rest := by
            rw [head_readHead]
            rfl
          by_cases large : limit < readHead first second third fourth
          · refine Or.inr (Or.inl ⟨_, rest, large, readHead_lt _ _ _ _, spelled, ?_⟩)
            simp only [Reader.pull, if_pos large]
          · refine Or.inr (Or.inr ⟨_, rest, Nat.le_of_not_lt large, spelled, ?_⟩)
            simp only [Reader.pull, if_neg large]

theorem pull_frame (within : reader.Within limit) {bytes : List UInt8}
    (pulled : reader.pull limit = (.frame bytes, next)) :
    bytes.length ≤ limit ∧ reader.unread = encode bytes ++ next.unread ∧ next.Within limit := by
  rcases pull_cases within with ⟨_, waits⟩ | ⟨_, _, _, _, _, refuses⟩ |
    ⟨length, rest, small, spelled, takes⟩
  · rw [waits] at pulled
    cases pulled
  · rw [refuses] at pulled
    cases pulled
  · rw [takes] at pulled
    rcases pullData_frame pulled with ⟨full, split, phase⟩
    refine ⟨full ▸ small, spelled.trans split, ?_⟩
    intro other taken
    rw [phase] at taken
    cases taken

theorem pull_waiting (within : reader.Within limit)
    (pulled : reader.pull limit = (.waiting, next)) :
    next.unread = reader.unread ∧ next.Within limit := by
  rcases pull_cases within with ⟨_, waits⟩ | ⟨_, _, _, _, _, refuses⟩ |
    ⟨length, rest, small, spelled, takes⟩
  · rw [waits] at pulled
    cases pulled
    exact ⟨rfl, within⟩
  · rw [refuses] at pulled
    cases pulled
  · rw [takes] at pulled
    rcases pullData_waiting pulled with ⟨_, rfl⟩
    refine ⟨spelled.symm, ?_⟩
    intro other taken
    cases taken
    exact small

/-- A reader never passes over a complete frame, and reads nothing into it. -/
theorem pull_of_unread (within : reader.Within limit) (fits : limit < 2 ^ 32)
    {bytes rest : List UInt8} (small : bytes.length ≤ limit)
    (arrived : reader.unread = encode bytes ++ rest) :
    Exists fun next => reader.pull limit = (.frame bytes, next) ∧ next.unread = rest := by
  rcases exists_head (Nat.lt_of_le_of_lt small fits) with
    ⟨first, second, third, fourth, spelled, read⟩
  have whole : reader.unread = [first, second, third, fourth] ++ (bytes ++ rest) := by
    rw [arrived, encode, spelled, List.append_assoc]
  rcases pull_cases within with ⟨short, _⟩ | ⟨length, data, large, short, other, _⟩ |
    ⟨length, data, below, other, takes⟩
  · rw [whole, List.length_append] at short
    simp at short
  · rcases exists_head short with ⟨_, _, _, _, same, reads⟩
    rw [whole, same] at other
    simp only [List.cons_append, List.nil_append, List.cons.injEq] at other
    rcases other with ⟨rfl, rfl, rfl, rfl, _⟩
    omega
  · rcases exists_head (Nat.lt_of_le_of_lt below fits) with ⟨_, _, _, _, same, reads⟩
    rw [whole, same] at other
    simp only [List.cons_append, List.nil_append, List.cons.injEq] at other
    rcases other with ⟨rfl, rfl, rfl, rfl, rfl⟩
    have sameLength : length = bytes.length := reads.symm.trans read
    subst sameLength
    refine ⟨⟨.head, rest⟩, ?_, rfl⟩
    rw [takes, pullData, if_neg (by rw [List.length_append]; omega), List.take_left,
      List.drop_left]

end

/-! ## The frames of a stream -/

/-- Read frames as long as there are any. -/
def drain (limit : Nat) : Nat -> Reader -> List (List UInt8)
  | 0, _ => []
  | fuel + 1, reader =>
      match reader.pull limit with
      | (.frame bytes, next) => bytes :: drain limit fuel next
      | _ => []

/-- The frames that a fresh reader finds in a stream.  Each takes four bytes at
least, so that the length of the stream is fuel enough. -/
def frames (limit : Nat) (stream : List UInt8) : List (List UInt8) :=
  drain limit stream.length ⟨.head, stream⟩

/-- No complete frame is at the front. -/
def Blocked (limit : Nat) (stream : List UInt8) : Prop :=
  forall bytes rest, bytes.length ≤ limit -> stream ≠ encode bytes ++ rest

section

variable {limit : Nat}

theorem drain_of_unread (fits : limit < 2 ^ 32) {parts : List (List UInt8)}
    (small : forall bytes, bytes ∈ parts -> bytes.length ≤ limit) {rest : List UInt8}
    (blocked : Blocked limit rest) {fuel : Nat} {reader : Reader} (within : reader.Within limit)
    (arrived : reader.unread = parts.flatMap encode ++ rest) (enough : parts.length ≤ fuel) :
    drain limit fuel reader = parts := by
  induction parts generalizing fuel reader with
  | nil =>
      cases fuel with
      | zero => rfl
      | succ fuel =>
          unfold drain
          split
          · next bytes later pulled =>
              rcases pull_frame within pulled with ⟨length, split, _⟩
              rw [arrived, List.flatMap_nil, List.nil_append] at split
              exact absurd split (blocked bytes later.unread length)
          · rfl
  | cons bytes others ih =>
      cases fuel with
      | zero => cases enough
      | succ fuel =>
          rw [List.flatMap_cons, List.append_assoc] at arrived
          rcases pull_of_unread within fits (small bytes List.mem_cons_self) arrived with
            ⟨later, pulled, left⟩
          rw [drain, pulled]
          exact congrArg _ (ih (fun other member => small other (List.mem_cons_of_mem _ member))
            (pull_frame within pulled).2.2 left (Nat.le_of_succ_le_succ enough))

theorem length_le_flatMap_encode (parts : List (List UInt8)) :
    parts.length ≤ (parts.flatMap encode).length := by
  induction parts with
  | nil => exact Nat.le_refl _
  | cons bytes others ih =>
      rw [List.length_cons, List.flatMap_cons, List.length_append, length_encode]
      omega

/-- Framing is unambiguous: a stream that is written as frames followed by
something that does not start with one consists of these frames. -/
theorem frames_of_eq (fits : limit < 2 ^ 32) {stream : List UInt8} {parts : List (List UInt8)}
    (small : forall bytes, bytes ∈ parts -> bytes.length ≤ limit) {rest : List UInt8}
    (blocked : Blocked limit rest) (written : stream = parts.flatMap encode ++ rest) :
    frames limit stream = parts := by
  have fuel := length_le_flatMap_encode parts
  refine drain_of_unread fits small blocked ?_ written ?_
  · intro length taken
    cases taken
  · rw [written, List.length_append]
    omega

/-- Every stream is frames followed by something that does not start with one. -/
theorem exists_frames (limit : Nat) (stream : List UInt8) :
    Exists fun parts : List (List UInt8) => Exists fun rest =>
      (forall bytes, bytes ∈ parts -> bytes.length ≤ limit) ∧ Blocked limit rest ∧
      stream = parts.flatMap encode ++ rest := by
  induction total : stream.length using Nat.strong_induction_on generalizing stream with
  | _ bound ih =>
      by_cases blocked : Blocked limit stream
      · exact ⟨[], stream, fun _ member => absurd member List.not_mem_nil, blocked, rfl⟩
      · simp only [Blocked, not_forall, not_not] at blocked
        rcases blocked with ⟨bytes, later, small, rfl⟩
        have shorter : later.length < bound := by
          rw [← total, List.length_append, length_encode]
          omega
        rcases ih later.length shorter later rfl with ⟨parts, rest, bounded, blocked, rfl⟩
        refine ⟨bytes :: parts, rest, ?_, blocked, ?_⟩
        · intro other member
          rcases List.mem_cons.mp member with rfl | inParts
          · exact small
          · exact bounded other inParts
        · rw [List.flatMap_cons, List.append_assoc]

theorem frames_append (fits : limit < 2 ^ 32) {parts : List (List UInt8)}
    (small : forall bytes, bytes ∈ parts -> bytes.length ≤ limit) (stream : List UInt8) :
    frames limit (parts.flatMap encode ++ stream) = parts ++ frames limit stream := by
  rcases exists_frames limit stream with ⟨others, rest, bounded, blocked, written⟩
  rw [frames_of_eq fits bounded blocked written]
  refine frames_of_eq fits ?_ blocked ?_
  · intro bytes member
    exact (List.mem_append.mp member).elim (small bytes) (bounded bytes)
  · rw [written, List.flatMap_append, List.append_assoc]

end

/-! ## Streams without a complete frame -/

theorem blocked_of_short {limit : Nat} {stream : List UInt8} (short : stream.length < 4) :
    Blocked limit stream := by
  rintro bytes rest _ rfl
  rw [List.length_append, length_encode] at short
  omega

/-- A proper part of an encoding is no frame. -/
theorem blocked_of_part {limit : Nat} (fits : limit < 2 ^ 32) {frame : List UInt8}
    (small : frame.length ≤ limit) {count : Nat} (part : count < (encode frame).length) :
    Blocked limit ((encode frame).take count) := by
  intro bytes rest bounded same
  -- The head is the same, hence so is the length, and the part is too short.
  have longer : 4 + bytes.length + rest.length = min count (encode frame).length := by
    rw [← List.length_take, same, List.length_append, length_encode]
    omega
  rcases exists_head (Nat.lt_of_le_of_lt small fits) with ⟨_, _, _, _, spelled, read⟩
  rcases exists_head (Nat.lt_of_le_of_lt bounded fits) with ⟨_, _, _, _, other, reads⟩
  have whole : encode frame = encode bytes ++ (rest ++ (encode frame).drop count) := by
    rw [← List.append_assoc, ← same, List.take_append_drop]
  simp only [encode, spelled, other, List.cons_append, List.nil_append, List.cons.injEq] at whole
  rcases whole with ⟨rfl, rfl, rfl, rfl, _⟩
  rw [length_encode] at part longer
  omega

end Framing
end EmbeddedAlerts

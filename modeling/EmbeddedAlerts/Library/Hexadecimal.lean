import Mathlib.Tactic
import Mathlib.Data.List.Basic

namespace EmbeddedAlerts
namespace Hexadecimal

/-!
# Hexadecimal text

Fixed-width big-endian digit strings and the byte-pair encoding.  Writing is
always in lower case; reading accepts both cases.  Reading what was written
returns the value modulo the width, and every character that reading accepts
is a letter or a digit, so no separator can hide inside hexadecimal text.
-/

/-- The lower-case character of one four-bit value. -/
def digit (value : Nat) : Char :=
  if value < 10 then Char.ofNat (48 + value) else Char.ofNat (87 + value)

/-- The four-bit value of one character, in either case. -/
def digitValue (character : Char) : Option Nat :=
  if 48 ≤ character.toNat ∧ character.toNat ≤ 57 then some (character.toNat - 48)
  else if 97 ≤ character.toNat ∧ character.toNat ≤ 102 then some (character.toNat - 87)
  else if 65 ≤ character.toNat ∧ character.toNat ≤ 70 then some (character.toNat - 55)
  else none

theorem digitValue_digit {value : Nat} (small : value < 16) :
    digitValue (digit value) = some value := by
  interval_cases value <;> decide

/-- The lowest `width` digits of a value, most significant first. -/
def digits : Nat -> Nat -> List Char
  | 0, _ => []
  | width + 1, value => digits width (value / 16) ++ [digit (value % 16)]

@[simp] theorem digits_length (width value : Nat) : (digits width value).length = width := by
  induction width generalizing value with
  | zero => rfl
  | succ width ih => simp [digits, ih]

/-- Every written character is read back by the digit table. -/
theorem digitValue_of_mem_digits {width value : Nat} {character : Char}
    (member : character ∈ digits width value) :
    Exists fun small => digitValue character = some small := by
  induction width generalizing value with
  | zero => simp [digits] at member
  | succ width ih =>
      rcases List.mem_append.mp member with earlier | last
      · exact ih earlier
      · rw [List.mem_singleton.mp last]
        exact ⟨value % 16, digitValue_digit (Nat.mod_lt _ (by decide))⟩

/-- Read a digit string, most significant first, onto an accumulator. -/
def readOnto (accumulator : Nat) : List Char -> Option Nat
  | [] => some accumulator
  | character :: rest =>
      match digitValue character with
      | none => none
      | some value => readOnto (accumulator * 16 + value) rest

def read (characters : List Char) : Option Nat :=
  readOnto 0 characters

theorem readOnto_append (accumulator : Nat) (first second : List Char) :
    readOnto accumulator (first ++ second) =
      (readOnto accumulator first).bind (fun value => readOnto value second) := by
  induction first generalizing accumulator with
  | nil => rfl
  | cons head tail ih =>
      simp only [List.cons_append, readOnto]
      cases digitValue head with
      | none => rfl
      | some value => exact ih _

/-- Reading the written digits recovers the value up to its width. -/
theorem read_digits (width value : Nat) :
    read (digits width value) = some (value % 16 ^ width) := by
  induction width generalizing value with
  | zero => simp [digits, read, readOnto, Nat.mod_one]
  | succ width ih =>
      have last : digitValue (digit (value % 16)) = some (value % 16) :=
        digitValue_digit (Nat.mod_lt _ (by decide))
      have split : value / 16 % 16 ^ width * 16 + value % 16 = value % 16 ^ (width + 1) := by
        rw [pow_succ, Nat.mul_comm (16 ^ width) 16, Nat.mod_mul]
        omega
      rw [read, digits, readOnto_append]
      change (read (digits width (value / 16))).bind _ = _
      rw [ih]
      simp only [Option.bind_some, readOnto, last, split]

/-- Only digit characters are ever read. -/
theorem digitValue_of_read {accumulator result : Nat} {characters : List Char}
    (done : readOnto accumulator characters = some result) {character : Char}
    (member : character ∈ characters) :
    Exists fun small => digitValue character = some small := by
  induction characters generalizing accumulator with
  | nil => cases member
  | cons head tail ih =>
      simp only [readOnto] at done
      cases value : digitValue head with
      | none =>
          rw [value] at done
          cases done
      | some small =>
          rw [value] at done
          rcases List.mem_cons.mp member with same | later
          · exact ⟨small, same ▸ value⟩
          · exact ih done later

/-- Two lower-case digits for every byte, as `hex::encode` writes them. -/
def encode (bytes : List UInt8) : List Char :=
  bytes.flatMap (fun byte => [digit (byte.toNat / 16), digit (byte.toNat % 16)])

/-- Read byte pairs; an odd character or a non-digit is refused. -/
def decode : List Char -> Option (List UInt8)
  | [] => some []
  | [_] => none
  | high :: low :: rest =>
      match digitValue high, digitValue low, decode rest with
      | some first, some second, some bytes => some (UInt8.ofNat (first * 16 + second) :: bytes)
      | _, _, _ => none

theorem decode_encode (bytes : List UInt8) : decode (encode bytes) = some bytes := by
  induction bytes with
  | nil => rfl
  | cons byte rest ih =>
      have bound : byte.toNat < 256 := byte.toNat_lt
      have high : digitValue (digit (byte.toNat / 16)) = some (byte.toNat / 16) :=
        digitValue_digit (by omega)
      have low : digitValue (digit (byte.toNat % 16)) = some (byte.toNat % 16) :=
        digitValue_digit (Nat.mod_lt _ (by decide))
      have whole : byte.toNat / 16 * 16 + byte.toNat % 16 = byte.toNat := by omega
      change decode (digit (byte.toNat / 16) :: digit (byte.toNat % 16) :: encode rest) = _
      simp only [decode, high, low, ih, whole, UInt8.ofNat_toNat]

@[simp] theorem encode_length (bytes : List UInt8) : (encode bytes).length = 2 * bytes.length := by
  induction bytes with
  | nil => rfl
  | cons byte rest ih =>
      rw [encode] at ih
      rw [encode, List.flatMap_cons, List.length_append, ih, List.length_cons]
      simp only [List.length_cons, List.length_nil]
      omega

theorem digitValue_of_mem_encode {bytes : List UInt8} {character : Char}
    (member : character ∈ encode bytes) :
    Exists fun small => digitValue character = some small := by
  rcases List.mem_flatMap.mp member with ⟨byte, _, written⟩
  have bound : byte.toNat < 256 := byte.toNat_lt
  simp only [List.mem_cons, List.not_mem_nil, or_false] at written
  rcases written with rfl | rfl
  · exact ⟨byte.toNat / 16, digitValue_digit (by omega)⟩
  · exact ⟨byte.toNat % 16, digitValue_digit (Nat.mod_lt _ (by decide))⟩

end Hexadecimal
end EmbeddedAlerts

import Mathlib.Tactic

namespace EmbeddedAlerts
namespace Base64

/-!
# Base64 with padding

Three bytes are four digits of six bits.  A last group of two bytes has three
digits and one padding sign, a last group of one byte two digits and two signs.
The decoder accepts padding in the last group only, and reads back every
encoded list of bytes.
-/

def alphabet : List Char :=
  "ABCDEFGHIJKLMNOPQRSTUVWXYZabcdefghijklmnopqrstuvwxyz0123456789+/".toList

def digit (value : Nat) : Char := alphabet.getD value 'A'

def digitValue (character : Char) : Option Nat := alphabet.idxOf? character

def encode : List UInt8 -> List Char
  | [] => []
  | [a] =>
      let bits := a.toNat * 16
      [digit (bits / 64), digit (bits % 64), '=', '=']
  | [a, b] =>
      let bits := (a.toNat * 256 + b.toNat) * 4
      [digit (bits / 4096), digit (bits / 64 % 64), digit (bits % 64), '=']
  | a :: b :: c :: rest =>
      let bits := (a.toNat * 256 + b.toNat) * 256 + c.toNat
      digit (bits / 262144) :: digit (bits / 4096 % 64) :: digit (bits / 64 % 64) ::
        digit (bits % 64) :: encode rest

/-- The bytes of a last group with its padding. -/
def decodeLast (w x y : Char) : Option (List UInt8) := do
  let high := (← digitValue w) * 64 + (← digitValue x)
  if y = '=' then some [UInt8.ofNat (high / 16)]
  else
    let bits := high * 64 + (← digitValue y)
    some [UInt8.ofNat (bits / 1024), UInt8.ofNat (bits / 4)]

def decode : List Char -> Option (List UInt8)
  | [] => some []
  | w :: x :: y :: z :: rest =>
      if z = '=' then
        if rest.isEmpty then decodeLast w x y else none
      else do
        let bits := (((← digitValue w) * 64 + (← digitValue x)) * 64 + (← digitValue y)) * 64 +
          (← digitValue z)
        let later ← decode rest
        some (UInt8.ofNat (bits / 65536) :: UInt8.ofNat (bits / 256) :: UInt8.ofNat bits :: later)
  | _ => none

/-! ## Digits -/

theorem digits_tested : (List.range 64).all (fun value =>
    decide (digitValue (digit value) = some value) && decide (digit value ≠ '=')) = true := by
  decide

theorem digit_tested {value : Nat} (small : value < 64) :
    digitValue (digit value) = some value ∧ digit value ≠ '=' := by
  have tested := List.all_eq_true.mp digits_tested value (List.mem_range.mpr small)
  rwa [Bool.and_eq_true, decide_eq_true_eq, decide_eq_true_eq] at tested

theorem digitValue_digit {value : Nat} (small : value < 64) :
    digitValue (digit value) = some value :=
  (digit_tested small).1

theorem ofNat_of_mod {value : Nat} {byte : UInt8} (same : value % 256 = byte.toNat) :
    UInt8.ofNat value = byte := by
  apply UInt8.toNat_inj.mp
  rw [UInt8.toNat_ofNat']
  exact same

/-! ## Round trip -/

theorem decode_encode (bytes : List UInt8) : decode (encode bytes) = some bytes := by
  induction bytes using encode.induct with
  | case1 => rfl
  | case2 a =>
      have bound := a.toNat_lt
      have first := digitValue_digit (show a.toNat * 16 / 64 < 64 by omega)
      have second := digitValue_digit (show a.toNat * 16 % 64 < 64 by omega)
      have whole : UInt8.ofNat ((a.toNat * 16 / 64 * 64 + a.toNat * 16 % 64) / 16) = a :=
        ofNat_of_mod (by omega)
      simp only [encode, decode, if_true, List.isEmpty_nil, decodeLast, first, second,
        Option.bind_eq_bind, Option.bind_some, whole]
  | case3 a b =>
      have boundA := a.toNat_lt
      have boundB := b.toNat_lt
      generalize held : (a.toNat * 256 + b.toNat) * 4 = bits
      have first := digitValue_digit (show bits / 4096 < 64 by omega)
      have second := digitValue_digit (show bits / 64 % 64 < 64 by omega)
      rcases digit_tested (show bits % 64 < 64 by omega) with ⟨third, unpadded⟩
      have high : UInt8.ofNat (((bits / 4096 * 64 + bits / 64 % 64) * 64 + bits % 64) / 1024) = a :=
        ofNat_of_mod (by omega)
      have low : UInt8.ofNat (((bits / 4096 * 64 + bits / 64 % 64) * 64 + bits % 64) / 4) = b :=
        ofNat_of_mod (by omega)
      simp only [encode, held, decode, if_true, List.isEmpty_nil, decodeLast, first, second, third,
        if_neg unpadded, Option.bind_eq_bind, Option.bind_some, high, low]
  | case4 a b c rest ih =>
      have boundA := a.toNat_lt
      have boundB := b.toNat_lt
      have boundC := c.toNat_lt
      generalize held : (a.toNat * 256 + b.toNat) * 256 + c.toNat = bits
      have first := digitValue_digit (show bits / 262144 < 64 by omega)
      have second := digitValue_digit (show bits / 4096 % 64 < 64 by omega)
      have third := digitValue_digit (show bits / 64 % 64 < 64 by omega)
      rcases digit_tested (show bits % 64 < 64 by omega) with ⟨fourth, unpadded⟩
      have whole : ((bits / 262144 * 64 + bits / 4096 % 64) * 64 + bits / 64 % 64) * 64 +
          bits % 64 = bits := by
        omega
      have high : UInt8.ofNat (bits / 65536) = a := ofNat_of_mod (by omega)
      have middle : UInt8.ofNat (bits / 256) = b := ofNat_of_mod (by omega)
      have low : UInt8.ofNat bits = c := ofNat_of_mod (by omega)
      simp only [encode, held, decode, if_neg unpadded, first, second, third, fourth, ih,
        Option.bind_eq_bind, Option.bind_some, whole, high, middle, low]

/-! ## Characters -/

theorem digit_mem (value : Nat) : digit value ∈ '=' :: alphabet := by
  refine List.mem_cons_of_mem _ ?_
  rw [digit, List.getD_eq_getElem?_getD]
  cases found : alphabet[value]? with
  | none => decide
  | some character => exact List.mem_of_getElem? found

theorem mem_encode {bytes : List UInt8} {character : Char} (member : character ∈ encode bytes) :
    character ∈ '=' :: alphabet := by
  have padding : '=' ∈ '=' :: alphabet := List.mem_cons_self
  induction bytes using encode.induct with
  | case1 => cases member
  | case2 a =>
      simp only [encode, List.mem_cons, List.not_mem_nil, or_false] at member
      rcases member with rfl | rfl | rfl | rfl
      · exact digit_mem _
      · exact digit_mem _
      · exact padding
      · exact padding
  | case3 a b =>
      simp only [encode, List.mem_cons, List.not_mem_nil, or_false] at member
      rcases member with rfl | rfl | rfl | rfl
      · exact digit_mem _
      · exact digit_mem _
      · exact digit_mem _
      · exact padding
  | case4 a b c rest ih =>
      simp only [encode, List.mem_cons] at member
      rcases member with rfl | rfl | rfl | rfl | later
      · exact digit_mem _
      · exact digit_mem _
      · exact digit_mem _
      · exact digit_mem _
      · exact ih later

/-- An encoded list is one line. -/
theorem newline_not_mem_encode (bytes : List UInt8) : '\n' ∉ encode bytes :=
  fun member => absurd (mem_encode member) (by decide)

theorem ascii_of_mem_encode {bytes : List UInt8} {character : Char}
    (member : character ∈ encode bytes) : character.toNat < 128 := by
  have tested : ('=' :: alphabet).all (fun letter => decide (letter.toNat < 128)) = true := by
    decide
  exact of_decide_eq_true (List.all_eq_true.mp tested character (mem_encode member))

end Base64
end EmbeddedAlerts

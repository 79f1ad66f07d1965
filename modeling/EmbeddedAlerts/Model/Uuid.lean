import EmbeddedAlerts.Library.Hexadecimal
import Mathlib.Order.Basic
import Mathlib.Data.Fin.Basic
import Mathlib.Order.Fin.Basic

namespace EmbeddedAlerts

/-!
# UUID values and their spellings

A `Uuid` is its 128 bits.  Writing uses the hyphenated lower-case form.
Reading accepts the four documented spellings: simple, hyphenated, braced and
`urn:uuid:`.  PostgreSQL orders the type bytewise, which is the order of the
128-bit values.
-/

structure Uuid where
  value : Fin (2 ^ 128)
deriving DecidableEq

namespace Uuid

def nil : Uuid := ⟨0⟩

/-- The identifier with these 128 bits. -/
def ofNat (bits : Nat) : Uuid := ⟨Fin.ofNat _ bits⟩

@[simp] theorem ofNat_value (bits : Nat) : (ofNat bits).value.val = bits % 2 ^ 128 := rfl

def isNil (id : Uuid) : Bool := decide (id = nil)

instance : LinearOrder Uuid :=
  LinearOrder.lift' Uuid.value (fun left right same => by
    cases left
    cases right
    exact congrArg Uuid.mk same)

/-- Insert the four hyphens of the 8-4-4-4-12 grouping. -/
def hyphenate (characters : List Char) : List Char :=
  characters.take 8 ++ '-' :: ((characters.drop 8).take 4 ++ '-' ::
    ((characters.drop 12).take 4 ++ '-' :: ((characters.drop 16).take 4 ++ '-' ::
      characters.drop 20)))

/-- The hyphenated lower-case spelling, as `Display` prints it. -/
def toString (id : Uuid) : String :=
  String.ofList (hyphenate (Hexadecimal.digits 32 id.value))

/-- Remove the four hyphens, which have to stand at their positions. -/
def unhyphenate (characters : List Char) : Option (List Char) :=
  if characters.length = 36 ∧ characters[8]? = some '-' ∧ characters[13]? = some '-' ∧
      characters[18]? = some '-' ∧ characters[23]? = some '-' then
    some (characters.take 8 ++ (characters.drop 9).take 4 ++ (characters.drop 14).take 4 ++
      (characters.drop 19).take 4 ++ characters.drop 24)
  else none

def ofDigits (characters : List Char) : Option Uuid :=
  match Hexadecimal.read characters with
  | none => none
  | some value => if bounded : value < 2 ^ 128 then some ⟨⟨value, bounded⟩⟩ else none

def ofHyphenated (characters : List Char) : Option Uuid :=
  (unhyphenate characters).bind ofDigits

/-- `Uuid::parse_str`: the total length selects the spelling.  A character
outside ASCII is never a digit, so counting characters instead of bytes
refuses the same texts. -/
def parseStr (text : String) : Option Uuid :=
  let characters := text.toList
  if characters.length = 32 then ofDigits characters
  else if characters.length = 36 then ofHyphenated characters
  else if characters.length = 38 ∧ characters.head? = some '{' ∧
      characters.getLast? = some '}' then
    ofHyphenated (characters.drop 1).dropLast
  else if characters.length = 45 ∧ characters.take 9 = "urn:uuid:".toList then
    ofHyphenated (characters.drop 9)
  else none

/-! ## Reading back what was written -/

theorem hyphenate_length {characters : List Char} (full : characters.length = 32) :
    (hyphenate characters).length = 36 := by
  simp [hyphenate, full]

/-- One group and its hyphen are skipped together. -/
private theorem drop_group {group : List Char} {width : Nat} (exact : group.length = width)
    (rest : List Char) :
    (group ++ '-' :: rest).drop (width + 1) = rest := by
  rw [List.drop_append, exact, List.drop_eq_nil_of_le (by omega)]
  simp

private theorem unhyphenate_groups {first second third fourth fifth : List Char}
    (eight : first.length = 8) (four : second.length = 4) (four' : third.length = 4)
    (four'' : fourth.length = 4) (twelve : fifth.length = 12) :
    unhyphenate (first ++ '-' :: (second ++ '-' :: (third ++ '-' :: (fourth ++ '-' :: fifth)))) =
      some (first ++ second ++ third ++ fourth ++ fifth) := by
  have after9 := drop_group eight (second ++ '-' :: (third ++ '-' :: (fourth ++ '-' :: fifth)))
  have after14 := drop_group four (third ++ '-' :: (fourth ++ '-' :: fifth))
  have after19 := drop_group four' (fourth ++ '-' :: fifth)
  have after24 := drop_group four'' fifth
  rw [← after9, List.drop_drop] at after14
  rw [← after14, List.drop_drop] at after19
  rw [← after19, List.drop_drop] at after24
  have whole : (first ++ '-' :: (second ++ '-' :: (third ++ '-' ::
      (fourth ++ '-' :: fifth)))).length = 36 := by
    simp [eight, four, four', four'', twelve]
  unfold unhyphenate
  rw [if_pos]
  · rw [after9, after14, after19, after24, List.take_left' eight, List.take_left' four,
      List.take_left' four', List.take_left' four'']
  · refine ⟨whole, ?_, ?_, ?_, ?_⟩ <;>
      simp [List.getElem?_append, eight, four, four', four'']

theorem unhyphenate_hyphenate {characters : List Char} (full : characters.length = 32) :
    unhyphenate (hyphenate characters) = some characters := by
  have joined : characters.take 8 ++ (characters.drop 8).take 4 ++ (characters.drop 12).take 4 ++
      (characters.drop 16).take 4 ++ characters.drop 20 = characters := by
    have step16 := List.take_append_drop 4 (characters.drop 16)
    have step12 := List.take_append_drop 4 (characters.drop 12)
    have step8 := List.take_append_drop 4 (characters.drop 8)
    simp only [List.drop_drop] at step16 step12 step8
    simp only [List.append_assoc]
    rw [step16, step12, step8, List.take_append_drop]
  rw [hyphenate, unhyphenate_groups (by simp [full]) (by simp [full]) (by simp [full])
    (by simp [full]) (by simp [full]), joined]

theorem ofDigits_digits (id : Uuid) : ofDigits (Hexadecimal.digits 32 id.value) = some id := by
  have bound : (id.value : Nat) < 2 ^ 128 := id.value.isLt
  have small : (id.value : Nat) % 16 ^ 32 = id.value :=
    Nat.mod_eq_of_lt (by norm_num at bound ⊢; exact bound)
  simp only [ofDigits, Hexadecimal.read_digits, small]
  rw [dif_pos bound]

theorem parseStr_toString (id : Uuid) : parseStr id.toString = some id := by
  have full : (Hexadecimal.digits 32 id.value).length = 32 := Hexadecimal.digits_length _ _
  have length : (hyphenate (Hexadecimal.digits 32 id.value)).length = 36 :=
    hyphenate_length full
  simp only [parseStr, toString, String.toList_ofList, length, ofHyphenated,
    unhyphenate_hyphenate full, Option.bind_some, ofDigits_digits]
  simp

theorem toString_injective : Function.Injective toString := by
  intro left right same
  have read := parseStr_toString left
  rw [same, parseStr_toString right] at read
  exact (Option.some.inj read).symm

/-! ## The alphabet of every accepted spelling -/

/-- A character that may stand in some accepted spelling. -/
def spellingCharacter (character : Char) : Prop :=
  (Exists fun small => Hexadecimal.digitValue character = some small) ∨
    character ∈ "-\x7b\x7durn:id".toList

theorem newline_not_spelling : Not (spellingCharacter '\n') := by
  rintro (⟨small, digit⟩ | listed)
  · have refused : Hexadecimal.digitValue '\n' = none := by decide
    rw [refused] at digit
    cases digit
  · revert listed
    decide

theorem spelling_of_mem_toString {id : Uuid} {character : Char}
    (member : character ∈ id.toString.toList) : spellingCharacter character := by
  have fromDigits : forall other, other ∈ Hexadecimal.digits 32 id.value ->
      spellingCharacter other :=
    fun _ present => Or.inl (Hexadecimal.digitValue_of_mem_digits present)
  simp only [toString, String.toList_ofList, hyphenate, List.mem_append, List.mem_cons] at member
  rcases member with a | rfl | b | rfl | c | rfl | d | rfl | e
  · exact fromDigits _ (List.mem_of_mem_take a)
  · exact Or.inr (by decide)
  · exact fromDigits _ (List.mem_of_mem_drop (List.mem_of_mem_take b))
  · exact Or.inr (by decide)
  · exact fromDigits _ (List.mem_of_mem_drop (List.mem_of_mem_take c))
  · exact Or.inr (by decide)
  · exact fromDigits _ (List.mem_of_mem_drop (List.mem_of_mem_take d))
  · exact Or.inr (by decide)
  · exact fromDigits _ (List.mem_of_mem_drop e)

private theorem mem_around {characters : List Char} {position : Nat} {middle character : Char}
    (stands : characters[position]? = some middle) (member : character ∈ characters) :
    character ∈ characters.take position ∨ character = middle ∨
      character ∈ characters.drop (position + 1) := by
  rcases List.getElem?_eq_some_iff.mp stands with ⟨inside, value⟩
  rw [← List.take_append_drop position characters, List.mem_append,
    List.drop_eq_getElem_cons inside, List.mem_cons, value] at member
  exact member

private theorem mem_of_unhyphenate {characters kept : List Char}
    (done : unhyphenate characters = some kept) {character : Char}
    (member : character ∈ characters) : character ∈ kept ∨ character = '-' := by
  unfold unhyphenate at done
  split at done
  · next shape =>
      rcases shape with ⟨_, at8, at13, at18, at23⟩
      cases done
      have at13' : (characters.drop 9)[4]? = some '-' := by simpa using at13
      have at18' : (characters.drop 14)[4]? = some '-' := by simpa using at18
      have at23' : (characters.drop 19)[4]? = some '-' := by simpa using at23
      rcases mem_around at8 member with a | a | rest
      · exact Or.inl (by simp [a])
      · exact Or.inr a
      · rcases mem_around at13' rest with b | b | rest
        · exact Or.inl (by simp [b])
        · exact Or.inr b
        · rw [List.drop_drop] at rest
          rcases mem_around at18' rest with c | c | rest
          · exact Or.inl (by simp [c])
          · exact Or.inr c
          · rw [List.drop_drop] at rest
            rcases mem_around at23' rest with d | d | rest
            · exact Or.inl (by simp [d])
            · exact Or.inr d
            · rw [List.drop_drop] at rest
              exact Or.inl (by simp [rest])
  · cases done

private theorem spelling_of_ofDigits {characters : List Char} {id : Uuid}
    (done : ofDigits characters = some id) {character : Char}
    (member : character ∈ characters) : spellingCharacter character := by
  unfold ofDigits at done
  cases value : Hexadecimal.read characters with
  | none =>
      rw [value] at done
      cases done
  | some number => exact Or.inl (Hexadecimal.digitValue_of_read value member)

private theorem spelling_of_ofHyphenated {characters : List Char} {id : Uuid}
    (done : ofHyphenated characters = some id) {character : Char}
    (member : character ∈ characters) : spellingCharacter character := by
  rcases Option.bind_eq_some_iff.mp done with ⟨kept, split, digits⟩
  rcases mem_of_unhyphenate split member with inside | hyphen
  · exact spelling_of_ofDigits digits inside
  · rw [hyphen]
    exact Or.inr (by decide)

/-- Whatever spelling `parse_str` accepts, it is made of spelling characters
only.  In particular an accepted text has no line break. -/
theorem spelling_of_parseStr {text : String} {id : Uuid} (done : parseStr text = some id)
    {character : Char} (member : character ∈ text.toList) : spellingCharacter character := by
  unfold parseStr at done
  dsimp only at done
  split at done
  · exact spelling_of_ofDigits done member
  · split at done
    · exact spelling_of_ofHyphenated done member
    · split at done
      · next shape =>
          rcases shape with ⟨_, opening, closing⟩
          rcases List.head?_eq_some_iff.mp opening with ⟨tail, cells⟩
          have nonempty : tail ≠ [] := by
            rintro rfl
            rw [cells] at closing
            revert closing
            decide
          rw [cells, List.drop_one, List.tail_cons] at done
          rw [cells] at member
          rcases List.mem_cons.mp member with same | later
          · rw [same]
            exact Or.inr (by decide)
          · rw [← List.dropLast_append_getLast nonempty, List.mem_append,
              List.mem_singleton] at later
            rcases later with inner | last
            · exact spelling_of_ofHyphenated done inner
            · have final : tail.getLast nonempty = '}' := by
                rw [cells, List.getLast?_cons, List.getLast?_eq_some_getLast nonempty] at closing
                exact Option.some.inj closing
              rw [last, final]
              exact Or.inr (by decide)
      · split at done
        · next shape =>
            rw [← List.take_append_drop 9 text.toList, List.mem_append] at member
            rcases member with front | back
            · rw [shape.2] at front
              refine Or.inr ?_
              revert front
              generalize character = other
              intro front
              have listed : other ∈ ['u', 'r', 'n', ':', 'u', 'u', 'i', 'd', ':'] := front
              simp only [List.mem_cons, List.not_mem_nil, or_false] at listed
              rcases listed with rfl | rfl | rfl | rfl | rfl | rfl | rfl | rfl | rfl <;> decide
            · exact spelling_of_ofHyphenated done back
        · cases done

/-- The longest accepted spelling is the URN. -/
theorem length_of_parseStr {text : String} {id : Uuid} (done : parseStr text = some id) :
    text.length ≤ 45 := by
  unfold parseStr at done
  dsimp only at done
  rw [← String.length_toList]
  split at done
  · omega
  · split at done
    · omega
    · split at done
      · omega
      · split at done
        · omega
        · cases done

theorem newline_not_mem_toString (id : Uuid) : '\n' ∉ id.toString.toList :=
  fun member => newline_not_spelling (spelling_of_mem_toString member)

theorem newline_not_mem_of_parseStr {text : String} {id : Uuid}
    (done : parseStr text = some id) : '\n' ∉ text.toList :=
  fun member => newline_not_spelling (spelling_of_parseStr done member)

end Uuid
end EmbeddedAlerts

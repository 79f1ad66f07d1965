import EmbeddedAlerts.Library.Text

namespace EmbeddedAlerts

/-!
# JSON values and their compact encoding

The encoding is the one `serde_json::to_vec` writes: no blanks, members in the
given order, and escapes for the quote, the backslash and the control
characters below U+0020 only.  Numbers are kept as their text, because the
digits of a float belong to the formatter and not to this encoding.

Every size law is stated for the number of UTF-8 bytes.  The size of a list or
a record is the sum of its parts, so a bound on the parts is a bound on the
whole.
-/

inductive Json where
  | null
  | bool (value : Bool)
  | number (text : String)
  | string (text : String)
  | array (items : List Json)
  | object (members : List (String × Json))

namespace Json

/-- One character inside a JSON string. -/
def escapeCharacter (character : Char) : String :=
  if character = '"' then "\\\""
  else if character = '\\' then "\\\\"
  else if character.toNat = 8 then "\\b"
  else if character.toNat = 9 then "\\t"
  else if character.toNat = 10 then "\\n"
  else if character.toNat = 12 then "\\f"
  else if character.toNat = 13 then "\\r"
  else if character.toNat < 16 then "\\u000" ++ String.ofList (Nat.toDigits 16 character.toNat)
  else if character.toNat < 32 then "\\u00" ++ String.ofList (Nat.toDigits 16 character.toNat)
  else String.ofList [character]

/-- The quoted and escaped text. -/
def quote (text : String) : String :=
  "\"" ++ String.join (text.toList.map escapeCharacter) ++ "\""

mutual

def compact : Json -> String
  | null => "null"
  | bool true => "true"
  | bool false => "false"
  | number text => text
  | string text => quote text
  | array items => "[" ++ compactItems items ++ "]"
  | object members => "\x7b" ++ compactMembers members ++ "\x7d"

def compactItems : List Json -> String
  | [] => ""
  | [item] => compact item
  | item :: next :: rest => compact item ++ "," ++ compactItems (next :: rest)

def compactMembers : List (String × Json) -> String
  | [] => ""
  | [(name, value)] => quote name ++ ":" ++ compact value
  | (name, value) :: next :: rest =>
      quote name ++ ":" ++ compact value ++ "," ++ compactMembers (next :: rest)

end

mutual

/-- The value after it was held in maps by name: every record lists its members
in the order of their names, which are distinct. -/
def ordered : Json -> Json
  | array items => array (orderedItems items)
  | object members =>
      object ((orderedMembers members).insertionSort (fun left right => left.1 ≤ right.1))
  | value => value

def orderedItems : List Json -> List Json
  | [] => []
  | item :: rest => ordered item :: orderedItems rest

def orderedMembers : List (String × Json) -> List (String × Json)
  | [] => []
  | (name, value) :: rest => (name, ordered value) :: orderedMembers rest

end

/-- The length in bytes that a transport compares with its limit. -/
def size (value : Json) : Nat := Text.byteLength value.compact

def quotedSize (text : String) : Nat := Text.byteLength (quote text)

/-! ## Sizes of lists and records -/

theorem byteLength_append (left right : String) :
    Text.byteLength (left ++ right) = Text.byteLength left + Text.byteLength right :=
  String.utf8ByteSize_append

theorem byteLength_compactItems (items : List Json) :
    Text.byteLength (compactItems items) = (items.map size).sum + (items.length - 1) := by
  induction items with
  | nil => rfl
  | cons item rest ih =>
      cases rest with
      | nil => simp [compactItems, size]
      | cons next later =>
          have comma : Text.byteLength "," = 1 := rfl
          rw [compactItems, byteLength_append, byteLength_append, ih, comma]
          simp only [List.map_cons, List.sum_cons, List.length_cons, size]
          omega

/-- The size of one member of a record. -/
def memberSize (member : String × Json) : Nat := quotedSize member.1 + 1 + size member.2

theorem byteLength_compactMembers (members : List (String × Json)) :
    Text.byteLength (compactMembers members) =
      (members.map memberSize).sum + (members.length - 1) := by
  induction members with
  | nil => rfl
  | cons member rest ih =>
      have colon : Text.byteLength ":" = 1 := rfl
      have comma : Text.byteLength "," = 1 := rfl
      rcases member with ⟨name, value⟩
      cases rest with
      | nil =>
          rw [compactMembers, byteLength_append, byteLength_append, colon]
          simp [memberSize, quotedSize, size]
      | cons next later =>
          rw [compactMembers, byteLength_append, byteLength_append, byteLength_append,
            byteLength_append, ih, colon, comma]
          simp only [List.map_cons, List.sum_cons, List.length_cons, memberSize, quotedSize, size]
          omega

@[simp] theorem size_null : size .null = 4 := rfl

@[simp] theorem size_string (text : String) : size (.string text) = quotedSize text := by
  rw [size, compact, quotedSize]

theorem size_array (items : List Json) :
    size (.array items) = 2 + (items.map size).sum + (items.length - 1) := by
  have brackets : Text.byteLength "[" = 1 ∧ Text.byteLength "]" = 1 := ⟨rfl, rfl⟩
  rw [size, compact, byteLength_append, byteLength_append, byteLength_compactItems, brackets.1,
    brackets.2]
  omega

theorem size_object (members : List (String × Json)) :
    size (.object members) = 2 + (members.map memberSize).sum + (members.length - 1) := by
  have braces : Text.byteLength "\x7b" = 1 ∧ Text.byteLength "\x7d" = 1 := ⟨rfl, rfl⟩
  rw [size, compact, byteLength_append, byteLength_append, byteLength_compactMembers, braces.1,
    braces.2]
  omega

mutual

/-- The order of the members is no matter of size. -/
@[simp] theorem size_ordered (value : Json) : size (ordered value) = size value := by
  match value with
  | .null => rfl
  | .bool _ => rfl
  | .number _ => rfl
  | .string _ => rfl
  | .array items =>
      have lengths := congrArg List.length (map_size_orderedItems items)
      rw [List.length_map, List.length_map] at lengths
      rw [ordered, size_array, size_array, map_size_orderedItems items, lengths]
  | .object members =>
      have lengths := congrArg List.length (map_memberSize_orderedMembers members)
      rw [List.length_map, List.length_map] at lengths
      rw [ordered, size_object, size_object, List.length_insertionSort, lengths,
        ((List.perm_insertionSort _ (orderedMembers members)).map memberSize).sum_eq,
        map_memberSize_orderedMembers members]

theorem map_size_orderedItems (items : List Json) :
    (orderedItems items).map size = items.map size := by
  match items with
  | [] => rfl
  | item :: rest =>
      rw [orderedItems, List.map_cons, List.map_cons, size_ordered item,
        map_size_orderedItems rest]

theorem map_memberSize_orderedMembers (members : List (String × Json)) :
    (orderedMembers members).map memberSize = members.map memberSize := by
  match members with
  | [] => rfl
  | (name, value) :: rest =>
      rw [orderedMembers, List.map_cons, List.map_cons, memberSize, memberSize,
        size_ordered value, map_memberSize_orderedMembers rest]

end

/-! ## Sizes of texts -/

theorem escapeCharacter_of_plain {character : Char} (plain : Text.Plain character) :
    escapeCharacter character = String.ofList [character] := by
  rcases plain with ⟨large, _, notQuote, notBackslash⟩
  simp only [escapeCharacter, if_neg notQuote, if_neg notBackslash]
  simp (disch := omega) only [if_neg]

theorem quotedSize_eq (text : String) :
    quotedSize text =
      2 + (text.toList.map (fun character => Text.byteLength (escapeCharacter character))).sum := by
  have quotes : Text.byteLength "\"" = 1 := rfl
  have joined : forall characters : List Char,
      Text.byteLength (String.join (characters.map escapeCharacter)) =
        (characters.map (fun character => Text.byteLength (escapeCharacter character))).sum := by
    intro characters
    induction characters with
    | nil => rfl
    | cons head tail ih =>
        rw [List.map_cons, String.join_cons, byteLength_append, ih, List.map_cons, List.sum_cons]
  rw [quotedSize, quote, byteLength_append, byteLength_append, joined, quotes]
  omega

/-- A plain text takes its length and two quotes. -/
theorem quotedSize_of_plain {text : String}
    (plain : forall character, character ∈ text.toList -> Text.Plain character) :
    quotedSize text = text.length + 2 := by
  rw [quotedSize_eq, ← String.length_toList]
  generalize text.toList = characters at plain
  induction characters with
  | nil => rfl
  | cons head tail ih =>
      have first := plain head List.mem_cons_self
      have single : Text.byteLength (String.ofList [head]) = 1 := by
        have ascii : forall character, character ∈ (String.ofList [head]).toList ->
            character.toNat < 128 := by
          intro character member
          rw [String.toList_ofList, List.mem_singleton] at member
          rw [member]
          exact first.2.1
        rw [Text.byteLength_of_ascii ascii]
        simp
      have rest := ih (fun character later => plain character (List.mem_cons_of_mem _ later))
      rw [List.map_cons, List.sum_cons, escapeCharacter_of_plain first, single, List.length_cons]
      omega

/-- The characters of a text that are written with a backslash before them. -/
def escapes (text : String) : Nat :=
  text.toList.countP (fun character => decide (character = '"' ∨ character = '\\'))

theorem byteLength_single (character : Char) :
    Text.byteLength (String.ofList [character]) = character.utf8Size := by
  rw [Text.byteLength_ofList, List.map_singleton, List.sum_singleton]

/-- Above the control characters only the quote and the backslash grow, by one
byte each. -/
theorem byteLength_escapeCharacter {character : Char} (printable : 32 ≤ character.toNat) :
    Text.byteLength (escapeCharacter character) = character.utf8Size +
      if character = '"' ∨ character = '\\' then 1 else 0 := by
  by_cases quoted : character = '"'
  · subst quoted
    rfl
  · by_cases backslash : character = '\\'
    · subst backslash
      rfl
    · have verbatim : escapeCharacter character = String.ofList [character] := by
        simp only [escapeCharacter, if_neg quoted, if_neg backslash]
        simp (disch := omega) only [if_neg]
      rw [verbatim, byteLength_single, if_neg (not_or.mpr ⟨quoted, backslash⟩)]
      omega

/-- A text without control characters takes its bytes, its escapes and two
quotes. -/
theorem quotedSize_of_printable {text : String}
    (printable : forall character, character ∈ text.toList -> 32 ≤ character.toNat) :
    quotedSize text = Text.byteLength text + escapes text + 2 := by
  rw [quotedSize_eq, Text.byteLength_eq_sum, escapes]
  generalize text.toList = characters at printable
  induction characters with
  | nil => rfl
  | cons head tail ih =>
      have rest := ih (fun character later => printable character (List.mem_cons_of_mem _ later))
      rw [List.map_cons, List.sum_cons, List.map_cons, List.sum_cons, List.countP_cons,
        byteLength_escapeCharacter (printable head List.mem_cons_self)]
      simp only [decide_eq_true_eq]
      omega

end Json
end EmbeddedAlerts

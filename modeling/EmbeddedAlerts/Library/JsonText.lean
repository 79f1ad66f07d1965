import EmbeddedAlerts.Library.Hexadecimal
import EmbeddedAlerts.Library.Json

namespace EmbeddedAlerts

/-!
# Reading JSON text

The reader accepts what `serde_json::from_slice` accepts: blanks between
tokens, the escapes of JSON strings with their surrogate pairs, no control
character inside a string, no leading zero and no trailing text.  It keeps the
text of a number, because what a number may be is decided by the type that is
read from it.

A value that was written compactly is read back, whatever follows it, provided
that this does not continue a number.
-/

namespace Json

def isBlank (character : Char) : Bool :=
  character == ' ' || character == '\n' || character == '\t' || character == '\r'

def skipBlanks (text : List Char) : List Char := text.dropWhile isBlank

/-! ## Strings -/

/-- The escapes of one character. -/
def simpleEscape (mark : Char) : Option Char :=
  if mark = '"' then some '"'
  else if mark = '\\' then some '\\'
  else if mark = '/' then some '/'
  else if mark = 'b' then some (Char.ofNat 8)
  else if mark = 't' then some (Char.ofNat 9)
  else if mark = 'n' then some (Char.ofNat 10)
  else if mark = 'f' then some (Char.ofNat 12)
  else if mark = 'r' then some (Char.ofNat 13)
  else none

/-- Four hexadecimal digits. -/
def readUnit : List Char -> Option (Nat × List Char)
  | first :: second :: third :: fourth :: rest =>
      (Hexadecimal.read [first, second, third, fourth]).map (fun unit => (unit, rest))
  | _ => none

/-- What follows `\u`.  A surrogate has to be the first of a pair. -/
def readUnicode (text : List Char) : Option (Char × List Char) :=
  match readUnit text with
  | none => none
  | some (unit, rest) =>
      if unit < 0xD800 ∨ 0xDFFF < unit then some (Char.ofNat unit, rest)
      else if 0xDBFF < unit then none
      else
        match rest with
        | '\\' :: 'u' :: more =>
            match readUnit more with
            | some (low, rest) =>
                if 0xDC00 ≤ low ∧ low ≤ 0xDFFF then
                  some (Char.ofNat (0x10000 + (unit - 0xD800) * 1024 + (low - 0xDC00)), rest)
                else none
            | none => none
        | _ => none

/-- What follows a backslash. -/
def readEscape : List Char -> Option (Char × List Char)
  | [] => none
  | mark :: rest =>
      if mark = 'u' then readUnicode rest
      else (simpleEscape mark).map (fun character => (character, rest))

/-- What follows the opening quote, up to the closing one. -/
def readString : Nat -> List Char -> Option (List Char × List Char)
  | 0, _ => none
  | _ + 1, [] => none
  | fuel + 1, character :: rest =>
      if character = '"' then some ([], rest)
      else if character = '\\' then
        (readEscape rest).bind (fun escaped =>
          (readString fuel escaped.2).map (fun later => (escaped.1 :: later.1, later.2)))
      else if character.toNat < 32 then none
      else (readString fuel rest).map (fun later => (character :: later.1, later.2))

/-! ## Numbers -/

def readSign : List Char -> List Char × List Char
  | '-' :: rest => (['-'], rest)
  | text => ([], text)

/-- Digits without a leading zero. -/
def readWhole (text : List Char) : Option (List Char × List Char) :=
  match text.span Char.isDigit with
  | ([], _) => none
  | (['0'], rest) => some (['0'], rest)
  | ('0' :: _, _) => none
  | (digits, rest) => some (digits, rest)

def readFraction : List Char -> Option (List Char × List Char)
  | '.' :: rest =>
      match rest.span Char.isDigit with
      | ([], _) => none
      | (digits, rest) => some ('.' :: digits, rest)
  | text => some ([], text)

def readExponent : List Char -> Option (List Char × List Char)
  | [] => some ([], [])
  | mark :: rest =>
      if mark = 'e' ∨ mark = 'E' then
        let signed := match rest with
          | '+' :: more => (['+'], more)
          | '-' :: more => (['-'], more)
          | _ => ([], rest)
        match signed.2.span Char.isDigit with
        | ([], _) => none
        | (digits, rest) => some (mark :: signed.1 ++ digits, rest)
      else some ([], mark :: rest)

def readNumber (text : List Char) : Option (List Char × List Char) :=
  let signed := readSign text
  (readWhole signed.2).bind (fun whole =>
    (readFraction whole.2).bind (fun fraction =>
      (readExponent fraction.2).map (fun exponent =>
        (signed.1 ++ whole.1 ++ fraction.1 ++ exponent.1, exponent.2))))

/-! ## Values -/

mutual

def readValue : Nat -> List Char -> Option (Json × List Char)
  | 0, _ => none
  | fuel + 1, text =>
      match skipBlanks text with
      | 'n' :: 'u' :: 'l' :: 'l' :: rest => some (.null, rest)
      | 't' :: 'r' :: 'u' :: 'e' :: rest => some (.bool true, rest)
      | 'f' :: 'a' :: 'l' :: 's' :: 'e' :: rest => some (.bool false, rest)
      | '"' :: rest =>
          (readString fuel rest).map (fun read => (.string (String.ofList read.1), read.2))
      | '[' :: rest =>
          match skipBlanks rest with
          | ']' :: after => some (.array [], after)
          | _ => (readItems fuel rest).map (fun read => (.array read.1, read.2))
      | '\x7b' :: rest =>
          match skipBlanks rest with
          | '\x7d' :: after => some (.object [], after)
          | _ => (readMembers fuel rest).map (fun read => (.object read.1, read.2))
      | other => (readNumber other).map (fun read => (.number (String.ofList read.1), read.2))

def readItems : Nat -> List Char -> Option (List Json × List Char)
  | 0, _ => none
  | fuel + 1, text =>
      (readValue fuel text).bind (fun first =>
        match skipBlanks first.2 with
        | ',' :: rest => (readItems fuel rest).map (fun later => (first.1 :: later.1, later.2))
        | ']' :: rest => some ([first.1], rest)
        | _ => none)

def readMembers : Nat -> List Char -> Option (List (String × Json) × List Char)
  | 0, _ => none
  | fuel + 1, text =>
      match skipBlanks text with
      | '"' :: rest =>
          (readString fuel rest).bind (fun name =>
            match skipBlanks name.2 with
            | ':' :: rest =>
                (readValue fuel rest).bind (fun value =>
                  match skipBlanks value.2 with
                  | ',' :: rest => (readMembers fuel rest).map (fun later =>
                      ((String.ofList name.1, value.1) :: later.1, later.2))
                  | '\x7d' :: rest => some ([(String.ofList name.1, value.1)], rest)
                  | _ => none)
            | _ => none)
      | _ => none

end

/-- One value and nothing else. -/
def parse (text : String) : Option Json :=
  (readValue (text.length + 1) text.toList).bind (fun read =>
    if skipBlanks read.2 = [] then some read.1 else none)

/-- The value in a sequence of bytes, which have to be UTF-8. -/
def fromBytes (bytes : List UInt8) : Option Json :=
  (Text.ofBytes bytes).bind parse

/-! ## Reading back -/

/-- A text that cannot continue a number. -/
def Delimited (rest : List Char) : Prop :=
  forall character, rest.head? = some character ->
    character = ',' ∨ character = ']' ∨ character = '\x7d'

/-- A text that is read as one number, and as this number only. -/
def NumberText (text : String) : Prop :=
  (forall character, text.toList.head? = some character ->
    character.isDigit = true ∨ character = '-') ∧
  forall rest, Delimited rest -> readNumber (text.toList ++ rest) = some (text.toList, rest)

theorem delimited_nil : Delimited [] := fun _ impossible => nomatch impossible

theorem delimited_cons {character : Char} (rest : List Char)
    (listed : character = ',' ∨ character = ']' ∨ character = '\x7d') :
    Delimited (character :: rest) := by
  intro other same
  cases same
  exact listed

theorem skipBlanks_of_not_isBlank {character : Char} (solid : isBlank character = false)
    (rest : List Char) : skipBlanks (character :: rest) = character :: rest := by
  rw [skipBlanks, List.dropWhile_cons_of_neg (by rw [solid]; decide)]

/-! ### Strings -/

/-- The escape that is written for a control character is read as it. -/
theorem readEscape_control {number : Nat} (control : number < 32) (rest : List Char) :
    Exists fun marks => (escapeCharacter (Char.ofNat number)).toList = '\\' :: marks ∧
      readEscape (marks ++ rest) = some (Char.ofNat number, rest) := by
  interval_cases number <;> exact ⟨_, rfl, rfl⟩

theorem readString_escapeCharacter (character : Char) (fuel : Nat) (rest : List Char) :
    readString (fuel + 1) ((escapeCharacter character).toList ++ rest) =
      (readString fuel rest).map (fun later => (character :: later.1, later.2)) := by
  by_cases quote : character = '"'
  · subst quote
    rfl
  · by_cases backslash : character = '\\'
    · subst backslash
      rfl
    · by_cases control : character.toNat < 32
      · rcases readEscape_control control rest with ⟨marks, written, read⟩
        rw [Char.ofNat_toNat] at written read
        rw [written, List.cons_append, readString, if_neg (by decide), if_pos rfl, read]
        rfl
      · have verbatim : escapeCharacter character = String.ofList [character] := by
          simp only [escapeCharacter, if_neg quote, if_neg backslash]
          simp (disch := omega) only [if_neg]
        rw [verbatim, String.toList_ofList, List.singleton_append, readString, if_neg quote,
          if_neg backslash, if_neg control]

/-- The characters of a quoted text, without its quotes. -/
def escaped (characters : List Char) : List Char :=
  characters.flatMap (fun character => (escapeCharacter character).toList)

theorem toList_quote (text : String) :
    (quote text).toList = '"' :: (escaped text.toList ++ ['"']) := by
  have joined : forall characters : List Char,
      (String.join (characters.map escapeCharacter)).toList = escaped characters := by
    intro characters
    induction characters with
    | nil => rfl
    | cons head tail ih =>
        rw [List.map_cons, String.join_cons, String.toList_append, ih]
        rfl
  rw [quote, String.toList_append, String.toList_append, joined]
  rfl

theorem length_le_escaped (characters : List Char) :
    characters.length ≤ (escaped characters).length := by
  induction characters with
  | nil => exact Nat.le_refl _
  | cons head tail ih =>
      have written : 0 < (escapeCharacter head).toList.length := by
        by_cases control : head.toNat < 32
        · rcases readEscape_control control [] with ⟨marks, written, _⟩
          rw [Char.ofNat_toNat] at written
          rw [written, List.length_cons]
          omega
        · by_cases special : head = '"' ∨ head = '\\'
          · rcases special with rfl | rfl <;> decide
          · rw [not_or] at special
            simp only [escapeCharacter, if_neg special.1, if_neg special.2]
            simp (disch := omega) only [if_neg, String.toList_ofList, List.length_singleton]
            exact Nat.one_pos
      rw [escaped, List.flatMap_cons, List.length_append, List.length_cons]
      change _ ≤ _ + (escaped tail).length
      omega

theorem readString_escaped (characters : List Char) {fuel : Nat}
    (enough : characters.length < fuel) (rest : List Char) :
    readString fuel (escaped characters ++ '"' :: rest) = some (characters, rest) := by
  induction characters generalizing fuel with
  | nil =>
      cases fuel with
      | zero => cases enough
      | succ fuel => rfl
  | cons head tail ih =>
      cases fuel with
      | zero => cases enough
      | succ fuel =>
          rw [escaped, List.flatMap_cons, List.append_assoc, readString_escapeCharacter]
          change (readString fuel (escaped tail ++ '"' :: rest)).map _ = _
          rw [ih (Nat.lt_of_succ_lt_succ enough)]
          rfl

/-! ### Values -/

mutual

/-- The texts of all numbers in a value. -/
def numbers : Json -> List String
  | .number text => [text]
  | .array items => itemNumbers items
  | .object members => memberNumbers members
  | _ => []

def itemNumbers : List Json -> List String
  | [] => []
  | item :: rest => numbers item ++ itemNumbers rest

def memberNumbers : List (String × Json) -> List String
  | [] => []
  | member :: rest => numbers member.2 ++ memberNumbers rest

end

theorem isDigit_cases {character : Char} (digit : character.isDigit = true ∨ character = '-') :
    isBlank character = false ∧ character ∉ ['n', 't', 'f', '"', '[', ']', '\x7b'] := by
  constructor
  · rw [Bool.eq_false_iff]
    intro blank
    simp only [isBlank, Bool.or_eq_true, beq_iff_eq] at blank
    rcases blank with ((rfl | rfl) | rfl) | rfl <;> revert digit <;> decide
  · intro listed
    simp only [List.mem_cons, List.not_mem_nil, or_false] at listed
    rcases listed with rfl | rfl | rfl | rfl | rfl | rfl | rfl <;> revert digit <;> decide

theorem NumberText.exists_cons {text : String} (numeric : NumberText text) :
    Exists fun first => Exists fun rest => text.toList = first :: rest ∧
      (first.isDigit = true ∨ first = '-') := by
  cases spelled : text.toList with
  | nil =>
      have read := numeric.2 [] delimited_nil
      rw [spelled] at read
      cases read
  | cons first rest => exact ⟨first, rest, rfl, numeric.1 first (by rw [spelled]; rfl)⟩

/-- A number is what does not begin as anything else. -/
theorem readValue_number {first : Char} (digit : first.isDigit = true ∨ first = '-') (fuel : Nat)
    (rest : List Char) : readValue (fuel + 1) (first :: rest) =
      (readNumber (first :: rest)).map (fun read => (.number (String.ofList read.1), read.2)) := by
  rcases isDigit_cases digit with ⟨solid, other⟩
  simp only [List.mem_cons, List.not_mem_nil, or_false, not_or] at other
  rw [readValue, skipBlanks_of_not_isBlank solid]
  split
  · next same => exact absurd (List.cons.inj same).1 other.1
  · next same => exact absurd (List.cons.inj same).1 other.2.1
  · next same => exact absurd (List.cons.inj same).1 other.2.2.1
  · next same => exact absurd (List.cons.inj same).1 other.2.2.2.1
  · next same => exact absurd (List.cons.inj same).1 other.2.2.2.2.1
  · next same => exact absurd (List.cons.inj same).1 other.2.2.2.2.2.2
  · rfl

/-- No value begins with a blank or a closing bracket. -/
theorem exists_cons_compact (value : Json)
    (numeric : forall text, text ∈ numbers value -> NumberText text) :
    Exists fun first => Exists fun rest => (compact value).toList = first :: rest ∧
      isBlank first = false ∧ first ≠ ']' := by
  cases value with
  | null => exact ⟨'n', _, rfl, rfl, by decide⟩
  | bool truth => cases truth <;> exact ⟨_, _, rfl, rfl, by decide⟩
  | number text =>
      rcases (numeric text (by simp [numbers])).exists_cons with ⟨first, rest, spelled, digit⟩
      rcases isDigit_cases digit with ⟨solid, other⟩
      refine ⟨first, rest, spelled, solid, ?_⟩
      rintro rfl
      exact other (by decide)
  | string text => exact ⟨'"', _, toList_quote text, rfl, by decide⟩
  | array items => exact ⟨'[', _, by rw [compact, String.toList_append, String.toList_append]; rfl,
      rfl, by decide⟩
  | object members =>
      exact ⟨'\x7b', _, by rw [compact, String.toList_append, String.toList_append]; rfl, rfl,
        by decide⟩

theorem toList_compact_array (items : List Json) :
    (compact (.array items)).toList = '[' :: ((compactItems items).toList ++ [']']) := by
  rw [compact, String.toList_append, String.toList_append]
  rfl

theorem toList_compact_object (members : List (String × Json)) :
    (compact (.object members)).toList = '\x7b' :: ((compactMembers members).toList ++ ['\x7d']) := by
  rw [compact, String.toList_append, String.toList_append]
  rfl

theorem toList_compactItems_cons (item next : Json) (rest : List Json) :
    (compactItems (item :: next :: rest)).toList =
      (compact item).toList ++ ',' :: (compactItems (next :: rest)).toList := by
  rw [compactItems, String.toList_append, String.toList_append, List.append_assoc]
  rfl

theorem toList_compactMembers_single (name : String) (value : Json) :
    (compactMembers [(name, value)]).toList =
      '"' :: (escaped name.toList ++ '"' :: ':' :: (compact value).toList) := by
  rw [compactMembers, String.toList_append, String.toList_append, toList_quote]
  simp

theorem toList_compactMembers_cons (name : String) (value : Json) (next : String × Json)
    (rest : List (String × Json)) :
    (compactMembers ((name, value) :: next :: rest)).toList =
      '"' :: (escaped name.toList ++ '"' :: ':' ::
        ((compact value).toList ++ ',' :: (compactMembers (next :: rest)).toList)) := by
  rw [compactMembers, String.toList_append, String.toList_append, String.toList_append,
    String.toList_append, toList_quote]
  simp

theorem exists_cons_compactItems {item : Json}
    (numeric : forall text, text ∈ numbers item -> NumberText text) (others : List Json) :
    Exists fun first => Exists fun rest => (compactItems (item :: others)).toList = first :: rest ∧
      isBlank first = false ∧ first ≠ ']' := by
  rcases exists_cons_compact item numeric with ⟨first, rest, same, solid, other⟩
  cases others with
  | nil => exact ⟨first, rest, by rw [compactItems, same], solid, other⟩
  | cons next later =>
      exact ⟨first, _, by rw [toList_compactItems_cons, same, List.cons_append], solid, other⟩

theorem exists_cons_compactMembers (member : String × Json) (others : List (String × Json)) :
    Exists fun rest => (compactMembers (member :: others)).toList = '"' :: rest := by
  rcases member with ⟨name, value⟩
  cases others with
  | nil => exact ⟨_, toList_compactMembers_single name value⟩
  | cons next later => exact ⟨_, toList_compactMembers_cons name value next later⟩

/-- Induction over a value and the values inside it. -/
theorem induction {holds : Json -> Prop} (null : holds .null)
    (bool : forall truth, holds (.bool truth)) (number : forall text, holds (.number text))
    (string : forall text, holds (.string text))
    (array : forall items, (forall item, item ∈ items -> holds item) -> holds (.array items))
    (object : forall members : List (String × Json),
      (forall member, member ∈ members -> holds member.2) -> holds (.object members))
    (value : Json) : holds value := by
  cases value with
  | null => exact null
  | bool truth => exact bool truth
  | number text => exact number text
  | string text => exact string text
  | array items =>
      exact array items (fun item _ => induction null bool number string array object item)
  | object members =>
      exact object members (fun member _ =>
        induction null bool number string array object member.2)
termination_by value
decreasing_by
  · next inside =>
      have smaller := List.sizeOf_lt_of_mem inside
      simp only [Json.array.sizeOf_spec]
      omega
  · next inside =>
      have smaller := List.sizeOf_lt_of_mem inside
      rcases member with ⟨name, value⟩
      simp only [Json.object.sizeOf_spec, Prod.mk.sizeOf_spec] at smaller ⊢
      omega

/-! Each token decides how the reader goes on. -/

theorem readValue_quote (fuel : Nat) (rest : List Char) : readValue (fuel + 1) ('"' :: rest) =
    (readString fuel rest).map (fun read => (.string (String.ofList read.1), read.2)) := rfl

theorem readValue_bracket {first : Char} (solid : isBlank first = false) (other : first ≠ ']')
    (fuel : Nat) (rest : List Char) : readValue (fuel + 1) ('[' :: first :: rest) =
      (readItems fuel (first :: rest)).map (fun read => (.array read.1, read.2)) := by
  change (match skipBlanks (first :: rest) with
    | ']' :: after => some (Json.array [], after)
    | _ => (readItems fuel (first :: rest)).map
        (fun read : List Json × List Char => (Json.array read.1, read.2))) = _
  rw [skipBlanks_of_not_isBlank solid]
  split
  · next closed => exact absurd (List.cons.inj closed).1 other
  · rfl

theorem readValue_brace (fuel : Nat) (rest : List Char) :
    readValue (fuel + 1) ('\x7b' :: '"' :: rest) =
      (readMembers fuel ('"' :: rest)).map (fun read => (.object read.1, read.2)) := rfl

theorem readItems_comma {fuel : Nat} {text rest : List Char} {item : Json}
    (first : readValue fuel text = some (item, ',' :: rest)) :
    readItems (fuel + 1) text =
      (readItems fuel rest).map (fun later => (item :: later.1, later.2)) := by
  rw [readItems, first]
  rfl

theorem readItems_bracket {fuel : Nat} {text rest : List Char} {item : Json}
    (first : readValue fuel text = some (item, ']' :: rest)) :
    readItems (fuel + 1) text = some ([item], rest) := by
  rw [readItems, first]
  rfl

theorem readMembers_comma {fuel : Nat} {text middle rest : List Char} {name : List Char}
    {value : Json} (named : readString fuel text = some (name, ':' :: middle))
    (first : readValue fuel middle = some (value, ',' :: rest)) :
    readMembers (fuel + 1) ('"' :: text) = (readMembers fuel rest).map
      (fun later => ((String.ofList name, value) :: later.1, later.2)) := by
  change (readString fuel text).bind _ = _
  rw [named]
  change (readValue fuel middle).bind _ = _
  rw [first]
  rfl

theorem readMembers_brace {fuel : Nat} {text middle rest : List Char} {name : List Char}
    {value : Json} (named : readString fuel text = some (name, ':' :: middle))
    (first : readValue fuel middle = some (value, '\x7d' :: rest)) :
    readMembers (fuel + 1) ('"' :: text) = some ([(String.ofList name, value)], rest) := by
  change (readString fuel text).bind _ = _
  rw [named]
  change (readValue fuel middle).bind _ = _
  rw [first]
  rfl

/-- What is written for a value is read as that value. -/
def ReadsBack (value : Json) : Prop :=
  forall fuel rest, (compact value).toList.length < fuel -> Delimited rest ->
    readValue fuel ((compact value).toList ++ rest) = some (value, rest)

theorem readItems_compactItems {items : List Json} (nonempty : items ≠ [])
    (each : forall item, item ∈ items -> ReadsBack item) {fuel : Nat}
    (enough : (compactItems items).toList.length + 1 < fuel) (rest : List Char) :
    readItems fuel ((compactItems items).toList ++ ']' :: rest) = some (items, rest) := by
  induction items generalizing fuel with
  | nil => exact absurd rfl nonempty
  | cons item others ih =>
      cases fuel with
      | zero => exact absurd enough (Nat.not_lt_zero _)
      | succ fuel =>
          have own := each item List.mem_cons_self
          cases others with
          | nil =>
              rw [compactItems] at enough ⊢
              exact readItems_bracket (own fuel _ (by omega) (delimited_cons rest (by decide)))
          | cons next later =>
              rw [toList_compactItems_cons] at enough ⊢
              simp only [List.length_append, List.length_cons] at enough
              have remaining := ih (List.cons_ne_nil _ _)
                (fun other member => each other (List.mem_cons_of_mem _ member))
                (show _ < fuel by omega)
              rw [List.append_assoc, List.cons_append,
                readItems_comma (own fuel _ (by omega) (delimited_cons _ (by decide))), remaining]
              rfl

theorem readMembers_compactMembers {members : List (String × Json)} (nonempty : members ≠ [])
    (each : forall member, member ∈ members -> ReadsBack member.2) {fuel : Nat}
    (enough : (compactMembers members).toList.length + 1 < fuel) (rest : List Char) :
    readMembers fuel ((compactMembers members).toList ++ '\x7d' :: rest) =
      some (members, rest) := by
  induction members generalizing fuel with
  | nil => exact absurd rfl nonempty
  | cons member others ih =>
      cases fuel with
      | zero => exact absurd enough (Nat.not_lt_zero _)
      | succ fuel =>
          rcases member with ⟨name, value⟩
          have own : ReadsBack value := each (name, value) List.mem_cons_self
          have short := length_le_escaped name.toList
          cases others with
          | nil =>
              rw [toList_compactMembers_single] at enough ⊢
              simp only [List.length_append, List.length_cons] at enough
              simp only [List.cons_append, List.append_assoc]
              rw [readMembers_brace (readString_escaped name.toList (by omega) _)
                (own fuel _ (by omega) (delimited_cons rest (by decide))), String.ofList_toList]
          | cons next later =>
              rw [toList_compactMembers_cons] at enough ⊢
              simp only [List.length_append, List.length_cons] at enough
              have remaining := ih (List.cons_ne_nil _ _)
                (fun other member => each other (List.mem_cons_of_mem _ member))
                (show _ < fuel by omega)
              simp only [List.cons_append, List.append_assoc]
              rw [readMembers_comma (readString_escaped name.toList (by omega) _)
                (own fuel _ (by omega) (delimited_cons _ (by decide))), remaining,
                String.ofList_toList]
              rfl

theorem numbers_of_mem_array {items : List Json} {item : Json} (member : item ∈ items)
    {text : String} (inside : text ∈ numbers item) : text ∈ numbers (.array items) := by
  rw [numbers]
  induction items with
  | nil => cases member
  | cons head tail ih =>
      rw [itemNumbers, List.mem_append]
      rcases List.mem_cons.mp member with rfl | later
      · exact Or.inl inside
      · exact Or.inr (ih later)

theorem numbers_of_mem_object {members : List (String × Json)} {member : String × Json}
    (listed : member ∈ members) {text : String} (inside : text ∈ numbers member.2) :
    text ∈ numbers (.object members) := by
  rw [numbers]
  induction members with
  | nil => cases listed
  | cons head tail ih =>
      rw [memberNumbers, List.mem_append]
      rcases List.mem_cons.mp listed with rfl | later
      · exact Or.inl inside
      · exact Or.inr (ih later)

/-- Whatever value is written, it is read back. -/
theorem readsBack (value : Json) (numeric : forall text, text ∈ numbers value -> NumberText text) :
    ReadsBack value := by
  induction value using Json.induction with
  | null =>
      intro fuel rest enough _
      cases fuel with
      | zero => exact absurd enough (Nat.not_lt_zero _)
      | succ fuel => rfl
  | bool truth =>
      intro fuel rest enough _
      cases fuel with
      | zero => exact absurd enough (Nat.not_lt_zero _)
      | succ fuel => cases truth <;> rfl
  | number text =>
      intro fuel rest enough delimited
      cases fuel with
      | zero => exact absurd enough (Nat.not_lt_zero _)
      | succ fuel =>
          have spelled := numeric text (by simp [numbers])
          rcases spelled.exists_cons with ⟨first, later, same, digit⟩
          have read := spelled.2 rest delimited
          rw [compact]
          rw [same, List.cons_append] at read ⊢
          rw [readValue_number digit, read, Option.map_some, ← same, String.ofList_toList]
  | string text =>
      intro fuel rest enough _
      cases fuel with
      | zero => exact absurd enough (Nat.not_lt_zero _)
      | succ fuel =>
          have short := length_le_escaped text.toList
          rw [compact, toList_quote] at enough ⊢
          simp only [List.length_cons, List.length_append] at enough
          rw [List.cons_append, List.append_assoc, List.singleton_append, readValue_quote,
            readString_escaped text.toList (by omega), Option.map_some, String.ofList_toList]
  | array items ih =>
      intro fuel rest enough _
      cases fuel with
      | zero => exact absurd enough (Nat.not_lt_zero _)
      | succ fuel =>
          cases items with
          | nil => rfl
          | cons item others =>
              rw [toList_compact_array] at enough ⊢
              simp only [List.length_cons, List.length_append] at enough
              have read := readItems_compactItems (List.cons_ne_nil item others)
                (fun other member => ih other member
                  (fun text inside => numeric text (numbers_of_mem_array member inside)))
                (show _ < fuel by omega) rest
              rcases exists_cons_compactItems (fun text inside =>
                numeric text (numbers_of_mem_array List.mem_cons_self inside)) others with
                ⟨first, later, same, solid, other⟩
              rw [List.cons_append, List.append_assoc, List.singleton_append]
              rw [same, List.cons_append] at read ⊢
              rw [readValue_bracket solid other, read]
              rfl
  | object members ih =>
      intro fuel rest enough _
      cases fuel with
      | zero => exact absurd enough (Nat.not_lt_zero _)
      | succ fuel =>
          cases members with
          | nil => rfl
          | cons member others =>
              rw [toList_compact_object] at enough ⊢
              simp only [List.length_cons, List.length_append] at enough
              have read := readMembers_compactMembers (List.cons_ne_nil member others)
                (fun other listed => ih other listed
                  (fun text inside => numeric text (numbers_of_mem_object listed inside)))
                (show _ < fuel by omega) rest
              rcases exists_cons_compactMembers member others with ⟨later, same⟩
              rw [List.cons_append, List.append_assoc, List.singleton_append]
              rw [same, List.cons_append] at read ⊢
              rw [readValue_brace, read]
              rfl

/-! ### Whole numbers -/

theorem not_isDigit_of_delimited {rest : List Char} (delimited : Delimited rest) :
    forall character, rest.head? = some character -> character.isDigit = false ∧
      character ≠ '.' ∧ character ≠ 'e' ∧ character ≠ 'E' := by
  intro character begins
  rcases delimited character begins with rfl | rfl | rfl <;> decide

theorem span_digits {digits rest : List Char}
    (each : forall character, character ∈ digits -> character.isDigit = true)
    (delimited : Delimited rest) : (digits ++ rest).span Char.isDigit = (digits, rest) := by
  have ends := not_isDigit_of_delimited delimited
  have taken : rest.takeWhile Char.isDigit = [] := by
    cases rest with
    | nil => rfl
    | cons head tail =>
        rw [List.takeWhile_cons_of_neg]
        rw [(ends head rfl).1]
        decide
  rw [List.span_eq_takeWhile_dropWhile, List.takeWhile_append_of_pos each, taken, List.append_nil,
    List.dropWhile_append_of_pos each]
  cases rest with
  | nil => rfl
  | cons head tail =>
      rw [List.dropWhile_cons_of_neg]
      rw [(ends head rfl).1]
      decide

/-- No number but zero is written with a leading zero. -/
theorem head_toDigits {number : Nat} (positive : 0 < number) :
    (Nat.toDigits 10 number).head? ≠ some '0' := by
  induction number using Nat.strong_induction_on with
  | _ number ih =>
      by_cases small : number < 10
      · rw [Nat.toDigits_of_lt_base small]
        interval_cases number <;> decide
      · rw [Nat.toDigits_of_base_le (by decide) (by omega), List.head?_append]
        have earlier := ih (number / 10) (by omega) (by omega)
        cases digits : Nat.toDigits 10 (number / 10) with
        | nil => exact absurd digits Nat.toDigits_ne_nil
        | cons first later =>
            rw [digits] at earlier
            exact earlier

theorem readWhole_toDigits (number : Nat) {rest : List Char} (delimited : Delimited rest) :
    readWhole (Nat.toDigits 10 number ++ rest) = some (Nat.toDigits 10 number, rest) := by
  have each : forall character, character ∈ Nat.toDigits 10 number -> character.isDigit = true :=
    fun _ member => Nat.isDigit_of_mem_toDigits (by decide) (by decide) member
  rw [readWhole, span_digits each delimited]
  rcases Nat.eq_zero_or_pos number with rfl | positive
  · rfl
  · have leading := head_toDigits positive
    split
    · next none => exact absurd (Prod.mk.inj none).1 Nat.toDigits_ne_nil
    · next zero =>
        rw [(Prod.mk.inj zero).1] at leading
        exact absurd rfl leading
    · next zero =>
        rw [(Prod.mk.inj zero).1] at leading
        exact absurd rfl leading
    · next digits other _ _ _ same =>
        rw [same]

theorem numberText_repr (number : Nat) : NumberText (Nat.repr number) := by
  have each : forall character, character ∈ Nat.toDigits 10 number -> character.isDigit = true :=
    fun _ member => Nat.isDigit_of_mem_toDigits (by decide) (by decide) member
  constructor
  · intro character begins
    rw [Nat.toList_repr] at begins
    exact Or.inl (each character (List.mem_of_head? begins))
  · intro rest delimited
    rw [Nat.toList_repr]
    have unsigned : readSign (Nat.toDigits 10 number ++ rest) =
        ([], Nat.toDigits 10 number ++ rest) := by
      unfold readSign
      split
      · next signed =>
          cases digits : Nat.toDigits 10 number with
          | nil => exact absurd digits Nat.toDigits_ne_nil
          | cons first later =>
              rw [digits] at signed each
              have minus := each first List.mem_cons_self
              rw [(List.cons.inj signed).1] at minus
              exact absurd minus (by decide)
      · rfl
    have ends := not_isDigit_of_delimited delimited
    have whole : readFraction rest = some ([], rest) := by
      unfold readFraction
      split
      · exact absurd rfl (ends '.' rfl).2.1
      · rfl
    have plain : readExponent rest = some ([], rest) := by
      cases rest with
      | nil => rfl
      | cons head tail =>
          unfold readExponent
          exact if_neg (not_or.mpr (ends head rfl).2.2)
    simp only [readNumber, unsigned, readWhole_toDigits number delimited, Option.bind_some, whole,
      plain, Option.map_some, List.nil_append, List.append_nil]

theorem parse_compact {value : Json}
    (numeric : forall text, text ∈ numbers value -> NumberText text) :
    parse (compact value) = some value := by
  have read := readsBack value numeric ((compact value).length + 1) []
    (by rw [String.length_toList]; exact Nat.lt_succ_self _) delimited_nil
  rw [List.append_nil] at read
  rw [parse, read]
  rfl

theorem fromBytes_compact {value : Json}
    (numeric : forall text, text ∈ numbers value -> NumberText text) :
    fromBytes (Text.asBytes (compact value)) = some value := by
  rw [fromBytes, (Text.ofBytes_eq_some_iff _ _).mpr rfl]
  exact parse_compact numeric

end Json
end EmbeddedAlerts

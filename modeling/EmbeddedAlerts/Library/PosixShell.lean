import EmbeddedAlerts.Library.Fallible
import Mathlib.Data.List.DropRight
import Mathlib.Tactic

namespace EmbeddedAlerts
namespace PosixShell

/-!
# Reading shell text

The shell reads a text into words: blanks separate words, newlines separate
commands, and quotes are removed.  An operator, an expansion, a pattern or a
tilde that is not quoted is kept as a token of its own, so a text without such
a token does nothing but run its simple commands.

Two more of its readings are used below: a command substitution drops the
newlines at the end, and `read` splits a line into fields.  A command
substitution cannot hold a null character, and the shells drop it.
-/

inductive Quoting where
  | unquoted
  | backslash
  | single
  | double
  | doubleBackslash
  | comment
deriving DecidableEq

inductive Token where
  | word (text : List Char)
  | newline
  | special (character : Char)
deriving DecidableEq

/-- What has been read: the tokens, and the word that is being read. -/
structure Lexer where
  quoting : Quoting
  word : Option (List Char)
  tokens : List Token
deriving DecidableEq

/-- Operators, expansions, patterns and the tilde. -/
def specials : List Char := "|&;<>()$`*?[~".toList

def expansions : List Char := "$`".toList

namespace Lexer

def start : Lexer := ⟨.unquoted, none, []⟩

/-- The tokens, with the word that ends here. -/
def flush (lexer : Lexer) : List Token :=
  match lexer.word with
  | some text => lexer.tokens ++ [.word text]
  | none => lexer.tokens

def put (lexer : Lexer) (character : Char) : Lexer :=
  { lexer with word := some (lexer.word.getD [] ++ [character]) }

/-- A quote begins a word even when nothing is between the quotes. -/
def quote (lexer : Lexer) (quoting : Quoting) : Lexer :=
  { lexer with quoting := quoting, word := some (lexer.word.getD []) }

def step (lexer : Lexer) (character : Char) : Lexer :=
  match lexer.quoting with
  | .unquoted =>
      if character = '\n' then ⟨.unquoted, none, lexer.flush ++ [.newline]⟩
      else if character = ' ' ∨ character = '\t' then ⟨.unquoted, none, lexer.flush⟩
      else if character = '\\' then { lexer with quoting := .backslash }
      else if character = '\'' then lexer.quote .single
      else if character = '"' then lexer.quote .double
      else if character = '#' ∧ lexer.word = none then { lexer with quoting := .comment }
      else if character ∈ specials then
        ⟨.unquoted, none, lexer.flush ++ [.special character]⟩
      else lexer.put character
  | .backslash =>
      if character = '\n' then { lexer with quoting := .unquoted }
      else { lexer.put character with quoting := .unquoted }
  | .single =>
      if character = '\'' then { lexer with quoting := .unquoted } else lexer.put character
  | .double =>
      if character = '"' then { lexer with quoting := .unquoted }
      else if character = '\\' then { lexer with quoting := .doubleBackslash }
      else if character ∈ expansions then
        { lexer with tokens := lexer.tokens ++ [.special character] }
      else lexer.put character
  | .doubleBackslash =>
      if character = '\n' then { lexer with quoting := .double }
      else if character = '"' ∨ character = '\\' ∨ character ∈ expansions then
        { lexer.put character with quoting := .double }
      else { (lexer.put '\\').put character with quoting := .double }
  | .comment =>
      if character = '\n' then ⟨.unquoted, none, lexer.tokens ++ [.newline]⟩ else lexer

def scan (lexer : Lexer) (text : List Char) : Lexer := text.foldl step lexer

theorem scan_append (lexer : Lexer) (left right : List Char) :
    lexer.scan (left ++ right) = (lexer.scan left).scan right :=
  List.foldl_append

end Lexer

/-- The tokens of a text whose quotes are all closed. -/
def tokens (text : List Char) : Option (List Token) :=
  let lexer := Lexer.start.scan text
  match lexer.quoting with
  | .unquoted => some lexer.flush
  | .comment => some lexer.flush
  | _ => none

/-- The simple commands, if there is nothing else. -/
def commandsFrom : List (List Char) -> List Token -> Option (List (List (List Char)))
  | words, [] => some (if words.isEmpty then [] else [words])
  | words, .word text :: rest => commandsFrom (words ++ [text]) rest
  | words, .newline :: rest => (commandsFrom [] rest).map (fun later =>
      if words.isEmpty then later else words :: later)
  | _, .special _ :: _ => none

def commands (text : List Char) : Option (List (List (List Char))) :=
  (tokens text).bind (commandsFrom [])

/-! ## Names and assignments -/

def isNameStart (character : Char) : Bool :=
  ('A' ≤ character && character ≤ 'Z') || ('a' ≤ character && character ≤ 'z') || character == '_'

def isDigit (character : Char) : Bool := '0' ≤ character && character ≤ '9'

def isNameCharacter (character : Char) : Bool := isNameStart character || isDigit character

def isName : List Char -> Bool
  | [] => false
  | first :: rest => isNameStart first && rest.all isNameCharacter

/-- A text split at its first `=`. -/
def splitAssignment (text : List Char) : Option (List Char × List Char) :=
  match text.dropWhile (fun character => character != '=') with
  | [] => none
  | _ :: value => some (text.takeWhile (fun character => character != '='), value)

def exportWord : List Char := "export".toList

/-- `export name=value`. -/
def exportCommand : List (List Char) -> Option (List Char × List Char)
  | [command, operand] =>
      if command = exportWord then
        (splitAssignment operand).filter (fun entry => isName entry.1)
      else none
  | _ => none

/-- The exports of a list of commands that does nothing else. -/
def exports (commands : List (List (List Char))) : Option (List (List Char × List Char)) :=
  commands.mapM exportCommand

/-! ## Substitution and fields -/

/-- A text without its null characters. -/
def dropNull (text : List Char) : List Char := text.filter (fun character => character != '\x00')

/-- `$(...)` for a command that writes this text. -/
def commandSubstitution (text : List Char) : List Char :=
  (dropNull text).rdropWhile (fun character => character == '\n')

/-- The lines that `read` finds in a text whose last line is ended. -/
def readLines : List Char -> List (List Char)
  | [] => []
  | character :: rest =>
      if character = '\n' then [] :: readLines rest
      else
        match readLines rest with
        | [] => []
        | line :: more => (character :: line) :: more

/-- What is left for the last variable: when it is one field, the delimiter
that ends it is dropped. -/
def lastField (delimiter : Char) (rest : List Char) : List Char :=
  if rest.dropWhile (fun character => character != delimiter) = [delimiter] then rest.dropLast
  else rest

/-- `read -r first last` with one delimiter in `IFS`. -/
def readFields (delimiter : Char) (line : List Char) : List Char × List Char :=
  match line.dropWhile (fun character => character != delimiter) with
  | [] => (line, [])
  | _ :: rest => (line.takeWhile (fun character => character != delimiter),
      lastField delimiter rest)

/-! ## Literal characters -/

/-- The characters that an unquoted text does not keep as they are. -/
def unliteral : List Char := '\n' :: ' ' :: '\t' :: '\\' :: '\'' :: '"' :: '#' :: specials

theorem unliteral_unnamed : unliteral.all (fun character => !isNameCharacter character) = true := by
  decide

theorem literal_of_isNameCharacter {character : Char}
    (named : isNameCharacter character = true) : character ∉ unliteral := by
  intro member
  have unnamed := List.all_eq_true.mp unliteral_unnamed character member
  rw [named] at unnamed
  cases unnamed

theorem isName_all {text : List Char} (named : isName text = true) :
    forall character, character ∈ text -> isNameCharacter character = true := by
  cases text with
  | nil => cases named
  | cons first rest =>
      rw [isName, Bool.and_eq_true] at named
      intro character member
      rcases List.mem_cons.mp member with rfl | later
      · rw [isNameCharacter, named.1, Bool.true_or]
      · exact List.all_eq_true.mp named.2 character later

theorem toNat_lt_of_isNameCharacter {character : Char}
    (named : isNameCharacter character = true) : character.toNat < 128 := by
  simp only [isNameCharacter, isNameStart, isDigit, Bool.or_eq_true, Bool.and_eq_true,
    decide_eq_true_eq, beq_iff_eq, Char.le_def, UInt32.le_iff_toNat_le] at named
  have code : character.val.toNat = character.toNat := rfl
  rcases named with ((upper | lower) | rfl) | digit
  · have above : ('Z' : Char).val.toNat = 90 := by decide
    omega
  · have above : ('z' : Char).val.toNat = 122 := by decide
    omega
  · decide
  · have above : ('9' : Char).val.toNat = 57 := by decide
    omega

namespace Lexer

theorem step_literal {lexer : Lexer} (outside : lexer.quoting = .unquoted) {character : Char}
    (literal : character ∉ unliteral) : lexer.step character = lexer.put character := by
  simp only [unliteral, List.mem_cons, not_or] at literal
  rcases literal with ⟨newline, space, tab, backslash, single, double, comment, special⟩
  simp only [step, outside, newline, space, tab, backslash, single, double, comment, special,
    false_or, false_and, if_false]

/-- Literal text goes into the word. -/
theorem scan_literal {text : List Char} (literal : forall character, character ∈ text ->
    character ∉ unliteral) (word : List Char) (tokens : List Token) :
    scan ⟨.unquoted, some word, tokens⟩ text = ⟨.unquoted, some (word ++ text), tokens⟩ := by
  induction text generalizing word with
  | nil =>
      rw [List.append_nil]
      rfl
  | cons character rest ih =>
      change scan (step _ character) rest = _
      rw [step_literal rfl (literal character List.mem_cons_self)]
      change scan ⟨.unquoted, some (word ++ [character]), tokens⟩ rest = _
      rw [ih (fun other later => literal other (List.mem_cons_of_mem _ later)),
        List.append_assoc, List.singleton_append]

/-- Literal text begins a word. -/
theorem scan_literal_none {text : List Char} (literal : forall character, character ∈ text ->
    character ∉ unliteral) (nonempty : text ≠ []) (tokens : List Token) :
    scan ⟨.unquoted, none, tokens⟩ text = ⟨.unquoted, some text, tokens⟩ := by
  cases text with
  | nil => exact absurd rfl nonempty
  | cons character rest =>
      change scan (step _ character) rest = _
      rw [step_literal rfl (literal character List.mem_cons_self)]
      exact scan_literal (fun other later => literal other (List.mem_cons_of_mem _ later))
        [character] tokens

end Lexer

/-! ## Single quotes -/

/-- A quote inside single quotes: the quoting ends, an escaped quote follows,
and the quoting begins again. -/
def spliceQuotes (text : List Char) : List Char :=
  text.flatMap (fun character => if character = '\'' then "'\\''".toList else [character])

/-- The text as one quoted word. -/
def singleQuote (text : List Char) : List Char := '\'' :: spliceQuotes text ++ ['\'']

theorem spliceQuotes_append (left right : List Char) :
    spliceQuotes (left ++ right) = spliceQuotes left ++ spliceQuotes right :=
  List.flatMap_append

theorem spliceQuotes_of_not_mem {text : List Char} (absent : '\'' ∉ text) :
    spliceQuotes text = text := by
  induction text with
  | nil => rfl
  | cons character rest ih =>
      rw [List.mem_cons, not_or] at absent
      rw [spliceQuotes, List.flatMap_cons, if_neg (Ne.symm absent.1), List.singleton_append]
      exact congrArg _ (ih absent.2)

namespace Lexer

theorem scan_spliceQuotes (text word : List Char) (tokens : List Token) :
    scan ⟨.single, some word, tokens⟩ (spliceQuotes text) =
      ⟨.single, some (word ++ text), tokens⟩ := by
  induction text generalizing word with
  | nil =>
      rw [List.append_nil]
      rfl
  | cons character rest ih =>
      rw [spliceQuotes, List.flatMap_cons, scan_append]
      have one : scan ⟨.single, some word, tokens⟩
          (if character = '\'' then "'\\''".toList else [character]) =
          ⟨.single, some (word ++ [character]), tokens⟩ := by
        by_cases quoted : character = '\''
        · rw [if_pos quoted, quoted]
          rfl
        · rw [if_neg quoted]
          change step ⟨.single, some word, tokens⟩ character = _
          simp only [step, if_neg quoted]
          rfl
      rw [one]
      change scan _ (spliceQuotes rest) = _
      rw [ih, List.append_assoc, List.singleton_append]

/-- A quoted text is read back character for character. -/
theorem scan_singleQuote (text word : List Char) (tokens : List Token) :
    scan ⟨.unquoted, some word, tokens⟩ (singleQuote text) =
      ⟨.unquoted, some (word ++ text), tokens⟩ := by
  have body : scan ⟨.unquoted, some word, tokens⟩ ('\'' :: spliceQuotes text) =
      ⟨.single, some (word ++ text), tokens⟩ := scan_spliceQuotes text word tokens
  rw [singleQuote, scan_append, body]
  rfl

end Lexer

/-! ## Export lines -/

/-- `export name='value'` without the end of the line. -/
def exportLine (entry : List Char × List Char) : List Char :=
  exportWord ++ ' ' :: (entry.1 ++ '=' :: singleQuote entry.2)

def exportWords (entry : List Char × List Char) : List (List Char) :=
  [exportWord, entry.1 ++ '=' :: entry.2]

theorem assignment_literal {name : List Char} (named : isName name = true) :
    forall character, character ∈ name ++ ['='] -> character ∉ unliteral := by
  intro character member
  rcases List.mem_append.mp member with inName | equals
  · exact literal_of_isNameCharacter (isName_all named character inName)
  · rw [List.mem_singleton.mp equals]
    decide

namespace Lexer

theorem scan_exportWord (tokens : List Token) :
    scan ⟨.unquoted, none, tokens⟩ (exportWord ++ [' ']) =
      ⟨.unquoted, none, tokens ++ [.word exportWord]⟩ := by
  rfl

theorem scan_exportLine {entry : List Char × List Char} (named : isName entry.1 = true)
    (tokens : List Token) :
    scan ⟨.unquoted, none, tokens⟩ (exportLine entry) =
      ⟨.unquoted, some (entry.1 ++ '=' :: entry.2), tokens ++ [.word exportWord]⟩ := by
  have split : exportLine entry =
      (exportWord ++ [' ']) ++ ((entry.1 ++ ['=']) ++ singleQuote entry.2) := by
    simp only [exportLine, List.append_assoc, List.singleton_append]
  rw [split, scan_append, scan_append, scan_exportWord,
    scan_literal_none (assignment_literal named) (List.append_ne_nil_of_right_ne_nil _ nofun),
    scan_singleQuote, List.append_assoc, List.singleton_append]

/-- The tokens of one exported value and the end of its line. -/
def exportTokens (entry : List Char × List Char) : List Token :=
  (exportWords entry).map Token.word ++ [.newline]

theorem scan_exportLines {entries : List (List Char × List Char)}
    (named : forall entry, entry ∈ entries -> isName entry.1 = true) (tokens : List Token) :
    scan ⟨.unquoted, none, tokens⟩ (entries.flatMap (fun entry => exportLine entry ++ ['\n'])) =
      ⟨.unquoted, none, tokens ++ entries.flatMap exportTokens⟩ := by
  induction entries generalizing tokens with
  | nil =>
      rw [List.flatMap_nil, List.flatMap_nil, List.append_nil]
      rfl
  | cons entry rest ih =>
      have ended : scan ⟨.unquoted, none, tokens⟩ (exportLine entry ++ ['\n']) =
          ⟨.unquoted, none, tokens ++ exportTokens entry⟩ := by
        rw [scan_append, scan_exportLine (named entry List.mem_cons_self)]
        change Lexer.mk _ _ ((tokens ++ [.word exportWord]) ++ [.word _] ++ [.newline]) = _
        simp only [List.append_assoc]
        rfl
      rw [List.flatMap_cons, scan_append, ended,
        ih (fun other later => named other (List.mem_cons_of_mem _ later)), List.flatMap_cons,
        List.append_assoc]

end Lexer

theorem commandsFrom_exportTokens (entries : List (List Char × List Char)) :
    commandsFrom [] (entries.flatMap Lexer.exportTokens) = some (entries.map exportWords) := by
  induction entries with
  | nil => rfl
  | cons entry rest ih =>
      rw [List.flatMap_cons, List.map_cons]
      change (commandsFrom [] (rest.flatMap Lexer.exportTokens)).map _ = _
      rw [ih]
      rfl

/-- Quoted exports are read as these exports and nothing else. -/
theorem commands_exportLines {entries : List (List Char × List Char)}
    (named : forall entry, entry ∈ entries -> isName entry.1 = true) :
    commands (entries.flatMap (fun entry => exportLine entry ++ ['\n'])) =
      some (entries.map exportWords) := by
  have scanned := Lexer.scan_exportLines named []
  simp only [commands, tokens, Lexer.start, scanned, Lexer.flush, List.nil_append, Option.bind_some]
  exact commandsFrom_exportTokens entries

theorem dropWhile_of_not_mem {delimiter : Char} {text : List Char} (absent : delimiter ∉ text) :
    text.dropWhile (fun character => character != delimiter) = [] := by
  rw [List.dropWhile_eq_nil_iff]
  intro character member
  rw [bne_iff_ne]
  rintro rfl
  exact absent member

theorem takeWhile_of_not_mem {delimiter : Char} {text : List Char} (absent : delimiter ∉ text) :
    text.takeWhile (fun character => character != delimiter) = text := by
  rw [List.takeWhile_eq_self_iff]
  intro character member
  rw [bne_iff_ne]
  rintro rfl
  exact absent member

/-- A text is cut at its first delimiter. -/
theorem span_append_delimiter {delimiter : Char} {front : List Char} (absent : delimiter ∉ front)
    (rest : List Char) :
    (front ++ delimiter :: rest).takeWhile (fun character => character != delimiter) = front ∧
      (front ++ delimiter :: rest).dropWhile (fun character => character != delimiter) =
        delimiter :: rest := by
  constructor
  · rw [List.takeWhile_append, takeWhile_of_not_mem absent, if_pos rfl,
      List.takeWhile_cons_of_neg (by simp), List.append_nil]
  · rw [List.dropWhile_append, dropWhile_of_not_mem absent, List.isEmpty_nil, if_pos rfl,
      List.dropWhile_cons_of_neg (by simp)]

theorem splitAssignment_append {name : List Char} (plain : '=' ∉ name) (value : List Char) :
    splitAssignment (name ++ '=' :: value) = some (name, value) := by
  rcases span_append_delimiter plain value with ⟨before, behind⟩
  rw [splitAssignment, behind]
  exact congrArg (fun front => some (front, value)) before

theorem eq_append_of_splitAssignment {text name value : List Char}
    (split : splitAssignment text = some (name, value)) : text = name ++ '=' :: value := by
  by_cases present : '=' ∈ text
  · rcases List.eq_append_cons_of_mem present with ⟨before, rest, rfl, clear⟩
    rw [splitAssignment_append clear, Option.some.injEq, Prod.mk.injEq] at split
    rw [split.1, split.2]
  · rw [splitAssignment, dropWhile_of_not_mem present] at split
    cases split

theorem equals_not_mem_of_isName {name : List Char} (named : isName name = true) : '=' ∉ name := by
  intro member
  exact absurd (isName_all named '=' member) (by decide)

theorem exports_exportWords {entries : List (List Char × List Char)}
    (named : forall entry, entry ∈ entries -> isName entry.1 = true) :
    exports (entries.map exportWords) = some entries := by
  have each : exports (entries.map exportWords) = some (entries.map id) := by
    refine Fallible.mapM_map_some ?_
    intro entry member
    have name := named entry member
    rw [exportWords, exportCommand, if_pos rfl,
      splitAssignment_append (equals_not_mem_of_isName name), Option.filter_some, if_pos name]
    rfl
  rwa [List.map_id] at each

/-! ## Lines -/

theorem readLines_line {line : List Char} (solid : '\n' ∉ line) (rest : List Char) :
    readLines (line ++ '\n' :: rest) = line :: readLines rest := by
  induction line with
  | nil => rfl
  | cons character later ih =>
      rw [List.mem_cons, not_or] at solid
      rw [List.cons_append, readLines, if_neg (fun same => solid.1 same.symm), ih solid.2]

theorem readLines_lines {lines : List (List Char)} (solid : forall line, line ∈ lines ->
    '\n' ∉ line) : readLines (lines.flatMap (fun line => line ++ ['\n'])) = lines := by
  induction lines with
  | nil => rfl
  | cons line rest ih =>
      rw [List.flatMap_cons, List.append_assoc, List.singleton_append,
        readLines_line (solid line List.mem_cons_self),
        ih (fun other later => solid other (List.mem_cons_of_mem _ later))]

theorem readLines_ended (text : List Char) : readLines (text ++ ['\n']) ≠ [] := by
  induction text with
  | nil => exact List.cons_ne_nil _ _
  | cons character later ih =>
      rw [List.cons_append, readLines]
      by_cases newline : character = '\n'
      · rw [if_pos newline]
        exact List.cons_ne_nil _ _
      · rw [if_neg newline]
        cases shape : readLines (later ++ ['\n']) with
        | nil => exact absurd shape ih
        | cons line more => exact List.cons_ne_nil _ _

/-- Lines that are ended are read apart from what follows. -/
theorem readLines_append (left right : List Char) :
    readLines (left ++ '\n' :: right) = readLines (left ++ ['\n']) ++ readLines right := by
  induction left with
  | nil => rfl
  | cons character later ih =>
      rw [List.cons_append, List.cons_append, readLines, readLines, ih]
      by_cases newline : character = '\n'
      · rw [if_pos newline, if_pos newline, List.cons_append]
      · rw [if_neg newline, if_neg newline]
        cases shape : readLines (later ++ ['\n']) with
        | nil => exact absurd shape (readLines_ended later)
        | cons line more => rfl

theorem dropNull_eq_self {text : List Char} (clean : '\x00' ∉ text) : dropNull text = text := by
  refine List.filter_eq_self.mpr ?_
  intro character member
  rw [bne_iff_ne]
  rintro rfl
  exact clean member

/-- Null characters are dropped line by line. -/
theorem readLines_dropNull (text : List Char) :
    readLines (dropNull text) = (readLines text).map dropNull := by
  induction text with
  | nil => rfl
  | cons character rest ih =>
      by_cases null : character = '\x00'
      · have dropped : forall line, dropNull (character :: line) = dropNull line :=
          fun line => List.filter_cons_of_neg (by simpa using null)
        rw [dropped, ih, readLines, if_neg (by rw [null]; decide)]
        cases readLines rest with
        | nil => rfl
        | cons line more => rw [List.map_cons, List.map_cons, dropped]
      · have kept : forall line, dropNull (character :: line) = character :: dropNull line :=
          fun line => List.filter_cons_of_pos (by simpa using null)
        rw [kept, readLines, readLines, ih]
        by_cases newline : character = '\n'
        · rw [if_pos newline, if_pos newline]
          rfl
        · rw [if_neg newline, if_neg newline]
          cases readLines rest with
          | nil => rfl
          | cons line more => exact congrArg (· :: more.map dropNull) (kept line).symm

/-! ## Fields -/

/-- A text whose only delimiter is its last character. -/
def EndsInOnly (delimiter : Char) (text : List Char) : Prop :=
  Exists fun front => text = front ++ [delimiter] ∧ delimiter ∉ front

theorem lastField_of_endsInOnly {delimiter : Char} {front : List Char}
    (absent : delimiter ∉ front) : lastField delimiter (front ++ [delimiter]) = front := by
  rw [lastField, if_pos (span_append_delimiter absent []).2, List.dropLast_concat]

theorem lastField_of_not_endsInOnly {delimiter : Char} {rest : List Char}
    (other : Not (EndsInOnly delimiter rest)) : lastField delimiter rest = rest := by
  rw [lastField]
  refine if_neg (fun single => other ?_)
  have split := List.takeWhile_append_dropWhile (p := fun character => character != delimiter)
    (l := rest)
  rw [single] at split
  refine ⟨_, split.symm, fun member => ?_⟩
  have different := List.mem_takeWhile_imp member
  exact absurd different (by simp)

theorem lastField_sublist (delimiter : Char) (rest : List Char) :
    (lastField delimiter rest).Sublist rest := by
  unfold lastField
  split
  · exact List.dropLast_sublist rest
  · exact List.Sublist.refl rest

theorem readFields_bare {delimiter : Char} {line : List Char} (absent : delimiter ∉ line) :
    readFields delimiter line = (line, []) := by
  rw [readFields, dropWhile_of_not_mem absent]

theorem readFields_append {delimiter : Char} {first : List Char} (absent : delimiter ∉ first)
    (rest : List Char) :
    readFields delimiter (first ++ delimiter :: rest) = (first, lastField delimiter rest) := by
  rcases span_append_delimiter absent rest with ⟨before, behind⟩
  rw [readFields, behind]
  exact congrArg (fun front => (front, lastField delimiter rest)) before

/-- `read` leaves this for the last variable of a line that begins with the
first one. -/
def Leaves (delimiter : Char) (first last line : List Char) : Prop :=
  (line = first ∧ last = []) ∨
    (line = first ++ delimiter :: last ∧ Not (EndsInOnly delimiter last)) ∨
      (line = first ++ delimiter :: (last ++ [delimiter]) ∧ delimiter ∉ last)

theorem readFields_eq_iff {delimiter : Char} {first last line : List Char}
    (absent : delimiter ∉ first) :
    readFields delimiter line = (first, last) ↔ Leaves delimiter first last line := by
  constructor
  · intro fields
    by_cases present : delimiter ∈ line
    · rcases List.eq_append_cons_of_mem present with ⟨before, rest, rfl, clear⟩
      rw [readFields_append clear, Prod.mk.injEq] at fields
      rcases fields with ⟨rfl, rfl⟩
      by_cases only : EndsInOnly delimiter rest
      · rcases only with ⟨front, rfl, bare⟩
        rw [lastField_of_endsInOnly bare]
        exact Or.inr (Or.inr ⟨rfl, bare⟩)
      · rw [lastField_of_not_endsInOnly only]
        exact Or.inr (Or.inl ⟨rfl, only⟩)
    · rw [readFields_bare present, Prod.mk.injEq] at fields
      exact Or.inl ⟨fields.1, fields.2.symm⟩
  · rintro (⟨rfl, rfl⟩ | ⟨rfl, other⟩ | ⟨rfl, bare⟩)
    · exact readFields_bare absent
    · rw [readFields_append absent, lastField_of_not_endsInOnly other]
    · rw [readFields_append absent, lastField_of_endsInOnly bare]

/-- A value comes through `read` unchanged unless it has null characters or
ends in its only delimiter. -/
theorem lastField_dropNull_eq_iff (delimiter : Char) (value : List Char) :
    lastField delimiter (dropNull value) = value ↔
      '\x00' ∉ value ∧ Not (EndsInOnly delimiter value) := by
  constructor
  · intro same
    have clean : '\x00' ∉ value := by
      intro member
      rw [← same] at member
      have kept := List.of_mem_filter ((lastField_sublist delimiter _).subset member)
      exact absurd kept (by decide)
    refine ⟨clean, ?_⟩
    rintro ⟨front, rfl, bare⟩
    rw [dropNull_eq_self clean, lastField_of_endsInOnly bare] at same
    exact absurd (congrArg List.length same) (by simp)
  · rintro ⟨clean, other⟩
    rw [dropNull_eq_self clean, lastField_of_not_endsInOnly other]

/-! ## The end of a substitution -/

theorem commandsFrom_append_newline (words : List (List Char)) (read : List Token) :
    commandsFrom words (read ++ [.newline]) = commandsFrom words read := by
  induction read generalizing words with
  | nil => cases words <;> rfl
  | cons token rest ih =>
      cases token with
      | word text => exact ih (words ++ [text])
      | newline =>
          change (commandsFrom [] (rest ++ [.newline])).map _ = _
          rw [ih]
          rfl
      | special character => rfl

/-- A newline at the end adds no command. -/
theorem commands_append_newline {text : List Char}
    (closed : (Lexer.start.scan text).quoting = .unquoted) :
    commands (text ++ ['\n']) = commands text := by
  have ended : Lexer.start.scan (text ++ ['\n']) =
      ⟨.unquoted, none, (Lexer.start.scan text).flush ++ [.newline]⟩ := by
    rw [Lexer.scan_append]
    change Lexer.step _ '\n' = _
    simp only [Lexer.step, closed, if_true]
  simp only [commands, tokens, ended, closed, Lexer.flush, Option.bind_some]
  exact commandsFrom_append_newline _ _

theorem dropNull_append (left right : List Char) :
    dropNull (left ++ right) = dropNull left ++ dropNull right :=
  List.filter_append left right

theorem dropNull_spliceQuotes (text : List Char) :
    dropNull (spliceQuotes text) = spliceQuotes (dropNull text) := by
  induction text with
  | nil => rfl
  | cons character rest ih =>
      rw [spliceQuotes, List.flatMap_cons, dropNull_append]
      change _ ++ dropNull (spliceQuotes rest) = _
      rw [ih]
      by_cases null : character = '\x00'
      · subst character
        rfl
      · have kept : dropNull (character :: rest) = character :: dropNull rest :=
          List.filter_cons_of_pos (by simpa using null)
        rw [kept, spliceQuotes, spliceQuotes, List.flatMap_cons]
        congr 1
        by_cases quoted : character = '\''
        · rw [if_pos quoted]
          rfl
        · rw [if_neg quoted]
          exact List.filter_cons_of_pos (by simpa using null)

theorem dropNull_name {name : List Char} (named : isName name = true) : dropNull name = name :=
  dropNull_eq_self (fun member => absurd (isName_all named _ member) (by decide))

/-- An assignment that lost the null characters of its value. -/
def cleaned (entry : List Char × List Char) : List Char × List Char := (entry.1, dropNull entry.2)

theorem dropNull_exportLine {entry : List Char × List Char} (named : isName entry.1 = true) :
    dropNull (exportLine entry) = exportLine (cleaned entry) := by
  have split : forall name value : List Char, exportLine (name, value) =
      (exportWord ++ [' ']) ++ name ++ ['=', '\''] ++ spliceQuotes value ++ ['\''] := by
    intro name value
    simp only [exportLine, singleQuote, List.append_assoc, List.cons_append, List.nil_append]
  rw [split entry.1 entry.2, cleaned, split, dropNull_append, dropNull_append, dropNull_append,
    dropNull_append, dropNull_name named, dropNull_spliceQuotes]
  rfl

theorem dropNull_exportLines {entries : List (List Char × List Char)}
    (named : forall entry, entry ∈ entries -> isName entry.1 = true) :
    dropNull (entries.flatMap (fun entry => exportLine entry ++ ['\n'])) =
      (entries.map cleaned).flatMap (fun entry => exportLine entry ++ ['\n']) := by
  induction entries with
  | nil => rfl
  | cons entry rest ih =>
      rw [List.flatMap_cons, List.map_cons, List.flatMap_cons, dropNull_append, dropNull_append,
        dropNull_exportLine (named entry List.mem_cons_self),
        ih (fun other later => named other (List.mem_cons_of_mem _ later))]
      rfl

theorem cleaned_named {entries : List (List Char × List Char)}
    (named : forall entry, entry ∈ entries -> isName entry.1 = true) :
    forall entry, entry ∈ entries.map cleaned -> isName entry.1 = true := by
  intro entry member
  rcases List.mem_map.mp member with ⟨other, present, rfl⟩
  exact named other present

/-- Quoted exports that go through a substitution are read as these exports,
without null characters. -/
theorem commands_substitution {entries : List (List Char × List Char)}
    (named : forall entry, entry ∈ entries -> isName entry.1 = true) :
    commands (commandSubstitution (entries.flatMap (fun entry => exportLine entry ++ ['\n']))) =
      some ((entries.map cleaned).map exportWords) := by
  have stripped : commandSubstitution (entries.flatMap (fun entry => exportLine entry ++ ['\n'])) =
      ((entries.map cleaned).flatMap (fun entry => exportLine entry ++ ['\n'])).rdropWhile
        (fun character => character == '\n') :=
    congrArg (fun text => text.rdropWhile (fun character => character == '\n'))
      (dropNull_exportLines named)
  have clean := cleaned_named named
  rw [stripped, ← commands_exportLines clean]
  generalize entries.map cleaned = exported at clean
  cases exported using List.reverseRecOn with
  | nil => rfl
  | append_singleton before last =>
      have beforeNamed : forall entry, entry ∈ before -> isName entry.1 = true :=
        fun entry member => clean entry (List.mem_append_left _ member)
      have lastNamed := clean last (List.mem_append_right _ (List.mem_singleton_self _))
      let body := before.flatMap (fun entry => exportLine entry ++ ['\n']) ++ exportLine last
      have whole : (before ++ [last]).flatMap (fun entry => exportLine entry ++ ['\n']) =
          body ++ ['\n'] := by
        simp only [body, List.flatMap_append, List.flatMap_cons, List.flatMap_nil, List.append_nil,
          List.append_assoc]
      have quoted : Exists fun opening => body = opening ++ ['\''] := by
        refine ⟨before.flatMap (fun entry => exportLine entry ++ ['\n']) ++
          (exportWord ++ ' ' :: (last.1 ++ '=' :: '\'' :: spliceQuotes last.2)), ?_⟩
        simp only [body, exportLine, singleQuote, List.append_assoc, List.cons_append]
      have closed : (Lexer.start.scan body).quoting = .unquoted := by
        rw [Lexer.scan_append, Lexer.start, Lexer.scan_exportLines beforeNamed,
          Lexer.scan_exportLine lastNamed]
      rcases quoted with ⟨opening, ends⟩
      rw [whole, commands_append_newline closed, List.rdropWhile_concat_pos _ _ _ (by decide), ends,
        List.rdropWhile_concat_neg _ _ _ (by decide)]

end PosixShell
end EmbeddedAlerts

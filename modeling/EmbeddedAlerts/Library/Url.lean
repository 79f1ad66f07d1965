import Mathlib.Data.List.TakeWhile
import Mathlib.Tactic

namespace EmbeddedAlerts
namespace Url

/-!
# The parts of a URL

A URL is a scheme, `://`, an authority and whatever follows it: a path, a query
or a fragment, none of whose first characters can stand in the authority.  The
authority is a host with an optional userinfo in front, which ends in `@`, and
an optional port behind, which begins with `:`.  A host in brackets may hold
colons.

What else the standard demands of the parts (letters in the scheme, digits in
the port) is not asked here, so the statements below hold of more texts than the
standard calls URLs.  A text has its parts in one way only, and `parse` finds
them.
-/

structure Parts where
  scheme : List Char
  userinfo : Option (List Char)
  host : List Char
  port : Option (List Char)
  tail : List Char
deriving DecidableEq

/-- A path, a query or a fragment begins here. -/
def isDelimiter (character : Char) : Bool :=
  character == '/' || character == '?' || character == '#'

def userinfoText : Option (List Char) -> List Char
  | some userinfo => userinfo ++ ['@']
  | none => []

def portText : Option (List Char) -> List Char
  | some port => ':' :: port
  | none => []

def Parts.location (parts : Parts) : List Char := parts.host ++ portText parts.port

def Parts.authority (parts : Parts) : List Char := userinfoText parts.userinfo ++ parts.location

def Parts.text (parts : Parts) : List Char :=
  parts.scheme ++ ':' :: '/' :: '/' :: (parts.authority ++ parts.tail)

/-- A host without colons, or one in brackets. -/
def HostShape (host : List Char) : Prop :=
  (host.head? ≠ some '[' ∧ ':' ∉ host) ∨
    Exists fun inner => host = '[' :: (inner ++ [']']) ∧ ']' ∉ inner

/-- The parts behind the scheme are what the grammar says. -/
structure Parts.Located (parts : Parts) : Prop where
  userinfo : forall userinfo, parts.userinfo = some userinfo -> '@' ∉ userinfo
  location : '@' ∉ parts.location
  host : HostShape parts.host
  authority : forall character, character ∈ parts.authority -> isDelimiter character = false
  tail : forall first, parts.tail.head? = some first -> isDelimiter first = true

structure Parts.WellFormed (parts : Parts) : Prop extends Parts.Located parts where
  scheme : ':' ∉ parts.scheme

/-! ## Cutting a text -/

/-- The text before and behind the first separator. -/
def splitOnce (separator : Char) : List Char -> Option (List Char × List Char)
  | [] => none
  | character :: rest =>
      if character = separator then some ([], rest)
      else (splitOnce separator rest).map (fun halves => (character :: halves.1, halves.2))

theorem splitOnce_eq_none_iff {separator : Char} {text : List Char} :
    splitOnce separator text = none ↔ separator ∉ text := by
  induction text with
  | nil => exact iff_of_true rfl List.not_mem_nil
  | cons character rest ih =>
      rw [splitOnce, List.mem_cons, not_or]
      by_cases same : character = separator
      · rw [if_pos same]
        exact ⟨fun none => (by cases none), fun absent => absurd same.symm absent.1⟩
      · rw [if_neg same, Option.map_eq_none_iff, ih]
        exact ⟨fun absent => ⟨Ne.symm same, absent⟩, And.right⟩

theorem splitOnce_append {separator : Char} {before : List Char} (absent : separator ∉ before)
    (behind : List Char) :
    splitOnce separator (before ++ separator :: behind) = some (before, behind) := by
  induction before with
  | nil => rw [List.nil_append, splitOnce, if_pos rfl]
  | cons character rest ih =>
      rw [List.mem_cons, not_or] at absent
      rw [List.cons_append, splitOnce, if_neg (Ne.symm absent.1), ih absent.2]
      rfl

theorem splitOnce_eq_some_iff {separator : Char} {text before behind : List Char} :
    splitOnce separator text = some (before, behind) ↔
      text = before ++ separator :: behind ∧ separator ∉ before := by
  constructor
  · intro found
    by_cases present : separator ∈ text
    · rcases List.eq_append_cons_of_mem present with ⟨first, second, rfl, absent⟩
      rw [splitOnce_append absent, Option.some.injEq, Prod.mk.injEq] at found
      rcases found with ⟨rfl, rfl⟩
      exact ⟨rfl, absent⟩
    · rw [splitOnce_eq_none_iff.mpr present] at found
      cases found
  · rintro ⟨rfl, absent⟩
    exact splitOnce_append absent behind

/-! ## Reading the parts -/

/-- What may stand behind a host in brackets. -/
def readPort : List Char -> Option (Option (List Char))
  | [] => some none
  | first :: port => if first = ':' then some (some port) else none

def readLocation (text : List Char) : Option (List Char × Option (List Char)) :=
  if text.head? = some '[' then
    (splitOnce ']' text).bind (fun halves =>
      (readPort halves.2).map (fun port => (halves.1 ++ [']'], port)))
  else
    match splitOnce ':' text with
    | some (host, port) => some (host, some port)
    | none => some (text, none)

def readUserinfo (authority : List Char) : Option (List Char) × List Char :=
  match splitOnce '@' authority with
  | some (userinfo, location) => (some userinfo, location)
  | none => (none, authority)

def readAuthority (scheme rest : List Char) : Option Parts :=
  let authority := rest.takeWhile (fun character => !isDelimiter character)
  let tail := rest.dropWhile (fun character => !isDelimiter character)
  let userinfo := readUserinfo authority
  if userinfo.2.contains '@' then none
  else (readLocation userinfo.2).map (fun location =>
    ⟨scheme, userinfo.1, location.1, location.2, tail⟩)

def parse (text : List Char) : Option Parts :=
  (splitOnce ':' text).bind (fun halves =>
    match halves.2 with
    | '/' :: '/' :: rest => readAuthority halves.1 rest
    | _ => none)

theorem readPort_eq_some_iff {text : List Char} {port : Option (List Char)} :
    readPort text = some port ↔ text = portText port := by
  cases text with
  | nil =>
      cases port with
      | none => exact iff_of_true rfl rfl
      | some digits => exact ⟨fun found => (by cases found), fun same => (by cases same)⟩
  | cons first rest =>
      rw [readPort]
      by_cases colon : first = ':'
      · rw [if_pos colon, colon]
        cases port with
        | none => exact ⟨fun found => (by cases found), fun same => (by cases same)⟩
        | some digits => simp [portText]
      · rw [if_neg colon]
        cases port with
        | none => exact ⟨fun found => (by cases found), fun same => (by cases same)⟩
        | some digits =>
            exact ⟨fun found => (by cases found), fun same => absurd (List.cons.inj same).1 colon⟩

theorem head?_location {host : List Char} (port : Option (List Char))
    (plain : host.head? ≠ some '[') : (host ++ portText port).head? ≠ some '[' := by
  cases host with
  | cons first rest => exact plain
  | nil =>
      cases port with
      | none => exact plain
      | some digits =>
          intro same
          cases same

theorem readLocation_eq_some_iff {text host : List Char} {port : Option (List Char)} :
    readLocation text = some (host, port) ↔ HostShape host ∧ text = host ++ portText port := by
  constructor
  · intro found
    unfold readLocation at found
    by_cases bracket : text.head? = some '['
    · rw [if_pos bracket] at found
      rcases Option.bind_eq_some_iff.mp found with ⟨⟨opened, after⟩, cut, found⟩
      rcases Option.map_eq_some_iff.mp found with ⟨ported, read, same⟩
      rcases splitOnce_eq_some_iff.mp cut with ⟨rfl, absent⟩
      cases same
      cases opened with
      | nil => cases bracket
      | cons first inner =>
          cases bracket
          rw [List.mem_cons, not_or] at absent
          refine ⟨Or.inr ⟨inner, rfl, absent.2⟩, ?_⟩
          have behind : after = portText port := readPort_eq_some_iff.mp read
          rw [behind]
          change _ = '[' :: inner ++ [']'] ++ portText port
          rw [List.append_assoc]
          rfl
    · rw [if_neg bracket] at found
      cases cut : splitOnce ':' text with
      | some halves =>
          rw [cut] at found
          rcases splitOnce_eq_some_iff.mp cut with ⟨whole, absent⟩
          cases found
          refine ⟨Or.inl ⟨?_, absent⟩, whole⟩
          intro opening
          rw [whole, List.head?_append, opening] at bracket
          exact bracket rfl
      | none =>
          rw [cut] at found
          cases found
          exact ⟨Or.inl ⟨bracket, splitOnce_eq_none_iff.mp cut⟩, (List.append_nil text).symm⟩
  · rintro ⟨⟨plain, absent⟩ | ⟨inner, rfl, absent⟩, rfl⟩
    · rw [readLocation, if_neg (head?_location port plain)]
      cases port with
      | some digits => rw [portText, splitOnce_append absent]
      | none => rw [portText, List.append_nil, splitOnce_eq_none_iff.mpr absent]
    · have cut : splitOnce ']' ('[' :: (inner ++ [']']) ++ portText port) =
          some ('[' :: inner, portText port) := by
        rw [List.cons_append, List.append_assoc, ← List.cons_append]
        refine splitOnce_append ?_ (portText port)
        rw [List.mem_cons, not_or]
        exact ⟨by decide, absent⟩
      have opening : ('[' :: (inner ++ [']']) ++ portText port).head? = some '[' := rfl
      rw [readLocation, if_pos opening, cut, Option.bind_some, readPort_eq_some_iff.mpr rfl]
      rfl

theorem readUserinfo_eq_iff {authority location : List Char} {userinfo : Option (List Char)}
    (clear : '@' ∉ location) : readUserinfo authority = (userinfo, location) ↔
      (forall text, userinfo = some text -> '@' ∉ text) ∧
        authority = userinfoText userinfo ++ location := by
  constructor
  · intro found
    unfold readUserinfo at found
    cases cut : splitOnce '@' authority with
    | some halves =>
        rw [cut] at found
        rcases splitOnce_eq_some_iff.mp cut with ⟨whole, absent⟩
        cases found
        refine ⟨fun text same => ?_, ?_⟩
        · cases same
          exact absent
        · rw [whole, userinfoText, List.append_assoc]
          rfl
    | none =>
        rw [cut] at found
        cases found
        exact ⟨fun text same => (by cases same), rfl⟩
  · rintro ⟨absent, rfl⟩
    cases userinfo with
    | some text =>
        rw [readUserinfo, userinfoText, List.append_assoc, List.singleton_append,
          splitOnce_append (absent text rfl)]
    | none => rw [readUserinfo, userinfoText, List.nil_append, splitOnce_eq_none_iff.mpr clear]

/-- The authority ends at the first delimiter. -/
theorem span_authority {authority tail : List Char}
    (solid : forall character, character ∈ authority -> isDelimiter character = false)
    (begins : forall first, tail.head? = some first -> isDelimiter first = true) :
    (authority ++ tail).takeWhile (fun character => !isDelimiter character) = authority ∧
      (authority ++ tail).dropWhile (fun character => !isDelimiter character) = tail := by
  have passes : forall character, character ∈ authority -> (!isDelimiter character) = true := by
    intro character member
    rw [solid character member]
    rfl
  rw [List.takeWhile_append_of_pos passes, List.dropWhile_append_of_pos passes]
  cases tail with
  | nil => exact ⟨List.append_nil _, rfl⟩
  | cons first rest =>
      have stops : Not ((!isDelimiter first) = true) := by
        rw [begins first rfl]
        decide
      rw [List.takeWhile_cons_of_neg (p := fun character => !isDelimiter character) stops,
        List.dropWhile_cons_of_neg (p := fun character => !isDelimiter character) stops]
      exact ⟨List.append_nil _, rfl⟩

/-- What is taken from the front of a text holds no delimiter, and the rest
begins with one. -/
theorem solid_takeWhile (text : List Char) :
    (forall character, character ∈ text.takeWhile (fun character => !isDelimiter character) ->
      isDelimiter character = false) ∧
    forall first, (text.dropWhile (fun character => !isDelimiter character)).head? = some first ->
      isDelimiter first = true := by
  constructor
  · intro character member
    have kept := List.mem_takeWhile_imp member
    simpa using kept
  · intro first begins
    have stopped := List.head?_dropWhile_not (fun character => !isDelimiter character) text
    rw [begins] at stopped
    simpa using stopped

theorem readAuthority_eq_some_iff {scheme rest : List Char} {parts : Parts} :
    readAuthority scheme rest = some parts ↔
      parts.scheme = scheme ∧ parts.Located ∧ rest = parts.authority ++ parts.tail := by
  unfold readAuthority
  simp only
  constructor
  · intro found
    rcases solid_takeWhile rest with ⟨solid, begins⟩
    have joined := List.takeWhile_append_dropWhile (p := fun character => !isDelimiter character)
      (l := rest)
    generalize rest.takeWhile (fun character => !isDelimiter character) = authority at *
    generalize rest.dropWhile (fun character => !isDelimiter character) = tail at *
    cases taken : readUserinfo authority with
    | mk userinfo location =>
        simp only [taken] at found
        split at found
        · cases found
        · next clear =>
            rw [List.contains_iff_mem] at clear
            rcases Option.map_eq_some_iff.mp found with ⟨⟨host, port⟩, located, rfl⟩
            rcases readLocation_eq_some_iff.mp located with ⟨shape, rfl⟩
            rcases (readUserinfo_eq_iff clear).mp taken with ⟨plain, rfl⟩
            exact ⟨rfl, ⟨plain, clear, shape, solid, begins⟩, joined.symm⟩
  · rintro ⟨rfl, located, rfl⟩
    rcases span_authority located.authority located.tail with ⟨authority, tail⟩
    have taken := (readUserinfo_eq_iff located.location).mpr ⟨located.userinfo, rfl⟩
    rw [authority, tail, show readUserinfo parts.authority = _ from taken,
      if_neg (by rw [List.contains_iff_mem]; exact located.location),
      show readLocation parts.location = _ from readLocation_eq_some_iff.mpr ⟨located.host, rfl⟩]
    rfl

/-- `parse` finds the parts of a text, and there is one way only to find them. -/
theorem parse_eq_some_iff {text : List Char} {parts : Parts} :
    parse text = some parts ↔ parts.WellFormed ∧ parts.text = text := by
  constructor
  · intro found
    rcases Option.bind_eq_some_iff.mp found with ⟨⟨scheme, after⟩, cut, behind⟩
    rcases splitOnce_eq_some_iff.mp cut with ⟨rfl, absent⟩
    split at behind
    · next rest shape =>
        cases shape
        rcases readAuthority_eq_some_iff.mp behind with ⟨rfl, located, rfl⟩
        exact ⟨⟨located, absent⟩, rfl⟩
    · cases behind
  · rintro ⟨wellFormed, rfl⟩
    rw [parse, Parts.text, splitOnce_append wellFormed.scheme, Option.bind_some]
    exact readAuthority_eq_some_iff.mpr ⟨rfl, wellFormed.toLocated, rfl⟩

/-! ## One way to read a text -/

variable {parts : Parts}

theorem Parts.WellFormed.eq_of_text {other : Parts} (wellFormed : parts.WellFormed)
    (otherFormed : other.WellFormed) (same : parts.text = other.text) : parts = other := by
  have found := parse_eq_some_iff.mpr ⟨wellFormed, same⟩
  rw [parse_eq_some_iff.mpr ⟨otherFormed, rfl⟩] at found
  exact (Option.some.inj found).symm

/-- The scheme is what stands before the first colon. -/
theorem Parts.WellFormed.scheme_eq (wellFormed : parts.WellFormed) {scheme rest : List Char}
    (absent : ':' ∉ scheme) (same : parts.text = scheme ++ ':' :: rest) :
    parts.scheme = scheme := by
  have first := splitOnce_append wellFormed.scheme
    ('/' :: '/' :: (parts.authority ++ parts.tail))
  change splitOnce ':' parts.text = _ at first
  rw [same, splitOnce_append absent, Option.some.injEq, Prod.mk.injEq] at first
  exact first.1.symm

theorem mem_text_of_userinfo {userinfo : List Char} (given : parts.userinfo = some userinfo) :
    '@' ∈ parts.text := by
  rw [Parts.text, Parts.authority, given, userinfoText]
  simp

/-- A text that goes on behind a host and a colon has parts, with this host. -/
theorem exists_wellFormed {scheme host rest : List Char} (absent : ':' ∉ scheme)
    (shape : HostShape host)
    (solid : forall character, character ∈ host -> isDelimiter character = false)
    (clear : '@' ∉ host ++ ':' :: rest) :
    Exists fun parts : Parts => parts.WellFormed ∧ parts.scheme = scheme ∧ parts.host = host ∧
      parts.text = scheme ++ ':' :: '/' :: '/' :: (host ++ ':' :: rest) := by
  rcases solid_takeWhile rest with ⟨portSolid, begins⟩
  have joined := List.takeWhile_append_dropWhile (p := fun character => !isDelimiter character)
    (l := rest)
  generalize rest.takeWhile (fun character => !isDelimiter character) = port at *
  generalize rest.dropWhile (fun character => !isDelimiter character) = tail at *
  subst rest
  refine ⟨⟨scheme, none, host, some port, tail⟩, ?_, rfl, rfl, ?_⟩
  · refine ⟨⟨fun _ given => (by cases given), ?_, shape, ?_, begins⟩, absent⟩
    · change '@' ∉ host ++ ':' :: port
      intro member
      refine clear ?_
      rw [← List.cons_append, ← List.append_assoc]
      exact List.mem_append_left tail member
    · intro character member
      change character ∈ host ++ ':' :: port at member
      rcases List.mem_append.mp member with inHost | inPort
      · exact solid character inHost
      · rcases List.mem_cons.mp inPort with rfl | inDigits
        · rfl
        · exact portSolid character inDigits
  · simp [Parts.text, Parts.authority, Parts.location, userinfoText, portText]

end Url
end EmbeddedAlerts

import Mathlib.Tactic

namespace EmbeddedAlerts
namespace Subject

/-!
# Subjects and their patterns

A NATS subject is a list of tokens with dots between them.  In a pattern the
token `*` stands for any one token, and `>` at the end for one or more.
-/

def tokens (subject : String) : List (List Char) := subject.toList.splitOn '.'

def matchTokens : List (List Char) -> List (List Char) -> Bool
  | [], [] => true
  | pattern :: patterns, token :: rest =>
      (pattern == ['>'] && patterns.isEmpty) ||
        (pattern == ['*'] || pattern == token) && matchTokens patterns rest
  | _, _ => false

def captures (pattern subject : String) : Bool := matchTokens (tokens pattern) (tokens subject)

/-- Tokens without dots are read back from the subject they make. -/
theorem tokens_of_joined {subject : String} {parts : List (List Char)} (nonempty : parts ≠ [])
    (free : forall part, part ∈ parts -> '.' ∉ part)
    (joined : subject.toList = ['.'].intercalate parts) : tokens subject = parts := by
  rw [tokens, joined]
  exact List.splitOn_intercalate '.' free nonempty

theorem matchTokens_self (parts : List (List Char)) : matchTokens parts parts = true := by
  induction parts with
  | nil => rfl
  | cons part rest ih => simp [matchTokens, ih]

/-- A star stands for the token in its place. -/
theorem matchTokens_star (front back : List (List Char)) (token : List Char) :
    matchTokens (front ++ ['*'] :: back) (front ++ token :: back) = true := by
  induction front with
  | nil => simp [matchTokens, matchTokens_self back]
  | cons part rest ih => simp [matchTokens, ih]

end Subject
end EmbeddedAlerts

/-!
# Tokens of JSON texts

A token says no more about a value than its readers ask for. Texts and numbers may be damaged in a way
that only matters to those who want the value; where a token is broken off or misspelled, it is the last
one, and says why.
-/

namespace ClusterTrials.Json

/-- Why a text is not the value that was asked for. -/
inductive Malformed
  /-- It is not the text of a value. -/
  | grammar
  /-- It ends before the value does. -/
  | cutShort
  /-- The value has another shape. -/
  | shape
  deriving DecidableEq, Repr

inductive Token
  | openObject
  | closeObject
  | openArray
  | closeArray
  | comma
  | colon
  /-- Null or a truth value. -/
  | word
  /-- A number, and whether it has a finite value in 64 bits. -/
  | number (finite : Bool)
  /-- A text; none if one half of a pair of surrogates is missing. -/
  | text (value : Option String)
  /-- A text that does not end as it should. -/
  | brokenText (read skipped : Malformed)
  /-- Anything else that is no token: why it cannot be read, and why it cannot be skipped. -/
  | broken (read skipped : Malformed)
  deriving DecidableEq, Repr

end ClusterTrials.Json

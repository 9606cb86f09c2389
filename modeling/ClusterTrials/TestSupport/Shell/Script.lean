/-!
# Test support: shell scripts

What a script consists of. A script is a row of bytes, each of which stands here as the character of its
value, so that texts in any encoding pass through unchanged.
-/

namespace ClusterTrials.TestSupport.Shell

abbrev Bytes := List Char

/-- What is made of the value of a parameter and the word that stands behind its name. `ifEmpty` tells
whether an empty value counts as none. -/
inductive ParameterUse
  | value
  | length
  /-- The word stands in for a missing value. -/
  | orElse (ifEmpty : Bool)
  /-- The word becomes the value if it is missing. -/
  | orAssign (ifEmpty : Bool)
  /-- The word tells what is wrong if the value is missing. -/
  | orFail (ifEmpty : Bool)
  /-- The word stands in for a value that is there. -/
  | instead (ifEmpty : Bool)
  /-- The value without the part at its start that fits the word. -/
  | withoutStart (longest : Bool)
  /-- The value without the part at its end that fits the word. -/
  | withoutEnd (longest : Bool)
  | unknown
  deriving DecidableEq, Repr

/-- A part of a word. What is quoted is neither split into fields nor taken for a pattern. -/
inductive Piece
  | plain (text : Bytes)
  | quoted (text : Bytes)
  | parameter (name : Bytes) (use : ParameterUse) (word : List Piece) (isQuoted : Bool)
  /-- What another script writes. It starts on the given line, or else its lines are counted by themselves. -/
  | output (script : Bytes) (line : Option Nat) (isQuoted : Bool)
  /-- The value of an expression. -/
  | arithmetic (expression : List Piece) (isQuoted : Bool)

abbrev Word := List Piece

inductive RedirectMode
  | truncate
  /-- Truncates a file even if files are not to be written over. -/
  | clobber
  | append
  | read
  /-- Duplicates another descriptor to write to, or to read from. -/
  | copyOut
  | copyIn
  /-- Reads a text of the script. -/
  | document
  deriving DecidableEq, Repr

structure Redirection where
  descriptor : Nat
  mode : RedirectMode
  target : Word

inductive Script
  | nothing
  | simple (line : Nat) (assignments : List (Bytes × Word)) (words : List Word)
      (redirections : List Redirection)
  | sequence (first second : Script)
  /-- Goes on with the second part if the first one succeeds, or else if it fails. -/
  | next (ifSuccess : Bool) (first second : Script)
  | negation (script : Script)
  | pipe (first second : Script)
  /-- Runs while the shell goes on. -/
  | aside (script : Script)
  /-- Runs in a shell of its own. -/
  | subshell (line : Nat) (script : Script)
  | forEach (line : Nat) (name : Bytes) (items : Option (List Word)) (body : Script)
  | choice (line : Nat) (subject : Word) (branches : List (List Word × Script))
  | conditional (condition yes no : Script)
  /-- Goes round as long as the condition succeeds, or else as long as it fails. -/
  | loop (whileSuccess : Bool) (condition body : Script)
  | redirected (line : Nat) (script : Script) (redirections : List Redirection)
  | definition (name : Bytes) (body : Script)
  deriving Inhabited

structure SyntaxFault where
  line : Nat
  message : String
  /-- A script that the text goes into without coming out of it, and the line that it starts on. -/
  within : Option (Bytes × Nat) := none
  deriving DecidableEq, Repr

def isNameStart (c : Char) : Bool := c.isAlpha || c = '_'

def isNamePart (c : Char) : Bool := c.isAlphanum || c = '_'

def isName (text : Bytes) : Bool := text.head?.any isNameStart && text.all isNamePart

end ClusterTrials.TestSupport.Shell

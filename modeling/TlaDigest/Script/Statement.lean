import TlaDigest.Script.Octets

/-!
# Scripts

Words, of which parts are expanded when they are used, and statements, made of simple commands,
lists, loops and branches.
-/

namespace TlaDigest.Script

inductive FileMode where
  | read
  /-- What the file held is replaced, unless the shell is careful. -/
  | write
  | replace
  | append
  | update
deriving DecidableEq, Repr

mutual

/-- A part of a word. What is quoted stays in one piece and stands for itself. -/
inductive Piece where
  | literal (text : Octets) (quoted : Bool)
  | parameter (name : Octets) (form : Form) (quoted : Bool)
  | substitution (body : Statement) (quoted : Bool)
  | arithmetic (text : List Piece) (quoted : Bool)

/-- What is made of the value of a parameter. With `empty` an empty value counts as none. -/
inductive Form where
  | plain
  | length
  | otherwise (empty : Bool) (word : List Piece)
  /-- A word, where there is no value; it becomes the value. -/
  | assigned (empty : Bool) (word : List Piece)
  | required (empty : Bool) (word : List Piece)
  | instead (empty : Bool) (word : List Piece)
  /-- The value without a front or an end that fits a pattern. -/
  | trimmed (atEnd longest : Bool) (pattern : List Piece)
  | invalid

inductive Target where
  | file (mode : FileMode) (name : List Piece)
  | descriptor (word : List Piece)
  /-- A text in the script, by its number. -/
  | document (index : Nat)

inductive Redirect where
  | mk (descriptor : Nat) (target : Target)

/-- A statement. Where messages may come from it, it knows its line. -/
inductive Statement where
  | simple (line : Nat) (assignments : List (Octets × List Piece)) (words : List (List Piece))
      (redirects : List Redirect)
  | block (statements : List Statement)
  /-- The second runs when the first succeeds. -/
  | both (first second : Statement)
  /-- The second runs when the first fails. -/
  | either (first second : Statement)
  | negated (s : Statement)
  /-- Repeats `body` while the outcome of `condition` is `wanted`. -/
  | loop (wanted : Bool) (condition body : Statement)
  | branch (condition yes no : Statement)
  /-- Repeats `body` with a variable set to each field of the words in turn. -/
  | each (line : Nat) (name : Octets) (words : List (List Piece)) (body : Statement)
  /-- Runs the first statement that has a pattern which a word fits. -/
  | choose (line : Nat) (word : List Piece) (cases : List (List (List Piece) × Statement))
  | apart (line : Nat) (body : Statement) (redirects : List Redirect)
  | background (body : Statement)
  | pipe (stages : List Statement)
  | redirected (line : Nat) (body : Statement) (redirects : List Redirect)
  | define (name : Octets) (body : Statement)

end

abbrev Word := List Piece

def Statement.nothing : Statement := .block []

def Piece.isQuoted : Piece → Bool
  | .literal _ quoted => quoted
  | .parameter _ _ quoted => quoted
  | .substitution _ quoted => quoted
  | .arithmetic _ quoted => quoted

/-- The text of a word that is plain. Only such words can be keywords. -/
def plainWord? : Word → Option Octets
  | [.literal text false] => some text
  | _ => none

def literalText (w : Word) : Octets := w.flatMap fun
  | .literal text _ => text
  | _ => []

end TlaDigest.Script

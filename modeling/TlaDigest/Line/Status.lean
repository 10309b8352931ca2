import TlaDigest.Line.Field
import TlaDigest.Span
import TlaDigest.Tally

/-!
# Status records of the obligation report

A record has one of three shapes, told apart by its keys: it opens an obligation, reports the result
of one prover, or gives the tally that closes the obligation. A record with a key that its shape
does not know has no shape.
-/

namespace TlaDigest

inductive Status where
  /-- Opens an obligation; `normalized` is its text when it stands on the same line. -/
  | obligation (role : String) (span : Span) (status : String) (normalized : Option String)
  | prover (name : String) (method : Option String) (status : String) (reason : Option String)
  | tally (counts : Tally)
deriving DecidableEq, Repr

namespace Status

def obligationKeys : List String := ["role", "range", "status", "normalized"]

def proverKeys : List String := ["prover", "meth", "status", "reason"]

def tallyKeys : List String := ["proved", "failed", "omitted", "missing", "pending", "progress"]

def onlyKeys (keys : List String) (fields : List Field) : Bool :=
  fields.all fun f => keys.contains f.key

/-- A counter of a tally; zero where it is not written. -/
def counter? (fields : List Field) (key : String) : Option UInt32 :=
  match Field.lookup? key fields with
  | none => some 0
  | some value => Text.signedWord32? value.toList

def obligation? (fields : List Field) (role : String) : Option Status := do
  let span ← (Field.lookup? "range" fields).bind Span.parse?
  let status ← Field.lookup? "status" fields
  pure (.obligation role span status (Field.lookup? "normalized" fields))

def prover? (fields : List Field) (name : String) : Option Status := do
  let status ← Field.lookup? "status" fields
  pure (.prover name (Field.lookup? "meth" fields) status (Field.lookup? "reason" fields))

def tally? (fields : List Field) : Option Status := do
  let proved ← counter? fields "proved"
  let failed ← counter? fields "failed"
  let omitted ← counter? fields "omitted"
  let missing ← counter? fields "missing"
  let pending ← counter? fields "pending"
  let progress ← counter? fields "progress"
  pure (.tally ⟨proved, failed, omitted, missing, pending, progress⟩)

/-- The status record that the fields make up. The shape is settled by the keys; a value that the
    shape does not admit then leaves no record. -/
def ofFields? (fields : List Field) : Option Status :=
  match Field.lookup? "role" fields, onlyKeys obligationKeys fields with
  | some role, true => obligation? fields role
  | _, _ =>
    match Field.lookup? "prover" fields, onlyKeys proverKeys fields with
    | some name, true => prover? fields name
    | _, _ => if onlyKeys tallyKeys fields then tally? fields else none

def ofLine? (line : List Char) : Option Status := (Field.all? line).bind ofFields?

end Status

end TlaDigest

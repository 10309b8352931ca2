import TlaDigest.Path
import TlaDigest.Text.Digit

/-!
# Section banners

The tools announce each phase with a line of its own; blanks around it do not count. Most banners
are fixed texts, a few carry a file, a module or a number.
-/

namespace TlaDigest

inductive Section where
  /-- Parsing, of a file when the banner names it. -/
  | parsing (file : Option Path)
  | semanticErrors
  | semanticWarnings
  | obligations
  | done
deriving DecidableEq, Repr

namespace Section

open Text

def fixed : List (String × Section) := [
  ("Parsing completed", .done), ("Parsing completed.", .done),
  ("Translation completed", .done), ("Translation completed.", .done),
  ("Semantic processing completed", .done), ("Semantic processing completed.", .done),
  ("Obligations completed", .done), ("Obligations completed.", .done),
  ("Parsing...", .parsing none),
  ("***Parse Error***", .parsing none), ("*** Parse Error***", .parsing none),
  ("***Parse Error ***", .parsing none), ("*** Parse Error ***", .parsing none),
  ("Semantic errors...", .semanticErrors), ("Semantic errors:", .semanticErrors),
  ("Semantic warnings...", .semanticWarnings), ("Semantic warnings:", .semanticWarnings),
  ("Proof obligations...", .obligations), ("Obligations...", .obligations),
  ("Obligations:", .obligations)]

def fixed? (cs : List Char) : Option Section :=
  (fixed.find? fun entry => entry.1.toList == cs).map (·.2)

/-- `Parsing file F`, where `F` starts with no blank and stays on the line. -/
def parsingFile? (cs : List Char) : Option Section :=
  match after? "Parsing file ".toList cs with
  | some (c :: rest) =>
    if isBlank c || rest.contains '\n' then none
    else some (.parsing (some ⟨String.ofList (trimEnd (c :: rest))⟩))
  | _ => none

/-- A fixed text, then one or more characters of a class, and nothing else. -/
def counted? (text : String) (ok : Char → Bool) (s : Section) (cs : List Char) : Option Section :=
  match after? text.toList cs with
  | some (c :: rest) => if (c :: rest).all ok then some s else none
  | _ => none

/-- The banner made of all of `cs`. -/
def ofText? (cs : List Char) : Option Section :=
  fixed? cs <|> parsingFile? cs <|>
    counted? "*** Errors: " isDigit .semanticErrors cs <|>
    counted? "*** Warnings: " isDigit .semanticWarnings cs <|>
    counted? "Semantic processing of module " (fun c => !isBlank c) .semanticErrors cs

def ofLine? (line : List Char) : Option Section := ofText? (trim line)

end Section

end TlaDigest

import TlaDigest.Script.Utility.Counting
import TlaDigest.Script.Utility.LineEditor
import TlaDigest.Script.Utility.Expr
import TlaDigest.Script.Utility.Filing

/-!
# Small programs

The small programs by their names.
-/

namespace TlaDigest.Script.Utility

open JobM

def table : List (String × Utility) := [
  ("[", bracket), ("basename", basename), ("cat", cat), ("chmod", chmod), ("cmp", cmp), ("comm", comm),
  ("cp", cp), ("cut", cut), ("dirname", dirname), ("echo", echo), ("egrep", grepWith "-E"), ("expand", expand),
  ("expr", expr), ("false", fun _ => setStatus 1), ("fgrep", grepWith "-F"), ("fold", fold), ("grep", grep),
  ("head", head), ("id", id), ("join", join), ("ln", ln), ("ls", ls), ("mkdir", mkdir), ("mktemp", mktemp),
  ("mv", mv), ("nl", nl), ("paste", paste), ("printenv", printenv), ("printf", printf), ("pwd", pwd),
  ("readlink", readlink), ("realpath", realpath), ("rev", rev), ("rm", rm), ("rmdir", rmdir), ("sed", sed),
  ("seq", seq), ("sleep", sleep), ("sort", sort), ("sync", fun _ => setStatus 0), ("tac", tac),
  ("tail", tail), ("tee", tee), ("test", test), ("touch", touch), ("tr", tr), ("true", fun _ => setStatus 0),
  ("truncate", truncate), ("tty", tty), ("uname", uname), ("unexpand", unexpand), ("uniq", uniq), ("wc", wc),
  ("whoami", whoami), ("yes", yes)]

def find? (name : Octets) : Option Utility := (table.find? fun e => e.1.toList == name).map (·.2)

end TlaDigest.Script.Utility

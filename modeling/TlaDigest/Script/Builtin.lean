import TlaDigest.Script.Builtin.Limits
import TlaDigest.Script.Builtin.Printing
import TlaDigest.Script.Builtin.Processes
import TlaDigest.Script.Builtin.Variables

/-!
# Commands of the shell

The commands that a shell runs itself, by their names.
-/

namespace TlaDigest.Script.Builtin

open Text ShellM

def answering (status : Nat) : Command := fun _ _ => setStatus status

def times : Command := fun _ _ => do
  let line := "0m0.000000s 0m0.000000s\n".toList
  write 1 (line ++ line)
  setStatus 0

def needingJob : Command := fun name _ => mistake name "No current job".toList 2

def table : List (String × Command) := [
  (":", answering 0), ("[", bracket), ("alias", aliasCommand), ("bg", needingJob), ("break", jump .leave),
  ("cd", cd), ("chdir", cd), ("continue", jump .skip), ("echo", echo), ("exit", leaving .exit),
  ("export", marking Binding.exported fun b => { b with exported := true }), ("false", answering 1),
  ("fg", needingJob), ("getopts", getopts), ("jobs", jobs), ("local", localVariables), ("printf", printf),
  ("pwd", pwd), ("read", readLine),
  ("readonly", marking Binding.readOnly fun b => { b with readOnly := true }), ("return", leaving .back),
  ("set", setCommand), ("shift", shift), ("test", test), ("times", times), ("trap", trap),
  ("true", answering 0), ("ulimit", ulimit), ("umask", umask), ("unalias", unaliasCommand),
  ("unset", unset), ("wait", waitFor)]

/-- The commands that run other scripts or look for other commands. -/
def others : List String := [".", "command", "eval", "exec", "hash", "kill", "type"]

def find? (name : Octets) : Option (List Octets → ShellM Unit) :=
  (table.find? fun e => e.1.toList == name).map fun e => e.2 name

def isBuiltin (name : Octets) : Bool :=
  (table.any fun e => e.1.toList == name) || others.any fun n => n.toList == name

def isSpecial (name : Octets) : Bool :=
  StatementReader.specialCommands.any fun n => n.toList == name

/-- The commands whose arguments may be assignments, which are not split. -/
def takesAssignments (name : Octets) : Bool :=
  ["alias", "export", "local", "readonly"].any fun n => n.toList == name

end TlaDigest.Script.Builtin

import TlaDigest.Run
import TlaDigest.Script.Interpreter

/-!
# A machine of scripts

A host with programs of its own: a shell, and small programs that copy, cut and print. They are
functions, so nothing outside is started. Every other program is missing.

The modules under `Script` stand in for the operating system and take no part in the theory. The
parsers, the reports and the runs of tools are about any `Host`, and so is every theorem: no module
outside `Script` imports one of these. They are here so that a run can be carried out at all, and a
host that starts real processes would take the place of `host` without a change elsewhere.
-/

namespace TlaDigest.Script

open Text

def programDirectory : Place := FileTree.placeOf "/usr/bin"

def installed (tree : FileTree) : FileTree :=
  let programs := Launch.programNames.map fun name =>
    (programDirectory ++ [name.toList],
      FileEntry.file (Launch.programMark ++ toBytes (octets name)) true)
  { tree with entries := tree.entries ++ programs }

def firstProcess : Nat := 4000

/-- A process before it does anything: its input is empty, everything that it prints is taken, and its
    messages are taken as long as they are text. -/
def freshProcess (tree : FileTree) : Shell where
  name := []
  parameters := []
  bindings := [("HOME".toList, ⟨some "/root".toList, true, false⟩),
    ("PATH".toList, ⟨some Launch.usualSearch.toList, true, false⟩)]
  functions := []
  aliases := []
  documents := #[]
  known := []
  settings := []
  status := 0
  substituted := 0
  process := firstProcess
  lineage := [firstProcess]
  background := []
  lastBackground := none
  channels := [(0, .nothing), (1, .output 0), (2, .output 1)]
  traps := []
  locals := []
  loops := 0
  tested := false
  isLast := false
  line := 0
  context := []
  directory := []
  optionIndex := 1
  optionOffset := none
  mask := 18
  limits := []
  niceness := 0
  clock := 0
  owners := []
  faulty := false
  world := ⟨tree, #[.kept, .watched], #[], #[], [], firstProcess + 1⟩

def maxArgument : Nat := 131071

def maxArguments : Nat := 2 * 1024 * 1024 - 4096

/-- The arguments take too much room: each takes its bytes, an end and a pointer. -/
def isTooLong (args : List String) : Bool :=
  (args.any fun s => maxArgument < s.utf8ByteSize) ||
    maxArguments < total (args.map fun s => s.utf8ByteSize + 9)

def process (sh : Shell) (command : Command) : Process :=
  let action := Launch.execute (Interpreter.engine Interpreter.maxDepth) (octets command.program)
    (command.args.map octets)
  let (result, after) := action.run.run sh
  let out := toBytes (after.world.written (.output 0))
  ⟨some (if out.isEmpty then [] else [.block out]), toBytes (after.world.written (.output 1)),
    .ok (ShellM.exitOf result after)⟩

/-- Starts a command. A script without a first line that names a program cannot be started. -/
def launch (tree : FileTree) (command : Command) : Except LaunchError Process :=
  let sh := freshProcess (installed tree)
  if (command.program :: command.args).any fun s => s.toList.contains '\x00' then
    .error .embeddedNul
  else
    match Launch.programFor sh.world.tree (Launch.shellSearch sh) (octets command.program) with
    | .error cause => .error (.program cause)
    | .ok program =>
      let isBare := match program with
        | .script _ text => (Launch.interpreter? text).isNone
        | .tool _ => false
      if isTooLong (command.program :: command.args) then .error (.program .tooManyArguments)
      else if isBare then .error (.program .notProgram)
      else .ok (process sh command)

def host (tree : FileTree) : Host := ⟨launch tree⟩

end TlaDigest.Script

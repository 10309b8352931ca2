import TlaDigest.Program

/-!
# The command

It looks up what the program needs from outside, and prints what it answers. The host that starts the
tools is a parameter here as it is in `Run`: nothing up to this module knows what a process does.
-/

namespace TlaDigest.Main

def cause : IO.Error → FileError
  | .noFileOrDirectory .. => .notFound
  | .permissionDenied .. => .denied
  | .inappropriateType .. => .isDirectory
  | e => .other (toString e)

def contents (path : Path) : IO (Except FileError (List UInt8)) := do
  try
    let bytes ← IO.FS.readBinFile path.text
    return .ok bytes.toList
  catch e => return .error (cause e)

/-- Access to files that have been read. -/
def filesOf (read : List (Path × Except FileError (List UInt8))) : Files where
  read := fun path => ((read.find? fun e => e.1.same path).map Prod.snd).getD (.error .notFound)
  isFile := fun path => read.any fun e => e.1.same path &&
    match e.2 with
    | .error .notFound => false
    | .error .isDirectory => false
    | _ => true

partial def readInput (input : IO.FS.Stream) (sofar : List Stream.Read) : IO (List Stream.Read) := do
  let bytes ← input.read 8192
  if bytes.isEmpty then return sofar.reverse
  readInput input (.block bytes.toList :: sofar)

def wantsInput (args : List String) : Bool :=
  match Arguments.parse args with
  | .ok ⟨_, _, _, .read ..⟩ => true
  | _ => false

def makeLog (dir : Option Path) (args : List String) : IO Unit := do
  let number ← IO.monoNanosNow
  match dir, Program.logFile? dir (toString number) args with
  | some dir, some file =>
    try
      IO.FS.createDirAll dir.text
      IO.FS.writeFile file.text ""
    catch _ => return
  | _, _ => return

/-- The command with its arguments. It answers the code to exit with. -/
def command (host : Host) (args : List String) : IO UInt32 := do
  let environment := (← IO.getEnv "TLA_TOOLS_CONFIG").map Path.mk
  let usual := Program.usualPlace? (← IO.getEnv "XDG_CONFIG_HOME") (← IO.getEnv "HOME")
  let named := match Arguments.parse args with
    | .ok args => args.config
    | .error _ => none
  let places := named.toList ++ environment.toList ++ usual.toList
  let read ← places.mapM fun path => return (path, ← contents path)
  let input ← if wantsInput args then readInput (← IO.getStdin) [] else pure []
  makeLog ((← IO.getEnv "TLA_LOG_DIR").map Path.mk) args
  let printout := Program.run ⟨filesOf read, host, environment, usual, input⟩ args
  IO.print printout.out
  IO.eprint printout.err
  return UInt32.ofNat printout.exitCode

end TlaDigest.Main

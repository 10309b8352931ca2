import TlaDigest.Files
import TlaDigest.Settings
import TlaDigest.Stream.Source
import TlaDigest.ToolRun
import TlaDigest.Transcript

/-!
# Running the tools

A host starts a command and tells what its process did. What was started and what was printed is
kept in a session, also when the run fails. The settings of a tool are looked at before that tool is
started.
-/

namespace TlaDigest

/-- What a process did. -/
structure Process where
  /-- The reads that its output answered, unless its output was not captured. -/
  stdout : Option (List Stream.Read)
  stderr : List UInt8
  /-- How it ended, or why that could not be learnt. -/
  exit : Except String Exit

inductive LaunchError where
  | program (cause : FileError)
  /-- The program or an argument holds a NUL. -/
  | embeddedNul
deriving DecidableEq, Repr

def LaunchError.message : LaunchError → String
  | .program cause => cause.message
  | .embeddedNul => "nul byte found in provided data"

/-- What starts processes. -/
structure Host where
  launch : Command → Except LaunchError Process

/-- What was started and what was printed. -/
structure Session where
  started : List Command
  transcript : Transcript
deriving Repr

def Session.empty : Session := ⟨[], .empty⟩

inductive ToolError where
  | notModule (path : Path)
  /-- The settings do not say how to start the tool. -/
  | unset (cause : Settings.Unset)
  | launch (program : String) (cause : LaunchError)
  /-- There is no output to read. -/
  | uncaptured (tool : String)
  | stream (cause : Stream.StreamError)
  | wait (tool : String) (cause : String)
deriving DecidableEq, Repr

def ToolError.message : ToolError → String
  | .notModule path => path.text ++ " is not a TLA+ module"
  | .unset .missingJar => "tla2tools.jar location is not configured"
  | .unset (.emptyCommand tool) => "empty command configured for " ++ tool.name
  | .launch program cause => "failed to spawn " ++ program ++ ": " ++ cause.message
  | .uncaptured tool => tool ++ " stdout was not captured"
  | .stream cause => cause.message
  | .wait tool cause => "failed to wait for " ++ tool ++ ": " ++ cause

namespace Run

variable {σ ω : Type}

/-- The file of a module has the extension `tla`. -/
def isModule (path : Path) : Bool := path.extension? == some "tla"

/-- What a process printed: the lines of its output, which the parser took too, and then the lines of
    its error output, as far as they are text. -/
def observe (p : LineParser σ ω) (tool : String) (stdout : List Stream.Read) (stderr : List UInt8)
    (before : Transcript) : Except Stream.StreamError ω × Transcript :=
  let outcome := Stream.readToEnd (p.tee before) (Stream.cutReads stdout)
  (outcome.result.map Prod.fst, outcome.transcript.addLines tool (Stream.strictLines stderr))

/-- What a process that was started comes to. How it ended is asked for last. -/
def follow (tool : String) (process : Process) (p : LineParser σ ω) (before : Transcript) :
    Except ToolError (ToolRun ω) × Transcript :=
  match process.stdout with
  | none => (.error (.uncaptured tool), before)
  | some stdout =>
    match observe p tool stdout process.stderr before with
    | (.error cause, transcript) => (.error (.stream cause), transcript)
    | (.ok output, transcript) =>
      match process.exit with
      | .error cause => (.error (.wait tool cause), transcript)
      | .ok exit => (.ok ⟨output, exit⟩, transcript)

def run (host : Host) (command : Command) (p : LineParser σ ω) (s : Session) :
    Except ToolError (ToolRun ω) × Session :=
  match host.launch command with
  | .error cause => (.error (.launch command.program cause), s)
  | .ok process =>
    let (result, transcript) := follow command.tool.name process p s.transcript
    (result, ⟨s.started ++ [command], transcript⟩)

/-- The command for a module, once it is known to be one. -/
def commandFor (settings : Settings) (tool : Tool) (module : Path) : Except ToolError Command :=
  if isModule module then
    match settings.command tool module with
    | .ok command => .ok command
    | .error cause => .error (.unset cause)
  else .error (.notModule module)

def transpile (host : Host) (settings : Settings) (module : Path) (s : Session) :
    Except ToolError (ToolRun Findings) × Session :=
  match commandFor settings .transpiler module with
  | .error cause => (.error cause, s)
  | .ok command => run host command (Transpiler.parser module) s

def analyze (host : Host) (settings : Settings) (module : Path) (s : Session) :
    Except ToolError (ToolRun Analysis) × Session :=
  match commandFor settings .analyzer module with
  | .error cause => (.error cause, s)
  | .ok command => run host command (Analyzer.parser settings.analyzer.extended) s

/-- Transpiles a module and then analyzes it, also when the transpiler reported errors. -/
def parseModule (host : Host) (settings : Settings) (module : Path) (s : Session) :
    Except ToolError ModuleRun × Session :=
  match transpile host settings module s with
  | (.error cause, s) => (.error cause, s)
  | (.ok transpiled, s) =>
    match analyze host settings module s with
    | (.error cause, s) => (.error cause, s)
    | (.ok analyzed, s) => (.ok (.ofRuns transpiled analyzed), s)

end Run

end TlaDigest

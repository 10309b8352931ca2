import TlaDigest.Arguments.Help
import TlaDigest.Report
import TlaDigest.Run
import TlaDigest.Settings.Discovery

/-!
# The program

It reads a command line, does what is asked, and prints a report. What it needs from outside is
given to it, so that it is a function.
-/

namespace TlaDigest.Program

structure Surroundings where
  files : Files
  host : Host
  /-- The file with settings that the environment names. -/
  environment : Option Path
  usual : Option Path
  /-- What the reads of the input answer. -/
  input : List Stream.Read

inductive Failure where
  | settings (cause : SettingsError)
  | tool (cause : ToolError)
  | stream (cause : Stream.StreamError)
deriving DecidableEq, Repr

def Failure.message : Failure → String
  | .settings cause => cause.message
  | .tool cause => cause.message
  | .stream cause => cause.message

/-- The usual place of the settings, below the directory for settings: the one that the environment
    gives, when it is absolute, and else the one in the home directory. -/
def usualPlace? (configHome home : Option String) : Option Path :=
  let absolute := configHome.filter fun dir => dir.toList.head? == some '/'
  let dir := absolute.map Path.mk <|> (home.filter (· != "")).map fun dir => (Path.mk dir).join ".config"
  dir.map fun dir => (dir.join "tla").join "tools.toml"

/-- The settings for a request. What the command line asks for comes on top of what is set. -/
def settingsFor (out : Surroundings) (named : Option Path) (extended : Bool) : Except Failure Settings :=
  match Settings.discover out.files ⟨named, out.environment, out.usual⟩ with
  | .error cause => .error (.settings cause)
  | .ok s =>
    .ok { s with analyzer := { s.analyzer with extended := s.analyzer.extended || extended } }

def outcome {α : Type} (run : Except ToolError α × Session) : Except Failure α :=
  run.1.mapError .tool

def report (out : Surroundings) (args : Arguments) : Except Failure Report :=
  match args.request with
  | .parse file extended => do
    let settings ← settingsFor out args.config extended
    let run ← outcome (Run.parseModule out.host settings file .empty)
    pure (.ofModule run settings.analyzer.extended)
  | .transpile file => do
    let settings ← settingsFor out args.config false
    let run ← outcome (Run.transpile out.host settings file .empty)
    pure (.ofTranspiler run)
  | .analyze file extended => do
    let settings ← settingsFor out args.config extended
    let run ← outcome (Run.analyze out.host settings file .empty)
    pure (.ofAnalyzer run settings.analyzer.extended)
  | .read .transpiler source _ => do
    let parser := Transpiler.parser (source.getD ⟨"-"⟩)
    let findings ← (Stream.readAll parser (Stream.cutReads out.input)).mapError .stream
    pure (.ofFindings findings)
  | .read .analyzer _ extended => do
    let analysis ← (Stream.readAll (Analyzer.parser extended) (Stream.cutReads out.input)).mapError .stream
    pure (.ofAnalysis analysis extended)

def failureCode : Nat := 2

/-- What is printed for a command line that was read. -/
def perform (out : Surroundings) (args : Arguments) : Report.Printout :=
  match report out args with
  | .ok r => r.print args.json
  | .error cause => ⟨"", Report.printed [Report.note cause.message], failureCode⟩

def refuse : UsageError → Report.Printout
  | .help => ⟨Report.printed Arguments.helpLines, "", 0⟩
  | .version => ⟨Report.printed [Arguments.versionLine], "", 0⟩
  | .empty => ⟨"", Report.printed Arguments.helpLines, failureCode⟩
  | e => ⟨"", Report.printed ["error: " ++ Arguments.errorText e, "", Arguments.usageLine], failureCode⟩

def run (out : Surroundings) (args : List String) : Report.Printout :=
  match Arguments.parse args with
  | .ok args => perform out args
  | .error e => refuse e

/-- The file for the log of a process. A command line that is refused leaves none. -/
def logFile? (dir : Option Path) (process : String) (args : List String) : Option Path :=
  match Arguments.parse args with
  | .ok _ => dir.map fun dir => dir.join ("tla." ++ process ++ ".log")
  | .error _ => none

end TlaDigest.Program

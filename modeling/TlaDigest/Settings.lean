import TlaDigest.Toml.Document
import TlaDigest.Tool

/-!
# Settings

How the tools are started. They are read from a TOML document in which every key may be left out and
no other key may stand. A tool is started by Java from its jar, or by a command of its own.
-/

namespace TlaDigest

structure TranspilerSettings where
  /-- Options before the module. -/
  options : List String
  /-- Replaces the start by Java. -/
  command : Option (List String)
deriving DecidableEq, Repr

structure AnalyzerSettings where
  options : List String
  /-- Obligations are collected too. -/
  extended : Bool
  command : Option (List String)
deriving DecidableEq, Repr

structure Settings where
  /-- The Java program, unless `javaHome` is set. -/
  java : Path
  javaHome : Option Path
  jar : Option Path
  javaOptions : List String
  transpiler : TranspilerSettings
  analyzer : AnalyzerSettings
deriving DecidableEq, Repr

namespace Settings

def defaults : Settings where
  java := ⟨"java"⟩
  javaHome := none
  jar := none
  javaOptions := []
  transpiler := ⟨["-nocfg"], none⟩
  analyzer := ⟨[], false, none⟩

/-- Optional paths that name the same file. -/
def samePath? : Option Path → Option Path → Bool
  | none, none => true
  | some p, some q => p.same q
  | _, _ => false

/-- The settings have the same effect as the defaults; the spelling of a path does not matter. -/
def isDefault (s : Settings) : Bool :=
  s.java.same defaults.java && samePath? s.javaHome defaults.javaHome &&
    samePath? s.jar defaults.jar && s.javaOptions == defaults.javaOptions &&
    s.transpiler == defaults.transpiler && s.analyzer == defaults.analyzer

/-! ### Reading -/

inductive Invalid where
  | malformed
  | unknownKey (key : String)
  /-- A value is of another type than its key asks for. -/
  | mistyped (key : String)
deriving DecidableEq, Repr

def Invalid.message : Invalid → String
  | .malformed => "the document is not valid TOML"
  | .unknownKey key => "unknown field: " ++ key
  | .mistyped key => "invalid type for field: " ++ key

def checkKeys (keys : List String) (members : Toml.Members) : Except Invalid Unit :=
  match members.find? fun m => !keys.contains m.1 with
  | some (key, _) => .error (.unknownKey key)
  | none => .ok ()

/-- The value of a key, read by `read?`; `absent` where the key is left out. -/
def setting {α : Type} (members : Toml.Members) (key : String) (read? : Toml → Option α)
    (absent : α) : Except Invalid α :=
  match members.lookup key with
  | none => .ok absent
  | some value =>
    match read? value with
    | some a => .ok a
    | none => .error (.mistyped key)

def path? (value : Toml) : Option Path := value.asString?.map Path.mk

/-- The settings of one tool, as members of a table. They may also be given by position, as an array;
    what is missing at its end is left out, and what is too much is ignored. -/
def group (keys : List String) (key : String) (value : Toml) : Except Invalid Toml.Members :=
  match value with
  | .table members => .ok members
  | .array items => .ok (keys.zip items)
  | _ => .error (.mistyped key)

def transpilerKeys : List String := ["options", "command"]

def analyzerKeys : List String := ["options", "extended", "command"]

def readTranspiler (value : Toml) : Except Invalid TranspilerSettings := do
  let members ← group transpilerKeys "transpiler" value
  checkKeys transpilerKeys members
  let options ← setting members "options" Toml.asStrings? defaults.transpiler.options
  let command ← setting members "command" (fun v => v.asStrings?.map some) none
  pure ⟨options, command⟩

def readAnalyzer (value : Toml) : Except Invalid AnalyzerSettings := do
  let members ← group analyzerKeys "analyzer" value
  checkKeys analyzerKeys members
  let options ← setting members "options" Toml.asStrings? defaults.analyzer.options
  let extended ← setting members "extended" Toml.asBoolean? defaults.analyzer.extended
  let command ← setting members "command" (fun v => v.asStrings?.map some) none
  pure ⟨options, extended, command⟩

def keys : List String := ["java", "java_home", "tla2tools", "java_options", "transpiler", "analyzer"]

/-- The settings of a tool, or its defaults where its key is left out. -/
def readGroup {α : Type} (members : Toml.Members) (key : String) (read : Toml → Except Invalid α)
    (absent : α) : Except Invalid α :=
  match members.lookup key with
  | none => .ok absent
  | some value => read value

def ofMembers (members : Toml.Members) : Except Invalid Settings := do
  checkKeys keys members
  let java ← setting members "java" path? defaults.java
  let javaHome ← setting members "java_home" (fun v => (path? v).map some) none
  let jar ← setting members "tla2tools" (fun v => (path? v).map some) none
  let javaOptions ← setting members "java_options" Toml.asStrings? []
  let transpiler ← readGroup members "transpiler" readTranspiler defaults.transpiler
  let analyzer ← readGroup members "analyzer" readAnalyzer defaults.analyzer
  pure ⟨java, javaHome, jar, javaOptions, transpiler, analyzer⟩

def parse (text : String) : Except Invalid Settings :=
  match Toml.parse? text with
  | none => .error .malformed
  | some members => ofMembers members

/-! ### Commands -/

inductive Unset where
  /-- Java is to start the tool, and its jar is not set. -/
  | missingJar
  /-- The tool's own command names no program. -/
  | emptyCommand (tool : Tool)
deriving DecidableEq, Repr

def javaProgram (s : Settings) : Path :=
  match s.javaHome with
  | some home => (home.join "bin").join "java"
  | none => s.java

def options (s : Settings) : Tool → List String
  | .transpiler => s.transpiler.options
  | .analyzer => s.analyzer.options

/-- The command of a tool's own, if it has one. -/
def ownCommand? (s : Settings) : Tool → Option (List String)
  | .transpiler => s.transpiler.command
  | .analyzer => s.analyzer.command

/-- The program of a tool and the arguments that come before its options. -/
def launcher (s : Settings) (tool : Tool) : Except Unset (String × List String) :=
  match s.ownCommand? tool with
  | some [] => .error (.emptyCommand tool)
  | some (program :: args) => .ok (program, args)
  | none =>
    match s.jar with
    | none => .error .missingJar
    | some jar =>
      .ok (s.javaProgram.text, s.javaOptions ++ ["-cp", jar.text, tool.mainClass])

def command (s : Settings) (tool : Tool) (module : Path) : Except Unset Command :=
  (s.launcher tool).map fun (program, args) =>
    ⟨tool, program, args ++ s.options tool ++ [module.text]⟩

end Settings

end TlaDigest

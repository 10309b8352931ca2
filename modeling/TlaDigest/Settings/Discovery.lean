import TlaDigest.Files
import TlaDigest.Settings

/-!
# Finding the settings

A file that is named, by the caller or by the environment, has to be there; the file at the usual
place may be missing, and then the defaults hold.
-/

namespace TlaDigest

inductive SettingsError where
  | unreadable (path : Path) (cause : FileError)
  | invalid (cause : Settings.Invalid)
deriving DecidableEq, Repr

def SettingsError.message : SettingsError → String
  | .unreadable path cause => "failed to read " ++ path.text ++ ": " ++ cause.message
  | .invalid cause => "failed to parse tools config: " ++ cause.message

namespace Settings

/-- Where settings may come from. -/
structure Sources where
  named : Option Path
  environment : Option Path
  usual : Option Path
deriving DecidableEq, Repr

def load (files : Files) (path : Path) : Except SettingsError Settings :=
  match files.readText path with
  | .error cause => .error (.unreadable path cause)
  | .ok text =>
    match parse text with
    | .error cause => .error (.invalid cause)
    | .ok settings => .ok settings

/-- Finds and reads the settings. -/
def discover (files : Files) (sources : Sources) : Except SettingsError Settings :=
  match sources.named <|> sources.environment with
  | some path => load files path
  | none =>
    match sources.usual with
    | some path => if files.isFile path then load files path else .ok defaults
    | none => .ok defaults

end Settings

end TlaDigest

import TlaDigest.Path
import TlaDigest.Text.Utf8

/-!
# Files

Files as a program sees them: a file can be read, or there is a reason why not.
-/

namespace TlaDigest

inductive FileError where
  | notFound
  | denied
  | notDirectory
  | isDirectory
  | nameTooLong
  /-- There is something already where something new is to be made. -/
  | alreadyThere
  /-- Other files lie in a directory that is to be taken away. -/
  | notEmpty
  /-- Links lead back to where they start. -/
  | linkLoop
  /-- The descriptor is closed, or not for this use. -/
  | badDescriptor
  | noSpace
  /-- What is asked for makes no sense. -/
  | invalid
  /-- A program is in no form that the system knows. -/
  | notProgram
  /-- The name of the file holds a NUL. -/
  | embeddedNul
  /-- The arguments for a program take too much room. -/
  | tooManyArguments
  /-- The bytes of the file are no text. -/
  | notText
  /-- Any other reason, in the words of the system. -/
  | other (text : String)
deriving DecidableEq, Repr

/-- The reason, in the words of the system. -/
def FileError.reason : FileError → String
  | .notFound => "No such file or directory"
  | .denied => "Permission denied"
  | .notDirectory => "Not a directory"
  | .isDirectory => "Is a directory"
  | .nameTooLong => "File name too long"
  | .alreadyThere => "File exists"
  | .notEmpty => "Directory not empty"
  | .linkLoop => "Too many levels of symbolic links"
  | .badDescriptor => "Bad file descriptor"
  | .noSpace => "No space left on device"
  | .invalid => "Invalid argument"
  | .notProgram => "Exec format error"
  | .tooManyArguments => "Argument list too long"
  | .embeddedNul => "file name contained an unexpected NUL byte"
  | .notText => "stream did not contain valid UTF-8"
  | .other text => text

/-- The number that the system gives the reason, where it is one of the system's. -/
def FileError.number? : FileError → Option Nat
  | .notFound => some 2
  | .tooManyArguments => some 7
  | .notProgram => some 8
  | .badDescriptor => some 9
  | .denied => some 13
  | .alreadyThere => some 17
  | .notDirectory => some 20
  | .isDirectory => some 21
  | .invalid => some 22
  | .noSpace => some 28
  | .nameTooLong => some 36
  | .notEmpty => some 39
  | .linkLoop => some 40
  | _ => none

def FileError.message (e : FileError) : String :=
  match e.number? with
  | some n => e.reason ++ " (os error " ++ toString n ++ ")"
  | none => e.reason

structure Files where
  read : Path → Except FileError (List UInt8)
  /-- The path names a file, which need not be readable. -/
  isFile : Path → Bool

def Files.readText (files : Files) (path : Path) : Except FileError String :=
  match files.read path with
  | .error cause => .error cause
  | .ok bytes =>
    match Text.Utf8.decode? bytes with
    | some chars => .ok (String.ofList chars)
    | none => .error .notText

end TlaDigest

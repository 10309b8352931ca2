/-!
# How a process ended

The system reports it as one word, the wait status: its low seven bits hold the signal that ended
the process, or zero when it ended by itself, and the byte after the eighth bit then holds its code.
Only the status zero is a success; the same code may come with other bits set.
-/

namespace TlaDigest

structure Exit where
  wait : UInt32
deriving DecidableEq, Repr

/-- What a wait status says. -/
inductive Ending where
  | code (n : Nat)
  /-- A signal ended it, perhaps with a memory dump. -/
  | signal (n : Nat) (dumped : Bool)
  | stopped (n : Nat)
  | continued
  | unknown
deriving DecidableEq, Repr

namespace Exit

/-- A wait status as a signed number; other numbers are cut to a word. -/
def ofWait (status : Int) : Exit := ⟨UInt32.ofInt status⟩

/-- The status of a process that ended with a code, which is cut to a byte. -/
def ofCode (n : Nat) : Exit := ⟨UInt32.ofNat (n % 256 * 256)⟩

def ofSignal (n : Nat) : Exit := ⟨UInt32.ofNat (n % 127)⟩

def ending (e : Exit) : Ending :=
  let status := e.wait.toNat
  let low := status % 128
  if low = 0 then .code (status / 256 % 256)
  else if low < 127 then .signal low (status / 128 % 2 = 1)
  else if status % 256 = 127 then .stopped (status / 256 % 256)
  else if status = 0xFFFF then .continued
  else .unknown

/-- The process ended by itself and reported no failure. -/
def success (e : Exit) : Bool := e.wait == 0

def code? (e : Exit) : Option Nat :=
  match e.ending with
  | .code n => some n
  | _ => none

def signal? (e : Exit) : Option Nat :=
  match e.ending with
  | .signal n _ => some n
  | _ => none

def signalNames : List String := [
  "SIGHUP", "SIGINT", "SIGQUIT", "SIGILL", "SIGTRAP", "SIGABRT", "SIGBUS", "SIGFPE", "SIGKILL",
  "SIGUSR1", "SIGSEGV", "SIGUSR2", "SIGPIPE", "SIGALRM", "SIGTERM", "SIGSTKFLT", "SIGCHLD", "SIGCONT",
  "SIGSTOP", "SIGTSTP", "SIGTTIN", "SIGTTOU", "SIGURG", "SIGXCPU", "SIGXFSZ", "SIGVTALRM", "SIGPROF",
  "SIGWINCH", "SIGIO", "SIGPWR", "SIGSYS"]

/-- A signal by its number and, when it has one, its name. -/
def signalText (n : Nat) : String :=
  match n with
  | 0 => "0"
  | k + 1 =>
    match signalNames[k]? with
    | some name => s!"{n} ({name})"
    | none => s!"{n}"

def hex (n : Nat) : String := String.ofList (Nat.toDigits 16 n)

def text (e : Exit) : String :=
  match e.ending with
  | .code n => s!"exit status: {n}"
  | .signal n false => "signal: " ++ signalText n
  | .signal n true => "signal: " ++ signalText n ++ " (core dumped)"
  | .stopped n => "stopped (not terminated) by signal: " ++ signalText n
  | .continued => "continued (WIFCONTINUED)"
  | .unknown => "unrecognised wait status: " ++ toString e.wait.toInt32.toInt ++ " 0x" ++ hex e.wait.toNat

end Exit

end TlaDigest

import TlaDigest.Main
import TlaDigest.Script.Programs

/-!
# The command on the machine of scripts

The only place where the command meets `Script.host`. A configured command that names a program which
that machine does not have, Java among them, is reported as one that cannot be started.
-/

def main (args : List String) : IO UInt32 :=
  TlaDigest.Main.command (TlaDigest.Script.host (.usual [])) args

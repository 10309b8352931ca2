import TlaDigest.Script.Builtin.Answer

/-!
# The limits of a process

Each has a soft value, which counts, and a hard one, up to which the soft one can be set; a hard
value can only be lowered.
-/

namespace TlaDigest.Script.Builtin

open Text ShellM

/-- A limit by the letter that asks for it, with its name and the values that it has at first. -/
def limitTable : List (Char × String × Limit) := [
  ('t', "time(seconds)", ⟨none, none⟩), ('f', "file(blocks)", ⟨none, none⟩),
  ('d', "data(kbytes)", ⟨none, none⟩), ('s', "stack(kbytes)", ⟨some 8192, none⟩),
  ('c', "coredump(blocks)", ⟨some 0, none⟩), ('m', "memory(kbytes)", ⟨none, none⟩),
  ('l', "locked memory(kbytes)", ⟨some 8192, some 8192⟩), ('p', "process", ⟨none, none⟩),
  ('n', "nofiles", ⟨some 1048576, some 1048576⟩), ('v', "vmemory(kbytes)", ⟨none, none⟩),
  ('w', "locks", ⟨none, none⟩), ('r', "rtprio", ⟨some 0, some 0⟩)]

def limitOf (sh : Shell) (letter : Char) : Limit :=
  (sh.limits.lookup letter).getD (((limitTable.lookup letter).map (·.2)).getD ⟨none, none⟩)

def limitText (value : Option Nat) : Octets := (value.map decimal).getD "unlimited".toList

def isWithin (value bound : Option Nat) : Bool :=
  match value, bound with
  | _, none => true
  | none, some _ => false
  | some n, some m => n ≤ m

/-- The limit with a new value, soft or hard or both; none if that is not allowed. -/
def changedLimit? (l : Limit) (soft hard : Bool) (value : Option Nat) : Option Limit :=
  let next : Limit := ⟨if soft then value else l.soft, if hard then value else l.hard⟩
  if isWithin next.hard l.hard && isWithin next.soft next.hard then some next else none

/-- The value of a limit that is asked for; the first answer is none for what is no value. -/
def limitValue? (text : Octets) : Option (Option Nat) :=
  if text == "unlimited".toList then some none
  else if text.all isDecimalDigit then some (some ((nat? text).getD 0))
  else none

def ulimit : Command := fun name args =>
  withOptions name "HSatfdscmlpnvwr" "" args fun letters args => do
    let sh ← get
    let kinds := letters.filterMap fun l => if l.1 == 'H' || l.1 == 'S' then some l.1 else none
    let hard := kinds.isEmpty || kinds.contains 'H'
    let soft := kinds.isEmpty || kinds.contains 'S'
    let shown (l : Limit) : Octets := limitText (if soft then l.soft else l.hard)
    let letter := ((letters.filter fun l => !"HSa".toList.contains l.1).getLast?.map (·.1)).getD 'f'
    let all := letters.any fun l => l.1 == 'a'
    setStatus 0
    match args with
    | [] =>
      if all then
        write 1 (limitTable.flatMap fun (c, title, _) =>
          title.toList ++ List.replicate (20 - title.length) ' ' ++ ' ' :: shown (limitOf sh c) ++ ['\n'])
      else write 1 (shown (limitOf sh letter) ++ ['\n'])
    | [value] =>
      if all then mistake name "too many arguments".toList 2
      else
        match limitValue? value with
        | none => mistake name "bad number".toList 2
        | some value =>
          match changedLimit? (limitOf sh letter) soft hard value with
          | none => mistake name "error setting limit (Operation not permitted)".toList 2
          | some l => set { sh with limits := (letter, l) :: sh.limits.filter (fun e => e.1 != letter), status := 0 }
    | _ => mistake name "too many arguments".toList 2

end TlaDigest.Script.Builtin

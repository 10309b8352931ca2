/-!
# Blank characters

They separate the fields of a record, indent a message and are trimmed from both ends of a line.
Trimming works on lists of characters, so that every reader of a line is a plain recursion on its
text.
-/

namespace TlaDigest.Text

/-- The characters with the property White_Space: the controls from tab to carriage return,
    the space, the next-line control, and the spaces and separators beyond ASCII. -/
def isBlank (c : Char) : Bool :=
  let n := c.toNat
  (0x09 ≤ n && n ≤ 0x0D) || n == 0x20 || n == 0x85 || n == 0xA0 || n == 0x1680 ||
    (0x2000 ≤ n && n ≤ 0x200A) || n == 0x2028 || n == 0x2029 || n == 0x202F || n == 0x205F ||
    n == 0x3000

def trimStart (cs : List Char) : List Char := cs.dropWhile isBlank

def trimEnd (cs : List Char) : List Char := (trimStart cs.reverse).reverse

def trim (cs : List Char) : List Char := trimEnd (trimStart cs)

def trimmed (s : String) : String := String.ofList (trim s.toList)

/-- The characters of keys and names: the ASCII letters and digits, and the underscore. -/
def isNameChar (c : Char) : Bool := c.isAlphanum || c == '_'

def after? : List Char → List Char → Option (List Char)
  | [], cs => some cs
  | _ :: _, [] => none
  | w :: word, c :: cs => if w = c then after? word cs else none

/-- The list cut at its first element that satisfies `stop`: what stands before it, and the
    rest from it on. -/
def cutAt {α : Type} (stop : α → Bool) (xs : List α) : List α × List α :=
  (xs.takeWhile (fun x => !stop x), xs.dropWhile (fun x => !stop x))

/-- The pieces of `xs` between the elements equal to `sep`. There is one more piece than there
    are separators, so the empty list has one empty piece. -/
def splitOn {α : Type} [DecidableEq α] (sep : α) : List α → List (List α)
  | [] => [[]]
  | x :: xs =>
    if x = sep then [] :: splitOn sep xs
    else
      match splitOn sep xs with
      | [] => [[x]]
      | piece :: pieces => (x :: piece) :: pieces

def joinWith {α : Type} (sep : α) : List (List α) → List α
  | [] => []
  | [piece] => piece
  | piece :: pieces => piece ++ sep :: joinWith sep pieces

/-- Lines put together with line breaks between them. -/
def joinLines (lines : List String) : String :=
  String.ofList (joinWith '\n' (lines.map String.toList))

/-- The list without one element equal to `x` at its end. -/
def dropFinal {α : Type} [DecidableEq α] (x : α) (xs : List α) : List α :=
  if xs.getLast? = some x then xs.dropLast else xs

/-- The lines of a text. A line break is a line feed, with the carriage return before it if there is
    one; text after the last line break is a line when it is not empty. -/
def lines (cs : List Char) : List (List Char) :=
  let pieces := splitOn '\n' cs
  pieces.dropLast.map (dropFinal '\r') ++ pieces.getLast?.toList.filter (· ≠ [])

@[simp] theorem splitOn_ne_nil {α : Type} [DecidableEq α] (sep : α) (xs : List α) :
    splitOn sep xs ≠ [] := by
  cases xs with
  | nil => simp [splitOn]
  | cons x xs =>
    rw [splitOn]
    split
    · simp
    · split <;> simp

/-- Cutting at a separator and joining again gives the list back. -/
@[simp] theorem joinWith_splitOn {α : Type} [DecidableEq α] (sep : α) (xs : List α) :
    joinWith sep (splitOn sep xs) = xs := by
  induction xs with
  | nil => rfl
  | cons x xs ih =>
    rw [splitOn]
    cases h : splitOn sep xs with
    | nil => exact absurd h (splitOn_ne_nil sep xs)
    | cons piece pieces =>
      rw [h] at ih
      split
      · next hx => subst hx; simp [joinWith, ih]
      · cases pieces with
        | nil => simpa [joinWith] using ih
        | cons q qs => simpa [joinWith] using ih

end TlaDigest.Text

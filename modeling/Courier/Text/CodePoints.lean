/-!
# Tables over code points

A table is written as lines of words. The words of a set are its ranges, such as `41-5A` or `5F`.
The words of a map are runs, such as `C0>41.300,41.301`: the first code point of the run, then what
it and its neighbours stand for, one code point or several with points between them. All numbers are
hexadecimal.
-/

namespace Courier.Text

/-- A set of code points, as closed ranges. -/
abbrev CodePoints := List (Nat × Nat)

namespace CodePoints

/-- The value of a hexadecimal number in capitals. -/
def number (digits : List Char) : Nat :=
  digits.foldl (fun n c => n * 16 + if c.isDigit then c.toNat - 48 else c.toNat - 55) 0

/-- The words of lines. -/
def words (lines : List String) : List (List Char) :=
  lines.flatMap fun line => line.toList.splitOn ' '

/-- The range that a word stands for. -/
def range (word : List Char) : Nat × Nat :=
  match word.splitOn '-' with
  | [first, last] => (number first, number last)
  | _ => (number word, number word)

/-- Reads a set. -/
def ofLines (lines : List String) : CodePoints := (words lines).map range

/-- Whether a set holds a code point. -/
def holds (s : CodePoints) (n : Nat) : Bool := s.any fun r => r.1 ≤ n && n ≤ r.2

/-! ## Maps -/

/-- What code points stand for: the first of each run, and the images of it and its neighbours. -/
abbrev Images := List (Nat × Array (List Nat))

/-- Reads an image: code points with points between them. -/
def image (item : List Char) : List Nat := (item.splitOn '.').map number

/-- Reads a run. -/
def run? (word : List Char) : Option (Nat × Array (List Nat)) :=
  match word.splitOn '>' with
  | [first, items] => some (number first, ((items.splitOn ',').map image).toArray)
  | _ => none

/-- Reads a map. -/
def Images.ofLines (lines : List String) : Images := (words lines).filterMap run?

/-- The image of a code point. -/
def Images.get? (m : Images) (n : Nat) : Option (List Nat) :=
  m.findSome? fun run => if run.1 ≤ n then run.2[n - run.1]? else none

end CodePoints

end Courier.Text

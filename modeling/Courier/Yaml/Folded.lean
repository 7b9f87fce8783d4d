import Courier.Yaml.Glyph

/-!
# Folded lines

A scalar that goes on over several lines is one text: a line end becomes a blank, and of several
line ends in a row all but the first are kept. Blanks around line ends do not count.
-/

namespace Courier.Yaml

/-- The text of a scalar so far, last character first. Blanks wait until it is known whether the
    line goes on after them, and line ends until the next line starts. -/
structure Folded where
  text : List Char := []
  blanks : List Char := []
  breaks : Option (Option Char × List Char) := none
  deriving DecidableEq, Repr, Inhabited

namespace Folded

/-- Whether blanks or line ends wait. -/
def isWaiting (f : Folded) : Bool := !f.blanks.isEmpty || f.breaks.isSome

/-- Decides what the blanks and line ends before the next character become: one line feed becomes a
    blank, several lose the first. -/
def settle (f : Folded) : Folded :=
  match f.breaks with
  | none => { text := f.blanks ++ f.text }
  | some (some '\n', []) => { text := ' ' :: f.text }
  | some (some '\n', more) => { text := more ++ f.text }
  | some (first, more) => { text := more ++ first.toList ++ f.text }

/-- Adds a character that stands for itself. -/
def push (f : Folded) (c : Char) : Folded :=
  let f := f.settle
  { f with text := c :: f.text }

/-- Adds a blank. -/
def blank (f : Folded) (c : Char) : Folded :=
  match f.breaks with
  | none => { f with blanks := c :: f.blanks }
  | some _ => f

/-- Adds a line end. -/
def lineEnd (f : Folded) (c : Char) : Folded :=
  match f.breaks with
  | none => { f with blanks := [], breaks := some (some c, []) }
  | some (first, more) => { f with breaks := some (first, c :: more) }

/-- Joins the next line without a blank. -/
def joinLine (f : Folded) : Folded := { f.settle with breaks := some (none, []) }

/-- Adds any character of the text. -/
def add (f : Folded) (c : Char) : Folded :=
  if isBreak c then f.lineEnd c else if isBlank c then f.blank c else f.push c

/-- The text without what waits. -/
def read (f : Folded) : String := String.ofList f.text.reverse

/-- The whole text. -/
def finish (f : Folded) : String := f.settle.read

end Folded

end Courier.Yaml

import Courier.Yaml.Glyph

/-!
# Block scalars

A block scalar is the lines below its mark that are indented deep enough. A literal one keeps its
line ends; a folded one joins lines, but not those that start with a blank. What becomes of the line
ends behind it is said beside the mark.
-/

namespace Courier.Yaml.Block

open Glyph

/-! ## Headers -/

/-- Which line ends behind the last line are kept. -/
inductive Tail
  | strip
  | clip
  | keep
  deriving DecidableEq, Repr, Inhabited

/-- The tail that a character asks for. -/
def tail? (c : Char) : Option Tail :=
  if c = '-' then some .strip else if c = '+' then some .keep else none

/-- The indentation that a character asks for. -/
def indentation? (c : Char) : Option Nat := if c.isDigit then some (c.toNat - 48) else none

/-- What stands beside the mark: the tail, the indentation, and the rest. -/
structure Header where
  tail : Tail := .clip
  indentation : Option Nat := none
  rest : List Glyph

/-- Reads what stands beside the mark, in any order. -/
def Header.read (text : List Glyph) : Header :=
  match tail? (next text), indentation? (next text) with
  | some tail, _ =>
    match indentation? (next (text.drop 1)) with
    | some n => ⟨tail, some n, text.drop 2⟩
    | none => ⟨tail, none, text.drop 1⟩
  | none, some n =>
    match tail? (next (text.drop 1)) with
    | some tail => ⟨tail, some n, text.drop 2⟩
    | none => ⟨.clip, some n, text.drop 1⟩
  | none, none => ⟨.clip, none, text⟩

/-! ## Lines -/

/-- A block scalar so far: its text, last character first, the line end behind the last line, those
    of the empty lines after it, whether that line starts with a blank, and whether it goes on. -/
structure Lines where
  literal : Bool
  column : Nat
  text : List Char := []
  lineEnd : Option Char := none
  emptyLines : List Char := []
  afterBlank : Bool := false
  inLine : Bool := false

namespace Lines

/-- Starts a line with a character. -/
def startLine (s : Lines) (c : Char) : Lines :=
  let joins := !s.literal && s.lineEnd == some '\n' && !s.afterBlank && !isBlank c
  let between :=
    if joins then if s.emptyLines.isEmpty then [' '] else [] else s.lineEnd.toList
  { s with
    text := c :: (s.emptyLines ++ (between ++ s.text))
    lineEnd := none
    emptyLines := []
    afterBlank := isBlank c
    inLine := true }

/-- Reads lines as long as they are indented. A tab is no indentation. -/
def read? (s : Lines) : List Glyph → Option (Lines × List Glyph)
  | [] => some (s, [])
  | g :: rest =>
    if s.inLine then
      if isBreak g.char then read? { s with inLine := false, lineEnd := some g.char } rest
      else if g.char = endMark then some (s, g :: rest)
      else read? { s with text := g.char :: s.text } rest
    else if isBreak g.char then read? { s with emptyLines := g.char :: s.emptyLines } rest
    else if g.column < s.column then
      if g.char = ' ' then read? s rest
      else if g.char = '\t' then none
      else some (s, g :: rest)
    else if g.column = s.column ∧ g.char ≠ endMark then read? (s.startLine g.char) rest
    else some (s, g :: rest)

/-- The whole text. -/
def finish (s : Lines) (tail : Tail) : String :=
  let text := match tail with
    | .strip => s.text
    | .clip => s.lineEnd.toList ++ s.text
    | .keep => s.emptyLines ++ (s.lineEnd.toList ++ s.text)
  String.ofList text.reverse

end Lines

/-- Looks for the first line that is not empty: the widest indentation up to it, the line ends
    before it, last one first, and the rest. -/
def firstLine? (widest : Nat) (breaks : List Char) :
    List Glyph → Option (Nat × List Char × List Glyph)
  | [] => some (widest, breaks, [])
  | g :: rest =>
    if g.char = ' ' then firstLine? widest breaks rest
    else if g.char = '\t' then none
    else if isBreak g.char then firstLine? (max widest g.column) (g.char :: breaks) rest
    else some (max widest g.column, breaks, g :: rest)

/-- Reads a block scalar after its mark, in a block whose content starts in a certain column at
    least. -/
def read? (literal : Bool) (column : Nat) (text : List Glyph) : Option (String × List Glyph) := do
  let header := Header.read text
  let rest ← nextLine? header.rest
  let (start, rest) ← match header.indentation with
    | some 0 => none
    | some n => some ({ literal, column := column - 1 + n }, rest)
    | none =>
      let (widest, breaks, rest) ← firstLine? 0 [] rest
      some ({ literal, column := max widest (max column 1), emptyLines := breaks }, rest)
  let (lines, rest) ← Lines.read? start rest
  some (lines.finish header.tail, rest)

end Courier.Yaml.Block

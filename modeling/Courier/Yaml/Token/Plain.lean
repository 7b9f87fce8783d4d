import Courier.Yaml.Folded

/-!
# Plain scalars

A scalar without quotes ends where something with a meaning of its own starts: a colon before a
blank, a comment, a mark of a flow collection around it, or a line that does not belong to it.
-/

namespace Courier.Yaml.Plain

open Glyph

/-- A plain scalar that has been read: its text, whether a line end follows, and the rest. -/
structure Outcome where
  text : String
  endsLine : Bool
  rest : List Glyph

/-- Whether a colon here is an error: in a flow collection, where it looks like the start of
    another. -/
def isStrayColon (inFlow : Bool) (text : List Glyph) : Bool :=
  inFlow && next text == ':' && (next (text.drop 1) == '?' || isFlowMark (next (text.drop 1)))

/-- Whether a plain scalar ends before a character that is no blank. -/
def endsBefore (inFlow : Bool) (text : List Glyph) : Bool :=
  next text == endMark || (next text == ':' && endsWord (next (text.drop 1))) ||
    (inFlow && isFlowMark (next text))

/-- Whether a word here is no part of a scalar of which words precede. In a block it has to start in
    a certain column at least. -/
def endsBeforeWord (inFlow : Bool) (column : Nat) (text : List Glyph) : Bool :=
  next text == '#' || isBoundary text ||
    (!inFlow && text.head?.any fun g => g.column < column)

/-- Reads a plain scalar, of which a part may have been read. -/
def read? (inFlow : Bool) (column : Nat) (f : Folded) : List Glyph → Option Outcome
  | [] => some ⟨f.read, f.breaks.isSome, []⟩
  | g :: rest =>
    if isBreak g.char then read? inFlow column (f.lineEnd g.char) rest
    else if isBlank g.char then
      if g.char = '\t' ∧ f.breaks.isSome ∧ g.column < column then none
      else read? inFlow column (f.blank g.char) rest
    else
      let text := g :: rest
      let ended : Option Outcome := some ⟨f.read, f.breaks.isSome, text⟩
      if f.isWaiting ∧ endsBeforeWord inFlow column text then ended
      else if isStrayColon inFlow text then none
      else if endsBefore inFlow text then ended
      else read? inFlow column (f.push g.char) rest

end Courier.Yaml.Plain

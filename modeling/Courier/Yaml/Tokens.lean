import Courier.Yaml.Token.Block
import Courier.Yaml.Token.Directive
import Courier.Yaml.Token.Plain
import Courier.Yaml.Token.Quoted

/-!
# The tokens of a text

Block structure follows from columns: a collection opens where an item or a key starts further right
than those around it, and ends before the first token further left. That something was a key shows
only at the colon behind it, so the places where keys may have started are remembered, one for each
flow collection that is open.
-/

namespace Courier.Yaml

open Glyph

/-- A place where a key may have started: its line and column, and how many tokens precede it. A
    required one stands where only a key may start. -/
structure Candidate where
  index : Nat
  line : Nat
  column : Nat
  required : Bool
  deriving DecidableEq, Repr, Inhabited

/-- How long a key may be, with what stands between it and its colon. -/
def maxKeyLength : Nat := 1024

/-- Whether a colon at some place is too far from the key. -/
def Candidate.isStale (c : Candidate) (g : Glyph) : Bool :=
  c.line < g.line || c.column + maxKeyLength < g.column

/-- The text not read yet, the tokens so far, the columns of open block collections, innermost
    first, the place where a key may have started here and in the collections around, and whether a
    key may start next. -/
structure Scan where
  rest : List Glyph
  tokens : Array Token := #[]
  indents : List Nat := []
  candidate : Option Candidate := none
  outer : List (Option Candidate) := []
  keyAllowed : Bool := true
  deriving Inhabited

namespace Scan

/-- Whether a flow collection is open. -/
def inFlow (s : Scan) : Bool := !s.outer.isEmpty

/-- The next character and its place. -/
def head (s : Scan) : Glyph := s.rest.headD ⟨endMark, 0, 0⟩

/-- The column where the content of the innermost block collection starts at least. -/
def contentColumn (s : Scan) : Nat :=
  match s.indents with
  | [] => 0
  | column :: _ => column + 1

/-- Adds a token. -/
def emit (s : Scan) (t : Token) : Scan := { s with tokens := s.tokens.push t }

/-- Adds the token that some characters are. -/
def take (s : Scan) (t : Token) (length : Nat) : Scan :=
  { s.emit t with rest := s.rest.drop length }

/-- Adds a token that has been read. -/
def accept (s : Scan) (p : Token × List Glyph) : Scan := { s.emit p.1 with rest := p.2 }

/-! ## Places of keys -/

/-- Gives up the place where a key may have started. -/
def dropKey? (s : Scan) : Option Scan :=
  if s.candidate.any Candidate.required then none else some { s with candidate := none }

/-- Remembers that a key may start here. -/
def saveKey? (s : Scan) : Option Scan :=
  if s.keyAllowed then
    s.dropKey?.map fun s =>
      let required := !s.inFlow && s.indents.head? == some s.head.column
      { s with candidate := some ⟨s.tokens.size, s.head.line, s.head.column, required⟩ }
  else some s

/-! ## Block collections -/

/-- Ends the block collections further right than a column. -/
def unroll (s : Scan) (column : Nat) : Scan :=
  if s.inFlow then s
  else
    { s with
      tokens := s.tokens ++ (s.indents.takeWhile (column < ·)).map fun _ => Token.blockEnd
      indents := s.indents.dropWhile (column < ·) }

/-- Ends all block collections. -/
def unrollAll (s : Scan) : Scan :=
  if s.inFlow then s
  else { s with tokens := s.tokens ++ s.indents.map fun _ => Token.blockEnd, indents := [] }

/-- Opens a block collection whose first token is given by its index, unless one is open in its
    column. -/
def roll (s : Scan) (t : Token) (index column : Nat) : Scan :=
  if !s.inFlow && s.indents.head?.all (· < column) then
    { s with
      tokens := s.tokens.insertIdxIfInBounds index t
      indents := column :: s.indents }
  else s

/-- Opens a block collection here. It starts where a key may start. -/
def rollHere? (s : Scan) (t : Token) : Option Scan :=
  if s.inFlow then some s
  else if s.keyAllowed then some (s.roll t s.tokens.size s.head.column)
  else none

/-! ## Tokens -/

/-- The text after blanks, comments and line ends, and whether a key may start there. -/
def gap (inFlow keyAllowed inComment : Bool) : List Glyph → Bool × List Glyph
  | [] => (keyAllowed, [])
  | g :: rest =>
    if isBreak g.char then gap inFlow (keyAllowed || !inFlow) false rest
    else if g.char = endMark then (keyAllowed, g :: rest)
    else if inComment || g.char == '#' then gap inFlow keyAllowed true rest
    else if g.char = ' ' then gap inFlow keyAllowed false rest
    else if g.char = '\t' ∧ (inFlow || !keyAllowed) then gap inFlow keyAllowed false rest
    else if g.char = byteOrderMark ∧ g.column = 0 then gap inFlow keyAllowed false rest
    else (keyAllowed, g :: rest)

/-- Goes to the next token and ends the block collections that do not go on there. -/
def advance (s : Scan) : Scan :=
  let (keyAllowed, rest) := gap s.inFlow s.keyAllowed false s.rest
  let s := { s with rest, keyAllowed }
  s.unroll s.head.column

/-- Ends what is open before a directive or a boundary of documents. -/
def endDocument? (s : Scan) : Option Scan :=
  s.unrollAll.dropKey?.map fun s => { s with keyAllowed := false }

/-- Reads the start of a flow collection. -/
def flowStart? (s : Scan) (t : Token) : Option Scan :=
  s.saveKey?.map fun s =>
    { s.take t 1 with candidate := none, outer := s.candidate :: s.outer, keyAllowed := true }

/-- Reads the end of a flow collection. -/
def flowEnd? (s : Scan) (t : Token) : Option Scan :=
  s.dropKey?.map fun s =>
    let s := { s.take t 1 with keyAllowed := false }
    match s.outer with
    | [] => s
    | candidate :: outer => { s with candidate, outer }

/-- Reads the start of an item. -/
def item? (s : Scan) : Option Scan := do
  let s ← (← s.rollHere? .blockList).dropKey?
  some { s.take .item 1 with keyAllowed := true }

/-- Reads the mark of a key. -/
def key? (s : Scan) : Option Scan := do
  let s ← (← s.rollHere? .blockMap).dropKey?
  some { s.take .key 1 with keyAllowed := !s.inFlow }

/-- Reads a colon. The key before it may have been remembered. -/
def value? (s : Scan) : Option Scan := do
  match s.candidate.filter fun c => !c.isStale s.head with
  | some c =>
    let s := { s with tokens := s.tokens.insertIdxIfInBounds c.index .key, candidate := none }
    some { (s.roll .blockMap c.index c.column).take .value 1 with keyAllowed := false }
  | none =>
    let s ← (← s.dropKey?).rollHere? .blockMap
    some { s.take .value 1 with keyAllowed := !s.inFlow }

/-- Reads a part of a node that may start a key. -/
def part? (s : Scan) (read : List Glyph → Option (Token × List Glyph)) : Option Scan := do
  let s ← s.saveKey?
  some { s.accept (← read s.rest) with keyAllowed := false }

/-- Reads a block scalar. -/
def blockScalar? (s : Scan) (style : Style) : Option Scan := do
  let s ← s.dropKey?
  let (text, rest) ← Block.read? (style == .literal) s.contentColumn (s.rest.drop 1)
  some { s.accept (.scalar style text, rest) with keyAllowed := true }

/-- Reads a scalar in quotes. -/
def quoted? (s : Scan) (read : List Glyph → Option (String × List Glyph)) : Option Scan :=
  s.part? fun text => (read (text.drop 1)).map fun p => (.scalar .quoted p.1, p.2)

/-- Reads a scalar without quotes. -/
def plain? (s : Scan) : Option Scan := do
  let s ← s.saveKey?
  let o ← Plain.read? s.inFlow s.contentColumn {} s.rest
  some { s.accept (.scalar .plain o.text, o.rest) with keyAllowed := o.endsLine }

/-- Whether a character starts something else than a plain scalar. -/
def isMark (c : Char) : Bool :=
  isFlowMark c ||
    c ∈ ['-', '?', ':', '#', '&', '*', '!', '|', '>', '\'', '"', '%', '@', '\x60']

/-- Whether a plain scalar starts here. -/
def startsPlain (s : Scan) : Bool :=
  let c := s.head.char
  let d := next (s.rest.drop 1)
  !(endsWord c || isMark c) || (c == '-' && !isBlank d) ||
    (!s.inFlow && (c == '?' || c == ':') && !endsWord d)

/-- Reads a token that is not the end of the text. -/
def token? (s : Scan) : Option Scan :=
  let c := s.head.char
  let isWord := endsWord (next (s.rest.drop 1))
  if c = '%' ∧ s.head.column = 0 then do
    let s ← s.endDocument?
    some (s.accept (← Directive.read? (s.rest.drop 1)))
  else if isDocumentMark '-' s.rest then s.endDocument?.map fun s => s.take .documentStart 3
  else if isDocumentMark '.' s.rest then s.endDocument?.map fun s => s.take .documentEnd 3
  else if c = '[' then s.flowStart? .flowList
  else if c = '\x7b' then s.flowStart? .flowMap
  else if c = ']' then s.flowEnd? .flowListEnd
  else if c = '\x7d' then s.flowEnd? .flowMapEnd
  else if c = ',' then s.dropKey?.map fun s => { s.take .comma 1 with keyAllowed := true }
  else if c = '-' ∧ isWord then s.item?
  else if c = '?' ∧ (s.inFlow || isWord) then s.key?
  else if c = ':' ∧ (s.inFlow || isWord) then s.value?
  else if c = '*' then
    s.part? fun text => (Name.anchor? (text.drop 1)).map fun p => (.alias p.1, p.2)
  else if c = '&' then
    s.part? fun text => (Name.anchor? (text.drop 1)).map fun p => (.anchor p.1, p.2)
  else if c = '!' then s.part? (Name.tag? s.inFlow)
  else if c = '|' ∧ !s.inFlow then s.blockScalar? .literal
  else if c = '>' ∧ !s.inFlow then s.blockScalar? .folded
  else if c = '\'' then s.quoted? (Quoted.single? {})
  else if c = '"' then s.quoted? (Quoted.double? {} .none)
  else if s.startsPlain then s.plain?
  else none

/-- Reads tokens to the end of the text, which is so many tokens away at most. -/
def run? : Nat → Scan → Option (List Token)
  | 0, _ => none
  | fuel + 1, s =>
    let s := s.advance
    if s.head.char = endMark then s.unrollAll.dropKey?.map fun s => s.tokens.toList
    else s.token?.bind (run? fuel)

end Scan

/-- The tokens of a text. Each token but the last takes a character at least. -/
def Token.list? (text : String) : Option (List Token) := do
  let rest ← Glyph.ofText? text.toList
  Scan.run? (rest.length + 1) { rest }

end Courier.Yaml

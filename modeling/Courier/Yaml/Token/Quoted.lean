import Courier.Yaml.Folded

/-!
# Quoted scalars

Between single quotes only the quote itself is written twice; between double quotes a backslash
gives a character by its name or number. No document may begin or end inside.
-/

namespace Courier.Yaml.Quoted

open Glyph

/-! ## Single quotes -/

/-- Reads the text up to a single quote. -/
def single? (f : Folded) : List Glyph → Option (String × List Glyph)
  | g :: h :: rest =>
    if g.char = '\'' then
      if h.char = '\'' then single? (f.push '\'') rest else some (f.finish, h :: rest)
    else if g.char = endMark ∨ isBoundary (g :: h :: rest) then none
    else single? (f.add g.char) (h :: rest)
  | _ => none

/-! ## Double quotes -/

/-- The character that stands after a backslash for another one. -/
def escaped? (c : Char) : Option Char :=
  match c with
  | '0' => some '\x00'
  | 'a' => some '\x07'
  | 'b' => some '\x08'
  | 't' => some '\t'
  | '\t' => some '\t'
  | 'n' => some '\n'
  | 'v' => some '\x0b'
  | 'f' => some '\x0c'
  | 'r' => some '\r'
  | 'e' => some '\x1b'
  | ' ' => some ' '
  | '"' => some '"'
  | '/' => some '/'
  | '\\' => some '\\'
  | 'N' => some '\u0085'
  | '_' => some '\u00a0'
  | 'L' => some '\u2028'
  | 'P' => some '\u2029'
  | _ => none

/-- How many digits the code after a backslash has. -/
def codeLength? (c : Char) : Option Nat :=
  match c with
  | 'x' => some 2
  | 'u' => some 4
  | 'U' => some 8
  | _ => none

/-- What has been read of an escape. -/
inductive Escape
  | none
  | begun
  | code (digits value : Nat)
  deriving DecidableEq, Repr, Inhabited

/-- Reads the character after a backslash. -/
def escape? (f : Folded) (c : Char) : Option (Folded × Escape) :=
  if isBreak c then some (f.joinLine, .none)
  else
    match escaped? c, codeLength? c with
    | some e, _ => some (f.push e, .none)
    | none, some digits => some (f, .code digits 0)
    | none, none => none

/-- Reads a digit of a code that has so many left. -/
def codeDigit? (f : Folded) (digits value : Nat) (c : Char) : Option (Folded × Escape) := do
  let value := value * 16 + (← hexDigit? c)
  if digits ≠ 1 then some (f, .code (digits - 1) value)
  else if h : value.isValidChar then some (f.push (Char.ofNatAux value h), .none)
  else none

/-- Reads the text up to a double quote. -/
def double? (f : Folded) (e : Escape) : List Glyph → Option (String × List Glyph)
  | [] => none
  | g :: rest =>
    match e with
    | .none =>
      if g.char = '"' then some (f.finish, rest)
      else if g.char = '\\' then double? f .begun rest
      else if g.char = endMark ∨ isBoundary (g :: rest) then none
      else double? (f.add g.char) .none rest
    | .begun => (escape? f g.char).bind fun p => double? p.1 p.2 rest
    | .code digits value => (codeDigit? f digits value g.char).bind fun p => double? p.1 p.2 rest

end Courier.Yaml.Quoted

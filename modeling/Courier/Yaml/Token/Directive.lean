import Courier.Yaml.Token.Name

/-!
# Directives

A line before a document may name the version of the language or declare a handle for tags. No other
directives are known.
-/

namespace Courier.Yaml.Directive

open Glyph

/-- The number that digits write. -/
def value (digits : List Char) : Nat := digits.foldl (fun n c => n * 10 + (c.toNat - 48)) 0

/-- How many digits a number may have. -/
def maxDigits : Nat := 9

/-- Reads a number. -/
def number? (text : List Glyph) : Option (Nat × List Glyph) :=
  let (digits, rest) := Name.span Char.isDigit text
  if digits ≠ [] ∧ digits.length ≤ maxDigits then some (value digits, rest) else none

/-- Reads the version of the language. -/
def version? (text : List Glyph) : Option (Token × List Glyph) := do
  let (major, rest) ← number? (skipBlanks text)
  if next rest = '.' then
    let (minor, rest) ← number? (rest.drop 1)
    some (.version major minor, rest)
  else none

/-- Reads a handle: one exclamation mark, or a name between two. -/
def handle? (text : List Glyph) : Option (String × List Glyph) :=
  if next text = '!' then
    let (name, rest) := Name.span isNameChar (text.drop 1)
    if next rest = '!' then some (Name.handle name, rest.drop 1)
    else if name = [] then some ("!", rest)
    else none
  else none

/-- Reads a handle and what it stands for. -/
def declaration? (text : List Glyph) : Option (Token × List Glyph) := do
  let (name, rest) ← handle? (skipBlanks text)
  if isBlank (next rest) then
    let (start, rest) ← Name.tagWord? true (skipBlanks rest)
    if endsWord (next rest) then some (.handle name start, rest) else none
  else none

/-- Reads a directive after its percent sign, to the end of the line. -/
def read? (text : List Glyph) : Option (Token × List Glyph) := do
  let (name, rest) := Name.span isNameChar text
  if endsWord (next rest) then
    let (token, rest) ←
      if name = "YAML".toList then version? rest
      else if name = "TAG".toList then declaration? rest
      else none
    some (token, ← nextLine? rest)
  else none

end Courier.Yaml.Directive

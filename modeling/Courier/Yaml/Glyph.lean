/-!
# Characters of settings

Settings are written in YAML. Their text is a run of characters, each with its line and column, and
ends with a null character, which a text cannot hold.
-/

namespace Courier.Yaml

/-- A character and where it stands. -/
structure Glyph where
  char : Char
  line : Nat
  column : Nat
  deriving DecidableEq, Repr, Inhabited

/-! ## Classes -/

/-- Whether a character may stand in settings at all. -/
def isAllowed (c : Char) : Bool :=
  let n := c.toNat
  n == 0x9 || n == 0xA || n == 0xD || (0x20 ≤ n && n ≤ 0x7E) || n == 0x85 ||
    (0xA0 ≤ n && n ≤ 0xD7FF) || (0xE000 ≤ n && n ≤ 0xFFFD) || 0x10000 ≤ n

/-- The character after the text. -/
def endMark : Char := '\x00'

/-- The mark that a line may begin with. -/
def byteOrderMark : Char := '\uFEFF'

/-- Whether a character ends a line. -/
def isBreak (c : Char) : Bool := c == '\n' || c.toNat == 0x2028 || c.toNat == 0x2029

/-- Whether a character is a blank within a line. -/
def isBlank (c : Char) : Bool := c == ' ' || c == '\t'

/-- Whether a character ends a line or the text. -/
def endsLine (c : Char) : Bool := isBreak c || c == endMark

/-- Whether a character ends a word. -/
def endsWord (c : Char) : Bool := isBlank c || endsLine c

/-- Whether a character delimits flow collections. -/
def isFlowMark (c : Char) : Bool := c ∈ ['\x7b', '\x7d', '[', ']', ',']

/-- Whether a character may stand in a name. -/
def isNameChar (c : Char) : Bool := c.isAlphanum || c == '_' || c == '-'

/-- The value of a hexadecimal digit. -/
def hexDigit? (c : Char) : Option Nat :=
  if '0' ≤ c ∧ c ≤ '9' then some (c.toNat - 48)
  else if 'a' ≤ c ∧ c ≤ 'f' then some (c.toNat - 87)
  else if 'A' ≤ c ∧ c ≤ 'F' then some (c.toNat - 55)
  else none

namespace Glyph

/-! ## Places -/

/-- The characters of a text so far, last one first, and the place of the next one. A carriage
    return has ended a line, and a line feed after it belongs to the same line end. -/
structure Places where
  found : List Glyph := []
  line : Nat := 0
  column : Nat := 0
  afterReturn : Bool := false
  deriving Repr, Inhabited

namespace Places

/-- Adds a character that ends a line. -/
def lineEnd (p : Places) (c : Char) : Places where
  found := ⟨c, p.line, p.column⟩ :: p.found
  line := p.line + 1

/-- Adds a character. A line feed stands for CR LF, CR and NEL too. -/
def push (p : Places) (c : Char) : Places :=
  if c = '\r' then { p.lineEnd '\n' with afterReturn := true }
  else if c = '\n' ∧ p.afterReturn then { p with afterReturn := false }
  else if c = '\x85' then p.lineEnd '\n'
  else if isBreak c then p.lineEnd c
  else { found := ⟨c, p.line, p.column⟩ :: p.found, line := p.line, column := p.column + 1 }

/-- All characters, with the end mark behind them. -/
def finish (p : Places) : List Glyph := (⟨endMark, p.line, p.column⟩ :: p.found).reverse

end Places

/-- The characters of a text, if it may be settings. -/
def ofText? (text : List Char) : Option (List Glyph) :=
  if text.all isAllowed then some (text.foldl Places.push {}).finish else none

/-! ## Looking ahead -/

/-- The next character. -/
def next (text : List Glyph) : Char := (text.head?.map Glyph.char).getD endMark

/-- Whether a document begins or ends here: three hyphens or points at the start of a line. -/
def isDocumentMark (mark : Char) (text : List Glyph) : Bool :=
  match text with
  | a :: b :: c :: rest =>
    a.column == 0 && a.char == mark && b.char == mark && c.char == mark && endsWord (next rest)
  | _ => false

/-- Whether a document begins or ends here. -/
def isBoundary (text : List Glyph) : Bool := isDocumentMark '-' text || isDocumentMark '.' text

/-- The text after the blanks here. -/
def skipBlanks (text : List Glyph) : List Glyph := text.dropWhile fun g => isBlank g.char

/-- The text after a comment, if one starts here. -/
def skipComment (text : List Glyph) : List Glyph :=
  if next text = '#' then text.dropWhile fun g => !endsLine g.char else text

/-- The text after a line end, if there is one here. -/
def skipBreak (text : List Glyph) : List Glyph := if isBreak (next text) then text.drop 1 else text

/-- The text of the next line; only blanks and a comment may stand before it. -/
def nextLine? (text : List Glyph) : Option (List Glyph) :=
  let text := skipComment (skipBlanks text)
  if endsLine (next text) then some (skipBreak text) else none

end Glyph

end Courier.Yaml

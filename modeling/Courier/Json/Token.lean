import Courier.Json.Numeral
import Courier.Text.Utf8

/-!
# JSON tokens

A document is read one character at a time. A string that holds a lone surrogate or a damaged
character is still a token; only its content is unreadable, which matters where it is looked at.

Results:

* `lexFrom_append`: reading a text in two parts is reading the first and going on with the second.
-/

namespace Courier.Json

/-- A token. A string without content holds a lone surrogate or bytes that are not UTF-8. -/
inductive Token
  | mark (c : Char)
  | str (content : Option String)
  | num (value : Numeral)
  | bool (value : Bool)
  | null
  deriving DecidableEq, Repr, Inhabited

namespace Token

/-- What a string holds so far, last character first, and a leading surrogate that waits for its
    partner. -/
structure Partial where
  content : Option (List Char)
  lead : Option Nat
  deriving DecidableEq, Repr, Inhabited

/-- A string of which nothing has been read. -/
def Partial.start : Partial := ⟨some [], none⟩

/-- A string that cannot be read any more. -/
def Partial.unreadable : Partial := ⟨none, none⟩

/-- The next character of a string. A waiting surrogate stays without its partner. -/
def Partial.push (p : Partial) (c : Char) : Partial :=
  match p.lead with
  | none => ⟨p.content.map (c :: ·), none⟩
  | some _ => .unreadable

/-- The next UTF-16 unit of a string, given by its number. -/
def Partial.unit (p : Partial) (n : Nat) : Partial :=
  match p.lead with
  | some h =>
    if 0xDC00 ≤ n ∧ n ≤ 0xDFFF then
      ⟨p.content.map (Char.ofNat ((h - 0xD800) * 0x400 + (n - 0xDC00) + 0x10000) :: ·), none⟩
    else .unreadable
  | none =>
    if 0xD800 ≤ n ∧ n ≤ 0xDBFF then ⟨p.content, some n⟩
    else if 0xDC00 ≤ n ∧ n ≤ 0xDFFF then .unreadable
    else p.push (Char.ofNat n)

/-- The content of a complete string. -/
def Partial.finish (p : Partial) : Option String :=
  match p.lead with
  | none => p.content.map fun cs => String.ofList cs.reverse
  | some _ => none

/-- Where the reader stands between two characters. -/
inductive Position
  | between
  | string (p : Partial)
  | escape (p : Partial)
  | unit (p : Partial) (digits : Nat) (value : Nat)
  | numeral (text : List Char)
  | word (text : List Char)
  deriving DecidableEq, Repr, Inhabited

/-- The reader: where it stands, and the tokens read so far, last one first. -/
structure Reader where
  position : Position
  tokens : List Token
  deriving DecidableEq, Repr, Inhabited

/-- A reader before the first character. -/
def Reader.start : Reader := ⟨.between, []⟩

/-- Ends a numeral or a word, whose characters are given last one first. -/
def Reader.close (r : Reader) : Option Reader :=
  match r.position with
  | .between => some r
  | .numeral text => (Numeral.ofChars? text.reverse).map fun n => ⟨.between, .num n :: r.tokens⟩
  | .word text =>
    match text.reverse with
    | ['n', 'u', 'l', 'l'] => some ⟨.between, .null :: r.tokens⟩
    | ['t', 'r', 'u', 'e'] => some ⟨.between, .bool true :: r.tokens⟩
    | ['f', 'a', 'l', 's', 'e'] => some ⟨.between, .bool false :: r.tokens⟩
    | _ => none
  | _ => none

/-- The value of a hexadecimal digit. -/
def hexDigit? (c : Char) : Option Nat :=
  if '0' ≤ c ∧ c ≤ '9' then some (c.toNat - 48)
  else if 'a' ≤ c ∧ c ≤ 'f' then some (c.toNat - 87)
  else if 'A' ≤ c ∧ c ≤ 'F' then some (c.toNat - 55)
  else none

/-- The character that stands after a backslash for another one. -/
def escaped? (c : Char) : Option Char :=
  match c with
  | '"' => some '"'
  | '\\' => some '\\'
  | '/' => some '/'
  | 'b' => some '\x08'
  | 'f' => some '\x0c'
  | 'n' => some '\n'
  | 'r' => some '\r'
  | 't' => some '\t'
  | _ => none

/-- The first character of a token, or a blank. -/
def Reader.begin (tokens : List Token) (c : Char) : Option Reader :=
  if c = ' ' ∨ c = '\n' ∨ c = '\t' ∨ c = '\r' then some ⟨.between, tokens⟩
  else if c ∈ ['[', ']', '\x7b', '\x7d', ':', ','] then some ⟨.between, .mark c :: tokens⟩
  else if c = '"' then some ⟨.string .start, tokens⟩
  else if c = '-' ∨ ('0' ≤ c ∧ c ≤ '9') then some ⟨.numeral [c], tokens⟩
  else if 'a' ≤ c ∧ c ≤ 'z' then some ⟨.word [c], tokens⟩
  else none

/-- A character that a numeral may hold. -/
def inNumeral (c : Char) : Bool :=
  ('0' ≤ c && c ≤ '9') || c == '-' || c == '+' || c == '.' || c == 'e' || c == 'E'

/-- Reads one character; `none` stands for a damaged one, which only a string may hold. -/
def Reader.step (r : Reader) : Option Char → Option Reader
  | none =>
    match r.position with
    | .string _ => some ⟨.string .unreadable, r.tokens⟩
    | _ => none
  | some c =>
    match r.position with
    | .between => Reader.begin r.tokens c
    | .string p =>
      if c = '"' then some ⟨.between, .str p.finish :: r.tokens⟩
      else if c = '\\' then some ⟨.escape p, r.tokens⟩
      else if c.val < 0x20 then none
      else some ⟨.string (p.push c), r.tokens⟩
    | .escape p =>
      if c = 'u' then some ⟨.unit p 0 0, r.tokens⟩
      else (escaped? c).map fun e => ⟨.string (p.push e), r.tokens⟩
    | .unit p digits value =>
      (hexDigit? c).map fun d =>
        if digits = 3 then ⟨.string (p.unit (value * 16 + d)), r.tokens⟩
        else ⟨.unit p (digits + 1) (value * 16 + d), r.tokens⟩
    | .numeral text =>
      if inNumeral c then some ⟨.numeral (c :: text), r.tokens⟩
      else r.close.bind fun r => Reader.begin r.tokens c
    | .word text =>
      if 'a' ≤ c ∧ c ≤ 'z' then some ⟨.word (c :: text), r.tokens⟩
      else r.close.bind fun r => Reader.begin r.tokens c

/-- Reads all characters. -/
def lexFrom (r : Reader) (text : List (Option Char)) : Option Reader := text.foldlM Reader.step r

/-- The tokens of a text. -/
def lex? (text : List (Option Char)) : Option (List Token) :=
  (lexFrom .start text).bind fun r => r.close.map fun r => r.tokens.reverse

@[simp] theorem lexFrom_nil (r : Reader) : lexFrom r [] = some r := rfl

theorem lexFrom_cons (r : Reader) (c : Option Char) (text : List (Option Char)) :
    lexFrom r (c :: text) = (r.step c).bind fun r => lexFrom r text := by
  simp [lexFrom, List.foldlM_cons, Option.bind_eq_bind]

theorem lexFrom_append (r : Reader) (s t : List (Option Char)) :
    lexFrom r (s ++ t) = (lexFrom r s).bind fun r => lexFrom r t := by
  simp [lexFrom, List.foldlM_append, Option.bind_eq_bind]

end Token

end Courier.Json

import Courier.Text.Base64
import Courier.Text.Blank
import Courier.Text.Utf8

/-!
# Armoured blocks

A text holds labelled blocks of bytes, each between a begin line and an end line. Text around the
blocks is skipped.
-/

namespace Courier.Pem

/-- A block: its label, and its bytes in base64 as written. -/
structure Armour where
  label : String
  digits : List Char
  deriving DecidableEq, Repr, Inhabited

/-- A readable block. -/
structure Block where
  label : String
  bytes : List UInt8
  deriving DecidableEq, Repr, Inhabited

/-- The lines of a text, without the line feeds between them. -/
def lines (text : List Char) : List (List Char) := text.splitOn '\n'

/-- The five dashes around a label. -/
def dashes : List Char := ['-', '-', '-', '-', '-']

/-- How a begin line starts. -/
def beginMark : List Char := dashes ++ ['B', 'E', 'G', 'I', 'N', ' ']

/-- How an end line starts. -/
def endMark : List Char := dashes ++ ['E', 'N', 'D', ' ']

/-- Splits off what stands before the first five dashes; `none` if there are none. -/
def beforeDashes? : List Char → Option (List Char)
  | [] => none
  | c :: rest =>
    if dashes.isPrefixOf (c :: rest) then some [] else (beforeDashes? rest).map (c :: ·)

/-- The label of a begin line: what stands before the closing dashes, up to any dash. -/
def label? (line : List Char) : Option String :=
  (beforeDashes? (line.drop beginMark.length)).map fun label =>
    String.ofList (label.takeWhile (· ≠ '-'))

/-- Splits lines at the first end line into those before and those after it. -/
def untilEnd? : List (List Char) → Option (List (List Char) × List (List Char))
  | [] => none
  | line :: rest =>
    if endMark.isPrefixOf line then some ([], rest)
    else (untilEnd? rest).map fun (body, after) => (line :: body, after)

theorem untilEnd?_length {ls body after : List (List Char)}
    (h : untilEnd? ls = some (body, after)) : after.length < ls.length := by
  induction ls generalizing body with
  | nil => simp [untilEnd?] at h
  | cons line rest ih =>
    simp only [untilEnd?] at h
    split at h
    · cases h; simp
    · obtain ⟨⟨b, a⟩, hb, he⟩ := Option.map_eq_some_iff.1 h
      cases he
      exact Nat.lt_succ_of_lt (ih hb)

/-- The blocks of a text; `none` stands for one without label or end line, after which nothing is
    read. -/
def armours : List (List Char) → List (Option Armour)
  | [] => []
  | line :: rest =>
    if beginMark.isPrefixOf line then
      match label? line, _h : untilEnd? rest with
      | some label, some (body, after) =>
        some ⟨label, body.flatMap Text.trimRight⟩ :: armours after
      | _, _ => [none]
    else armours rest
termination_by ls => ls.length
decreasing_by
  · have := untilEnd?_length _h
    simp; omega
  · simp

/-- The bytes of a block. -/
def Armour.block? (a : Armour) : Option Block :=
  (Base64.decode? a.digits).map (⟨a.label, ·⟩)

/-- The blocks of a text; `none` stands for an unreadable one. -/
def blocks (text : List Char) : List (Option Block) :=
  (armours (lines text)).map (·.bind Armour.block?)

/-- The labels of private keys. -/
def keyLabels : List String := ["PRIVATE KEY", "RSA PRIVATE KEY", "EC PRIVATE KEY"]

/-- Whether a text holds a private key, by the labels of its blocks. -/
def holdsKey (text : List Char) : Bool :=
  (blocks text).any fun b => b.any fun b => b.label ∈ keyLabels

/-- The text of a block. -/
def Block.render (b : Block) : String :=
  "-----BEGIN " ++ b.label ++ "-----\n" ++ String.ofList (Base64.encode b.bytes) ++
    "\n-----END " ++ b.label ++ "-----\n"

end Courier.Pem

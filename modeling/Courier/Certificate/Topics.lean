import Courier.Error
import Courier.Text.Utf8

/-!
# Topic lists

A certificate carries the topics it may be used for as a flat run of blocks. A container block is a
tag and one length byte, and its bounds do not matter; a text block is a tag, a length byte and that
many bytes of text. The run is read byte by byte, and a block that breaks off contributes nothing.

Results:

* `Topics.Reader.step_error_iff`: only a byte in place of a tag can be refused.
-/

namespace Courier.Topics

/-- The byte that starts a container block. -/
def containerTag : UInt8 := 0x30

/-- The byte that starts a text block. -/
def textTag : UInt8 := 0x0C

/-! ## Reading -/

/-- What the next byte is. Model of `State`. -/
inductive Expected
  | tag
  | containerLength
  | textLength
  | text (remaining : Nat)
  deriving DecidableEq, Repr, Inhabited

/-- A reader between two bytes: what the next byte is, the bytes so far of the text that is being
    read, and the texts before it. -/
structure Reader where
  expected : Expected := .tag
  value : Array UInt8 := #[]
  texts : Array String := #[]
  deriving Inhabited

namespace Reader

/-- Takes one byte. Model of the loop of `extract_topics`. -/
def step (r : Reader) (byte : UInt8) : Except TopicError Reader :=
  match r.expected with
  | .tag =>
    if byte = containerTag then .ok { r with expected := .containerLength }
    else if byte = textTag then .ok { r with expected := .textLength }
    else .error ⟨byte⟩
  | .containerLength => .ok { r with expected := .tag }
  | .textLength =>
    if byte = 0 then .ok { r with expected := .tag, texts := r.texts.push "" }
    else .ok { r with expected := .text byte.toNat }
  | .text remaining =>
    let value := r.value.push byte
    if remaining = 1 then
      .ok { expected := .tag, value := #[], texts := r.texts.push (Utf8.lossy value.toList) }
    else .ok { r with expected := .text (remaining - 1), value := value }

theorem step_error_iff (r : Reader) (byte : UInt8) (e : TopicError) :
    r.step byte = .error e ↔
      r.expected = .tag ∧ byte ≠ containerTag ∧ byte ≠ textTag ∧ e = ⟨byte⟩ := by
  unfold step
  split <;> grind

end Reader

/-- The texts of all blocks in order. Model of `extract_topics`. -/
def extract (bytes : List UInt8) : Except TopicError (List String) :=
  (bytes.foldlM Reader.step {}).map fun r => r.texts.toList

end Courier.Topics

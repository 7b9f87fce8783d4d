import Courier.Error
import Courier.Json.Printer
import Courier.Text.Utf8

/-!
# Bodies that are encoded while they are sent

An encoder writes a body piece by piece. What it writes is held back until there is enough for a
chunk, which is then put on the way to the receiver. Only a few chunks may be on the way at once, so
the encoder waits where the receiver is slow. A body whose encoding fails ends with a mark, so that
it never looks complete. A receiver may leave at any time. That ends the encoding at the next chunk,
and is no fault of the encoder.

Results:

* `Encoding.bytes_ofValue`: what is written of a JSON value.
* `Ending.explain_eq`: when the encoder is the cause of a failure.
-/

namespace Courier.Http

/-- The number of bytes that make a chunk. Model of `CHUNK_SIZE`. -/
def chunkSize : Nat := 8 * 1024

/-- The number of chunks that may be on the way. Model of `CHANNEL_DEPTH`. -/
def channelDepth : Nat := 4

/-- What a receiver gets: bytes, or the mark of a body that breaks off. Model of `Chunk`. -/
inductive Chunk
  | bytes (content : List UInt8)
  | breakOff
  deriving DecidableEq, Repr, Inhabited

/-- The bytes in a chunk. -/
def Chunk.content : Chunk → List UInt8
  | .bytes content => content
  | .breakOff => []

/-- Whether a chunk has enough bytes to be passed on before the end. -/
def Chunk.isFull : Chunk → Bool
  | .bytes content => chunkSize ≤ content.length
  | .breakOff => false

/-- The bytes in chunks. -/
def Chunk.contents (l : List Chunk) : List UInt8 := l.flatMap Chunk.content

/-! ## Encoders -/

/-- How an encoder ends. -/
inductive Ending
  | done
  | failed
  | crashed
  deriving DecidableEq, Repr, Inhabited

/-- The pieces that an encoder writes, and how it ends after them. -/
structure Encoding where
  pieces : List (List UInt8)
  ending : Ending := .done
  deriving DecidableEq, Repr, Inhabited

/-- All bytes that an encoder writes. -/
def Encoding.bytes (e : Encoding) : List UInt8 := e.pieces.flatten

/-- The encoding of a JSON value, which never fails. -/
def Encoding.ofValue (v : Json.Value) : Encoding := { pieces := [Utf8.encode v.render] }

/-- What becomes of a request whose encoder has ended; `none` stands for one that still runs, and
    has not failed so far. Model of `EncodeTask.finish`. -/
def Ending.check : Option Ending → Except SendError Unit
  | some .failed | some .crashed => .error .encoding
  | _ => .ok ()

/-- Why a request failed: because its encoder did, unless the caller has cancelled.
    Model of `EncodeTask.explain`. -/
def Ending.explain (ending : Option Ending) (error : SendError) : SendError :=
  if error = .cancelled then error
  else
    match check ending with
    | .error cause => cause
    | .ok () => error

/-! ## Streams -/

/-- Where an encoder stands: it writes, and holds bytes back until there is enough for a chunk; it
    waits for room for a chunk, for what it held back in the end, or for the mark of a body that
    breaks off; or it has ended. -/
inductive Position
  | writing (held : List UInt8) (left : Encoding)
  | passing (content : List UInt8) (left : Encoding)
  | flushing (content : List UInt8)
  | breaking
  | ended (ending : Ending)
  deriving DecidableEq, Repr, Inhabited

/-- Comes to the end with bytes held back. They are only passed on if the encoding is complete, and
    an encoder that crashes does not leave a mark either. -/
def Position.finish (held : List UInt8) : Ending → Position
  | .done => if held = [] then .ended .done else .flushing held
  | .failed => .breaking
  | .crashed => .ended .crashed

/-- Writes the next piece, or comes to the end. Model of `ChannelWriter.write`. -/
def Position.write (held : List UInt8) : Encoding → Position
  | ⟨piece :: rest, ending⟩ =>
    if (held ++ piece).length < chunkSize then .writing (held ++ piece) ⟨rest, ending⟩
    else .passing (held ++ piece) ⟨rest, ending⟩
  | ⟨[], ending⟩ => .finish held ending

/-- A body on its way, with what has been received of it and whether the receiver is still there. -/
structure BodyStream where
  position : Position
  underway : List Chunk := []
  received : List Chunk := []
  isRead : Bool := true
  deriving DecidableEq, Repr, Inhabited

namespace BodyStream

/-- Something that happens: the encoder goes on, the receiver takes a chunk, or it leaves. -/
inductive Step
  | encode
  | receive
  | leave
  deriving DecidableEq, Repr

/-- A body before its first byte. -/
def start (e : Encoding) : BodyStream := { position := .writing [] e }

/-- Puts a chunk on the way where there is room for it. Without a receiver it is refused.
    Model of `ChannelWriter.send_buffered`. -/
def pass (s : BodyStream) (c : Chunk) (after refused : Position) : BodyStream :=
  if s.isRead then
    if s.underway.length < channelDepth then
      { s with underway := s.underway ++ [c], position := after }
    else s
  else { s with position := refused }

/-- Lets the encoder go on. One whose chunk was refused has ended, and has not failed.
    Model of `encode_streaming`. -/
def encode (s : BodyStream) : BodyStream :=
  match s.position with
  | .writing held left => { s with position := .write held left }
  | .passing content left => s.pass (.bytes content) (.writing [] left) (.ended .done)
  | .flushing content => s.pass (.bytes content) (.ended .done) (.ended .done)
  | .breaking => s.pass .breakOff (.ended .failed) (.ended .failed)
  | .ended _ => s

/-- Takes one step. A step that is not possible changes nothing. -/
def step (s : BodyStream) : Step → BodyStream
  | .encode => s.encode
  | .receive =>
    match s.underway with
    | c :: rest => { s with underway := rest, received := s.received ++ [c] }
    | [] => s
  | .leave => { s with isRead := false, underway := [] }

/-- Takes steps in order. -/
def steps (s : BodyStream) (l : List Step) : BodyStream := l.foldl step s

/-- How the encoder has ended, if it has. -/
def ending? (s : BodyStream) : Option Ending :=
  match s.position with
  | .ended ending => some ending
  | _ => none

/-- Whether the body is at its end for the receiver. -/
def isOver (s : BodyStream) : Bool := s.ending?.isSome && s.underway.isEmpty

/-- All chunks that were received or are on the way. -/
def passed (s : BodyStream) : List Chunk := s.received ++ s.underway

end BodyStream

/-! ## Laws -/

theorem Encoding.bytes_ofValue (v : Json.Value) : (ofValue v).bytes = Utf8.encode v.render := by
  simp [ofValue, bytes]

theorem Ending.explain_eq (ending : Option Ending) (error : SendError) :
    explain ending error =
      if error ≠ .cancelled ∧ (ending = some .failed ∨ ending = some .crashed) then .encoding
      else error := by
  unfold explain
  by_cases h : error = .cancelled
  · simp [h]
  · obtain _ | _ | _ | _ := ending <;> simp [h, check]

end Courier.Http

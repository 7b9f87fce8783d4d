import Courier.Certificate.Time

/-!
# Certificates

Of a certificate only the extensions matter here; everything else is checked for its shape. A
sequence may hold more than it has to, and bytes after the certificate are no part of it; only the
list of extensions is read to its end.
-/

namespace Courier

/-- An extension: what it is, and its value. -/
structure Extension where
  oid : List Nat
  value : List UInt8
  deriving DecidableEq, Repr, Inhabited

/-- A certificate. -/
structure Certificate where
  extensions : List Extension
  deriving DecidableEq, Repr, Inhabited

namespace Certificate

open Der

/-! ## Elements -/

/-- The content of an element with a certain number. -/
def contentOf? (number : Nat) (e : Element) : Option (List UInt8) :=
  if e.tag.number = number then some e.content else none

/-- Reads a sequence: its content, and what follows it. -/
def sequence? (bytes : List UInt8) : Option (List UInt8 × List UInt8) := do
  let (e, rest) ← next? bytes
  some (← contentOf? Der.sequence.number e, rest)

/-- Whether bytes are a number of 32 bits in its shortest form. -/
def isShortNumber (bytes : List UInt8) : Bool :=
  match bytes with
  | [] => false
  | [b] => b < 128
  | a :: b :: rest => if a = 0 then 128 ≤ b && rest.length ≤ 3 else a < 128 && rest.length ≤ 2

/-- Whether bytes are a string of bits: the number of bits that do not count, then the bytes, in
    the last of which those bits are zero. -/
def isBits (bytes : List UInt8) : Bool :=
  match bytes with
  | [] => false
  | [unused] => unused == 0
  | unused :: more =>
    let last := (more.getLastD 0).toNat
    if last = 0 then unused ≤ 8 else last % Nat.pow 2 unused.toNat = 0

/-- Reads a string of bits, and gives what follows it. -/
def bits? (bytes : List UInt8) : Option (List UInt8) := do
  let (e, rest) ← next? bytes
  let content ← contentOf? bitString.number e
  if !e.tag.isNested && isBits content then some rest else none

/-! ## Parts -/

/-- Reads an algorithm, and gives what follows it. Its name may be any element that holds none;
    parameters follow. -/
def algorithm? (bytes : List UInt8) : Option (List UInt8) := do
  let (content, rest) ← sequence? bytes
  let (name, parameters) ← next? content
  if name.tag.isNested then none
  else if parameters = [] then some rest
  else (next? parameters).map fun _ => rest

/-- Reads a version, if there is one, and gives what follows it. -/
def version? (bytes : List UInt8) : Option (List UInt8) := do
  let (e, rest) ← next? bytes
  if e.tag.number ≠ 0 then some bytes
  else if e.tag.family ≠ .contextual then none
  else
    let (number, _) ← next? e.content
    let content ← contentOf? integer.number number
    if !number.tag.isNested && isShortNumber content then some rest else none

/-- Reads a serial number, and gives what follows it. -/
def serial? (bytes : List UInt8) : Option (List UInt8) := do
  let (tag, rest) ← skip? bytes
  if tag.number = integer.number then some rest else none

/-- Reads a name, and gives what follows it. -/
def name? (bytes : List UInt8) : Option (List UInt8) := (sequence? bytes).map (·.2)

/-- Reads a span of time, and gives what follows it. -/
def validity? (bytes : List UInt8) : Option (List UInt8) := do
  let (content, rest) ← sequence? bytes
  let (start, content) ← next? content
  let (stop, _) ← next? content
  if isTime start && isTime stop then some rest else none

/-- Reads a public key, and gives what follows it. -/
def publicKey? (bytes : List UInt8) : Option (List UInt8) := do
  let (content, rest) ← sequence? bytes
  let _ ← bits? (← algorithm? content)
  some rest

/-- Reads a unique identifier with a certain number, if there is one, and gives what follows it. -/
def uniqueId? (number : Nat) (bytes : List UInt8) : Option (List UInt8) :=
  if bytes = [] then some []
  else do
    let (e, rest) ← next? bytes
    if e.tag.number ≠ number then some bytes
    else if e.tag.family = .contextual ∧ e.tag.isNested = false ∧ isBits e.content then some rest
    else none

/-! ## Extensions -/

/-- What follows the word on whether an extension is critical, if there is one. -/
def afterCritical (bytes : List UInt8) : List UInt8 :=
  match next? bytes with
  | some (e, rest) =>
    if e.tag.number = boolean.number ∧ e.content.length = 1 then rest else bytes
  | none => bytes

/-- An extension. Its name may be any element that holds none. -/
def extension? (e : Element) : Option Extension := do
  let content ← contentOf? Der.sequence.number e
  let (name, rest) ← next? content
  let (value, _) ← next? (afterCritical rest)
  if !name.tag.isNested && !value.tag.isNested && value.tag.number = octetString.number then
    some ⟨objectIdArcs name.content, value.content⟩
  else none

/-- The number of the list of extensions. -/
def extensionsField : Nat := 3

/-- The extensions at the end of the signed part, if there are any. The length that stands before
    their list does not count. -/
def extensionList? (bytes : List UInt8) : Option (List Extension) :=
  if bytes = [] then some []
  else do
    let (tag, length, rest) ← header? bytes
    let (content, after) ← sequence? rest
    if tag.number = extensionsField ∧ length ≠ .unknown ∧ after = [] then
      (← elements? content).mapM extension?
    else none

/-! ## Certificates -/

/-- The extensions of the signed part of a certificate. -/
def signed? (bytes : List UInt8) : Option (List Extension) := do
  let rest ← serial? (← version? bytes)
  let rest ← name? (← algorithm? rest)
  let rest ← name? (← validity? rest)
  let rest ← publicKey? rest
  extensionList? (← uniqueId? 2 (← uniqueId? 1 rest))

/-- The certificate that bytes begin with. -/
def ofBytes? (bytes : List UInt8) : Option Certificate := do
  let (content, _) ← sequence? bytes
  let (signed, rest) ← sequence? content
  let extensions ← signed? signed
  let _ ← bits? (← algorithm? rest)
  some ⟨extensions⟩

end Certificate

end Courier

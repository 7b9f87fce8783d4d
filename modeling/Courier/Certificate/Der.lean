/-!
# Distinguished encoding

Binary data as a run of elements, each a tag, a length and the content. Writing uses tags of one
byte and the shortest lengths; reading also takes longer forms of both.

Results:

* `Der.next?_length_lt`: reading an element leaves fewer bytes.
-/

namespace Courier.Der

/-! ## Tags -/

/-- Where the number of a tag is given its meaning. -/
inductive Family
  | universal
  | application
  | contextual
  | reserved
  deriving DecidableEq, Repr, Inhabited

/-- What an element is: the family and the number of its kind, and whether it holds elements. -/
structure Tag where
  family : Family := .universal
  isNested : Bool := false
  number : Nat
  deriving DecidableEq, Repr, Inhabited

/-- One element. -/
structure Element where
  tag : Tag
  content : List UInt8
  deriving DecidableEq, Repr, Inhabited

def boolean : Tag := { number := 1 }
def integer : Tag := { number := 2 }
def bitString : Tag := { number := 3 }
def octetString : Tag := { number := 4 }
def empty : Tag := { number := 5 }
def objectId : Tag := { number := 6 }
def utf8String : Tag := { number := 12 }
def sequence : Tag := { number := 16, isNested := true }
def set : Tag := { number := 17, isNested := true }
def utcTime : Tag := { number := 23 }
def generalizedTime : Tag := { number := 24 }

/-- The tag of a field that its place in a sequence gives a meaning. -/
def field (number : Nat) : Tag := { family := .contextual, number, isNested := true }

/-! ## Reading -/

/-- The family that the two high bits of a byte stand for. -/
def Family.ofByte (b : UInt8) : Family :=
  match b.toNat / 64 with
  | 0 => .universal
  | 1 => .application
  | 2 => .contextual
  | _ => .reserved

/-- The number of a tag in groups of seven bits, of which there are at most so many; all but the
    last have the high bit. A number has 32 bits. -/
def longNumber? : Nat → Nat → List UInt8 → Option (Nat × List UInt8)
  | room + 1, n, b :: rest =>
    let n := (n * 128 + b.toNat % 128) % Nat.pow 2 32
    if b.toNat < 128 then some (n, rest) else longNumber? room n rest
  | _, _, _ => none

/-- The most groups of seven bits in the number of a tag. -/
def longestNumber : Nat := 5

/-- Reads a tag. -/
def tag? : List UInt8 → Option (Tag × List UInt8)
  | [] => none
  | b :: rest =>
    let tag (number : Nat) : Tag :=
      { family := .ofByte b, isNested := b.toNat / 32 % 2 = 1, number }
    if b.toNat % 32 = 31 then (longNumber? longestNumber 0 rest).map fun p => (tag p.1, p.2)
    else some (tag (b.toNat % 32), rest)

/-- The length of a content: so many bytes, or up to an end mark. -/
inductive Length
  | known (bytes : Nat)
  | unknown
  deriving DecidableEq, Repr, Inhabited

/-- Reads a length: one byte below 128, or the number of bytes that hold it, or none of these. -/
def length? : List UInt8 → Option (Length × List UInt8)
  | [] => none
  | b :: rest =>
    if b.toNat < 128 then some (.known b.toNat, rest)
    else
      let count := b.toNat - 128
      let digits := rest.take count
      if count = 0 then some (.unknown, rest)
      else if count = 127 ∨ digits.length ≠ count then none
      else some (.known (digits.foldl (fun n d => n * 256 + d.toNat) 0), rest.drop count)

/-- Reads what stands before the content of an element. -/
def header? (bytes : List UInt8) : Option (Tag × Length × List UInt8) := do
  let (tag, rest) ← tag? bytes
  let (length, rest) ← length? rest
  some (tag, length, rest)

theorem longNumber?_length {room n m : Nat} {bs rest : List UInt8}
    (h : longNumber? room n bs = some (m, rest)) : rest.length < bs.length := by
  induction bs generalizing room n with
  | nil => simp [longNumber?] at h
  | cons b bs ih =>
    cases room with
    | zero => simp [longNumber?] at h
    | succ room =>
      simp only [longNumber?] at h
      split at h
      · cases h; simp
      · have := ih h
        simp only [List.length_cons]
        omega

theorem tag?_length {bs rest : List UInt8} {tag : Tag} (h : tag? bs = some (tag, rest)) :
    rest.length < bs.length := by
  cases bs with
  | nil => simp [tag?] at h
  | cons b bs =>
    simp only [tag?] at h
    split at h
    · obtain ⟨p, hp, he⟩ := Option.map_eq_some_iff.mp h
      cases he
      have := longNumber?_length hp
      simp only [List.length_cons]
      omega
    · cases h; simp

theorem length?_length {bs rest : List UInt8} {n : Length} (h : length? bs = some (n, rest)) :
    rest.length < bs.length := by
  cases bs with
  | nil => simp [length?] at h
  | cons b bs =>
    unfold length? at h
    grind

theorem header?_length {bs rest : List UInt8} {tag : Tag} {n : Length}
    (h : header? bs = some (tag, n, rest)) : rest.length < bs.length := by
  simp only [header?, Option.bind_eq_bind, Option.bind_eq_some_iff, Prod.exists] at h
  obtain ⟨t, after, ht, l, last, hl, he⟩ := h
  cases he
  have := tag?_length ht
  have := length?_length hl
  omega

/-- Reads one element of known length. -/
def next? (bytes : List UInt8) : Option (Element × List UInt8) :=
  match header? bytes with
  | some (tag, .known n, rest) =>
    let content := rest.take n
    if content.length = n then some (⟨tag, content⟩, rest.drop n) else none
  | _ => none

theorem next?_length_lt {bs rest : List UInt8} {e : Element} (h : next? bs = some (e, rest)) :
    rest.length < bs.length := by
  simp only [next?] at h
  split at h
  · rename_i tag n after hh
    have := header?_length hh
    split at h
    · cases h; simp; omega
    · cases h
  · cases h

/-- Reads elements to the end. -/
def elements? (bs : List UInt8) : Option (List Element) :=
  if bs = [] then some []
  else
    match _h : next? bs with
    | none => none
    | some (e, rest) => (elements? rest).map (e :: ·)
termination_by bs.length
decreasing_by exact next?_length_lt _h

/-! ## Unknown lengths -/

/-- How many elements of unknown length may stand inside one another. -/
def deepestNesting : Nat := 49

/-- What follows the end marks of so many elements of unknown length. An end mark is an element with
    number 0 and no content. -/
def afterEnd? (depth : Nat) (bytes : List UInt8) : Option (List UInt8) :=
  if depth = 0 then some bytes
  else if deepestNesting < depth then none
  else
    match _h : header? bytes with
    | none => none
    | some (tag, .unknown, rest) => if tag.isNested then afterEnd? (depth + 1) rest else none
    | some (tag, .known n, rest) =>
      if n = 0 ∧ tag.number = 0 then afterEnd? (depth - 1) rest
      else if rest.length < n then none
      else afterEnd? depth (rest.drop n)
termination_by bytes.length
decreasing_by
  all_goals have := header?_length _h
  all_goals first | exact this | (rw [List.length_drop]; omega)

/-- Reads one element whose length may be unknown; only what it is, not what it holds. -/
def skip? (bytes : List UInt8) : Option (Tag × List UInt8) :=
  match header? bytes with
  | some (tag, .unknown, rest) =>
    if tag.isNested then (afterEnd? 1 rest).map (tag, ·) else none
  | some (tag, .known n, rest) => if n ≤ rest.length then some (tag, rest.drop n) else none
  | none => none

/-! ## Object identifiers -/

/-- The numbers that bytes hold in base 128, the last byte of each below 128. Of a last number that
    breaks off 64 bits are kept. -/
def arcs (begun : Option Nat) : List UInt8 → List Nat
  | [] => (begun.map (· % Nat.pow 2 64)).toList
  | b :: rest =>
    let n := begun.getD 0 * 128 + b.toNat % 128
    if b.toNat < 128 then n :: arcs none rest else arcs (some n) rest

/-- The arcs of an object identifier. The first byte holds two of them. -/
def objectIdArcs : List UInt8 → List Nat
  | [] => []
  | b :: rest => b.toNat / 40 :: b.toNat % 40 :: arcs none rest

/-! ## Writing -/

/-- The two high bits of a family. -/
def Family.bits : Family → Nat
  | .universal => 0
  | .application => 64
  | .contextual => 128
  | .reserved => 192

/-- The byte of a tag whose number is below 31. -/
def Tag.byte (tag : Tag) : UInt8 :=
  UInt8.ofNat (tag.family.bits + (if tag.isNested then 32 else 0) + tag.number)

/-- The digits of a number in base 256. -/
def digits256 (n : Nat) : List UInt8 :=
  if n < 256 then [UInt8.ofNat n] else digits256 (n / 256) ++ [UInt8.ofNat (n % 256)]

/-- The bytes of a length, as few as possible. -/
def lengthBytes (n : Nat) : List UInt8 :=
  if n < 128 then [UInt8.ofNat n]
  else
    let digits := digits256 n
    UInt8.ofNat (128 + digits.length) :: digits

/-- The bytes of an element. -/
def Element.encode (e : Element) : List UInt8 :=
  e.tag.byte :: lengthBytes e.content.length ++ e.content

/-- The bytes of an element with elements inside. -/
def nest (tag : Tag) (elements : List (List UInt8)) : List UInt8 :=
  Element.encode ⟨tag, elements.flatten⟩

/-- The bytes of a number in base 128, all but the last of which are 128 or more. -/
def arcBytes (n : Nat) : List UInt8 :=
  let rec more (n : Nat) : List UInt8 :=
    if n = 0 then [] else more (n / 128) ++ [UInt8.ofNat (128 + n % 128)]
  more (n / 128) ++ [UInt8.ofNat (n % 128)]

/-- The bytes of an object identifier. -/
def objectIdBytes (oid : List Nat) : List UInt8 :=
  match oid with
  | a :: b :: rest => Element.encode ⟨objectId, ((a * 40 + b) :: rest).flatMap arcBytes⟩
  | _ => Element.encode ⟨objectId, []⟩

end Courier.Der

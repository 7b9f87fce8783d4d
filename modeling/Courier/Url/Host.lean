import Courier.Url.Domain
import Courier.Url.Percent

/-!
# Hosts

The host of a URL is a domain, an IPv4 address or an IPv6 address, and is written in one form: a
domain in lower-case ASCII, an IPv4 address as four decimal numbers, an IPv6 address with its
longest run of zeros left out.
-/

namespace Courier.Url

/-- Why a text is no URL. -/
inductive ParseError
  | relative
  | emptyHost
  | invalidPort
  | invalidIpv4
  | invalidIpv6
  | invalidDomain
  | invalidHostCharacter
  deriving DecidableEq, Repr, Inhabited

/-- The wording of a parse error. -/
def ParseError.message : ParseError → String
  | .relative => "relative URL without a base"
  | .emptyHost => "empty host"
  | .invalidPort => "invalid port number"
  | .invalidIpv4 => "invalid IPv4 address"
  | .invalidIpv6 => "invalid IPv6 address"
  | .invalidDomain => "invalid international domain name"
  | .invalidHostCharacter => "invalid domain character"

namespace Host

/-! ## IPv4 -/

/-- The value of a digit in a base up to sixteen. -/
def digitIn? (base : Nat) (c : Char) : Option Nat :=
  (Percent.value? c).filter (· < base)

/-- A part of an IPv4 address: decimal, octal after `0`, hexadecimal after `0x`. -/
def ipv4Part? (part : List Char) : Option Nat :=
  let read (base : Nat) (ds : List Char) : Option Nat :=
    ds.foldlM (fun n c => (digitIn? base c).map (n * base + ·)) 0
  match part with
  | [] => none
  | '0' :: 'x' :: ds => read 16 ds
  | '0' :: 'X' :: ds => read 16 ds
  | '0' :: d :: ds => read 8 (d :: ds)
  | ds => read 10 ds

/-- The parts of a dotted name, without an empty last one. -/
def dotted (name : List Char) : List (List Char) :=
  let parts := Domain.labels name
  if parts.getLast? = some [] then parts.dropLast else parts

/-- Whether the last part of a domain makes it an IPv4 address. -/
def endsInNumber (name : List Char) : Bool :=
  match (dotted name).getLast? with
  | none => false
  | some part => (part ≠ [] ∧ part.all Char.isDigit) || (ipv4Part? part).isSome

/-- The address of a dotted name: each part but the last is a byte, the last one fills the rest. -/
def ipv4? (name : List Char) : Option Nat := do
  let parts := dotted name
  if 4 < parts.length then none
  let numbers ← parts.mapM ipv4Part?
  let last ← numbers.getLast?
  let front := numbers.dropLast
  if front.any (255 < ·) ∨ Nat.pow 256 (4 - front.length) ≤ last then none
  some (front.zipIdx.foldl (fun n p => n + p.1 * Nat.pow 256 (3 - p.2)) last)

/-- Four decimal numbers. -/
def writeIpv4 (n : Nat) : String :=
  let bytes := [n / Nat.pow 2 24, n / Nat.pow 2 16 % 256, n / Nat.pow 2 8 % 256, n % 256]
  ".".intercalate (bytes.map toString)

/-! ## IPv6 -/

/-- Up to four hexadecimal digits, and the rest. -/
def hexPiece (text : List Char) : Nat × Nat × List Char :=
  let ds := (text.take 4).takeWhile fun c => (Percent.value? c).isSome
  (ds.foldl (fun n c => n * 16 + (Percent.value? c).getD 0) 0, ds.length, text.drop ds.length)

/-- Four decimal numbers without leading zeros as two pieces. -/
def embedded? (text : List Char) : Option (List Nat) := do
  let parts := Domain.labels text
  if parts.length ≠ 4 then none
  let bytes ← parts.mapM fun p =>
    if p = [] ∨ 3 < p.length ∨ !p.all Char.isDigit ∨ (p.head? = some '0' ∧ p.length ≠ 1) then none
    else
      let n := p.foldl (fun n c => n * 10 + (c.toNat - 48)) 0
      if 255 < n then none else some n
  match bytes with
  | [a, b, c, d] => some [a * 256 + b, c * 256 + d]
  | _ => none

/-- Reads pieces between colons, at most `room` of them, each of one to four digits; the last two
    may be written as four decimal numbers. -/
def pieces? : Nat → List Char → Option (List Nat)
  | 0, _ => none
  | room + 1, text =>
    let (v, n, rest) := hexPiece text
    if n = 0 then none
    else
      match rest with
      | [] => some [v]
      | '.' :: _ => if 1 ≤ room then embedded? text else none
      | ':' :: rest => (pieces? room rest).map (v :: ·)
      | _ => none

/-- Splits at the first `::`. -/
def splitGap : List Char → Option (List Char × List Char)
  | ':' :: ':' :: rest => some ([], rest)
  | c :: rest => (splitGap rest).map fun p => (c :: p.1, p.2)
  | [] => none

/-- The eight pieces of an IPv6 address. -/
def ipv6? (text : List Char) : Option (List Nat) := do
  let side (s : List Char) : Option (List Nat) := if s = [] then some [] else pieces? 8 s
  match splitGap text with
  | none =>
    let ps ← pieces? 8 text
    if ps.length = 8 then some ps else none
  | some (left, right) =>
    -- four decimal numbers end an address, so they cannot stand before the gap
    if left.contains '.' then none
    let l ← side left
    let r ← side right
    if l.length + r.length ≤ 7 then
      some (l ++ List.replicate (8 - l.length - r.length) 0 ++ r)
    else none

/-- The first longest run of zeros, if it has at least two. -/
def zeroRun (ps : List Nat) : Option (Nat × Nat) :=
  let runs := (List.range ps.length).map fun i => (i, ((ps.drop i).takeWhile (· == 0)).length)
  let best := runs.foldl (fun b r => if b.2 < r.2 then r else b) (0, 1)
  if 1 < best.2 then some best else none

/-- Hexadecimal pieces, with the longest run of zeros left out. -/
def writeIpv6 (ps : List Nat) : String :=
  let piece (n : Nat) : String := String.ofList (Nat.toDigits 16 n)
  let join (l : List Nat) : String := ":".intercalate (l.map piece)
  match zeroRun ps with
  | none => join ps
  | some (start, length) => join (ps.take start) ++ "::" ++ join (ps.drop (start + length))

/-! ## Hosts of URLs -/

/-- An IPv6 address between brackets. -/
def bracketed (text : List Char) : Except ParseError String :=
  match text.getLast? with
  | some ']' =>
    match ipv6? (text.drop 1).dropLast with
    | some ps => .ok ("[" ++ writeIpv6 ps ++ "]")
    | none => .error .invalidIpv6
  | _ => .error .invalidIpv6

/-- The written form of a host in a URL of a known scheme. -/
def parse (text : List Char) : Except ParseError String :=
  match text with
  | '[' :: _ => bracketed text
  | _ =>
    match Domain.ascii? (Percent.decode text) with
    | none => .error .invalidDomain
    | some [] => .error .emptyHost
    | some name =>
      if endsInNumber name then
        match ipv4? name with
        | some n => .ok (writeIpv4 n)
        | none => .error .invalidIpv4
      else .ok (String.ofList name)

/-- The written form of a host in a URL of an unknown scheme. -/
def parseOpaque (text : List Char) : Except ParseError String :=
  match text with
  | '[' :: _ => bracketed text
  | _ =>
    if text.any fun c =>
        c ∈ ['\x00', '\t', '\n', '\r', ' ', '#', '/', ':', '<', '>', '?', '@', '[', '\\', ']', '^',
      '|']
    then .error .invalidHostCharacter
    else .ok (String.ofList (Percent.encode Percent.control text))

end Host

end Courier.Url

/-!
# Punycode

A label in ASCII: first its ASCII characters, then, after a hyphen, where the others go, as
differences written in digits and letters. How many digits a difference takes adapts to the ones
before it.

Results:

* `Punycode.readDelta?_length`: reading a difference leaves fewer characters.
-/

namespace Courier.Punycode

/-! ## Digits -/

/-- The digit of a value below 36: letters, then figures. -/
def digit (d : Nat) : Char := if d < 26 then Char.ofNat (97 + d) else Char.ofNat (22 + d)

/-- The value of a digit. -/
def value? (c : Char) : Option Nat :=
  if 'a' ≤ c ∧ c ≤ 'z' then some (c.toNat - 97)
  else if 'A' ≤ c ∧ c ≤ 'Z' then some (c.toNat - 65)
  else if '0' ≤ c ∧ c ≤ '9' then some (c.toNat - 22)
  else none

/-- The value from which on a digit at place `k` says that more digits follow. -/
def threshold (k bias : Nat) : Nat := max 1 (min 26 (k - bias))

/-- Scales a difference down, and counts 36 for each step. -/
def scaleDown (delta k : Nat) : Nat × Nat :=
  if 455 < delta then scaleDown (delta / 35) (k + 36) else (delta, k)
termination_by delta
decreasing_by exact Nat.div_lt_self (by omega) (by omega)

/-- The bias for the next difference. -/
def adapt (delta points : Nat) (first : Bool) : Nat :=
  let d := if first then delta / 700 else delta / 2
  let r := scaleDown (d + d / points) 0
  r.2 + 36 * r.1 / (r.1 + 38)

/-- A difference as digits of growing place. -/
def writeDelta (bias k q : Nat) : List Char :=
  let t := threshold k bias
  if q < t then [digit q]
  else digit (t + (q - t) % (36 - t)) :: writeDelta bias (k + 36) ((q - t) / (36 - t))
termination_by q
decreasing_by
  have h1 : 1 ≤ threshold k bias := by unfold threshold; omega
  have h2 : (q - threshold k bias) / (36 - threshold k bias) ≤ q - threshold k bias :=
    Nat.div_le_self ..
  omega

/-! ## Writing -/

/-- The digits written so far, with the running difference, the bias and the points handled. -/
structure Writer where
  out : List Char
  delta : Nat
  bias : Nat
  handled : Nat

/-- Passes one character of the label while the code point `m` is inserted. -/
def Writer.pass (basic m : Nat) (w : Writer) (c : Char) : Writer :=
  if c.toNat < m then { w with delta := w.delta + 1 }
  else if c.toNat = m then
    { out := w.out ++ writeDelta w.bias 36 w.delta
      delta := 0
      bias := adapt w.delta (w.handled + 1) (w.handled == basic)
      handled := w.handled + 1 }
  else w

/-- Inserts the code points beyond ASCII in ascending order, from `n` on. -/
def insertPoints (label : List Char) (basic : Nat) : List Nat → Nat → Writer → Writer
  | [], _, w => w
  | m :: rest, n, w =>
    let w := { w with delta := w.delta + (m - n) * (w.handled + 1) }
    let w := label.foldl (Writer.pass basic m) w
    insertPoints label basic rest (m + 1) { w with delta := w.delta + 1 }

/-- The punycode of a label. -/
def write (label : List Char) : List Char :=
  let basic := label.filter (·.toNat < 0x80)
  let points := ((label.map Char.toNat).filter (0x80 ≤ ·)).mergeSort.eraseDups
  let start : Writer := ⟨[], 0, 72, basic.length⟩
  basic ++ (if basic = [] then [] else ['-']) ++
    (insertPoints label basic.length points 128 start).out

/-! ## Reading -/

/-- Reads one difference: the value and the rest. -/
def readDelta? (bias : Nat) : Nat → Nat → Nat → List Char → Option (Nat × List Char)
  | _, _, _, [] => none
  | k, weight, sum, c :: rest => do
    let d ← value? c
    let sum := sum + d * weight
    let t := threshold k bias
    if d < t then some (sum, rest) else readDelta? bias (k + 36) (weight * (36 - t)) sum rest

theorem readDelta?_length {bias k weight sum v : Nat} {s rest : List Char}
    (h : readDelta? bias k weight sum s = some (v, rest)) : rest.length < s.length := by
  induction s generalizing k weight sum with
  | nil => simp [readDelta?] at h
  | cons c s ih =>
    simp only [readDelta?, Option.bind_eq_bind] at h
    cases hv : value? c with
    | none => simp [hv] at h
    | some d =>
      simp only [hv, Option.bind_some] at h
      split at h
      · simp at h
        simp [h.2]
      · have := ih h
        simp
        omega

/-- Inserts the code points that the rest of a punycode text gives. -/
def readPoints? (label : List Char) (n i bias : Nat) (basic : Nat) (s : List Char) :
    Option (List Char) :=
  if _hs : s = [] then some label
  else
    match h : readDelta? bias 36 1 i s with
    | none => none
    | some (sum, rest) =>
      let count := label.length + 1
      let bias := adapt (sum - i) count (label.length == basic)
      let n := n + sum / count
      let place := sum % count
      if n < 0x80 ∨ 0x10FFFF < n ∨ (0xD800 ≤ n ∧ n ≤ 0xDFFF) then none
      else
        readPoints? (label.take place ++ Char.ofNat n :: label.drop place) n (place + 1) bias basic
          rest
termination_by s.length
decreasing_by exact readDelta?_length h

/-- The label that a punycode text writes. -/
def read? (text : List Char) : Option (List Char) :=
  let tail := text.reverse.takeWhile (· ≠ '-')
  let rest := tail.reverse
  let basic := text.take (text.length - tail.length - 1)
  if tail.length = text.length then readPoints? [] 128 0 72 0 text
  else readPoints? basic 128 0 72 basic.length rest

end Courier.Punycode

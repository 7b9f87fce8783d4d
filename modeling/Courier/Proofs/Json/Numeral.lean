import Courier.Json.Numeral

/-!
# Integers in decimal

Results:

* `Numeral.ofChars?_toString`: the decimal form of an integer is read as its numeral.
* `Numeral.number?_ofInt`: that numeral stands for the integer, if it fits 64 bits.
-/

namespace Courier.Json.Numeral

/-! ## Digits -/

theorem digit?_of_isDigit {c : Char} (h : c.isDigit = true) : digit? c = some (c.toNat - 48) := by
  rw [Char.isDigit_iff_toNat] at h
  exact if_pos h

theorem digits_of_isDigit {text : List Char} (h : ∀ c ∈ text, c.isDigit = true) :
    digits text = (text.map fun c => c.toNat - 48, []) := by
  induction text with
  | nil => rfl
  | cons c rest ih =>
    rw [digits, digit?_of_isDigit (h c List.mem_cons_self),
      ih fun d hd => h d (List.mem_cons_of_mem _ hd)]
    rfl

/-- The digits of a number, the highest first. -/
def digitsOf (n : Nat) : List Nat := (Nat.toDigits 10 n).map fun c => c.toNat - 48

theorem digits_toDigits (n : Nat) : digits (Nat.toDigits 10 n) = (digitsOf n, []) :=
  digits_of_isDigit fun _ hc => Nat.isDigit_of_mem_toDigits (by decide) (by decide) hc

theorem digitsOf_of_lt {n : Nat} (h : n < 10) : digitsOf n = [n] := by
  rw [digitsOf, Nat.toDigits_of_lt_base h, List.map_singleton,
    Nat.toNat_digitChar_sub_48_of_lt_ten h]

theorem digitsOf_of_le {n : Nat} (h : 10 ≤ n) : digitsOf n = digitsOf (n / 10) ++ [n % 10] := by
  rw [digitsOf, Nat.toDigits_of_base_le (by decide) h, List.map_append, List.map_singleton,
    Nat.toNat_digitChar_sub_48_of_lt_ten (Nat.mod_lt _ (by decide))]
  rfl

theorem ofDigits_digitsOf (n : Nat) : ofDigits (digitsOf n) = n := by
  induction n using Nat.strongRecOn with
  | ind n ih =>
    by_cases h : n < 10
    · rw [digitsOf_of_lt h]
      exact Nat.zero_add n
    · have hdiv := ih (n / 10) (by omega)
      rw [ofDigits] at hdiv
      rw [digitsOf_of_le (Nat.le_of_not_lt h), ofDigits, List.foldl_append, hdiv]
      show n / 10 * 10 + n % 10 = n
      omega

theorem digitsOf_ne_nil (n : Nat) : digitsOf n ≠ [] := by
  by_cases h : n < 10
  · rw [digitsOf_of_lt h]
    nofun
  · rw [digitsOf_of_le (Nat.le_of_not_lt h)]
    simp

/-- Only zero starts with a zero. -/
theorem digitsOf_head? {n : Nat} (h : (digitsOf n).head? = some 0) : n = 0 := by
  induction n using Nat.strongRecOn with
  | ind n ih =>
    by_cases hn : n < 10
    · rw [digitsOf_of_lt hn] at h
      exact Option.some.inj h
    · rw [digitsOf_of_le (Nat.le_of_not_lt hn), List.head?_append,
        Option.or_of_isSome (by simpa using digitsOf_ne_nil _)] at h
      have := ih (n / 10) (by omega) h
      omega

/-! ## Integers -/

/-- The numeral that an integer is written as. -/
def ofInt (n : Int) : Numeral := ⟨n < 0, digitsOf n.natAbs, [], none⟩

theorem not_hasLeadingZero (n : Nat) :
    ¬ (digitsOf n = [] ∨ ((digitsOf n).head? = some 0 ∧ (digitsOf n).length ≠ 1)) := by
  rintro (h | ⟨h, hlength⟩)
  · exact digitsOf_ne_nil n h
  · obtain rfl := digitsOf_head? h
    exact hlength rfl

theorem ofChars?_negative (n : Nat) :
    ofChars? ('-' :: Nat.toDigits 10 n) = some ⟨true, digitsOf n, [], none⟩ := by
  simp only [ofChars?, digits_toDigits]
  rw [if_neg (not_hasLeadingZero n)]
  rfl

theorem ofChars?_natural (n : Nat) :
    ofChars? (Nat.toDigits 10 n) = some ⟨false, digitsOf n, [], none⟩ := by
  have hsign : ∀ rest, Nat.toDigits 10 n ≠ '-' :: rest := by
    intro rest h
    have hdigit := Nat.isDigit_of_mem_toDigits (b := 10) (n := n) (c := '-') (by decide)
      (by decide) (by rw [h]; exact List.mem_cons_self)
    exact absurd hdigit (by decide)
  unfold ofChars?
  split
  rename_i heq
  split at heq
  · exact absurd ‹_› (hsign _)
  · cases heq
    simp only [digits_toDigits]
    rw [if_neg (not_hasLeadingZero n)]
    rfl

theorem ofChars?_toString (n : Int) : ofChars? (toString n).toList = some (ofInt n) := by
  cases n with
  | ofNat n =>
    show ofChars? (Nat.repr n).toList = _
    rw [Nat.toList_repr, ofChars?_natural]
    rfl
  | negSucc n =>
    have hofInt : ofInt (.negSucc n) = ⟨true, digitsOf (n + 1), [], none⟩ := by
      simp [ofInt, Int.negSucc_lt_zero]
    show ofChars? ("-" ++ Nat.repr (n + 1)).toList = _
    rw [String.toList_append, Nat.toList_repr, hofInt, ← ofChars?_negative]
    rfl

theorem isInteger_ofInt (n : Int) : (ofInt n).isInteger = true := by
  have hzero : (decide (n < 0) && n.natAbs == 0) = false := by
    rw [Bool.and_eq_false_imp]
    intro hneg
    have := of_decide_eq_true hneg
    exact beq_eq_false_iff_ne.2 (by omega)
  unfold ofInt isInteger
  rw [ofDigits_digitsOf, hzero]
  rfl

theorem integerPart_ofInt (n : Int) : (ofInt n).integerPart = n := by
  unfold ofInt integerPart
  rw [ofDigits_digitsOf]
  by_cases hneg : n < 0
  · rw [if_pos (decide_eq_true hneg)]
    omega
  · rw [if_neg (by simpa using hneg)]
    omega

theorem number?_ofInt {n : Int} (hlow : -Nat.pow 2 63 ≤ n) (hhigh : n ≤ Nat.pow 2 64 - 1) :
    (ofInt n).number? = some (.int n) := by
  have hint : (ofInt n).int? (-Nat.pow 2 63) (Nat.pow 2 64 - 1) = some n := by
    unfold int?
    rw [integerPart_ofInt, if_pos ⟨isInteger_ofInt n, hlow, hhigh⟩]
  unfold number?
  rw [hint]

end Courier.Json.Numeral

import Courier.Json.Document
import Courier.Json.Printer
import Courier.Proofs.Json.Numeral

/-!
# Reading what was written

The characters of a value are read as its tokens, these as its document, and that has the value. An
exact value comes back as it was: its integers fit 64 bits, its objects are in key order, and it is
not nested too deep. Doubles are left out, since not every text is one. Up to the document nothing
else matters.

Results:

* `Token.lex?_write`: the characters of a value are read as its tokens.
* `Document.runFrom_tokens`: the tokens of a value are read as its document.
* `Value.ofText?_render`: an exact value is read back from its text.
-/

namespace Courier.Json

/-! ## Values, tokens and documents -/

mutual

/-- Whether a value inside `depth` containers can be read back. -/
def Value.IsExact (depth : Nat) : Value → Prop
  | .null | .bool _ | .str _ => True
  | .num (.int n) => -Nat.pow 2 63 ≤ n ∧ n ≤ Nat.pow 2 64 - 1
  | .num (.float _) => False
  | .arr items => depth < Document.depthLimit ∧ Value.AreExact (depth + 1) items
  | .obj fields => depth < Document.depthLimit ∧ fields.Pairwise (fun a b => a.1 < b.1) ∧
      Value.FieldsExact (depth + 1) fields

/-- Whether all items can be read back. -/
def Value.AreExact (depth : Nat) : List Value → Prop
  | [] => True
  | v :: rest => v.IsExact depth ∧ Value.AreExact depth rest

/-- Whether all fields can be read back. -/
def Value.FieldsExact (depth : Nat) : List (String × Value) → Prop
  | [] => True
  | (_, v) :: rest => v.IsExact depth ∧ Value.FieldsExact depth rest

end

mutual

/-- Whether a value has no doubles in it. -/
def Value.HasNoDouble : Value → Prop
  | .null | .bool _ | .str _ | .num (.int _) => True
  | .num (.float _) => False
  | .arr items => Value.ItemsHaveNoDouble items
  | .obj fields => Value.FieldsHaveNoDouble fields

/-- Whether no item has doubles in it. -/
def Value.ItemsHaveNoDouble : List Value → Prop
  | [] => True
  | v :: rest => v.HasNoDouble ∧ Value.ItemsHaveNoDouble rest

/-- Whether no field has doubles in it. -/
def Value.FieldsHaveNoDouble : List (String × Value) → Prop
  | [] => True
  | (_, v) :: rest => v.HasNoDouble ∧ Value.FieldsHaveNoDouble rest

end

mutual

theorem Value.IsExact.hasNoDouble : ∀ {v : Value} {depth : Nat}, v.IsExact depth → v.HasNoDouble
  | .null, _, _ | .bool _, _, _ | .str _, _, _ | .num (.int _), _, _ => trivial
  | .num (.float _), _, h => h.elim
  | .arr _, _, h => Value.AreExact.haveNoDouble h.2
  | .obj _, _, h => Value.FieldsExact.haveNoDouble h.2.2

theorem Value.AreExact.haveNoDouble : ∀ {items : List Value} {depth : Nat},
    Value.AreExact depth items → Value.ItemsHaveNoDouble items
  | [], _, _ => trivial
  | _ :: _, _, h => ⟨Value.IsExact.hasNoDouble h.1, Value.AreExact.haveNoDouble h.2⟩

theorem Value.FieldsExact.haveNoDouble : ∀ {fields : List (String × Value)} {depth : Nat},
    Value.FieldsExact depth fields → Value.FieldsHaveNoDouble fields
  | [], _, _ => trivial
  | _ :: _, _, h => ⟨Value.IsExact.hasNoDouble h.1, Value.FieldsExact.haveNoDouble h.2⟩

end

theorem Value.fieldsHaveNoDouble_iff (fields : List (String × Value)) :
    Value.FieldsHaveNoDouble fields ↔ ∀ f ∈ fields, f.2.HasNoDouble := by
  induction fields with
  | nil => simp [Value.FieldsHaveNoDouble]
  | cons f rest ih => simp [Value.FieldsHaveNoDouble, ih]

mutual

/-- The tokens of a value. -/
def Value.tokens : Value → List Token
  | .null => [.null]
  | .bool b => [.bool b]
  | .num (.int n) => [.num (.ofInt n)]
  | .num (.float _) => []
  | .str text => [.str (some text)]
  | .arr items => .mark '[' :: Value.itemTokens items ++ [.mark ']']
  | .obj fields => .mark '\x7b' :: Value.fieldTokens fields ++ [.mark '\x7d']

/-- The tokens of items between commas. -/
def Value.itemTokens : List Value → List Token
  | [] => []
  | [v] => v.tokens
  | v :: rest => v.tokens ++ .mark ',' :: Value.itemTokens rest

/-- The tokens of fields between commas. -/
def Value.fieldTokens : List (String × Value) → List Token
  | [] => []
  | [(key, v)] => .str (some key) :: .mark ':' :: v.tokens
  | (key, v) :: rest =>
    .str (some key) :: .mark ':' :: v.tokens ++ .mark ',' :: Value.fieldTokens rest

end

theorem Value.itemTokens_cons_cons (v w : Value) (rest : List Value) :
    Value.itemTokens (v :: w :: rest) =
      v.tokens ++ .mark ',' :: Value.itemTokens (w :: rest) := rfl

theorem Value.fieldTokens_cons_cons (key : String) (v : Value) (w : String × Value)
    (rest : List (String × Value)) :
    Value.fieldTokens ((key, v) :: w :: rest) =
      .str (some key) :: .mark ':' :: v.tokens ++ .mark ',' :: Value.fieldTokens (w :: rest) := rfl

mutual

/-- The document of a value. -/
def Document.ofValue : Value → Document
  | .null | .num (.float _) => .null
  | .bool b => .bool b
  | .num (.int n) => .num (.ofInt n)
  | .str text => .str (some text)
  | .arr items => .arr (Document.ofValues items)
  | .obj fields => .obj (Document.ofFields fields)

/-- The documents of items. -/
def Document.ofValues : List Value → List Document
  | [] => []
  | v :: rest => Document.ofValue v :: Document.ofValues rest

/-- The documents of fields. -/
def Document.ofFields : List (String × Value) → List (Option String × Document)
  | [] => []
  | (key, v) :: rest => (some key, Document.ofValue v) :: Document.ofFields rest

end

/-! ## Characters -/

namespace Token

/-- A string whose content is known so far, last character first. -/
def Partial.reading (content : List Char) : Partial := ⟨some content, none⟩

theorem hexDigit?_hexDigit : ∀ n : Fin 16, hexDigit? (hexDigit n.val) = some n.val := by decide

theorem unit_reading {c : Char} (h : c.toNat < 0x20) (content : List Char) :
    (Partial.reading content).unit c.toNat = .reading (c :: content) := by
  have hlead : ¬ (0xD800 ≤ c.toNat ∧ c.toNat ≤ 0xDBFF) := by omega
  have htrail : ¬ (0xDC00 ≤ c.toNat ∧ c.toNat ≤ 0xDFFF) := by omega
  show (if _ then _ else if _ then _ else _) = _
  rw [if_neg hlead, if_neg htrail, Char.ofNat_toNat]
  rfl

theorem step_unit {c : Char} {digit : Nat} (h : hexDigit? c = some digit) (p : Partial)
    (digits value : Nat) (tokens : List Token) :
    Reader.step ⟨.unit p digits value, tokens⟩ (some c) =
      some (if digits = 3 then ⟨.string (p.unit (value * 16 + digit)), tokens⟩
        else ⟨.unit p (digits + 1) (value * 16 + digit), tokens⟩) := by
  simp only [Reader.step, h, Option.map_some]

/-- A control character is read from the four digits after its escape. -/
theorem lexFrom_control {c : Char} (h : c.toNat < 0x20) (content : List Char)
    (tokens : List Token) :
    lexFrom ⟨.string (.reading content), tokens⟩
        (['\\', 'u', '0', '0', hexDigit (c.toNat / 16), hexDigit (c.toNat % 16)].map some) =
      some ⟨.string (.reading (c :: content)), tokens⟩ := by
  have hhigh := hexDigit?_hexDigit ⟨c.toNat / 16, by omega⟩
  have hlow := hexDigit?_hexDigit ⟨c.toNat % 16, Nat.mod_lt _ (by decide)⟩
  have hvalue : (0 * 16 + c.toNat / 16) * 16 + c.toNat % 16 = c.toNat := by omega
  calc
    _ = lexFrom ⟨.unit (.reading content) 2 0, tokens⟩
          [some (hexDigit (c.toNat / 16)), some (hexDigit (c.toNat % 16))] := rfl
    _ = lexFrom ⟨.unit (.reading content) 3 (0 * 16 + c.toNat / 16), tokens⟩
          [some (hexDigit (c.toNat % 16))] := by
      rw [lexFrom_cons, step_unit hhigh]
      rfl
    _ = some ⟨.string ((Partial.reading content).unit c.toNat), tokens⟩ := by
      rw [lexFrom_cons, step_unit hlow, if_pos rfl, hvalue]
      rfl
    _ = _ := by rw [unit_reading h]

/-- A character is read from its written form. -/
theorem lexFrom_escapeChar (c : Char) (content : List Char) (tokens : List Token) :
    lexFrom ⟨.string (.reading content), tokens⟩ ((escapeChar c).map some) =
      some ⟨.string (.reading (c :: content)), tokens⟩ := by
  unfold escapeChar
  split
  iterate 7 rfl
  rename_i hquote hslash _ _ _ _ _
  split
  · exact lexFrom_control (c := c) ‹_› content tokens
  · rw [List.map_singleton, lexFrom_cons, Reader.step]
    simp only [if_neg hquote, if_neg hslash, if_neg ‹_›]
    rfl

theorem lexFrom_escaped (text content : List Char) (tokens : List Token) :
    lexFrom ⟨.string (.reading content), tokens⟩ ((text.flatMap escapeChar).map some) =
      some ⟨.string (.reading (text.reverse ++ content)), tokens⟩ := by
  induction text generalizing content with
  | nil => rfl
  | cons c rest ih =>
    rw [List.flatMap_cons, List.map_append, lexFrom_append, lexFrom_escapeChar, Option.bind_some,
      ih, List.reverse_cons, List.append_assoc]
    rfl

/-- A text is read from its written form. -/
theorem lexFrom_writeText (text : String) (tokens : List Token) :
    lexFrom ⟨.between, tokens⟩ ((writeText text).map some) =
      some ⟨.between, .str (some text) :: tokens⟩ := by
  rw [writeText, List.cons_append, List.map_cons, List.map_append, lexFrom_cons]
  show lexFrom ⟨.string (.reading []), tokens⟩ _ = _
  rw [lexFrom_append, lexFrom_escaped, Option.bind_some]
  simp [lexFrom_cons, Reader.step, Partial.finish, Partial.reading]

/-! ## Values -/

/-- The characters that may follow a value inside another one. -/
def IsClosing (c : Char) : Prop := c = ',' ∨ c = ']' ∨ c = '\x7d'

theorem begin_closing {c : Char} (h : IsClosing c) (tokens : List Token) :
    Reader.begin tokens c = some ⟨.between, .mark c :: tokens⟩ := by
  obtain rfl | rfl | rfl := h <;> rfl

/-- A reader that has come to the end of a value reads the mark after it. -/
theorem step_closing {r : Reader} {tokens : List Token} (h : r.close = some ⟨.between, tokens⟩)
    {c : Char} (hc : IsClosing c) : r.step (some c) = some ⟨.between, .mark c :: tokens⟩ := by
  obtain ⟨position, before⟩ := r
  cases position with
  | between =>
    cases h
    exact begin_closing hc tokens
  | string p => cases h
  | escape p => cases h
  | unit p digits value => cases h
  | numeral text =>
    have hnumeral : inNumeral c = false := by obtain rfl | rfl | rfl := hc <;> rfl
    simp only [Reader.step, hnumeral, h, Option.bind_some, begin_closing hc, Bool.false_eq_true,
      if_false]
  | word text =>
    have hword : ¬ ('a' ≤ c ∧ c ≤ 'z') := by obtain rfl | rfl | rfl := hc <;> decide
    simp only [Reader.step, if_neg hword, h, Option.bind_some, begin_closing hc]

/-- What is read of a text at whose end a value may end. -/
def reads (tokens : List Token) (text : List Char) : Option Reader :=
  (lexFrom ⟨.between, tokens⟩ (text.map some)).bind Reader.close

@[simp] theorem reads_nil (tokens : List Token) : reads tokens [] = some ⟨.between, tokens⟩ := rfl

theorem reads_closing {tokens after : List Token} {text : List Char}
    (h : reads tokens text = some ⟨.between, after⟩) {c : Char} (hc : IsClosing c)
    (rest : List Char) : reads tokens (text ++ c :: rest) = reads (.mark c :: after) rest := by
  obtain ⟨r, hr, hclose⟩ := Option.bind_eq_some_iff.mp h
  rw [reads, List.map_append, List.map_cons, lexFrom_append, hr, Option.bind_some, lexFrom_cons,
    step_closing hclose hc, Option.bind_some, reads]

theorem lexFrom_numeral {text : List Char} (h : ∀ c ∈ text, inNumeral c = true)
    (done : List Char) (tokens : List Token) :
    lexFrom ⟨.numeral done, tokens⟩ (text.map some) =
      some ⟨.numeral (text.reverse ++ done), tokens⟩ := by
  induction text generalizing done with
  | nil => rfl
  | cons c rest ih =>
    have hstep : Reader.step ⟨.numeral done, tokens⟩ (some c) =
        some ⟨.numeral (c :: done), tokens⟩ :=
      if_pos (h c List.mem_cons_self)
    rw [List.map_cons, lexFrom_cons, hstep, Option.bind_some,
      ih fun d hd => h d (List.mem_cons_of_mem _ hd), List.reverse_cons, List.append_assoc]
    rfl

theorem isDigit_bounds {c : Char} (h : c.isDigit = true) : '0' ≤ c ∧ c ≤ '9' := by
  rw [Char.isDigit_iff_toNat] at h
  exact h

/-- An integer in decimal starts as a numeral does and goes on as one. -/
theorem toString_eq_cons (n : Int) : ∃ c rest, (toString n).toList = c :: rest ∧
    (c = '-' ∨ ('0' ≤ c ∧ c ≤ '9')) ∧ ∀ d ∈ rest, inNumeral d = true := by
  have hdigits (n : Nat) : ∀ d ∈ Nat.toDigits 10 n, '0' ≤ d ∧ d ≤ '9' := fun d hd =>
    isDigit_bounds (Nat.isDigit_of_mem_toDigits (by decide) (by decide) hd)
  have hnumeral {d : Char} (h : '0' ≤ d ∧ d ≤ '9') : inNumeral d = true := by
    simp [inNumeral, h.1, h.2]
  cases n with
  | ofNat n =>
    show ∃ c rest, (Nat.repr n).toList = _ ∧ _
    rw [Nat.toList_repr]
    cases heq : Nat.toDigits 10 n with
    | nil => exact absurd heq Nat.toDigits_ne_nil
    | cons c rest =>
      have hall := hdigits n
      rw [heq] at hall
      exact ⟨c, rest, rfl, .inr (hall c List.mem_cons_self), fun d hd =>
        hnumeral (hall d (List.mem_cons_of_mem _ hd))⟩
  | negSucc n =>
    refine ⟨'-', Nat.toDigits 10 (n + 1), ?_, .inl rfl, fun d hd => hnumeral (hdigits _ d hd)⟩
    show ("-" ++ Nat.repr (n + 1)).toList = _
    rw [String.toList_append, Nat.toList_repr]
    rfl

theorem begin_numeral {c : Char} (h : c = '-' ∨ ('0' ≤ c ∧ c ≤ '9')) (tokens : List Token) :
    Reader.begin tokens c = some ⟨.numeral [c], tokens⟩ := by
  have hblank : ¬ (c = ' ' ∨ c = '\n' ∨ c = '\t' ∨ c = '\r') := by
    rintro (rfl | rfl | rfl | rfl) <;> revert h <;> decide
  have hmark : c ∉ ['[', ']', '\x7b', '\x7d', ':', ','] := by
    intro hc
    simp only [List.mem_cons, List.not_mem_nil, or_false] at hc
    obtain rfl | rfl | rfl | rfl | rfl | rfl := hc <;> revert h <;> decide
  have hquote : c ≠ '"' := by
    rintro rfl
    revert h
    decide
  rw [Reader.begin, if_neg hblank, if_neg hmark, if_neg hquote, if_pos h]

theorem reads_int (n : Int) (tokens : List Token) :
    reads tokens (toString n).toList = some ⟨.between, .num (.ofInt n) :: tokens⟩ := by
  have hvalue := Numeral.ofChars?_toString n
  obtain ⟨c, rest, htext, hfirst, hrest⟩ := toString_eq_cons n
  rw [htext] at hvalue ⊢
  have hstep : Reader.step ⟨.between, tokens⟩ (some c) = some ⟨.numeral [c], tokens⟩ :=
    begin_numeral hfirst tokens
  rw [reads, List.map_cons, lexFrom_cons, hstep, Option.bind_some, lexFrom_numeral hrest,
    Option.bind_some, Reader.close]
  simp only [List.reverse_append, List.reverse_reverse, List.reverse_singleton,
    List.singleton_append, hvalue, Option.map_some]

theorem reads_writeText (text : String) (tokens : List Token) :
    reads tokens (writeText text) = some ⟨.between, .str (some text) :: tokens⟩ := by
  rw [reads, lexFrom_writeText]
  rfl

/-- The key of a field is read up to its colon. -/
theorem reads_key (key : String) (tokens : List Token) (rest : List Char) :
    reads tokens (writeText key ++ ':' :: rest) =
      reads (.mark ':' :: .str (some key) :: tokens) rest := by
  rw [reads, List.map_append, lexFrom_append, lexFrom_writeText]
  rfl

mutual

/-- The characters of a value are read as its tokens. -/
theorem reads_write : ∀ {v : Value}, v.HasNoDouble → ∀ tokens : List Token,
    reads tokens v.write = some ⟨.between, v.tokens.reverse ++ tokens⟩
  | .null, _, tokens => rfl
  | .bool true, _, tokens => rfl
  | .bool false, _, tokens => rfl
  | .num (.int n), _, tokens => reads_int n tokens
  | .num (.float _), h, tokens => h.elim
  | .str text, _, tokens => reads_writeText text tokens
  | .arr items, h, tokens => by
    have hopen : reads tokens (Value.arr items).write =
        reads (.mark '[' :: tokens) (Value.writeItems items ++ [']']) := rfl
    rw [hopen, reads_closing (reads_writeItems h _) (.inr (.inl rfl)), Value.tokens]
    simp
  | .obj fields, h, tokens => by
    have hopen : reads tokens (Value.obj fields).write =
        reads (.mark '\x7b' :: tokens) (Value.writeFields fields ++ ['\x7d']) := rfl
    rw [hopen, reads_closing (reads_writeFields h _) (.inr (.inr rfl)), Value.tokens]
    simp

theorem reads_writeItems : ∀ {items : List Value}, Value.ItemsHaveNoDouble items →
    ∀ tokens : List Token, reads tokens (Value.writeItems items) =
      some ⟨.between, (Value.itemTokens items).reverse ++ tokens⟩
  | [], _, tokens => rfl
  | [v], h, tokens => reads_write h.1 tokens
  | v :: w :: rest, h, tokens => by
    have hwrite : Value.writeItems (v :: w :: rest) =
        v.write ++ ',' :: Value.writeItems (w :: rest) := rfl
    rw [hwrite, reads_closing (reads_write h.1 tokens) (.inl rfl), reads_writeItems h.2,
      Value.itemTokens_cons_cons]
    simp

theorem reads_writeFields : ∀ {fields : List (String × Value)},
    Value.FieldsHaveNoDouble fields → ∀ tokens : List Token,
    reads tokens (Value.writeFields fields) =
      some ⟨.between, (Value.fieldTokens fields).reverse ++ tokens⟩
  | [], _, tokens => rfl
  | [(key, v)], h, tokens => by
    rw [Value.writeFields, reads_key, reads_write h.1, Value.fieldTokens]
    simp
  | (key, v) :: w :: rest, h, tokens => by
    have hwrite : Value.writeFields ((key, v) :: w :: rest) =
        writeText key ++ ':' :: (v.write ++ ',' :: Value.writeFields (w :: rest)) := by
      simp [Value.writeFields]
    rw [hwrite, reads_key, reads_closing (reads_write h.1 _) (.inl rfl), reads_writeFields h.2,
      Value.fieldTokens_cons_cons]
    simp

end

theorem lex?_write {v : Value} (h : v.HasNoDouble) :
    lex? (v.write.map some) = some v.tokens := by
  have hreads := reads_write h []
  obtain ⟨r, hr, hclose⟩ := Option.bind_eq_some_iff.mp hreads
  rw [lex?, Reader.start, hr, Option.bind_some, hclose]
  simp

end Token

/-! ## Documents -/

namespace Document

/-- The first token of an item does not close the array. -/
theorem runFrom_item {items : List Value} (hne : items ≠ []) (h : Value.ItemsHaveNoDouble items)
    (outer : List Frame) (rest : List Token) :
    runFrom (.item outer) (Value.itemTokens items ++ rest) =
      runFrom (.value (.items [] :: outer)) (Value.itemTokens items ++ rest) := by
  have hvalue {v : Value} (h : v.HasNoDouble) (rest : List Token) :
      runFrom (.item outer) (v.tokens ++ rest) =
        runFrom (.value (.items [] :: outer)) (v.tokens ++ rest) := by
    cases v with
    | num n =>
      cases n with
      | int n => rfl
      | float text => exact h.elim
    | _ => rfl
  match items, h with
  | [], _ => exact absurd rfl hne
  | [v], h => exact hvalue h.1 rest
  | v :: w :: tail, h =>
    rw [Value.itemTokens_cons_cons, List.append_assoc]
    exact hvalue h.1 _

/-- The key of the first field does not close the object. -/
theorem runFrom_firstKey {fields : List (String × Value)} (hne : fields ≠ [])
    (outer : List Frame) (rest : List Token) :
    runFrom (.firstKey outer) (Value.fieldTokens fields ++ rest) =
      runFrom (.key [] outer) (Value.fieldTokens fields ++ rest) := by
  match fields with
  | [] => exact absurd rfl hne
  | [(key, v)] => rfl
  | (key, v) :: w :: tail => rfl

mutual

/-- The tokens of a value are read as its document. -/
theorem runFrom_tokens : ∀ {v : Value}, v.HasNoDouble → ∀ outer : List Frame,
    runFrom (.value outer) v.tokens = some (place (ofValue v) outer)
  | .null, _, outer => rfl
  | .bool b, _, outer => rfl
  | .num (.int n), _, outer => rfl
  | .num (.float _), h, outer => h.elim
  | .str text, _, outer => rfl
  | .arr items, h, outer => by
    show runFrom (.item outer) (Value.itemTokens items ++ [.mark ']']) = _
    by_cases hne : items = []
    · subst hne
      rfl
    · rw [runFrom_item hne h]
      exact runFrom_itemTokens h hne [] outer
  | .obj fields, h, outer => by
    show runFrom (.firstKey outer) (Value.fieldTokens fields ++ [.mark '\x7d']) = _
    by_cases hne : fields = []
    · subst hne
      rfl
    · rw [runFrom_firstKey hne]
      exact runFrom_fieldTokens h hne [] outer

theorem runFrom_itemTokens : ∀ {items : List Value}, Value.ItemsHaveNoDouble items →
    items ≠ [] → ∀ (done : List Document) (outer : List Frame),
    runFrom (.value (.items done :: outer)) (Value.itemTokens items ++ [.mark ']']) =
      some (place (.arr (done.reverse ++ ofValues items)) outer)
  | [], _, hne, _, _ => absurd rfl hne
  | [v], h, _, done, outer => by
    rw [Value.itemTokens, runFrom_append, runFrom_tokens h.1]
    show some (place (.arr (ofValue v :: done).reverse) outer) = _
    simp [ofValues]
  | v :: w :: rest, h, _, done, outer => by
    rw [Value.itemTokens_cons_cons, List.append_assoc, runFrom_append, runFrom_tokens h.1]
    show runFrom (.value (.items (ofValue v :: done) :: outer))
      (Value.itemTokens (w :: rest) ++ [.mark ']']) = _
    rw [runFrom_itemTokens h.2 nofun]
    simp [ofValues]

theorem runFrom_fieldTokens : ∀ {fields : List (String × Value)},
    Value.FieldsHaveNoDouble fields → fields ≠ [] →
    ∀ (done : List (Option String × Document)) (outer : List Frame),
    runFrom (.key done outer) (Value.fieldTokens fields ++ [.mark '\x7d']) =
      some (place (.obj (done.reverse ++ ofFields fields)) outer)
  | [], _, hne, _, _ => absurd rfl hne
  | [(key, v)], h, _, done, outer => by
    show runFrom (.value (.field done (some key) :: outer)) (v.tokens ++ [.mark '\x7d']) = _
    rw [runFrom_append, runFrom_tokens h.1]
    show some (place (.obj ((some key, ofValue v) :: done).reverse) outer) = _
    simp [ofFields]
  | (key, v) :: w :: rest, h, _, done, outer => by
    show runFrom (.value (.field done (some key) :: outer))
      (v.tokens ++ .mark ',' :: Value.fieldTokens (w :: rest) ++ [.mark '\x7d']) = _
    rw [List.append_assoc, runFrom_append, runFrom_tokens h.1]
    show runFrom (.key ((some key, ofValue v) :: done) outer)
      (Value.fieldTokens (w :: rest) ++ [.mark '\x7d']) = _
    rw [runFrom_fieldTokens h.2 nofun]
    simp [ofFields]

end

theorem ofText?_render {v : Value} (h : v.HasNoDouble) :
    ofText? v.render = some (ofValue v) := by
  rw [ofText?, Value.render, String.toList_ofList, ofChars?, Token.lex?_write h, Option.bind_some,
    ofTokens?, runFrom_tokens h]
  rfl

mutual

/-- The document of an exact value has that value. -/
theorem value?_ofValue : ∀ {v : Value} {depth : Nat}, v.IsExact depth →
    value? depth (ofValue v) = some v
  | .null, _, _ => rfl
  | .bool b, _, _ => rfl
  | .num (.int n), _, h => by rw [ofValue, value?, Numeral.number?_ofInt h.1 h.2, Option.map_some]
  | .num (.float _), _, h => h.elim
  | .str text, _, _ => rfl
  | .arr items, depth, h => by
    rw [ofValue, value?, if_pos h.1, values?_ofValues h.2, Option.map_some]
  | .obj fields, depth, h => by
    have hdict : Dict.ofList fields = ⟨fields, h.2.1⟩ := Dict.ofList_entries ⟨fields, h.2.1⟩
    rw [ofValue, value?, if_pos h.1, fieldValues?_ofFields h.2.2, Option.map_some, hdict,
      Value.ofDict]

theorem values?_ofValues : ∀ {items : List Value} {depth : Nat}, Value.AreExact depth items →
    values? depth (ofValues items) = some items
  | [], _, _ => rfl
  | v :: rest, _, h => by
    rw [ofValues, values?, value?_ofValue h.1, values?_ofValues h.2]
    rfl

theorem fieldValues?_ofFields : ∀ {fields : List (String × Value)} {depth : Nat},
    Value.FieldsExact depth fields → fieldValues? depth (ofFields fields) = some fields
  | [], _, _ => rfl
  | (key, v) :: rest, _, h => by
    rw [ofFields, fieldValues?, value?_ofValue h.1, fieldValues?_ofFields h.2]
    rfl

end

end Document

/-! ## Texts -/

/-- The value that a text writes. -/
def Value.ofText? (text : String) : Option Value := (Document.ofText? text).bind (Document.value? 0)

/-- An exact value is read back from its text. -/
theorem Value.ofText?_render {v : Value} (h : v.IsExact 0) : Value.ofText? v.render = some v := by
  rw [Value.ofText?, Document.ofText?_render h.hasNoDouble, Option.bind_some,
    Document.value?_ofValue h]

end Courier.Json

import ProcWire.Text.Utf8

/-! # UTF-8 is read back as it was written

`Utf8.decode` accepts exactly the byte strings that `Utf8.encode` writes.  Both
work by the length of a character's form.  `encodeChar_of_one` to
`encodeChar_of_four` are the four shapes in which a character is written;
`lead?_of_one` to `lead?_of_four` say what the four kinds of lead byte promise.
Between them stands `continuation`, which reads one digit in base 64 after another.

The ranges that `Lead` sets for the first continuation byte are what makes the two
agree: they keep the number read above that of any shorter form, away from the
surrogates, and below 0x110000, so it is the number of a character whose form has
just that length.
-/
namespace ProcWire.Utf8

theorem ofNat_eq_of_eq_toNat {n : Nat} {b : UInt8} (h : n = b.toNat) : UInt8.ofNat n = b := by
  rw [h, UInt8.ofNat_toNat]

/-- The number of a character is below 0x110000 and not that of a surrogate. -/
theorem range_of_char (c : Char) : c.toNat < 0xD800 ∨ (0xDFFF < c.toNat ∧ c.toNat < 0x110000) :=
  c.valid

theorem toNat_charOfNat {n : Nat} (h : n.isValidChar) : (Char.ofNat n).toNat = n := by
  rw [Char.ofNat, dif_pos h]
  rfl

/-! ## The forms of a character -/

section Forms
variable {c : Char}

theorem encodeChar_of_one (high : c.toNat < 0x80) :
    String.utf8EncodeChar c = [UInt8.ofNat c.toNat] := by
  have h1 : c.val.toNat ≤ 0x7F := Nat.le_of_lt_succ high
  simp only [String.utf8EncodeChar, h1, ite_true]
  rfl

theorem encodeChar_of_two (low : 0x80 ≤ c.toNat) (high : c.toNat < 0x800) :
    String.utf8EncodeChar c =
      [UInt8.ofNat (c.toNat / 64 + 0xC0), UInt8.ofNat (c.toNat % 64 + 0x80)] := by
  have h1 : ¬ c.val.toNat ≤ 0x7F := Nat.not_le.mpr low
  have h2 : c.val.toNat ≤ 0x7FF := Nat.le_of_lt_succ high
  simp only [String.utf8EncodeChar, h1, h2, ite_true, ite_false]
  rw [Nat.mod_eq_of_lt (show c.val.toNat / 64 < 0x20 by omega)]
  rfl

theorem encodeChar_of_three (low : 0x800 ≤ c.toNat) (high : c.toNat < 0x10000) :
    String.utf8EncodeChar c =
      [UInt8.ofNat (c.toNat / 4096 + 0xE0), UInt8.ofNat (c.toNat / 64 % 64 + 0x80),
        UInt8.ofNat (c.toNat % 64 + 0x80)] := by
  have h2 : ¬ c.val.toNat ≤ 0x7FF := Nat.not_le.mpr low
  have h1 : ¬ c.val.toNat ≤ 0x7F := by omega
  have h3 : c.val.toNat ≤ 0xFFFF := Nat.le_of_lt_succ high
  simp only [String.utf8EncodeChar, h1, h2, h3, ite_true, ite_false]
  rw [Nat.mod_eq_of_lt (show c.val.toNat / 4096 < 0x10 by omega)]
  rfl

theorem encodeChar_of_four (low : 0x10000 ≤ c.toNat) :
    String.utf8EncodeChar c =
      [UInt8.ofNat (c.toNat / 262144 + 0xF0), UInt8.ofNat (c.toNat / 4096 % 64 + 0x80),
        UInt8.ofNat (c.toNat / 64 % 64 + 0x80), UInt8.ofNat (c.toNat % 64 + 0x80)] := by
  have h3 : ¬ c.val.toNat ≤ 0xFFFF := Nat.not_le.mpr low
  have h2 : ¬ c.val.toNat ≤ 0x7FF := by omega
  have h1 : ¬ c.val.toNat ≤ 0x7F := by omega
  have high : c.val.toNat < 0x110000 := by
    rcases range_of_char c with h | h
    · exact Nat.lt_trans h (by decide)
    · exact h.2
  simp only [String.utf8EncodeChar, h1, h2, h3, ite_false]
  rw [Nat.mod_eq_of_lt (show c.val.toNat / 262144 < 0x08 by omega)]
  rfl

end Forms

/-! ## Lead bytes -/

section Leads
variable {b : UInt8}

theorem lead?_of_one (high : b.toNat < 0x80) :
    lead? b = some { payload := b.toNat, following := 0 } := by
  have hb : b < 0x80 := UInt8.lt_iff_toNat_lt.mpr high
  rw [lead?, if_pos hb]

theorem lead?_of_two (low : 0xC2 ≤ b.toNat) (high : b.toNat < 0xE0) :
    lead? b = some { payload := b.toNat - 0xC0, following := 1 } := by
  simp only [lead?, UInt8.lt_iff_toNat_lt, ← UInt8.toNat_inj, UInt8.reduceToNat]
  rw [if_neg (by omega), if_neg (by omega), if_pos high]

theorem lead?_of_three (low : 0xE0 ≤ b.toNat) (high : b.toNat < 0xF0) :
    lead? b = some {
      payload := b.toNat - 0xE0
      following := 2
      low := if b.toNat = 0xE0 then 0xA0 else 0x80
      high := if b.toNat = 0xED then 0x9F else 0xBF } := by
  simp only [lead?, UInt8.lt_iff_toNat_lt, ← UInt8.toNat_inj, UInt8.reduceToNat]
  rw [if_neg (by omega), if_neg (by omega), if_neg (by omega)]
  split
  · simp [*]
  · split
    · simp [*]
    · simp [*]

theorem lead?_of_four (low : 0xF0 ≤ b.toNat) (high : b.toNat ≤ 0xF4) :
    lead? b = some {
      payload := b.toNat - 0xF0
      following := 3
      low := if b.toNat = 0xF0 then 0x90 else 0x80
      high := if b.toNat = 0xF4 then 0x8F else 0xBF } := by
  simp only [lead?, UInt8.lt_iff_toNat_lt, ← UInt8.toNat_inj, UInt8.reduceToNat]
  rw [if_neg (by omega), if_neg (by omega), if_neg (by omega), if_neg (by omega),
    if_neg (by omega), if_neg (by omega)]
  split
  · simp [*]
  · split
    · have hb : b.toNat ≠ 0xF4 := by omega
      simp [*]
    · have hb : b.toNat = 0xF4 := by omega
      simp [hb]

/-- A byte that may lead lies in one of the four ranges. -/
theorem range_of_lead? {lead : Lead} (h : lead? b = some lead) :
    b.toNat < 0x80 ∨ (0xC2 ≤ b.toNat ∧ b.toNat < 0xE0) ∨ (0xE0 ≤ b.toNat ∧ b.toNat < 0xF0) ∨
      (0xF0 ≤ b.toNat ∧ b.toNat ≤ 0xF4) := by
  simp only [lead?, UInt8.lt_iff_toNat_lt, ← UInt8.toNat_inj, UInt8.reduceToNat] at h
  by_cases gap : 0x80 ≤ b.toNat ∧ b.toNat < 0xC2
  · rw [if_neg (by omega), if_pos gap.2] at h
    contradiction
  · by_cases above : 0xF4 < b.toNat
    · rw [if_neg (by omega), if_neg (by omega), if_neg (by omega), if_neg (by omega),
        if_neg (by omega), if_neg (by omega), if_neg (by omega), if_neg (by omega),
        if_neg (by omega)] at h
      contradiction
    · omega

end Leads

/-! ## Continuation bytes -/

/-- A continuation byte within its range adds a digit in base 64. -/
theorem continuation_digit {code seen following : Nat} {low high : UInt8} {bytes : Bytes}
    {digit : Nat} (hd : digit < 64) (hl : low.toNat ≤ digit + 0x80)
    (hh : digit + 0x80 ≤ high.toNat) :
    continuation code seen low high (following + 1) (UInt8.ofNat (digit + 0x80) :: bytes) =
      continuation (code * 64 + digit) (seen + 1) 0x80 0xBF following bytes := by
  have value : (UInt8.ofNat (digit + 0x80)).toNat = digit + 0x80 := by
    rw [UInt8.toNat_ofNat']
    omega
  have within : low ≤ UInt8.ofNat (digit + 0x80) ∧ UInt8.ofNat (digit + 0x80) ≤ high := by
    rw [UInt8.le_iff_toNat_le, UInt8.le_iff_toNat_le, value]
    exact ⟨hl, hh⟩
  rw [continuation, if_pos within, value, Nat.add_sub_cancel]

theorem of_continuation_succ {code seen following : Nat} {low high : UInt8} {bytes rest : Bytes}
    {c : Char} (h : continuation code seen low high (following + 1) bytes = .char c rest) :
    ∃ b tail, bytes = b :: tail ∧ low.toNat ≤ b.toNat ∧ b.toNat ≤ high.toNat ∧
      continuation (code * 64 + (b.toNat - 0x80)) (seen + 1) 0x80 0xBF following tail =
        .char c rest := by
  cases bytes with
  | nil => simp [continuation] at h
  | cons b tail =>
    rw [continuation] at h
    split at h
    · rename_i hb
      exact ⟨b, tail, rfl, hb.1, hb.2, h⟩
    · contradiction

/-! ## One character -/

section Steps
variable {c : Char}

theorem step_of_one (high : c.toNat < 0x80) (rest : Bytes) :
    step (UInt8.ofNat c.toNat) rest = .char c rest := by
  have lead : (UInt8.ofNat c.toNat).toNat = c.toNat := by
    rw [UInt8.toNat_ofNat']
    omega
  rw [step, lead?_of_one (by omega)]
  simp only [lead]
  rw [continuation, Char.ofNat_toNat]

theorem step_of_two (low : 0x80 ≤ c.toNat) (high : c.toNat < 0x800) (rest : Bytes) :
    step (UInt8.ofNat (c.toNat / 64 + 0xC0)) (UInt8.ofNat (c.toNat % 64 + 0x80) :: rest) =
      .char c rest := by
  have lead : (UInt8.ofNat (c.toNat / 64 + 0xC0)).toNat = c.toNat / 64 + 0xC0 := by
    rw [UInt8.toNat_ofNat']
    omega
  have code : c.toNat / 64 * 64 + c.toNat % 64 = c.toNat := by omega
  rw [step, lead?_of_two (by omega) (by omega)]
  simp only [lead, Nat.add_sub_cancel]
  rw [continuation_digit (by omega) (by simp) (by simp; omega), code, continuation,
    Char.ofNat_toNat]

theorem step_of_three (low : 0x800 ≤ c.toNat) (high : c.toNat < 0x10000) (rest : Bytes) :
    step (UInt8.ofNat (c.toNat / 4096 + 0xE0)) (UInt8.ofNat (c.toNat / 64 % 64 + 0x80) ::
      UInt8.ofNat (c.toNat % 64 + 0x80) :: rest) = .char c rest := by
  have range := range_of_char c
  have lead : (UInt8.ofNat (c.toNat / 4096 + 0xE0)).toNat = c.toNat / 4096 + 0xE0 := by
    rw [UInt8.toNat_ofNat']
    omega
  have code : (c.toNat / 4096 * 64 + c.toNat / 64 % 64) * 64 + c.toNat % 64 = c.toNat := by omega
  rw [step, lead?_of_three (by omega) (by omega)]
  simp only [lead, Nat.add_sub_cancel]
  rw [continuation_digit (by omega), continuation_digit (by omega) (by simp) (by simp; omega),
    code, continuation, Char.ofNat_toNat]
  · split
    · simp; omega
    · simp
  · split
    · simp; omega
    · simp; omega

theorem step_of_four (low : 0x10000 ≤ c.toNat) (rest : Bytes) :
    step (UInt8.ofNat (c.toNat / 262144 + 0xF0)) (UInt8.ofNat (c.toNat / 4096 % 64 + 0x80) ::
      UInt8.ofNat (c.toNat / 64 % 64 + 0x80) :: UInt8.ofNat (c.toNat % 64 + 0x80) :: rest) =
      .char c rest := by
  have range := range_of_char c
  have lead : (UInt8.ofNat (c.toNat / 262144 + 0xF0)).toNat = c.toNat / 262144 + 0xF0 := by
    rw [UInt8.toNat_ofNat']
    omega
  have code : ((c.toNat / 262144 * 64 + c.toNat / 4096 % 64) * 64 + c.toNat / 64 % 64) * 64 +
      c.toNat % 64 = c.toNat := by omega
  rw [step, lead?_of_four (by omega) (by omega)]
  simp only [lead, Nat.add_sub_cancel]
  rw [continuation_digit (by omega), continuation_digit (by omega) (by simp) (by simp; omega),
    continuation_digit (by omega) (by simp) (by simp; omega), code, continuation,
    Char.ofNat_toNat]
  · split
    · simp; omega
    · simp
  · split
    · simp; omega
    · simp; omega

end Steps

/-- A character is read off the front of its own form. -/
theorem step_encodeChar (c : Char) : ∃ b tail, String.utf8EncodeChar c = b :: tail ∧
    ∀ rest, step b (tail ++ rest) = .char c rest := by
  by_cases h1 : c.toNat < 0x80
  · exact ⟨_, _, encodeChar_of_one h1, step_of_one h1⟩
  · by_cases h2 : c.toNat < 0x800
    · exact ⟨_, _, encodeChar_of_two (by omega) h2, step_of_two (by omega) h2⟩
    · by_cases h3 : c.toNat < 0x10000
      · exact ⟨_, _, encodeChar_of_three (by omega) h3, step_of_three (by omega) h3⟩
      · exact ⟨_, _, encodeChar_of_four (by omega), step_of_four (by omega)⟩

section Inversion
variable {b : UInt8} {bytes rest : Bytes} {c : Char}

theorem eq_of_step_one (high : b.toNat < 0x80) (h : step b bytes = .char c rest) :
    b :: bytes = String.utf8EncodeChar c ++ rest := by
  rw [step, lead?_of_one high] at h
  simp only [continuation, Step.char.injEq] at h
  obtain ⟨rfl, rfl⟩ := h
  have code : (Char.ofNat b.toNat).toNat = b.toNat := toNat_charOfNat (Or.inl (by omega))
  rw [encodeChar_of_one (by omega), code, UInt8.ofNat_toNat]
  rfl

theorem eq_of_step_two (low : 0xC2 ≤ b.toNat) (high : b.toNat < 0xE0)
    (h : step b bytes = .char c rest) : b :: bytes = String.utf8EncodeChar c ++ rest := by
  rw [step, lead?_of_two low high] at h
  obtain ⟨b₁, tail, rfl, low₁, high₁, h⟩ := of_continuation_succ h
  simp only [continuation, Step.char.injEq] at h
  obtain ⟨hc, rfl⟩ := h
  simp only [UInt8.reduceToNat] at low₁ high₁
  have code : c.toNat = (b.toNat - 0xC0) * 64 + (b₁.toNat - 0x80) := by
    rw [← hc]
    exact toNat_charOfNat (Or.inl (by omega))
  rw [encodeChar_of_two (by omega) (by omega), ofNat_eq_of_eq_toNat (b := b) (by omega),
    ofNat_eq_of_eq_toNat (b := b₁) (by omega)]
  rfl

theorem eq_of_step_three (low : 0xE0 ≤ b.toNat) (high : b.toNat < 0xF0)
    (h : step b bytes = .char c rest) : b :: bytes = String.utf8EncodeChar c ++ rest := by
  rw [step, lead?_of_three low high] at h
  obtain ⟨b₁, tail, rfl, low₁, high₁, h⟩ := of_continuation_succ h
  obtain ⟨b₂, tail, rfl, low₂, high₂, h⟩ := of_continuation_succ h
  simp only [continuation, Step.char.injEq] at h
  obtain ⟨hc, rfl⟩ := h
  -- the range of the second byte rules out overlong forms and surrogates
  have first : 0x80 ≤ b₁.toNat ∧ b₁.toNat ≤ 0xBF ∧ (b.toNat = 0xE0 → 0xA0 ≤ b₁.toNat) ∧
      (b.toNat = 0xED → b₁.toNat ≤ 0x9F) := by
    revert low₁ high₁
    split <;> split <;> simp [UInt8.reduceToNat] <;> omega
  obtain ⟨low₁, high₁, overlong, surrogate⟩ := first
  simp only [UInt8.reduceToNat] at low₂ high₂
  have code : c.toNat =
      ((b.toNat - 0xE0) * 64 + (b₁.toNat - 0x80)) * 64 + (b₂.toNat - 0x80) := by
    rw [← hc]
    refine toNat_charOfNat ?_
    by_cases below : b.toNat ≤ 0xED
    · exact Or.inl (by omega)
    · exact Or.inr ⟨by omega, by omega⟩
  rw [encodeChar_of_three (by omega) (by omega), ofNat_eq_of_eq_toNat (b := b) (by omega),
    ofNat_eq_of_eq_toNat (b := b₁) (by omega), ofNat_eq_of_eq_toNat (b := b₂) (by omega)]
  rfl

theorem eq_of_step_four (low : 0xF0 ≤ b.toNat) (high : b.toNat ≤ 0xF4)
    (h : step b bytes = .char c rest) : b :: bytes = String.utf8EncodeChar c ++ rest := by
  rw [step, lead?_of_four low high] at h
  obtain ⟨b₁, tail, rfl, low₁, high₁, h⟩ := of_continuation_succ h
  obtain ⟨b₂, tail, rfl, low₂, high₂, h⟩ := of_continuation_succ h
  obtain ⟨b₃, tail, rfl, low₃, high₃, h⟩ := of_continuation_succ h
  simp only [continuation, Step.char.injEq] at h
  obtain ⟨hc, rfl⟩ := h
  -- the range of the second byte rules out overlong forms and what is beyond the last character
  have first : 0x80 ≤ b₁.toNat ∧ b₁.toNat ≤ 0xBF ∧ (b.toNat = 0xF0 → 0x90 ≤ b₁.toNat) ∧
      (b.toNat = 0xF4 → b₁.toNat ≤ 0x8F) := by
    revert low₁ high₁
    split <;> split <;> simp [UInt8.reduceToNat] <;> omega
  obtain ⟨low₁, high₁, overlong, above⟩ := first
  simp only [UInt8.reduceToNat] at low₂ high₂ low₃ high₃
  have code : c.toNat = (((b.toNat - 0xF0) * 64 + (b₁.toNat - 0x80)) * 64 +
      (b₂.toNat - 0x80)) * 64 + (b₃.toNat - 0x80) := by
    rw [← hc]
    exact toNat_charOfNat (Or.inr ⟨by omega, by omega⟩)
  rw [encodeChar_of_four (by omega), ofNat_eq_of_eq_toNat (b := b) (by omega),
    ofNat_eq_of_eq_toNat (b := b₁) (by omega), ofNat_eq_of_eq_toNat (b := b₂) (by omega),
    ofNat_eq_of_eq_toNat (b := b₃) (by omega)]
  rfl

/-- What is read as a character is the form of that character. -/
theorem eq_of_step (h : step b bytes = .char c rest) :
    b :: bytes = String.utf8EncodeChar c ++ rest := by
  cases hlead : lead? b with
  | none => simp [step, hlead] at h
  | some lead =>
    rcases range_of_lead? hlead with high | ⟨low, high⟩ | ⟨low, high⟩ | ⟨low, high⟩
    · exact eq_of_step_one high h
    · exact eq_of_step_two low high h
    · exact eq_of_step_three low high h
    · exact eq_of_step_four low high h

end Inversion

/-! ## Whole strings -/

@[simp] theorem encode_nil : encode [] = [] := rfl

@[simp] theorem encode_cons (c : Char) (text : List Char) :
    encode (c :: text) = String.utf8EncodeChar c ++ encode text := rfl

/-- The decoder reads a text off the front of the bytes and goes on behind it. -/
theorem decodeFrom_encode_append (text : List Char) (bytes : Bytes) :
    ∀ (index : Nat) (before : List Char), decodeFrom index before (encode text ++ bytes) =
      decodeFrom (index + (encode text).length) (text.reverse ++ before) bytes := by
  induction text with
  | nil => exact fun _ _ => rfl
  | cons c text ih =>
    intro index before
    obtain ⟨b, tail, form, read⟩ := step_encodeChar c
    have next : index + (encode (c :: text)).length =
        index + c.utf8Size + (encode text).length := by
      rw [encode_cons, List.length_append, String.length_utf8EncodeChar, Nat.add_assoc]
    rw [next, List.reverse_cons, List.append_assoc, List.singleton_append, ← ih, encode_cons, form,
      List.append_assoc, List.cons_append, decodeFrom]
    split
    · rename_i d rest hstep
      rw [read] at hstep
      cases hstep
      rfl
    all_goals
      rename_i hstep
      rw [read] at hstep
      contradiction

theorem decode_encode (text : List Char) : decode (encode text) = .ok text := by
  have whole := decodeFrom_encode_append text [] 0 []
  rwa [List.append_nil, decodeFrom, List.append_nil, List.reverse_reverse] at whole

theorem eq_encode_of_decodeFrom {index : Nat} {before : List Char} {bytes : Bytes}
    {text : List Char} (h : decodeFrom index before bytes = .ok text) :
    ∃ more, text = before.reverse ++ more ∧ bytes = encode more := by
  fun_induction decodeFrom index before bytes with
  | case1 =>
    cases h
    exact ⟨[], (List.append_nil _).symm, rfl⟩
  | case2 index before b bytes c rest hstep ih =>
    obtain ⟨more, rfl, rfl⟩ := ih h
    exact ⟨c :: more, by simp, eq_of_step hstep⟩
  | case3 => contradiction
  | case4 => contradiction

/-- **Decoding accepts exactly what encoding writes.** -/
theorem decode_eq_ok_iff {bytes : Bytes} {text : List Char} :
    decode bytes = .ok text ↔ bytes = encode text := by
  constructor
  · intro h
    obtain ⟨more, rfl, rfl⟩ := eq_encode_of_decodeFrom h
    rfl
  · rintro rfl
    exact decode_encode text

/-- Two texts of one form are one text. -/
theorem encode_injective {a b : List Char} (h : encode a = encode b) : a = b := by
  have read := decode_encode a
  rw [h, decode_encode] at read
  exact (Except.ok.inj read).symm

theorem toString?_eq_ok_iff {bytes : Bytes} {s : String} :
    toString? bytes = .ok s ↔ bytes = ofString s := by
  unfold toString? ofString
  rw [← decode_eq_ok_iff]
  cases decode bytes with
  | error defect => simp [Except.map]
  | ok text =>
    simp only [Except.map, Except.ok.injEq]
    constructor
    · rintro rfl
      exact String.toList_ofList.symm
    · rintro rfl
      exact String.ofList_toList

/-- A string has as many bytes as its form. -/
theorem length_ofString (s : String) : (ofString s).length = s.utf8ByteSize := by
  have form : s.toByteArray = (ofString s).toByteArray := by
    conv => lhs; rw [← String.ofList_toList (s := s), String.toByteArray_ofList]
    rfl
  rw [← String.size_toByteArray, form, List.size_toByteArray]

end ProcWire.Utf8

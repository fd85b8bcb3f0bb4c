import ProcWire.Proofs.Utf8
import ProcWire.Text.Hex

/-! # Hexadecimal text is read as it is written

`Hex.decode` works on the UTF-8 bytes of a text and takes two of them at a time.
What it accepts is best said of the characters: `decode_encode_eq_ok_iff` says
that a text spells bytes when it is, but for the case of its digits, the text
that `Hex.encode` writes for them.  A text spells some bytes or other when it is an even
number of digits (`exists_encode_iff`).

The step is `cases_char`.  A character that is a digit is written in one byte, and
that byte has its value; the form of any other character begins with a byte that
has none.  So a pair of bytes is a pair of characters as long as nothing went wrong,
and the reading stops at the first character that is no digit.
-/
namespace ProcWire.Hex

/-! ### Digits -/

/-- Below sixteen a digit is told by its number. -/
theorem digit_injective {m n : Nat} (hm : m < 16) (hn : n < 16) (h : digit m = digit n) :
    m = n := by
  have all : ∀ a b : Fin 16, digit a = digit b → a = b := by decide
  exact congrArg Fin.val (all ⟨m, hm⟩ ⟨n, hn⟩ h)

theorem toLower_digit {n : Nat} (hn : n < 16) : (digit n).toLower = digit n := by
  have all : ∀ a : Fin 16, (digit a).toLower = digit a := by decide
  exact all ⟨n, hn⟩

theorem toNat_digit_lt {n : Nat} (hn : n < 16) : (digit n).toNat < 0x80 := by
  have all : ∀ a : Fin 16, (digit a).toNat < 0x80 := by decide
  exact all ⟨n, hn⟩

theorem toNat_lt_of_digitValue? {b v : UInt8} (h : digitValue? b = some v) : v.toNat < 16 := by
  have all : ∀ b : Fin 256, ∀ v ∈ digitValue? (UInt8.ofFin b), v.toNat < 16 := by
    decide +kernel
  exact all b.toFin v h

/-- A byte above the ASCII range is no digit. -/
theorem digitValue?_of_le {b : UInt8} (hb : 0x80 ≤ b.toNat) : digitValue? b = none := by
  simp only [digitValue?, UInt8.le_iff_toNat_le, UInt8.reduceToNat]
  rw [if_neg (by omega), if_neg (by omega), if_neg (by omega)]

/-- The lower case of an ASCII character is a digit if the value of its byte says so. -/
theorem toLower_eq_digit_iff {c : Char} (hc : c.toNat < 0x80) {n : Nat} (hn : n < 16) :
    c.toLower = digit n ↔ digitValue? (UInt8.ofNat c.toNat) = some (UInt8.ofNat n) := by
  have all : ∀ k : Fin 0x80, ∀ n : Fin 16, (Char.ofNat k).toLower = digit n ↔
      digitValue? (UInt8.ofNat k) = some (UInt8.ofNat n) := by decide +kernel
  simpa only [Char.ofNat_toNat] using all ⟨c.toNat, hc⟩ ⟨n, hn⟩

/-- No character above the ASCII range has a digit as its lower case. -/
theorem toLower_ne_digit {c : Char} (hc : 0x80 ≤ c.toNat) {n : Nat} (hn : n < 16) :
    c.toLower ≠ digit n := by
  have same : c.toLower = c := by
    refine dif_neg fun within => ?_
    have high : c.toNat ≤ 0x5A := UInt32.le_iff_toNat_le.mp within.2
    omega
  intro h
  have low := toNat_digit_lt hn
  rw [← h, same] at low
  omega

/-- The form of a character above the ASCII range begins with a byte above it. -/
theorem exists_encodeChar_of_le {c : Char} (hc : 0x80 ≤ c.toNat) :
    ∃ b tail, String.utf8EncodeChar c = b :: tail ∧ 0x80 ≤ b.toNat := by
  have range := Utf8.range_of_char c
  by_cases h2 : c.toNat < 0x800
  · refine ⟨_, _, Utf8.encodeChar_of_two hc h2, ?_⟩
    rw [UInt8.toNat_ofNat']
    omega
  · by_cases h3 : c.toNat < 0x10000
    · refine ⟨_, _, Utf8.encodeChar_of_three (by omega) h3, ?_⟩
      rw [UInt8.toNat_ofNat']
      omega
    · refine ⟨_, _, Utf8.encodeChar_of_four (by omega), ?_⟩
      rw [UInt8.toNat_ofNat']
      omega

/-- **A character is a digit, written in one byte that has its value, or it is none, and its
form begins with a byte that has no value.** -/
theorem cases_char (c : Char) :
    (∃ b v, String.utf8EncodeChar c = [b] ∧ digitValue? b = some v ∧ v.toNat < 16 ∧
      c.toLower = digit v.toNat) ∨
    (∃ b tail, String.utf8EncodeChar c = b :: tail ∧ digitValue? b = none ∧
      ∀ n < 16, c.toLower ≠ digit n) := by
  by_cases hc : c.toNat < 0x80
  · have form := Utf8.encodeChar_of_one hc
    cases value : digitValue? (UInt8.ofNat c.toNat) with
    | some v =>
      have hv := toNat_lt_of_digitValue? value
      refine Or.inl ⟨_, v, form, value, hv, (toLower_eq_digit_iff hc hv).mpr ?_⟩
      rw [value, UInt8.ofNat_toNat]
    | none =>
      refine Or.inr ⟨_, [], form, value, fun n hn h => ?_⟩
      rw [toLower_eq_digit_iff hc hn, value] at h
      contradiction
  · obtain ⟨b, tail, form, hb⟩ := exists_encodeChar_of_le (Nat.le_of_not_lt hc)
    exact Or.inr ⟨b, tail, form, digitValue?_of_le hb,
      fun n hn => toLower_ne_digit (Nat.le_of_not_lt hc) hn⟩

/-- The digits, in either case. -/
def digits : List Char := "0123456789abcdefABCDEF".toList

theorem mem_digits_iff {c : Char} : c ∈ digits ↔ ∃ n < 16, c.toLower = digit n := by
  by_cases hc : c.toNat < 0x80
  · have all : ∀ k : Fin 0x80, Char.ofNat k ∈ digits ↔
        ∃ n < 16, (Char.ofNat k).toLower = digit n := by decide +kernel
    simpa only [Char.ofNat_toNat] using all ⟨c.toNat, hc⟩
  · have low : digits.all (·.toNat < 0x80) = true := by decide
    exact iff_of_false (fun mem => hc (of_decide_eq_true (List.all_eq_true.mp low c mem)))
      fun ⟨n, hn, equal⟩ => toLower_ne_digit (Nat.le_of_not_lt hc) hn equal

/-! ### Pairs of digits -/

theorem encode_cons (b : UInt8) (bytes : Bytes) :
    encode (b :: bytes) = digit (b.toNat / 16) :: digit (b.toNat % 16) :: encode bytes := rfl

/-- Two digits spell a byte if they are its upper and its lower half. -/
theorem byte_eq_iff {high low : UInt8} (hh : high.toNat < 16) (hl : low.toNat < 16) (b : UInt8) :
    high * 16 + low = b ↔ high.toNat = b.toNat / 16 ∧ low.toNat = b.toNat % 16 := by
  have value : (high * 16 + low).toNat = high.toNat * 16 + low.toNat := by
    rw [UInt8.toNat_add, UInt8.toNat_mul]
    simp only [UInt8.reduceToNat]
    omega
  rw [← UInt8.toNat_inj, value]
  omega

theorem exists_digit_of_mem_encode {x : Char} {bytes : Bytes} (h : x ∈ encode bytes) :
    ∃ n < 16, x = digit n := by
  obtain ⟨b, -, h⟩ := List.mem_flatMap.mp h
  have hb := b.toNat_lt
  rcases List.mem_cons.mp h with h | h
  · exact ⟨_, by omega, h⟩
  · exact ⟨_, Nat.mod_lt _ (by decide), List.mem_singleton.mp h⟩

/-- A text with a character that is no digit spells nothing. -/
theorem map_toLower_ne_encode {text : List Char} {c : Char} (mem : c ∈ text)
    (hc : ∀ n < 16, c.toLower ≠ digit n) (bytes : Bytes) :
    text.map Char.toLower ≠ encode bytes := by
  intro h
  obtain ⟨n, hn, equal⟩ := exists_digit_of_mem_encode (h ▸ List.mem_map_of_mem mem)
  exact hc n hn equal

theorem cons_cons_eq_encode_iff {x y : Char} {text : List Char} {bytes : Bytes} :
    x :: y :: text = encode bytes ↔ ∃ b more, bytes = b :: more ∧
      x = digit (b.toNat / 16) ∧ y = digit (b.toNat % 16) ∧ text = encode more := by
  constructor
  · intro h
    cases bytes with
    | nil => contradiction
    | cons b more =>
      rw [encode_cons, List.cons.injEq, List.cons.injEq] at h
      exact ⟨b, more, rfl, h⟩
  · rintro ⟨b, more, rfl, rfl, rfl, rfl⟩
    rfl

/-- Two digits stand for the halves of a byte if they spell it. -/
theorem digits_eq_iff {high low : UInt8} (hh : high.toNat < 16) (hl : low.toNat < 16) (b : UInt8) :
    (digit high.toNat = digit (b.toNat / 16) ∧ digit low.toNat = digit (b.toNat % 16)) ↔
      b = high * 16 + low := by
  have hb := b.toNat_lt
  rw [eq_comm (a := b), byte_eq_iff hh hl]
  constructor
  · rintro ⟨upper, lower⟩
    exact ⟨digit_injective hh (by omega) upper, digit_injective hl (by omega) lower⟩
  · rintro ⟨upper, lower⟩
    rw [upper, lower]
    exact ⟨rfl, rfl⟩

@[simp] theorem length_encode (bytes : Bytes) : (encode bytes).length = 2 * bytes.length := by
  induction bytes with
  | nil => rfl
  | cons b bytes ih => simp only [encode_cons, List.length_cons, ih]; omega

theorem exists_encode_of_digits : ∀ text : List Char, (∀ c ∈ text, c ∈ digits) →
    text.length % 2 = 0 → ∃ bytes, text.map Char.toLower = encode bytes
  | [], _, _ => ⟨[], rfl⟩
  | [_], _, even => by simp at even
  | c :: d :: rest, all, even => by
    simp only [List.forall_mem_cons, mem_digits_iff] at all
    obtain ⟨⟨m, hm, upper⟩, ⟨n, hn, lower⟩, all⟩ := all
    simp only [← mem_digits_iff] at all
    simp only [List.length_cons] at even
    obtain ⟨bytes, spelt⟩ := exists_encode_of_digits rest all (by omega)
    have byte : (UInt8.ofNat (m * 16 + n)).toNat = m * 16 + n := by
      rw [UInt8.toNat_ofNat']
      omega
    refine ⟨UInt8.ofNat (m * 16 + n) :: bytes, ?_⟩
    rw [encode_cons, byte, show (m * 16 + n) / 16 = m by omega,
      show (m * 16 + n) % 16 = n by omega, List.map_cons, List.map_cons, upper, lower, spelt]

/-- **A text spells some bytes if it is an even number of digits.** -/
theorem exists_encode_iff {text : List Char} :
    (∃ bytes, text.map Char.toLower = encode bytes) ↔
      (∀ c ∈ text, c ∈ digits) ∧ text.length % 2 = 0 := by
  constructor
  · rintro ⟨bytes, spelt⟩
    constructor
    · intro c mem
      exact mem_digits_iff.mpr (exists_digit_of_mem_encode (spelt ▸ List.mem_map_of_mem mem))
    · have length := congrArg List.length spelt
      rw [List.length_map, length_encode] at length
      omega
  · rintro ⟨all, even⟩
    exact exists_encode_of_digits text all even

/-- A text that spells bytes takes one byte for each digit. -/
theorem length_of_map_toLower {text : List Char} {bytes : Bytes}
    (h : text.map Char.toLower = encode bytes) :
    (Utf8.encode text).length = 2 * bytes.length := by
  have single : ∀ c ∈ text, (String.utf8EncodeChar c).length = 1 := by
    intro c mem
    obtain ⟨b, v, form, -⟩ | ⟨b, tail, -, -, foreign⟩ := cases_char c
    · rw [form, List.length_singleton]
    · exact absurd h (map_toLower_ne_encode mem foreign bytes)
  rw [← length_encode, ← h, List.length_map, Utf8.encode, List.length_flatMap,
    List.map_congr_left single, List.map_const', List.sum_replicate_nat, Nat.mul_one]

/-- A pair of bytes one of which is no digit is refused. -/
theorem decodePairs_ne_ok {b e : UInt8} (h : digitValue? b = none ∨ digitValue? e = none)
    (position : Nat) (before rest bytes : Bytes) :
    decodePairs position before (b :: e :: rest) ≠ .ok bytes := by
  rw [decodePairs]
  cases value : digitValue? b with
  | none => nofun
  | some v =>
    rw [(h.resolve_left (by rw [value]; nofun))]
    nofun

/-- A pair of digits spells the next byte. -/
theorem spelt_pair_iff {high low : UInt8} (hh : high.toNat < 16) (hl : low.toNat < 16)
    {text : List Char} {before bytes : Bytes} :
    (∃ more, bytes = ((high * 16 + low) :: before).reverse ++ more ∧ text = encode more) ↔
      ∃ more, bytes = before.reverse ++ more ∧
        digit high.toNat :: digit low.toNat :: text = encode more := by
  simp only [cons_cons_eq_encode_iff]
  constructor
  · rintro ⟨more, rfl, spelt⟩
    obtain ⟨upper, lower⟩ := (digits_eq_iff hh hl _).mpr rfl
    exact ⟨_, by simp, _, more, rfl, upper, lower, spelt⟩
  · rintro ⟨_, rfl, b, more, rfl, upper, lower, spelt⟩
    obtain rfl := (digits_eq_iff hh hl b).mp ⟨upper, lower⟩
    exact ⟨more, by simp, spelt⟩

/-- The texts that spell some bytes behind those already read.  The number of bytes is even, so a
character that is no digit never stands alone at the end, where it would go unread. -/
theorem decodePairs_eq_ok_iff : ∀ (text : List Char) (position : Nat) (before bytes : Bytes),
    (Utf8.encode text).length % 2 = 0 →
      (decodePairs position before (Utf8.encode text) = .ok bytes ↔
        ∃ more, bytes = before.reverse ++ more ∧ text.map Char.toLower = encode more)
  | [], position, before, bytes, _ => by
    rw [Utf8.encode_nil, decodePairs, Except.ok.injEq]
    · constructor
      · rintro rfl
        exact ⟨[], (List.append_nil _).symm, rfl⟩
      · rintro ⟨more, rfl, nothing⟩
        cases more with
        | nil => exact (List.append_nil _).symm
        | cons => contradiction
    · nofun
  | c :: rest, position, before, bytes, even => by
    obtain ⟨b, h, form, value, hh, lower⟩ | ⟨b, tail, form, value, foreign⟩ := cases_char c
    · rw [Utf8.encode_cons, form, List.singleton_append] at even ⊢
      cases rest with
      | nil => simp [Utf8.encode_nil] at even
      | cons d rest =>
        obtain ⟨e, l, form', value', hl, lower'⟩ | ⟨e, tail, form', value', foreign⟩ :=
          cases_char d
        · rw [Utf8.encode_cons, form', List.singleton_append] at even ⊢
          simp only [List.length_cons] at even
          simp only [decodePairs, value, value']
          rw [decodePairs_eq_ok_iff rest _ _ _ (by omega), spelt_pair_iff hh hl, List.map_cons,
            List.map_cons, lower, lower']
        · rw [Utf8.encode_cons, form', List.cons_append]
          refine iff_of_false (decodePairs_ne_ok (Or.inr value') _ _ _ _) ?_
          rintro ⟨more, -, spelt⟩
          exact map_toLower_ne_encode (List.mem_cons_of_mem c List.mem_cons_self) foreign more spelt
    · rw [Utf8.encode_cons, form, List.cons_append] at even ⊢
      refine iff_of_false ?_ ?_
      · cases next : tail ++ Utf8.encode rest with
        | nil => simp [next] at even
        | cons e rest => exact decodePairs_ne_ok (Or.inl value) _ _ _ _
      · rintro ⟨more, -, spelt⟩
        exact map_toLower_ne_encode List.mem_cons_self foreign more spelt

/-- **A text spells bytes if it is what is written for them, but for the case of its digits.** -/
theorem decode_encode_eq_ok_iff {text : List Char} {bytes : Bytes} :
    decode (Utf8.encode text) = .ok bytes ↔ text.map Char.toLower = encode bytes := by
  rw [decode]
  split
  · rename_i odd
    refine iff_of_false nofun fun spelt => ?_
    rw [length_of_map_toLower spelt] at odd
    omega
  · rw [decodePairs_eq_ok_iff text 0 [] bytes (by omega)]
    simp

example : decode (Utf8.encode ['0', 'A', 'f', 'F']) = .ok [0x0A, 0xFF] := by
  rw [decode_encode_eq_ok_iff]
  decide

/-- What is written for bytes spells them. -/
theorem decode_encode (bytes : Bytes) : decode (Utf8.encode (encode bytes)) = .ok bytes := by
  rw [decode_encode_eq_ok_iff, List.map_congr_left (g := id), List.map_id]
  intro x mem
  obtain ⟨n, hn, rfl⟩ := exists_digit_of_mem_encode mem
  exact toLower_digit hn

theorem encode_injective {a b : Bytes} (h : encode a = encode b) : a = b := by
  have read := decode_encode a
  rw [h, decode_encode] at read
  exact (Except.ok.inj read).symm

end ProcWire.Hex

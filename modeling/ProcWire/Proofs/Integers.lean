import Mathlib.Data.List.Induction
import Mathlib.Data.Nat.Digits.Defs
import ProcWire.Json
import ProcWire.Proofs.Decimals
import ProcWire.Proofs.JsonText

/-! # Integers as text

`Denotes` says which integer a text is: digits, at least one and as many as there may be, behind
at most one sign.  It goes by the places of the digits, not from left to right as the reader does.
A text denotes one integer at most (`Denotes.unique`), but an integer has many texts, with zeros in
front or a plus sign; `Json.integer` is one of them (`denotes_integer`).

A width of two's complement takes a text if and only if it holds the integer as a whole
(`signed?_eq_some_iff_denotes`), however long the text is.  So what a width takes, every
greater one takes too.
-/
namespace ProcWire.Numeral

variable {c : Char} {n width : Nat} {text : List Char} {z : Int}

/-- The number that a digit stands for. -/
def digitValue (c : Char) : Nat := c.toNat - '0'.toNat

/-- A text of digits, at least one, and the number that they denote in their places. -/
structure IsNatural (text : List Char) (n : Nat) : Prop where
  nonempty : text ≠ []
  all_digits : ∀ c ∈ text, c.isDigit = true
  number : Nat.ofDigits 10 (text.reverse.map digitValue) = n

/-- A text of digits behind at most one sign, and the integer that it denotes. -/
inductive Denotes : List Char → Int → Prop where
  | unsigned {digits : List Char} {n : Nat} (natural : IsNatural digits n) : Denotes digits n
  | plus {digits : List Char} {n : Nat} (natural : IsNatural digits n) : Denotes ('+' :: digits) n
  | minus {digits : List Char} {n : Nat} (natural : IsNatural digits n) :
      Denotes ('-' :: digits) (-n)

theorem value_eq_ofDigits (digits : List Char) :
    value digits = Nat.ofDigits 10 (digits.reverse.map digitValue) := by
  induction digits using List.reverseRecOn with
  | nil => rfl
  | append_singleton digits c ih =>
    rw [value_append_singleton, ih, List.reverse_append, List.reverse_singleton,
      List.singleton_append, List.map_cons, Nat.ofDigits_cons, Nat.mul_comm 10, Nat.add_comm]
    rfl

theorem digits?_eq_some_iff_isNatural : digits? text = some n ↔ IsNatural text n := by
  simp only [digits?_eq_some_iff, value_eq_ofDigits, isDigit_eq]
  exact ⟨fun ⟨nonempty, all, number⟩ => ⟨nonempty, all, number⟩,
    fun ⟨nonempty, all, number⟩ => ⟨nonempty, all, number⟩⟩

/-- Digits do not begin with a sign. -/
theorem IsNatural.ne_cons (h : IsNatural text n) (sign : c.isDigit = false) (rest : List Char) :
    text ≠ c :: rest := by
  rintro rfl
  have digit := h.all_digits c List.mem_cons_self
  rw [sign] at digit
  cases digit

theorem integer?_minus (digits : List Char) :
    integer? ('-' :: digits) = Option.map (fun n : Nat => -(n : Int)) (digits? digits) := by
  rw [integer?]
  cases digits? digits <;> rfl

theorem integer?_eq_some_iff_denotes : integer? text = some z ↔ Denotes text z := by
  constructor
  · intro h
    unfold integer? at h
    split at h
    · rw [← integer?, integer?_minus] at h
      obtain ⟨n, read, rfl⟩ := Option.map_eq_some_iff.mp h
      exact .minus (digits?_eq_some_iff_isNatural.mp read)
    · obtain ⟨n, read, rfl⟩ := Option.map_eq_some_iff.mp h
      exact .plus (digits?_eq_some_iff_isNatural.mp read)
    · obtain ⟨n, read, rfl⟩ := Option.map_eq_some_iff.mp h
      exact .unsigned (digits?_eq_some_iff_isNatural.mp read)
  · intro h
    cases h with
    | unsigned natural =>
      unfold integer?
      split
      · exact absurd rfl (natural.ne_cons (by decide) _)
      · exact absurd rfl (natural.ne_cons (by decide) _)
      · rw [digits?_eq_some_iff_isNatural.mpr natural]
        rfl
    | plus natural =>
      rw [integer?, digits?_eq_some_iff_isNatural.mpr natural]
      rfl
    | minus natural =>
      rw [integer?, digits?_eq_some_iff_isNatural.mpr natural]
      rfl

/-- A text denotes one integer at most. -/
theorem Denotes.unique {z' : Int} (h : Denotes text z) (h' : Denotes text z') : z = z' := by
  rw [← integer?_eq_some_iff_denotes] at h h'
  exact Option.some.inj (h.symm.trans h')

/-- The characters of an integer are digits and signs. -/
theorem Denotes.mem (h : Denotes text z) (mem : c ∈ text) :
    c = '+' ∨ c = '-' ∨ c.isDigit = true := by
  cases h with
  | unsigned natural => exact Or.inr (Or.inr (natural.all_digits c mem))
  | plus natural =>
    rcases List.mem_cons.mp mem with sign | mem
    · exact Or.inl sign
    · exact Or.inr (Or.inr (natural.all_digits c mem))
  | minus natural =>
    rcases List.mem_cons.mp mem with sign | mem
    · exact Or.inr (Or.inl sign)
    · exact Or.inr (Or.inr (natural.all_digits c mem))

/-- An integer denotes itself where it is printed. -/
theorem denotes_integer (z : Int) : Denotes (Json.integer z) z := by
  have natural := digits?_eq_some_iff_isNatural.mp (digits?_toDigits z.natAbs)
  rw [Json.integer]
  split
  · have negated : z = -(z.natAbs : Int) := by omega
    rw [negated, Int.natAbs_neg, Int.natAbs_natCast]
    exact .minus natural
  · have same : z = (z.natAbs : Int) := by omega
    rw [same, Int.natAbs_natCast]
    exact .unsigned natural

/-! ## Widths -/

/-- The integers that two's complement of a width holds. -/
def InRange (width : Nat) (z : Int) : Prop := -2 ^ (width - 1) ≤ z ∧ z < 2 ^ (width - 1)

theorem fits_iff : fits width z = true ↔ InRange width z := by
  have bound : ((Nat.pow 2 (width - 1) : Nat) : Int) = 2 ^ (width - 1) := by
    change ((2 ^ (width - 1) : Nat) : Int) = 2 ^ (width - 1)
    push_cast
    rfl
  rw [fits, bound, decide_eq_true_eq, InRange]

theorem InRange.mono {wider : Nat} (le : width ≤ wider) (h : InRange width z) :
    InRange wider z := by
  have bound : (2 : Int) ^ (width - 1) ≤ 2 ^ (wider - 1) := by
    exact_mod_cast Nat.pow_le_pow_right Nat.two_pos (Nat.sub_le_sub_right le 1)
  obtain ⟨low, high⟩ := h
  exact ⟨by omega, by omega⟩

/-- **A width takes the texts of the integers that it holds.** -/
theorem signed?_eq_some_iff_denotes :
    signed? width text = some z ↔ Denotes text z ∧ InRange width z := by
  rw [signed?_eq_some_iff, integer?_eq_some_iff_denotes, fits_iff]

theorem signed?_eq_none_iff :
    signed? width text = none ↔ ¬ ∃ z, Denotes text z ∧ InRange width z := by
  simp only [Option.eq_none_iff_forall_ne_some, ne_eq, signed?_eq_some_iff_denotes, not_exists]

/-- What is printed is read back. -/
theorem signed?_integer (h : InRange width z) : signed? width (Json.integer z) = some z :=
  signed?_eq_some_iff_denotes.mpr ⟨denotes_integer z, h⟩

end ProcWire.Numeral

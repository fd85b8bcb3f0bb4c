import Mathlib.Algebra.Group.Nat.Defs
import ProcWire.Numeral.Integer

/-! # Decimal numerals

The digits that a number is printed with are read back as that number.  They have no zero
in front unless they are the zero, so they are also what stricter formats take for a number.
-/
namespace ProcWire.Numeral
variable {c : Char} {n : Nat} {text rest : List Char}

theorem isDigit_eq (c : Char) : isDigit c = c.isDigit := rfl

theorem isDigit_of_mem_toDigits (mem : c ∈ Nat.toDigits 10 n) : isDigit c = true :=
  Nat.isDigit_of_mem_toDigits (by decide) (by decide) mem

theorem digits?_eq_some_iff : digits? text = some n ↔
    text ≠ [] ∧ (∀ c ∈ text, isDigit c = true) ∧ value text = n := by
  simp [digits?, and_assoc]

/-- The digits of a number, the first of them told apart. -/
theorem exists_toDigits_cons (n : Nat) : ∃ c more, Nat.toDigits 10 n = c :: more ∧
    isDigit c = true ∧ ∀ d ∈ more, isDigit d = true := by
  obtain ⟨c, more, digits⟩ := List.exists_cons_of_ne_nil (Nat.toDigits_ne_nil (n := n) (b := 10))
  have all : ∀ d ∈ c :: more, isDigit d = true := fun d mem =>
    isDigit_of_mem_toDigits (digits ▸ mem)
  exact ⟨c, more, digits, List.forall_mem_cons.mp all⟩

theorem value_eq_ofDigitChars (digits : List Char) :
    value digits = Nat.ofDigitChars 10 digits 0 := by
  simp only [value, Nat.ofDigitChars, Nat.mul_comm 10]
  rfl

theorem value_toDigits (n : Nat) : value (Nat.toDigits 10 n) = n := by
  rw [value_eq_ofDigitChars, Nat.ofDigitChars_ten_toDigits]

/-- Only the zero begins with a zero. -/
theorem of_toDigits_eq_zero_cons (h : Nat.toDigits 10 n = '0' :: rest) : n = 0 ∧ rest = [] := by
  induction n using Nat.strongRecOn generalizing rest with
  | ind n ih =>
    rcases Nat.lt_or_ge n 10 with small | large
    · rw [Nat.toDigits_of_lt_base small] at h
      obtain ⟨digit, rfl⟩ := List.cons.inj h
      have zero := value_toDigits n
      rw [Nat.toDigits_of_lt_base small, digit] at zero
      exact ⟨zero.symm, rfl⟩
    · rw [Nat.toDigits_of_base_le (by decide) large] at h
      obtain ⟨d, more, front, -⟩ := exists_toDigits_cons (n / 10)
      rw [front] at h
      obtain ⟨rfl, -⟩ := List.cons.inj h
      have zero := (ih (n / 10) (Nat.div_lt_self (by omega) (by decide)) front).1
      omega

theorem digits?_toDigits (n : Nat) : digits? (Nat.toDigits 10 n) = some n := by
  have digits : (Nat.toDigits 10 n).all isDigit = true :=
    List.all_eq_true.mpr fun c mem => isDigit_of_mem_toDigits mem
  have nonempty : (Nat.toDigits 10 n).isEmpty = false := by simp [Nat.toDigits_ne_nil]
  rw [digits?, digits, nonempty, value_toDigits]
  rfl

theorem integer?_toDigits (n : Nat) : integer? (Nat.toDigits 10 n) = some (n : Int) := by
  obtain ⟨c, more, digits, first, -⟩ := exists_toDigits_cons n
  have read := digits?_toDigits n
  rw [digits] at read ⊢
  unfold integer?
  split
  · rename_i minus
    obtain ⟨rfl, -⟩ := List.cons.inj minus
    exact absurd first (by decide)
  · rename_i plus
    obtain ⟨rfl, -⟩ := List.cons.inj plus
    exact absurd first (by decide)
  · rw [read]
    rfl

/-- A number that two's complement of a width has room for is read back. -/
theorem signed?_toDigits {width : Nat} (h : n < 2 ^ (width - 1)) :
    signed? width (Nat.toDigits 10 n) = some (n : Int) := by
  refine signed?_eq_some_iff.mpr ⟨integer?_toDigits n, decide_eq_true ?_⟩
  have bound : Nat.pow 2 (width - 1) = 2 ^ (width - 1) := rfl
  omega

/-! ## Digits of a fixed number -/

/-- So many digits of a number, the last ones, with zeros in front of a smaller one. -/
def padded : Nat → Nat → List Char
  | 0, _ => []
  | width + 1, n => padded width (n / 10) ++ [Nat.digitChar (n % 10)]

@[simp] theorem length_padded (width n : Nat) : (padded width n).length = width := by
  induction width generalizing n with
  | zero => rfl
  | succ width ih => simp [padded, ih]

theorem isDigit_of_mem_padded {width : Nat} (mem : c ∈ padded width n) : isDigit c = true := by
  induction width generalizing n with
  | zero => cases mem
  | succ width ih =>
    rcases List.mem_append.mp mem with mem | mem
    · exact ih mem
    · rw [List.mem_singleton.mp mem, isDigit_eq, Nat.isDigit_digitChar]
      exact decide_eq_true (Nat.mod_lt n (by decide))

theorem value_padded {width : Nat} (h : n < 10 ^ width) : value (padded width n) = n := by
  induction width generalizing n with
  | zero =>
    obtain rfl : n = 0 := Nat.lt_one_iff.mp h
    rfl
  | succ width ih =>
    have front : n / 10 < 10 ^ width := Nat.div_lt_of_lt_mul (by rwa [Nat.pow_succ'] at h)
    rw [padded, value_append_singleton, ih front,
      Nat.toNat_digitChar_of_lt_ten (Nat.mod_lt n (by decide))]
    omega

end ProcWire.Numeral

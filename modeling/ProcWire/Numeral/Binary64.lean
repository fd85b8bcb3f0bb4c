import ProcWire.Numeral.Integer

/-! # Decimal text of 64-bit floats

A float is written in decimal, with an optional fraction and exponent, or as one of
the words for infinity and for not-a-number.  The decimal denotes a rational; the
float is the nearest one, and of two equally near the one with an even significand.
Everything is computed on naturals, so the rounding is exact.  The digits of an
exponent only count until they make it large enough; `exponentSize_eq_value` says
that an exponent below that size is the number that its digits denote.
-/
namespace ProcWire.Binary64

/-- The bit pattern of positive infinity. -/
def infinity : Nat := 0x7FF0000000000000

/-- The bit pattern of the quiet not-a-number without a payload. -/
def notANumber : Nat := 0x7FF8000000000000

/-- The bit of the sign. -/
def signBit : Nat := 0x8000000000000000

/-- The quotient rounded to the nearest natural, ties to even. -/
def roundDiv (num den : Nat) : Nat :=
  let quotient := num / den
  let twice := 2 * (num % den)
  if twice < den then quotient
  else if den < twice then quotient + 1
  else quotient + quotient % 2

/-- The greatest `k` with `2 ^ k ≤ num / den`, for positive `num` and `den`. -/
def floorLog2 (num den : Nat) : Int :=
  let estimate : Int := num.log2 - den.log2
  let below := if estimate ≥ 0 then num < den * Nat.pow 2 estimate.toNat
    else num * Nat.pow 2 (-estimate).toNat < den
  if below then estimate - 1 else estimate

/-- The exponent of the last binary place of the floats around `num / den`. -/
def lastPlace (num den : Nat) : Int := max (floorLog2 num den - 52) (-1074)

/-- The bit pattern of the float nearest to `num / den`; what is too large is infinite.  A
significand of 53 bits carries over into the exponent by itself. -/
def ofRatio (num den : Nat) : Nat :=
  if num = 0 then 0
  else
    let place := lastPlace num den
    let significand :=
      if place ≥ 0 then roundDiv num (den * Nat.pow 2 place.toNat)
      else roundDiv (num * Nat.pow 2 (-place).toNat) den
    min ((place + 1074).toNat * 0x10000000000000 + significand) infinity

/-- The bit pattern of the float nearest to `m * 10 ^ e`.  Exponents so far out that the result
is infinite or zero are settled without computing the power. -/
def ofDecimal (m : Nat) (e : Int) : Nat :=
  if m = 0 then 0
  else if e > 310 then infinity
  else if m.log2 + 1 + e < -330 then 0
  else if e ≥ 0 then ofRatio (m * Nat.pow 10 e.toNat) 1
  else ofRatio m (Nat.pow 10 (-e).toNat)

/-- The size from which on an exponent takes no further digits. -/
def exponentLimit : Nat := 0x10000

/-- The exponent so far, with one more digit if it still takes one. -/
def addExponentDigit (size : Nat) (c : Char) : Nat :=
  if size < exponentLimit then size * 10 + (c.toNat - 48) else size

/-- The size of an exponent.  The digits behind the one with which it reaches the limit are passed
over, so the size stays below ten times the limit. -/
def exponentSize (digits : List Char) : Nat := digits.foldl addExponentDigit 0

/-- The size of an exponent whose text consists of digits, at least one. -/
def exponentSize? (text : List Char) : Option Nat :=
  if !text.isEmpty && text.all Numeral.isDigit then some (exponentSize text) else none

/-- The exponent behind a decimal, if there is one: the letter, an optional sign and digits. -/
def exponent? : List Char → Option Int
  | [] => some 0
  | c :: rest =>
    if c = 'e' ∨ c = 'E' then
      match rest with
      | '-' :: digits => (exponentSize? digits).map fun n => -(n : Int)
      | '+' :: digits => (exponentSize? digits).map Int.ofNat
      | digits => (exponentSize? digits).map Int.ofNat
    else none

theorem foldl_addExponentDigit_eq (digits : List Char) (size : Nat)
    (h : digits.foldl (fun n c => n * 10 + (c.toNat - 48)) size < exponentLimit) :
    size < exponentLimit ∧ digits.foldl addExponentDigit size =
      digits.foldl (fun n c => n * 10 + (c.toNat - 48)) size := by
  induction digits generalizing size with
  | nil => exact ⟨h, rfl⟩
  | cons c digits ih =>
    obtain ⟨below, same⟩ := ih _ h
    have next_below : size * 10 + (c.toNat - 48) < exponentLimit := below
    have size_below : size < exponentLimit := by omega
    refine ⟨size_below, ?_⟩
    rw [List.foldl_cons, List.foldl_cons, ← same, addExponentDigit, if_pos size_below]

/-- Below the limit, an exponent is the number that its digits denote. -/
theorem exponentSize_eq_value {digits : List Char} (h : Numeral.value digits < exponentLimit) :
    exponentSize digits = Numeral.value digits :=
  (foldl_addExponentDigit_eq digits 0 h).2

/-- The bit pattern of an unsigned decimal: digits with at most one point among them, at least
one digit, and an optional exponent. -/
def decimal? (text : List Char) : Option Nat :=
  let whole := text.takeWhile Numeral.isDigit
  let rest := text.dropWhile Numeral.isDigit
  let (fraction, tail) :=
    match rest with
    | '.' :: rest => (rest.takeWhile Numeral.isDigit, rest.dropWhile Numeral.isDigit)
    | rest => ([], rest)
  let digits := whole ++ fraction
  if digits.isEmpty then none
  else (exponent? tail).map fun e => ofDecimal (Numeral.value digits) (e - fraction.length)

/-- The bit pattern of an unsigned text: one of the three words, in any case, or a decimal. -/
def magnitude? (text : List Char) : Option Nat :=
  let word := text.map Char.toLower
  if word = ['i', 'n', 'f'] ∨ word = ['i', 'n', 'f', 'i', 'n', 'i', 't', 'y'] then some infinity
  else if word = ['n', 'a', 'n'] then some notANumber
  else decimal? text

/-- The bit pattern of the float that a text denotes. -/
def ofText? (text : List Char) : Option UInt64 :=
  match text with
  | '-' :: rest => (magnitude? rest).map fun n => UInt64.ofNat (signBit + n)
  | '+' :: rest => (magnitude? rest).map UInt64.ofNat
  | text => (magnitude? text).map UInt64.ofNat

end ProcWire.Binary64

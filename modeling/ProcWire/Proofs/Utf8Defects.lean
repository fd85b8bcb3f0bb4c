import Mathlib.Order.Bounds.Basic
import ProcWire.Proofs.Forms
import ProcWire.Proofs.Writing

/-! # Where bytes stop being UTF-8

A byte string that is no UTF-8 has a longest beginning that is, and behind this stands something
that no character begins with, or a character that is cut short.  This says where a defect is and
what it is without the tables that the decoder goes by: `WellFormed` bytes are the forms of
characters laid end to end, and `Unfinished` bytes are a proper beginning of one such form.

Both are tied to `step`, which reads one character.  It calls bytes incomplete just if they are
unfinished (`step_eq_incomplete_iff`): what is missing from a character can always be supplied, and
what is part of one never leads the automaton astray.  Where it calls them invalid, the bytes to
blame are the longest unfinished beginning, or the first byte if that alone is at fault
(`exists_longest_of_step_invalid`).  So the decoder finds the first defect of a byte string
(`exists_longest_of_decode`), and the reader of a string reports it.
-/
namespace ProcWire
namespace Utf8

/-- The forms of characters, laid end to end.  Each character has one form, its shortest, and the
surrogates and the numbers above 0x10FFFF are no characters. -/
def WellFormed (bytes : Bytes) : Prop := ∃ text, bytes = encode text

/-- A beginning of the form of some character, but not the whole of it. -/
def Unfinished (bytes : Bytes) : Prop :=
  ∃ c, bytes <+: String.utf8EncodeChar c ∧ bytes ≠ String.utf8EncodeChar c

/-- The longest beginning of some bytes that has a property is `n` bytes long. -/
def Longest (property : Bytes → Prop) (bytes : Bytes) (n : Nat) : Prop :=
  IsGreatest {m | m ≤ bytes.length ∧ property (bytes.take m)} n

theorem unfinished_nil : Unfinished [] := ⟨'a', List.nil_prefix, by decide⟩

/-- No character has more than four bytes. -/
theorem Unfinished.length_lt {bytes : Bytes} (h : Unfinished bytes) : bytes.length < 4 := by
  obtain ⟨c, beginning, proper⟩ := h
  have shorter : bytes.length ≠ (String.utf8EncodeChar c).length :=
    fun same => proper (beginning.eq_of_length same)
  have le := beginning.length_le
  rw [String.length_utf8EncodeChar] at shorter le
  have four := c.utf8Size_le_four
  omega

/-! ### Continuation bytes -/

section Continuation
variable {code seen following : Nat} {low high : UInt8} {bytes : Bytes}

/-- Bytes that are owed can be supplied. -/
theorem exists_completion (range : low ≤ high) (code seen following : Nat) :
    ∃ more c, more.length = following ∧
      continuation code seen low high following more = .char c [] := by
  induction following generalizing code seen low high with
  | zero => exact ⟨[], _, rfl, rfl⟩
  | succ following ih =>
    obtain ⟨more, c, length, read⟩ := ih (by decide : (0x80 : UInt8) ≤ 0xBF)
      (code * 64 + (low.toNat - 0x80)) (seen + 1)
    refine ⟨low :: more, c, congrArg (· + 1) length, ?_⟩
    rw [continuation, if_pos ⟨UInt8.le_refl low, range⟩, read]

/-- Bytes are incomplete just if something behind them makes them a character. -/
theorem continuation_eq_incomplete_iff (range : low ≤ high) :
    continuation code seen low high following bytes = .incomplete ↔
      ∃ more c, more ≠ [] ∧
        continuation code seen low high following (bytes ++ more) = .char c [] := by
  induction following generalizing code seen low high bytes with
  | zero =>
    constructor
    · intro incomplete
      cases incomplete
    · rintro ⟨more, c, some, read⟩
      rw [continuation, Step.char.injEq] at read
      exact absurd (List.append_eq_nil_iff.mp read.2).2 some
  | succ following ih =>
    cases bytes with
    | nil =>
      obtain ⟨more, c, length, read⟩ := exists_completion range code seen (following + 1)
      exact iff_of_true rfl ⟨more, c, List.ne_nil_of_length_eq_add_one length, read⟩
    | cons b bytes =>
      simp only [List.cons_append, continuation]
      split
      · exact ih (by decide)
      · constructor
        · intro incomplete
          cases incomplete
        · rintro ⟨more, c, some, read⟩
          cases read

/-- The first byte that is out of range settles what is wrong, whatever stands behind it. -/
theorem exists_bad_of_continuation {blamed : Nat}
    (h : continuation code seen low high following bytes = .invalid blamed) :
    ∃ good bad rest, bytes = good ++ bad :: rest ∧ blamed = seen + good.length ∧
      continuation code seen low high following good = .incomplete ∧
      ∀ more, continuation code seen low high following (good ++ bad :: more) =
        .invalid blamed := by
  induction following generalizing code seen low high bytes with
  | zero => cases h
  | succ following ih =>
    cases bytes with
    | nil => cases h
    | cons b bytes =>
      rw [continuation] at h
      split at h
      · rename_i inRange
        obtain ⟨good, bad, rest, rfl, rfl, incomplete, invalid⟩ := ih h
        refine ⟨b :: good, bad, rest, rfl, ?_, ?_, ?_⟩
        · rw [List.length_cons]
          omega
        · rw [continuation, if_pos inRange, incomplete]
        · intro more
          rw [List.cons_append, continuation, if_pos inRange, invalid]
      · rename_i outOfRange
        cases h
        refine ⟨[], b, bytes, rfl, rfl, rfl, ?_⟩
        intro more
        rw [List.nil_append, continuation, if_neg outOfRange]

end Continuation

/-! ### One character -/

section Steps
variable {b : UInt8} {bytes : Bytes}

theorem low_le_high_of_lead? {lead : Lead} (h : lead? b = some lead) : lead.low ≤ lead.high := by
  rcases range_of_lead? h with high | ⟨low, high⟩ | ⟨low, high⟩ | ⟨low, high⟩
  · obtain rfl := Option.some.inj ((lead?_of_one high).symm.trans h)
    exact (by decide : (0x80 : UInt8) ≤ 0xBF)
  · obtain rfl := Option.some.inj ((lead?_of_two low high).symm.trans h)
    exact (by decide : (0x80 : UInt8) ≤ 0xBF)
  · obtain rfl := Option.some.inj ((lead?_of_three low high).symm.trans h)
    dsimp only
    split <;> split <;> first | decide | omega
  · obtain rfl := Option.some.inj ((lead?_of_four low high).symm.trans h)
    dsimp only
    split <;> split <;> first | decide | omega

theorem step_of_no_lead (h : lead? b = none) (bytes : Bytes) : step b bytes = .invalid 1 := by
  rw [step, h]

theorem step_of_lead {lead : Lead} (h : lead? b = some lead) (bytes : Bytes) :
    step b bytes = continuation lead.payload 1 lead.low lead.high lead.following bytes := by
  rw [step, h]

/-- **What a character is cut short to is what the decoder calls incomplete.** -/
theorem step_eq_incomplete_iff : step b bytes = .incomplete ↔ Unfinished (b :: bytes) := by
  cases hlead : lead? b with
  | none =>
    rw [step_of_no_lead hlead]
    constructor
    · intro incomplete
      cases incomplete
    · rintro ⟨c, ⟨more, whole⟩, -⟩
      obtain ⟨b', tail, form, read⟩ := step_encodeChar c
      rw [form] at whole
      cases whole
      have char := read []
      rw [step_of_no_lead hlead] at char
      contradiction
  | some lead =>
    have range := low_le_high_of_lead? hlead
    rw [step_of_lead hlead, continuation_eq_incomplete_iff range]
    simp only [← step_of_lead hlead]
    constructor
    · rintro ⟨more, c, some, read⟩
      have whole := eq_of_step read
      rw [List.append_nil, ← List.cons_append] at whole
      refine ⟨c, ⟨more, whole⟩, fun same => some ?_⟩
      rw [← same] at whole
      exact List.append_right_eq_self.mp whole
    · rintro ⟨c, ⟨more, whole⟩, proper⟩
      obtain ⟨b', tail, form, read⟩ := step_encodeChar c
      refine ⟨more, c, ?_, ?_⟩
      · rintro rfl
        exact proper (by rw [← whole, List.append_nil])
      · rw [form] at whole
        cases whole
        have char := read []
        rwa [List.append_nil] at char

/-- **The bytes to blame are the longest unfinished beginning**, or the first byte if no character
begins with it. -/
theorem exists_longest_of_step_invalid {blamed : Nat} (h : step b bytes = .invalid blamed) :
    ∃ reach, Longest Unfinished (b :: bytes) reach ∧ blamed = max 1 reach := by
  cases hlead : lead? b with
  | none =>
    refine ⟨0, ⟨⟨Nat.zero_le _, unfinished_nil⟩, ?_⟩, ?_⟩
    · rintro m ⟨-, unfinished⟩
      cases m with
      | zero => exact Nat.le_refl 0
      | succ m =>
        rw [List.take_succ_cons, ← step_eq_incomplete_iff, step_of_no_lead hlead] at unfinished
        contradiction
    · rw [step_of_no_lead hlead] at h
      cases h
      rfl
  | some lead =>
    rw [step_of_lead hlead] at h
    obtain ⟨good, bad, rest, rfl, rfl, incomplete, invalid⟩ := exists_bad_of_continuation h
    simp only [← step_of_lead hlead] at incomplete invalid
    refine ⟨good.length + 1, ⟨⟨by simp, ?_⟩, ?_⟩, by omega⟩
    · rw [List.take_succ_cons, List.take_left, ← step_eq_incomplete_iff]
      exact incomplete
    · rintro m ⟨-, unfinished⟩
      by_contra beyond
      obtain ⟨k, rfl⟩ := Nat.exists_eq_add_of_lt (Nat.not_le.mp beyond)
      have reaches : (good ++ bad :: rest).take (good.length + 1 + k) =
          good ++ bad :: rest.take k := by
        rw [Nat.add_assoc, List.take_length_add_append, Nat.add_comm, List.take_succ_cons]
      rw [List.take_succ_cons, reaches, ← step_eq_incomplete_iff, invalid] at unfinished
      contradiction

end Steps

/-! ### Whole strings -/

section Strings
variable {b : UInt8} {text : List Char} {bytes rest : Bytes}

/-- Well-formed bytes begin with a character, whatever stands behind them. -/
theorem WellFormed.step_append (h : WellFormed (b :: bytes)) (more : Bytes) :
    ∃ c rest, step b (bytes ++ more) = .char c rest := by
  obtain ⟨text, whole⟩ := h
  cases text with
  | nil => cases whole
  | cons c text =>
    obtain ⟨b', tail, form, read⟩ := step_encodeChar c
    rw [encode_cons, form, List.cons_append] at whole
    obtain ⟨rfl, rfl⟩ := List.cons.inj whole
    exact ⟨c, encode text ++ more, by rw [List.append_assoc, read]⟩

/-- What stands behind a text in well-formed bytes is well-formed. -/
theorem WellFormed.of_append (h : WellFormed (encode text ++ bytes)) : WellFormed bytes := by
  obtain ⟨whole, form⟩ := h
  have read := decode_encode whole
  rw [← form, decode, decodeFrom_encode_append] at read
  obtain ⟨more, -, rfl⟩ := eq_encode_of_decodeFrom read
  exact ⟨more, rfl⟩

/-- Where no character can be read, the well-formed beginning ends. -/
theorem longest_wellFormed (stuck : ∀ c more, step b rest ≠ .char c more) :
    Longest WellFormed (encode text ++ b :: rest) (encode text).length := by
  refine ⟨⟨by simp, text, by rw [List.take_left]⟩, ?_⟩
  rintro m ⟨-, wellFormed⟩
  by_contra beyond
  obtain ⟨k, rfl⟩ := Nat.exists_eq_add_of_lt (Nat.not_le.mp beyond)
  rw [Nat.add_assoc, List.take_length_add_append, List.take_succ_cons] at wellFormed
  obtain ⟨c, more, read⟩ := wellFormed.of_append.step_append (rest.drop k)
  rw [List.take_append_drop] at read
  exact stuck c more read

/-- The decoder stops behind the characters that it has read. -/
theorem exists_stop_of_decodeFrom {index : Nat} {before : List Char} {defect : Defect}
    (h : decodeFrom index before bytes = .error defect) :
    ∃ text b rest, bytes = encode text ++ b :: rest ∧
      ((∃ blamed, step b rest = .invalid blamed ∧
          defect = .invalid blamed (index + (encode text).length)) ∨
        step b rest = .incomplete ∧ defect = .incomplete (index + (encode text).length)) := by
  fun_induction decodeFrom index before bytes with
  | case1 => contradiction
  | case2 index before b bytes c rest hstep ih =>
    obtain ⟨text, b', rest', rfl, stop⟩ := ih h
    refine ⟨c :: text, b', rest', by rw [eq_of_step hstep, encode_cons, List.append_assoc], ?_⟩
    rw [encode_cons, List.length_append, String.length_utf8EncodeChar, ← Nat.add_assoc]
    exact stop
  | case3 index before b bytes blamed hstep =>
    cases h
    exact ⟨[], b, bytes, rfl, Or.inl ⟨blamed, hstep, rfl⟩⟩
  | case4 index before b bytes hstep =>
    cases h
    exact ⟨[], b, bytes, rfl, Or.inr ⟨hstep, rfl⟩⟩

/-- **The decoder finds the first defect.**  It reads the longest well-formed beginning.  What is
left is incomplete if it is unfinished as a whole, and otherwise invalid as far as it is
unfinished. -/
theorem exists_longest_of_decode {defect : Defect} (h : decode bytes = .error defect) :
    ∃ index, Longest WellFormed bytes index ∧
      (Unfinished (bytes.drop index) ∧ defect = .incomplete index ∨
        ¬ Unfinished (bytes.drop index) ∧ ∃ reach, Longest Unfinished (bytes.drop index) reach ∧
          defect = .invalid (max 1 reach) index) := by
  obtain ⟨text, b, rest, rfl, stop⟩ := exists_stop_of_decodeFrom h
  rw [Nat.zero_add] at stop
  refine ⟨(encode text).length, longest_wellFormed ?_, ?_⟩
  · rintro c more read
    rcases stop with ⟨blamed, invalid, -⟩ | ⟨incomplete, -⟩
    · rw [invalid] at read
      contradiction
    · rw [incomplete] at read
      contradiction
  · rw [List.drop_left, ← step_eq_incomplete_iff]
    rcases stop with ⟨blamed, invalid, rfl⟩ | ⟨incomplete, rfl⟩
    · obtain ⟨reach, longest, rfl⟩ := exists_longest_of_step_invalid invalid
      exact Or.inr ⟨by rw [invalid]; nofun, reach, longest, rfl⟩
    · exact Or.inl ⟨incomplete, rfl⟩

theorem wellFormed_iff_exists_string : WellFormed bytes ↔ ∃ s, bytes = ofString s := by
  constructor
  · rintro ⟨text, rfl⟩
    exact ⟨String.ofList text, by rw [ofString, String.toList_ofList]⟩
  · rintro ⟨s, rfl⟩
    exact ⟨s.toList, rfl⟩

end Strings

end Utf8

/-! ## Strings on the wire -/

namespace Reader
open Utf8

/-- A length that can be announced is four bytes, most significant first. -/
theorem ofInt_ofNat {n : Nat} (fits : n ≤ Writer.maxCount) :
    Bytes.ofInt (Int32.ofNat n) = Bytes.ofNat 4 n := by
  have small : n < 2 ^ 32 := Nat.lt_of_le_of_lt fits (by decide)
  have unsigned : (Int32.ofNat n).toUInt32 = UInt32.ofNat n := rfl
  rw [Bytes.ofInt, unsigned, UInt32.toNat_ofNat', Nat.mod_eq_of_lt small]

/-- A payload within the limit is judged by its text alone, and what is behind it stays. -/
theorem takes_nullableString {limit : Nat} {payload : Bytes}
    (fits : payload.length ≤ min limit Writer.maxCount) (tail : Bytes) :
    Takes (nullableString limit) (Bytes.ofNat 4 payload.length ++ payload ++ tail)
      ((text payload).map some) (4 + payload.length) := by
  obtain ⟨within, counts⟩ := Nat.le_min.mp fits
  have announced := Writer.toInt_ofNat_of_le_maxCount counts
  rw [← ofInt_ofNat counts]
  refine takes_of_run_append (run_nullable_whole announced within tail) ?_
  rw [List.length_append, Bytes.length_ofInt]

/-- **A string is accepted exactly if it is well-formed, and else its first defect is told.**
Either way its bytes are taken, and no more.  The index of the defect is the length of the longest
well-formed beginning.  If what is left only begins a character, it is incomplete.  Otherwise the
bytes to blame are the longest beginning of it that begins a character, or its first byte. -/
theorem takes_nullableString_accepted_or_defect (limit : Nat) (payload tail : Bytes)
    (fits : payload.length ≤ min limit Writer.maxCount) :
    ∃ outcome, Takes (nullableString limit) (Bytes.ofNat 4 payload.length ++ payload ++ tail)
        outcome (4 + payload.length) ∧
      (∀ s, outcome = .ok (some s) ↔ payload = ofString s) ∧
      ((∃ s, outcome = .ok (some s)) ↔ WellFormed payload) ∧
      (¬ WellFormed payload → ∃ fault index, outcome = .error (.protocol fault) ∧
        Longest WellFormed payload index ∧
        (Unfinished (payload.drop index) → fault.message =
          "invalid UTF-8 in string: " ++ s!"incomplete utf-8 byte sequence from index {index}") ∧
        (¬ Unfinished (payload.drop index) → ∃ reach,
          Longest Unfinished (payload.drop index) reach ∧ max 1 reach ≤ 3 ∧
            fault.message = "invalid UTF-8 in string: " ++
              s!"invalid utf-8 sequence of {max 1 reach} bytes from index {index}")) := by
  refine ⟨(text payload).map some, takes_nullableString fits tail, ?_⟩
  have accepted : ∀ s, (text payload).map some = .ok (some s) ↔ payload = ofString s := by
    intro s
    rw [← text_eq_ok_iff]
    cases text payload <;> simp [Except.map]
  refine ⟨accepted, by rw [wellFormed_iff_exists_string]; exact exists_congr accepted, ?_⟩
  intro defective
  cases hdecode : decode payload with
  | ok text => exact absurd ⟨text, decode_eq_ok_iff.mp hdecode⟩ defective
  | error defect =>
    have outcome : (text payload).map some = .error (.protocol (.invalidUtf8 defect)) := by
      rw [text, toString?, hdecode]
      rfl
    obtain ⟨index, longest, told⟩ := exists_longest_of_decode hdecode
    refine ⟨_, index, outcome, longest, ?_⟩
    rcases told with ⟨unfinished, rfl⟩ | ⟨finished, reach, blamed, rfl⟩
    · exact ⟨fun _ => rfl, fun finished => absurd unfinished finished⟩
    · refine ⟨fun unfinished => absurd unfinished finished, fun _ => ⟨reach, blamed, ?_, rfl⟩⟩
      have short := blamed.1.2.length_lt
      rw [List.length_take_of_le blamed.1.1] at short
      omega

/-- A string of two bytes is read, and another, in which the fourth byte of a character is missing,
is refused for the other three. -/
theorem takes_nullableString_with_missing_byte :
    Takes (nullableString 5) [0, 0, 0, 2, 0xC3, 0xA9, 7] (.ok (some "é")) 6 ∧
      ∃ fault, Takes (nullableString 5) [0, 0, 0, 5, 0x61, 0xF0, 0x9F, 0x98, 0x41, 7]
          (.error (.protocol fault)) 9 ∧
        fault.message =
          "invalid UTF-8 in string: invalid utf-8 sequence of 3 bytes from index 1" := by
  obtain ⟨outcome, takes, accepted, -⟩ :=
    takes_nullableString_accepted_or_defect 5 [0xC3, 0xA9] [7] (by decide)
  rw [(accepted "é").mpr (by decide)] at takes
  refine ⟨takes, ?_⟩
  -- behind the letter there are three bytes of a character, and then no continuation byte
  have invalid : step 0xF0 [0x9F, 0x98, 0x41] = .invalid 3 := rfl
  have finished : ¬ Unfinished [0xF0, 0x9F, 0x98, 0x41] := by
    rw [← step_eq_incomplete_iff, invalid]
    nofun
  have longest : Longest WellFormed [0x61, 0xF0, 0x9F, 0x98, 0x41] 1 :=
    @longest_wellFormed 0xF0 ['a'] [0x9F, 0x98, 0x41] (by rw [invalid]; nofun)
  have defective : ¬ WellFormed [0x61, 0xF0, 0x9F, 0x98, 0x41] :=
    fun wellFormed => absurd (longest.2 ⟨Nat.le_refl 5, wellFormed⟩) (by decide)
  obtain ⟨outcome, takes, -, -, refused⟩ :=
    takes_nullableString_accepted_or_defect 5 [0x61, 0xF0, 0x9F, 0x98, 0x41] [7] (by decide)
  obtain ⟨fault, index, rfl, first, -, told⟩ := refused defective
  obtain rfl := first.unique longest
  obtain ⟨reach, blamed, -, message⟩ := told finished
  obtain ⟨three, blamed', hthree⟩ := exists_longest_of_step_invalid invalid
  obtain rfl := blamed.unique blamed'
  rw [← hthree] at message
  exact ⟨fault, takes, message⟩

end Reader
end ProcWire

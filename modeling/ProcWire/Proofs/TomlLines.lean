import ProcWire.Proofs.Decimals
import ProcWire.Proofs.Scanning
import ProcWire.Toml.Document

/-! # Documents of plain lines

The plainest documents have lines of two sorts: the header of a table, and a key with an integer.
Their keys need no quotes.  `parse?_plain` says that such a document is read line by line
as it is written.

What takes an argument is the integer.  A value may be a string, a date, a time or a
float before it may be an integer, and each of these must be seen to fail on digits that a
line ends behind: a date or a time wants its mark behind some of the digits, a float a point
or an exponent behind all of them.
-/
namespace ProcWire.Toml
open Scanner

variable {c d : Char} {key : Key} {n : Nat} {rest run : List Char}

/-! ## Keys -/

/-- A key that needs no quotes. -/
structure IsBare (key : Key) : Prop where
  nonempty : key ≠ []
  bare : ∀ c ∈ key, isBareKeyChar c = true

theorem IsBare.exists_cons (h : IsBare key) :
    ∃ c more, key = c :: more ∧ isBareKeyChar c = true := by
  obtain ⟨c, more, rfl⟩ := List.exists_cons_of_ne_nil h.nonempty
  exact ⟨c, more, rfl, h.bare c List.mem_cons_self⟩

theorem blanks_append (blank : ∀ c ∈ run, isBlank c = true) (stop : Stops isBlank rest) :
    blanks (run ++ rest) = some ((), rest) :=
  bind_of_some (takeWhile_append blank stop)

theorem blanks_of_stops (stop : Stops isBlank rest) : blanks rest = some ((), rest) :=
  blanks_append (List.forall_mem_nil _) stop

theorem isBlank_of_isBareKeyChar (bare : isBareKeyChar c = true) : isBlank c = false := by
  have blank : c ≠ ' ' := ne_of_sort bare (by decide)
  have tab : c ≠ '\t' := ne_of_sort bare (by decide)
  simp [isBlank, blank, tab]

theorem IsBare.simpleKey (h : IsBare key) (stop : Stops isBareKeyChar rest) :
    simpleKey (key ++ rest) = some (key, rest) := by
  have bare := takeWhile1_append h.bare stop h.nonempty
  obtain ⟨c, more, rfl, first⟩ := h.exists_cons
  refine (orElse_of_none (bind_of_none (char_cons_of_ne ?_))).trans
    ((orElse_of_none (bind_of_none (char_cons_of_ne ?_))).trans bare)
  · exact ne_of_sort first (by decide)
  · exact ne_of_sort first (by decide)

theorem IsBare.blanks (h : IsBare key) : blanks (key ++ rest) = some ((), key ++ rest) := by
  obtain ⟨c, more, rfl, first⟩ := h.exists_cons
  exact blanks_of_stops (stops_cons.mpr (isBlank_of_isBareKeyChar first))

/-- A key alone, perhaps with blanks behind it. -/
theorem IsBare.dottedKey (h : IsBare key) (ends : Stops isBareKeyChar run)
    (blank : Toml.blanks run = some ((), d :: rest)) (no_dot : d ≠ '.') :
    dottedKey (key ++ run) = some ([key], d :: rest) := by
  refine bind_of_some (separated1_single ?_ (char_cons_of_ne no_dot))
  exact (bind_of_some h.blanks).trans ((bind_of_some (h.simpleKey ends)).trans (bind_of_some blank))

/-! ## Integers -/

section Integers
variable (n rest)

/-- The digits of a number, and the end of the line behind them. -/
def digitsLine : List Char := Nat.toDigits 10 n ++ '\n' :: rest

theorem exists_digitsLine_cons : ∃ c more, digitsLine n rest = c :: more ∧
    Numeral.isDigit c = true ∧ ∀ d, more.head? = some d → Numeral.isDigit d = true ∨ d = '\n' := by
  obtain ⟨c, more, digits, first, others⟩ := Numeral.exists_toDigits_cons n
  refine ⟨c, more ++ '\n' :: rest, by rw [digitsLine, digits]; rfl, first, ?_⟩
  intro d head
  cases more with
  | nil => exact Or.inr (Option.some.inj head).symm
  | cons e more =>
    obtain rfl := Option.some.inj head
    exact Or.inl (others _ List.mem_cons_self)

/-- What begins with some other character does not begin with a digit. -/
theorem char_digitsLine (other : Numeral.isDigit d = false) :
    char d (digitsLine n rest) = none := by
  obtain ⟨c, more, text, digit, -⟩ := exists_digitsLine_cons n rest
  rw [text, char_cons_of_ne (ne_of_sort digit other)]

theorem literal_digitsLine {chars : List Char} (other : Numeral.isDigit d = false) :
    literal (d :: chars) (digitsLine n rest) = none := by
  obtain ⟨c, more, text, digit, -⟩ := exists_digitsLine_cons n rest
  rw [text, literal_cons_of_ne (ne_of_sort digit other)]

theorem number_digitsLine {β : Type} (count : Nat) {g : Nat → Unit → Scanner β}
    (mark : Numeral.isDigit d = false) (other : '\n' ≠ d) :
    (number count >>= fun n => char d >>= g n) (digitsLine n rest) = none :=
  number_char_of_digits (fun _ mem => Numeral.isDigit_of_mem_toDigits mem)
    (stops_cons.mpr (by decide)) mark (stops_cons.mpr (by simpa using other))

theorem string_digitsLine : string (digitsLine n rest) = none := by
  refine (orElse_of_none (bind_of_none (literal_digitsLine n rest (by decide)))).trans ?_
  refine (orElse_of_none (bind_of_none (literal_digitsLine n rest (by decide)))).trans ?_
  refine (orElse_of_none (bind_of_none (char_digitsLine n rest (by decide)))).trans ?_
  exact bind_of_none (char_digitsLine n rest (by decide))

/-- No date and no time: neither mark stands behind the digits. -/
theorem dateTime_digitsLine : dateTime (digitsLine n rest) = none := by
  refine (orElse_of_none (bind_of_none ?_)).trans (bind_of_none ?_)
  · exact number_digitsLine n rest 4 (by decide) (by decide)
  · exact number_digitsLine n rest 2 (by decide) (by decide)

theorem sign_digitsLine : sign (digitsLine n rest) = some ([], digitsLine n rest) := by
  refine (orElse_of_none (bind_of_none ?_)).trans (pure_apply ..)
  obtain ⟨c, more, text, digit, -⟩ := exists_digitsLine_cons n rest
  rw [text]
  refine oneOf_cons_of_notMem ?_
  have plus : c ≠ '+' := ne_of_sort digit (by decide)
  have minus : c ≠ '-' := ne_of_sort digit (by decide)
  simp [plus, minus]

theorem digitRun_digitsLine : digitRun Numeral.isDigit (digitsLine n rest) =
    some (Nat.toDigits 10 n, '\n' :: rest) := by
  obtain ⟨c, more, digits, first, others⟩ := Numeral.exists_toDigits_cons n
  have stop : Stops Numeral.isDigit ('\n' :: rest) := stops_cons.mpr (by decide)
  rw [digitsLine, digits]
  refine (bind_of_some (satisfy_cons first)).trans (bind_of_some (many_append ?_ ?_))
  · exact fun d mem tail => orElse_of_some (satisfy_cons (others d mem))
  · refine (orElse_of_none (satisfy_of_stops stop)).trans (bind_of_none (char_cons_of_ne ?_))
    decide

theorem decimal_digitsLine : decimal (digitsLine n rest) =
    some (Nat.toDigits 10 n, '\n' :: rest) := by
  refine (bind_of_some (sign_digitsLine n rest)).trans ((bind_of_some rfl).trans ?_)
  split
  · rename_i zero
    obtain ⟨more, digits⟩ : ∃ more, Nat.toDigits 10 n = '0' :: more := by
      obtain ⟨c, more, digits, -⟩ := Numeral.exists_toDigits_cons n
      rw [digitsLine, digits] at zero
      obtain rfl : c = '0' := by simpa using zero
      exact ⟨more, digits⟩
    obtain ⟨-, rfl⟩ := Numeral.of_toDigits_eq_zero_cons digits
    rw [digitsLine, digits]
    exact bind_of_some (char_cons '0' _)
  · exact bind_of_some (digitRun_digitsLine n rest)

theorem float_digitsLine : float (digitsLine n rest) = none := by
  refine (orElse_of_none ?_).trans ?_
  · refine (bind_of_some (decimal_digitsLine n rest)).trans (bind_of_none ?_)
    refine (orElse_of_none (bind_of_none ?_)).trans (bind_of_none (bind_of_none ?_))
    · exact oneOf_cons_of_notMem (by decide)
    · exact char_cons_of_ne (by decide)
  · refine (bind_of_some (sign_digitsLine n rest)).trans (bind_of_none ?_)
    refine (orElse_of_none (bind_of_none ?_)).trans (bind_of_none ?_)
    · exact literal_digitsLine n rest (by decide)
    · exact literal_digitsLine n rest (by decide)

theorem basedInteger_digitsLine {base : Nat} {isDigit : Char → Bool}
    (mark : Numeral.isDigit d = false) (other : d ≠ '\n') :
    basedInteger d base isDigit (digitsLine n rest) = none := by
  refine bind_of_none ?_
  obtain ⟨c, more, text, -, next⟩ := exists_digitsLine_cons n rest
  rw [text]
  refine if_neg fun same => ?_
  have second : more.head? = some d := by
    cases more with
    | nil => cases same
    | cons e more => exact congrArg some (List.cons.inj (List.cons.inj same).2).1
  rcases next d second with digit | rfl
  · exact ne_of_sort digit mark rfl
  · exact other rfl

theorem integer_digitsLine {n : Nat} (rest : List Char) (h : n < 2 ^ 63) :
    integer (digitsLine n rest) = some (.integer n, '\n' :: rest) := by
  refine (orElse_of_none (basedInteger_digitsLine n rest (by decide) (by decide))).trans ?_
  refine (orElse_of_none (basedInteger_digitsLine n rest (by decide) (by decide))).trans ?_
  refine (orElse_of_none (basedInteger_digitsLine n rest (by decide) (by decide))).trans ?_
  refine (bind_of_some (decimal_digitsLine n rest)).trans ?_
  rw [Numeral.signed?_toDigits h]
  rfl

theorem value_digitsLine (levels : Nat) (h : n < 2 ^ 63) :
    value levels (digitsLine n rest) = some (.integer n, '\n' :: rest) := by
  have scalar : scalar (digitsLine n rest) = some (.integer n, '\n' :: rest) := by
    refine (orElse_of_none (bind_of_none (string_digitsLine n rest))).trans ?_
    refine (orElse_of_none (dateTime_digitsLine n rest)).trans ?_
    refine (orElse_of_none (float_digitsLine n rest)).trans ?_
    exact orElse_of_some (integer_digitsLine rest h)
  cases levels with
  | zero => exact scalar
  | succ levels =>
    refine (orElse_of_none (bind_of_none (char_digitsLine n rest (by decide)))).trans ?_
    exact (orElse_of_none (bind_of_none (char_digitsLine n rest (by decide)))).trans scalar

end Integers

/-! ## Lines -/

theorem lineEnd_newline (rest : List Char) : lineEnd ('\n' :: rest) = some ((), rest) := by
  refine (bind_of_some (blanks_of_stops (stops_cons.mpr (by decide)))).trans ?_
  refine (bind_of_some (orElse_of_none (bind_of_none (char_cons_of_ne (by decide))))).trans ?_
  exact orElse_of_some (orElse_of_some (char_cons ..))

/-- A line without quotes, dots and comments. -/
inductive PlainLine where
  | table (key : Key)
  | integer (key : Key) (n : Nat)

namespace PlainLine

/-- A line as it is written. -/
def text : PlainLine → List Char
  | table key => '[' :: (key ++ [']', '\n'])
  | integer key n => key ++ (" = ".toList ++ (Nat.toDigits 10 n ++ ['\n']))

/-- What a line says. -/
def line : PlainLine → Line
  | table key => .table [key]
  | integer key n => .pair [key] (.integer n)

/-- A line can be written if its key needs no quotes and its integer has room in 64 bits. -/
def Writable : PlainLine → Prop
  | table key => IsBare key
  | integer key n => IsBare key ∧ n < 2 ^ 63

variable {plain : PlainLine}

theorem elementHeader_eq_none (h : IsBare key) : elementHeader ('[' :: (key ++ rest)) = none := by
  obtain ⟨c, more, rfl, first⟩ := h.exists_cons
  refine bind_of_none (if_neg fun same => ?_)
  exact ne_of_sort first (by decide) (List.cons.inj (List.cons.inj same).2).1

theorem line_table (h : IsBare key) (rest : List Char) :
    Toml.line ('[' :: (key ++ ']' :: '\n' :: rest)) = some (.table [key], rest) := by
  have header : tableHeader ('[' :: (key ++ ']' :: '\n' :: rest)) =
      some (.table [key], '\n' :: rest) := by
    refine (bind_of_some (char_cons ..)).trans ?_
    have blank : Toml.blanks (']' :: '\n' :: rest) = some ((), ']' :: '\n' :: rest) :=
      blanks_of_stops (stops_cons.mpr (by decide))
    refine (bind_of_some (h.dottedKey (stops_cons.mpr (by decide)) blank (by decide))).trans ?_
    exact bind_of_some (char_cons ..)
  refine (bind_of_some (blanks_of_stops (stops_cons.mpr (by decide)))).trans ?_
  refine (bind_of_some ((orElse_of_none (elementHeader_eq_none h)).trans
    (orElse_of_some header))).trans ?_
  exact bind_of_some (lineEnd_newline rest)

theorem line_integer (h : IsBare key) (small : n < 2 ^ 63) (rest : List Char) :
    Toml.line (key ++ ' ' :: '=' :: ' ' :: digitsLine n rest) =
      some (.pair [key] (.integer n), rest) := by
  have pair : pairLine (key ++ ' ' :: '=' :: ' ' :: digitsLine n rest) =
      some (.pair [key] (.integer n), '\n' :: rest) := by
    have oneBlank {more : List Char} (stop : Stops isBlank more) :
        Toml.blanks (' ' :: more) = some ((), more) :=
      blanks_append (List.forall_mem_singleton.mpr rfl) stop
    have behindKey : Toml.blanks (' ' :: '=' :: ' ' :: digitsLine n rest) =
        some ((), '=' :: ' ' :: digitsLine n rest) := oneBlank (stops_cons.mpr (by decide))
    have noBlank : Stops isBlank (digitsLine n rest) := by
      obtain ⟨c, more, text, digit, -⟩ := exists_digitsLine_cons n rest
      rw [text]
      refine stops_cons.mpr (isBlank_of_isBareKeyChar ?_)
      simp [isBareKeyChar, Char.isAlphanum, ← Numeral.isDigit_eq, digit]
    refine (bind_of_some (?_ : keyValue _ _ = some (([key], .integer n), '\n' :: rest))).trans
      (pure_apply ..)
    refine (bind_of_some (h.dottedKey (stops_cons.mpr (by decide)) behindKey (by decide))).trans ?_
    refine (bind_of_some (char_cons ..)).trans ((bind_of_some (oneBlank noBlank)).trans ?_)
    exact bind_of_some (value_digitsLine n rest _ small)
  obtain ⟨c, more, text, first⟩ := h.exists_cons
  have noBracket : c ≠ '[' := ne_of_sort first (by decide)
  refine (bind_of_some h.blanks).trans
    ((bind_of_some ?_).trans (bind_of_some (lineEnd_newline rest)))
  rw [text] at pair ⊢
  refine (orElse_of_none (bind_of_none (literal_cons_of_ne noBracket))).trans ?_
  exact (orElse_of_none (bind_of_none (char_cons_of_ne noBracket))).trans (orElse_of_some pair)

/-- **A line is read as it is written**, and nothing behind it. -/
theorem line_text (h : plain.Writable) (rest : List Char) :
    Toml.line (plain.text ++ rest) = some (plain.line, rest) := by
  cases plain with
  | table key => simpa [text, line] using line_table h rest
  | integer key n => simpa [text, line, digitsLine] using line_integer h.1 h.2 rest

/-- A line begins a text with a character, and not with a byte-order mark. -/
theorem Writable.exists_text_cons (h : plain.Writable) :
    ∃ c more, plain.text = c :: more ∧ c ≠ '\uFEFF' := by
  cases plain with
  | table key => exact ⟨_, _, rfl, by decide⟩
  | integer key n =>
    obtain ⟨c, more, rfl, first⟩ := h.1.exists_cons
    exact ⟨c, _, rfl, ne_of_sort first (by decide)⟩

end PlainLine

/-- **A document of plain lines is read line by line.** -/
theorem lines_plain {document : List PlainLine} (h : ∀ plain ∈ document, plain.Writable) :
    lines (document.flatMap PlainLine.text) = some (document.map PlainLine.line, []) := by
  have noMark : Stops (· = '\uFEFF') (document.flatMap PlainLine.text) := by
    cases document with
    | nil => exact stops_nil
    | cons plain document =>
      obtain ⟨c, more, text, other⟩ := (h plain List.mem_cons_self).exists_text_cons
      rw [List.flatMap_cons, text, List.cons_append]
      exact stops_cons.mpr (by simpa using other)
  refine (bind_of_some (orElse_of_none (bind_of_none (satisfy_of_stops noMark)))).trans ?_
  rw [← List.append_nil (document.flatMap _)]
  refine many_flatMap PlainLine.text PlainLine.line (fun plain mem => ?_) ?_
  · obtain ⟨c, more, text, -⟩ := (h plain mem).exists_text_cons
    refine ⟨by simp [text], fun rest => ?_⟩
    have read := PlainLine.line_text (h plain mem) rest
    rw [text, List.cons_append] at read ⊢
    refine (bind_of_some (next_cons ..)).trans ?_
    rwa [if_pos rfl]
  · refine (bind_of_some (next_nil _)).trans ?_
    rw [if_neg Bool.false_ne_true]
    rfl

/-- What a document of plain lines holds is what its lines build. -/
theorem parse?_plain {document : List PlainLine} (h : ∀ plain ∈ document, plain.Writable) :
    parse? (document.flatMap PlainLine.text) =
      ((document.map PlainLine.line).foldlM Builder.apply {}).map Builder.entries := by
  simp only [parse?, whole?, lines_plain h, Option.bind_eq_bind, Option.bind_some]
  cases (document.map PlainLine.line).foldlM Builder.apply {} <;> rfl

end ProcWire.Toml

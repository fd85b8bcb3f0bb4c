import ProcWire.Bytes

/-! # UTF-8

Strings travel as UTF-8.  Writing is one character after another.  Reading looks
at a lead byte, which says how many continuation bytes follow and from which
range the first of them comes; the ranges leave out overlong forms, surrogates
and everything above U+10FFFF.  A byte string that is not UTF-8 has a first
`Defect`, and the defect says where it is and how many bytes are to blame.
-/
namespace ProcWire.Utf8

/-- The UTF-8 form of a list of characters. -/
def encode (text : List Char) : Bytes := text.flatMap String.utf8EncodeChar

/-- The UTF-8 bytes of a string. -/
def ofString (text : String) : Bytes := encode text.toList

/-- The first place at which a byte string is not UTF-8. -/
inductive Defect where
  /-- The `length` bytes from `index` on cannot begin any character. -/
  | invalid (length index : Nat)
  /-- The bytes from `index` on begin a character, and the input ends before it does. -/
  | incomplete (index : Nat)
  deriving DecidableEq, Repr

/-- The wording of a defect. -/
def Defect.message : Defect → String
  | .invalid length index => s!"invalid utf-8 sequence of {length} bytes from index {index}"
  | .incomplete index => s!"incomplete utf-8 byte sequence from index {index}"

/-- What a lead byte promises: the bits of the scalar value it carries itself, how many
continuation bytes follow, and the range of the first of them.  (The others may be any
continuation byte.) -/
structure Lead where
  payload : Nat
  following : Nat
  low : UInt8 := 0x80
  high : UInt8 := 0xBF

/-- The promise of a byte in lead position, if it may stand there at all. -/
def lead? (b : UInt8) : Option Lead :=
  if b < 0x80 then some { payload := b.toNat, following := 0 }
  else if b < 0xC2 then none
  else if b < 0xE0 then some { payload := b.toNat - 0xC0, following := 1 }
  else if b = 0xE0 then some { payload := 0, following := 2, low := 0xA0 }
  else if b = 0xED then some { payload := 0xD, following := 2, high := 0x9F }
  else if b < 0xF0 then some { payload := b.toNat - 0xE0, following := 2 }
  else if b = 0xF0 then some { payload := 0, following := 3, low := 0x90 }
  else if b < 0xF4 then some { payload := b.toNat - 0xF0, following := 3 }
  else if b = 0xF4 then some { payload := 4, following := 3, high := 0x8F }
  else none

/-- What stands at the head of a byte string. -/
inductive Step where
  /-- A character, and the bytes after it. -/
  | char (c : Char) (rest : Bytes)
  /-- So many bytes that begin no character. -/
  | invalid (length : Nat)
  /-- The beginning of a character that the input does not finish. -/
  | incomplete

/-- Reads `following` continuation bytes, the first between `low` and `high`, onto the scalar
value gathered so far; `seen` bytes of the character lie behind. -/
def continuation (code seen : Nat) (low high : UInt8) : Nat → Bytes → Step
  | 0, rest => .char (Char.ofNat code) rest
  | _ + 1, [] => .incomplete
  | following + 1, b :: rest =>
    if low ≤ b ∧ b ≤ high then
      continuation (code * 64 + (b.toNat - 0x80)) (seen + 1) 0x80 0xBF following rest
    else
      .invalid seen

/-- Reads one character off a non-empty byte string. -/
def step (b : UInt8) (rest : Bytes) : Step :=
  match lead? b with
  | none => .invalid 1
  | some lead => continuation lead.payload 1 lead.low lead.high lead.following rest

theorem length_le_of_continuation {code seen following : Nat} {low high : UInt8}
    {bytes rest : Bytes} {c : Char}
    (h : continuation code seen low high following bytes = .char c rest) :
    rest.length ≤ bytes.length := by
  induction following generalizing code seen low high bytes with
  | zero => simp only [continuation, Step.char.injEq] at h; simp [h.2]
  | succ following ih =>
    cases bytes with
    | nil => simp [continuation] at h
    | cons b bytes =>
      rw [continuation] at h
      split at h
      · exact Nat.le_succ_of_le (ih h)
      · contradiction

/-- A character read leaves no more than the bytes behind its lead. -/
theorem length_le_of_step {b : UInt8} {bytes rest : Bytes} {c : Char}
    (h : step b bytes = .char c rest) : rest.length ≤ bytes.length := by
  rw [step] at h
  split at h
  · contradiction
  · exact length_le_of_continuation h

/-- Reads characters from `index` on until the bytes end or a defect shows; `before` are the
characters already read, last first. -/
def decodeFrom (index : Nat) (before : List Char) : Bytes → Except Defect (List Char)
  | [] => .ok before.reverse
  | b :: bytes =>
    match _h : step b bytes with
    | .char c rest => decodeFrom (index + c.utf8Size) (c :: before) rest
    | .invalid length => .error (.invalid length index)
    | .incomplete => .error (.incomplete index)
  termination_by bytes => bytes.length
  decreasing_by exact Nat.lt_succ_of_le (length_le_of_step _h)

/-- The characters that a byte string spells, or its first defect. -/
def decode (bytes : Bytes) : Except Defect (List Char) := decodeFrom 0 [] bytes

/-- The string that a byte string spells, or its first defect. -/
def toString? (bytes : Bytes) : Except Defect String := (decode bytes).map String.ofList

end ProcWire.Utf8

import ProcWire.Proofs.Chains
import ProcWire.Proofs.Parts

/-! # Three readers of a length and a payload

Byte arrays, strings and rows all stand behind a 32-bit length, and there are two readers for
that: one that knows a NULL marker, for byte arrays and strings, and one for rows, which have none.
They are compared here on every stream.  `Opens` tells what a stream begins with, seen by a reader
with a limit, and `Agree` says how each of the three ends on a stream that begins so.

They take the same bytes wherever they succeed and judge a length alike; what differs is the name
of the field in an error, that a row cannot be NULL, and that a row tells how much of it is there
if it is cut short.
-/
namespace ProcWire
namespace Reader

/-- What stands at the beginning of a stream, for a reader of a length and a payload. -/
inductive Opening where
  /-- Too few bytes for a length. -/
  | short
  /-- The NULL marker. -/
  | null
  /-- A length below the NULL marker. -/
  | negative (length : Int32)
  /-- A length beyond the limit. -/
  | tooLong (length : Nat)
  /-- A length, and not as many bytes behind it. -/
  | cut (length present : Nat)
  /-- A length and the payload that it announces. -/
  | whole (payload : Bytes)

/-- A stream begins in a way, where `max` is the limit. -/
inductive Opens (max : Nat) : Bytes → Opening → Prop where
  | short {stream : Bytes} (few : stream.length < 4) : Opens max stream .short
  | null (rest : Bytes) : Opens max (Bytes.ofInt (-1) ++ rest) .null
  | negative {v : Int32} (below : v.toInt < -1) (rest : Bytes) :
      Opens max (Bytes.ofInt v ++ rest) (.negative v)
  | tooLong {v : Int32} {length : Nat} (announced : v.toInt = length) (beyond : max < length)
      (rest : Bytes) : Opens max (Bytes.ofInt v ++ rest) (.tooLong length)
  | cut {v : Int32} {length : Nat} {part : Bytes} (announced : v.toInt = length)
      (within : length ≤ max) (missing : part.length < length) :
      Opens max (Bytes.ofInt v ++ part) (.cut length part.length)
  | whole {v : Int32} {payload : Bytes} (announced : v.toInt = payload.length)
      (within : payload.length ≤ max) (rest : Bytes) :
      Opens max (Bytes.ofInt v ++ payload ++ rest) (.whole payload)

section Comparison
variable (limits : Limits) (stream : Bytes)

/-- How the readers of a byte array, a string and a row end, with the first `n` bytes gone. -/
structure Ends (array : Except WireError (Option Bytes)) (string : Except WireError (Option String))
    (row : Except WireError Bytes) (n : Nat) : Prop where
  array : Takes (varbinary limits.fieldLength) stream array n
  string : Takes (nullableString limits.fieldLength) stream string n
  row : Takes (Table.readRow limits) stream row n

/-- The readers of a byte array and of a string fail alike, and that of a row in its own way. -/
structure Fails (counted row : WireError) : Prop where
  array : ((varbinary limits.fieldLength).run stream).1 = .error counted
  string : ((nullableString limits.fieldLength).run stream).1 = .error counted
  row : ((Table.readRow limits).run stream).1 = .error row

/-- How the three readers end on a stream that begins in a way. -/
def Agree : Opening → Prop
  | .short => Fails limits stream (.io .exhausted) (.io .exhausted)
  | .null => Ends limits stream (.ok none) (.ok none)
      (.error (.protocol (.negativeLength "row" (-1)))) 4
  | .negative v => Ends limits stream (.error (.protocol (.negativeLength "varbinary" v)))
      (.error (.protocol (.negativeLength "string" v)))
      (.error (.protocol (.negativeLength "row" v))) 4
  | .tooLong length => Ends limits stream
      (.error (.limitExceeded "varbinary" length limits.fieldLength))
      (.error (.limitExceeded "string" length limits.fieldLength))
      (.error (.limitExceeded "row" length limits.fieldLength)) 4
  | .cut length present => Fails limits stream (.io .exhausted) (.framing length present)
  | .whole payload => ∃ string, Ends limits stream (.ok (some payload)) string (.ok payload)
      (4 + payload.length) ∧
      ((∃ s, payload = Utf8.ofString s ∧ string = .ok (some s)) ∨
        (∀ s, payload ≠ Utf8.ofString s) ∧ ∃ fault, string = .error (.protocol fault))

end Comparison

variable {α : Type} {field : String} {max : Nat} {judge : Bytes → Except WireError α} {v : Int32}
  {stream used rest : Bytes}

/-! ## How streams begin -/

/-- There is no other way to begin. -/
theorem exists_opens (max : Nat) (stream : Bytes) : ∃ opening, Opens max stream opening := by
  by_cases few : stream.length < 4
  · exact ⟨_, .short few⟩
  obtain ⟨v, hv⟩ :=
    Bytes.exists_ofInt (stream.take 4) (List.length_take_of_le (Nat.le_of_not_lt few))
  rw [← List.take_append_drop 4 stream, hv]
  by_cases below : v.toInt < -1
  · exact ⟨_, .negative below _⟩
  by_cases marker : v.toInt = -1
  · obtain rfl : v = -1 := Int32.toInt_inj.mp marker
    exact ⟨_, .null _⟩
  obtain ⟨length, announced⟩ := Int.eq_ofNat_of_zero_le (show 0 ≤ v.toInt by omega)
  by_cases beyond : max < length
  · exact ⟨_, .tooLong announced beyond _⟩
  have within : length ≤ max := Nat.le_of_not_lt beyond
  by_cases missing : (stream.drop 4).length < length
  · exact ⟨_, .cut announced within missing⟩
  have there : ((stream.drop 4).take length).length = length :=
    List.length_take_of_le (Nat.le_of_not_lt missing)
  rw [← List.take_append_drop length (stream.drop 4), ← List.append_assoc]
  exact ⟨_, .whole (by rw [announced, there]) (by rwa [there]) _⟩

/-! ## How the readers end -/

theorem run_nullable_short (few : stream.length < 4) :
    (nullable field max judge).run stream = (.error (.io .exhausted), []) := by
  rw [nullable, length, bind_assoc]
  exact run_int_short few

theorem run_nullable_null (rest : Bytes) :
    (nullable field max judge).run (Bytes.ofInt (-1) ++ rest) = (.ok none, rest) := by
  rw [nullable, Transfer.run_bind, run_length]
  rfl

theorem run_nullable_negative (below : v.toInt < -1) (rest : Bytes) :
    (nullable field max judge).run (Bytes.ofInt v ++ rest) =
      (.error (.protocol (.negativeLength field v)), rest) := by
  have no_marker : v ≠ nullLength := by
    rintro rfl
    exact absurd below (by decide)
  have negative : v < 0 := neg_iff_toInt.mpr (by omega)
  rw [nullable, Transfer.run_bind, run_length, if_neg no_marker, if_pos negative]

theorem run_nullable_tooLong {length : Nat} (announced : v.toInt = length) (beyond : max < length)
    (rest : Bytes) : (nullable field max judge).run (Bytes.ofInt v ++ rest) =
      (.error (.limitExceeded field length max), rest) := by
  rw [run_nullable_of_toInt announced, if_pos beyond]

theorem run_nullable_cut {length : Nat} {part : Bytes} (announced : v.toInt = length)
    (within : length ≤ max) (missing : part.length < length) :
    (nullable field max judge).run (Bytes.ofInt v ++ part) = (.error (.io .exhausted), []) := by
  rw [run_nullable_of_toInt announced, if_neg (Nat.not_lt.mpr within)]
  exact Transfer.run_bind_error (run_raw_short missing) _

end Reader

namespace Table
open Reader
variable {limits : Limits} {v : Int32}

theorem run_readRow_negative (below : v.toInt < 0) (rest : Bytes) :
    (readRow limits).run (Bytes.ofInt v ++ rest) =
      (.error (.protocol (.negativeLength "row" v)), rest) := by
  rw [readRow, accepts_int.run_bind rfl, if_pos (neg_iff_toInt.mpr below)]
  rfl

theorem run_readRow_tooLong {length : Nat} (announced : v.toInt = length)
    (beyond : limits.fieldLength < length) (rest : Bytes) :
    (readRow limits).run (Bytes.ofInt v ++ rest) =
      (.error (.limitExceeded "row" length limits.fieldLength), rest) := by
  rw [run_readRow_of_toInt announced, if_pos beyond]

theorem run_readRow_cut {length : Nat} {part : Bytes} (announced : v.toInt = length)
    (within : length ≤ limits.fieldLength) (missing : part.length < length) :
    (readRow limits).run (Bytes.ofInt v ++ part) = (.error (.framing length part.length), []) := by
  rw [run_readRow_of_toInt announced, if_neg (Nat.not_lt.mpr within), run_readPayload_short missing]

end Table

namespace Reader
variable {limits : Limits} {stream : Bytes} {opening : Opening}

/-- A payload is a text, or there is a fault in it. -/
theorem text_eq_ok_or_fault (payload : Bytes) :
    (∃ s, payload = Utf8.ofString s ∧ text payload = .ok s) ∨
      (∀ s, payload ≠ Utf8.ofString s) ∧ ∃ fault, text payload = .error (.protocol fault) := by
  cases outcome : text payload with
  | ok s => exact Or.inl ⟨s, text_eq_ok_iff.mp outcome, rfl⟩
  | error e =>
    refine Or.inr ⟨fun s same => ?_, ?_⟩
    · rw [text_eq_ok_iff.mpr same] at outcome
      cases outcome
    · rw [text] at outcome
      obtain ⟨defect, -, rfl⟩ := mapError_eq_error_iff.mp outcome
      exact ⟨_, rfl⟩

/-- Byte arrays and strings are read by one reader, which they give a name and a judge. -/
theorem Ends.of_nullable {array : Except WireError (Option Bytes)}
    {string : Except WireError (Option String)} {row : Except WireError Bytes} {n : Nat}
    (harray : Takes (nullable "varbinary" limits.fieldLength .ok) stream array n)
    (hstring : Takes (nullable "string" limits.fieldLength text) stream string n)
    (hrow : Takes (Table.readRow limits) stream row n) :
    Ends limits stream array string row n where
  array := by rwa [varbinary_eq]
  string := by rwa [nullableString_eq]
  row := hrow

theorem Fails.of_nullable {counted row : WireError} {rest left : Bytes}
    (hcounted : ∀ {α : Type} (field : String) (judge : Bytes → Except WireError α),
      (nullable field limits.fieldLength judge).run stream = (.error counted, rest))
    (hrow : (Table.readRow limits).run stream = (.error row, left)) :
    Fails limits stream counted row where
  array := by rw [varbinary_eq, hcounted]
  string := by rw [nullableString_eq, hcounted]
  row := by rw [hrow]

/-- **The readers agree on every stream**, up to what a row has of its own. -/
theorem agree_of_opens (h : Opens limits.fieldLength stream opening) :
    Agree limits stream opening := by
  cases h with
  | short few => exact .of_nullable (fun _ _ => run_nullable_short few) (run_int_short few)
  | null rest =>
    have width := Bytes.length_ofInt (-1)
    exact .of_nullable (takes_of_run_append (run_nullable_null rest) width)
      (takes_of_run_append (run_nullable_null rest) width)
      (takes_of_run_append (Table.run_readRow_negative (by decide) rest) width)
  | @negative v below rest =>
    have width := Bytes.length_ofInt v
    exact .of_nullable (takes_of_run_append (run_nullable_negative below rest) width)
      (takes_of_run_append (run_nullable_negative below rest) width)
      (takes_of_run_append (Table.run_readRow_negative (by omega) rest) width)
  | @tooLong v length announced beyond rest =>
    have width := Bytes.length_ofInt v
    exact .of_nullable (takes_of_run_append (run_nullable_tooLong announced beyond rest) width)
      (takes_of_run_append (run_nullable_tooLong announced beyond rest) width)
      (takes_of_run_append (Table.run_readRow_tooLong announced beyond rest) width)
  | cut announced within missing =>
    exact .of_nullable (fun _ _ => run_nullable_cut announced within missing)
      (Table.run_readRow_cut announced within missing)
  | @whole v payload announced within rest =>
    have width : (Bytes.ofInt v ++ payload).length = 4 + payload.length := by
      rw [List.length_append, Bytes.length_ofInt]
    have row := (Table.accepts_readRow limits).run ⟨v, announced, within, rfl⟩ rest
    refine ⟨(text payload).map some, .of_nullable
      (takes_of_run_append (run_nullable_whole announced within rest) width)
      (takes_of_run_append (run_nullable_whole announced within rest) width)
      (takes_of_run_append row width), ?_⟩
    rcases text_eq_ok_or_fault payload with ⟨s, same, read⟩ | ⟨no_text, fault, read⟩
    · exact Or.inl ⟨s, same, by rw [read]; rfl⟩
    · exact Or.inr ⟨no_text, fault, by rw [read]; rfl⟩

end Reader

/-! ## What is written -/

namespace Writer
/-- The name of the field stands in an error and nowhere else. -/
theorem run_counted_snd (field other : String) (payload : Bytes) (sink : Sink) :
    ((counted field payload).run sink).2 = ((counted other payload).run sink).2 := by
  by_cases fits : payload.length ≤ maxCount
  · rw [counted_eq_raw field fits, counted_eq_raw other fits]
  · rw [counted, counted, if_neg fits, if_neg fits]
    rfl

theorem bytes_counted (field : String) (payload : Bytes) :
    (counted field payload).bytes = if payload.length ≤ maxCount
      then .ok (Bytes.counted payload)
      else .error (.invalidValue (.fieldTooLong field payload.length)) := by
  by_cases fits : payload.length ≤ maxCount
  · rw [if_pos fits, counted_eq_raw field fits, bytes_raw]
  · rw [if_neg fits, counted, if_neg fits]
    rfl

end Writer

namespace Reader

/-- **The readers of a byte array, a string and a row agree**, whatever a stream begins with: they
end in the ways of `Agree`.  What is written for a string and for its UTF-8 as a byte array are the
same bytes, on every sink, and both are refused if they are too long to be counted. -/
theorem lengthPrefixed_agree :
    (∀ (limits : Limits) (stream : Bytes),
      (∃ opening, Opens limits.fieldLength stream opening) ∧
      ∀ opening, Opens limits.fieldLength stream opening → Agree limits stream opening) ∧
    (∀ (s : String) (sink : Sink), let payload := Utf8.ofString s
      ((Writer.string s).run sink).2 = ((Writer.varbinary payload).run sink).2 ∧
      (Writer.string s).bytes = (if payload.length ≤ Writer.maxCount
        then .ok (Bytes.counted payload)
        else .error (.invalidValue (.fieldTooLong "string" payload.length))) ∧
      (Writer.varbinary payload).bytes = (if payload.length ≤ Writer.maxCount
        then .ok (Bytes.counted payload)
        else .error (.invalidValue (.fieldTooLong "varbinary" payload.length)))) := by
  refine ⟨fun limits stream => ⟨exists_opens _ stream, fun opening h => agree_of_opens h⟩, ?_⟩
  intro s sink payload
  exact ⟨Writer.run_counted_snd "string" "varbinary" payload sink,
    Writer.bytes_counted "string" payload, Writer.bytes_counted "varbinary" payload⟩

/-- Two bytes that are no text, at the limit, with one byte behind them. -/
theorem lengthPrefixed_agree_no_text :
    let limits : Limits := ⟨9, 2⟩
    let stream : Bytes := [0, 0, 0, 2, 0xC3, 0x28, 9]
    Opens limits.fieldLength stream (.whole [0xC3, 0x28]) ∧
      Agree limits stream (.whole [0xC3, 0x28]) := by
  intro limits stream
  have opens : Opens limits.fieldLength stream (.whole [0xC3, 0x28]) :=
    @Opens.whole 2 2 [0xC3, 0x28] (by decide) (by decide) [9]
  exact ⟨opens, (lengthPrefixed_agree.1 limits stream).2 _ opens⟩

end Reader
end ProcWire

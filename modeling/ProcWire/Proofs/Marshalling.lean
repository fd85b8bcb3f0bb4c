import ProcWire.Numeral.Binary64
import ProcWire.Proofs.WireValue
import ProcWire.Value.Marshal

/-! # What marshalling keeps of a value

Marshalling forgets two things: whether a single byte was a truth value or an integer,
and whether a fixed-width payload that is a NULL sentinel was a null or that very
number.  `Value.erase` forgets just these, at every depth.

A value whose strings and byte arrays can be counted is written as the bytes of what
erasure leaves of it (`marshal_eq_raw`), and a value that is written at all is such a
value (`fieldsFit_of_run_marshal`).  So whatever is known of the bytes of wire values
holds of marshalled values, up to erasure.  In particular they can be read back, none
is the beginning of another, and the server cannot tell two values apart just when
erasure does not (`read_marshal_iff_erase`).
-/
namespace ProcWire

/-! ## Erasure -/

/-- The bit pattern of the float that stands for NULL. -/
def nullFloat : UInt64 := 0xFFEE42D130773B76

theorem ofText?_nullFloat : Binary64.ofText? "-1.7e308".toList = some nullFloat := by
  decide +kernel

/-- What the NULL sentinel of a type reads as: the least integer, the float `-1.7e308`, or no
content. -/
def NullType.erase : NullType → WireValue
  | ⟨.bool, _⟩ => .byte Int8.minValue
  | ⟨.short, _⟩ => .short Int16.minValue
  | ⟨.int, _⟩ => .int Int32.minValue
  | ⟨.long, _⟩ => .long Int64.minValue
  | ⟨.float, _⟩ => .float nullFloat
  | ⟨.string, _⟩ => .string none
  | ⟨.timestamp, _⟩ => .timestamp Int64.minValue
  | ⟨.varbinary, _⟩ => .varbinary none

namespace Value

mutual

/-- The wire value that is left of a value. -/
def erase : Value → WireValue
  | bool v => .byte (if v then 1 else 0)
  | tinyInt v => .byte v
  | short v => .short v
  | int v => .int v
  | long v => .long v
  | float bits => .float bits
  | string text => .string (some text)
  | varbinary data => .varbinary (some data)
  | timestamp micros => .timestamp micros
  | array items => .array (eraseAll items)
  | null type => type.erase

/-- The wire values that are left of the values of a list. -/
def eraseAll : List Value → List WireValue
  | [] => []
  | v :: after => erase v :: eraseAll after

end

theorem eraseAll_eq_map (items : List Value) : eraseAll items = items.map erase := by
  induction items with
  | nil => rw [eraseAll, List.map_nil]
  | cons v after ih => rw [eraseAll, List.map_cons, ih]

/-- Every string and byte array in the value is short enough to be counted. -/
inductive FieldsFit : Value → Prop
  | bool (v : Bool) : FieldsFit (.bool v)
  | tinyInt (v : Int8) : FieldsFit (.tinyInt v)
  | short (v : Int16) : FieldsFit (.short v)
  | int (v : Int32) : FieldsFit (.int v)
  | long (v : Int64) : FieldsFit (.long v)
  | float (bits : UInt64) : FieldsFit (.float bits)
  | string (text : String) (fits : (Utf8.ofString text).length ≤ Writer.maxCount) :
      FieldsFit (.string text)
  | varbinary (data : Bytes) (fits : data.length ≤ Writer.maxCount) : FieldsFit (.varbinary data)
  | timestamp (micros : Int64) : FieldsFit (.timestamp micros)
  | null (type : NullType) : FieldsFit (.null type)
  | array (items : List Value) (fits : ∀ item ∈ items, FieldsFit item) : FieldsFit (.array items)

end Value

/-! ## A value is written as what erasure leaves of it -/

/-- A null is written as its sentinel. -/
theorem NullType.writeNull_eq_raw (type : NullType) :
    type.type.writeNull = Writer.raw type.erase.bytes := by
  obtain ⟨type, nullable⟩ := type
  cases type with
  | null => cases nullable
  | decimal => cases nullable
  | array => cases nullable
  -- the sentinel has the width of the type's payload
  | _ => exact Writer.raw_bind_raw _ _

theorem NullType.fits_erase (type : NullType) : type.erase.Fits := by
  obtain ⟨type, nullable⟩ := type
  cases type with
  | null => cases nullable
  | decimal => cases nullable
  | array => cases nullable
  | bool => exact .byte _
  | short => exact .short _
  | int => exact .int _
  | long => exact .long _
  | float => exact .float _
  | timestamp => exact .timestamp _
  | string => exact .string none fun s hs => nomatch hs
  | varbinary => exact .varbinary none fun bytes hbytes => nomatch hbytes

namespace Value

/-- The elements of a list that are written as their erasures are written so together. -/
theorem marshalAll_eq_raw {items : List Value}
    (h : ∀ v ∈ items, v.marshal = Writer.raw v.erase.bytes) :
    marshalAll items = Writer.raw (WireValue.allBytes (eraseAll items)) := by
  induction items with
  | nil => rw [marshalAll, eraseAll, WireValue.allBytes_nil, Writer.raw_nil]
  | cons v after ih =>
    have first := h v List.mem_cons_self
    have rest := ih fun w hw => h w (List.mem_cons_of_mem v hw)
    rw [marshalAll, eraseAll, WireValue.allBytes_cons, first, rest, Writer.raw_bind_raw]

/-- **A value is written as the bytes of what erasure leaves of it**, on every sink. -/
theorem marshal_eq_raw {v : Value} (h : v.FieldsFit) : v.marshal = Writer.raw v.erase.bytes := by
  induction h with
  | string text fits =>
    rw [marshal, Writer.string, Writer.counted_eq_raw "string" fits, erase]
    exact Writer.raw_bind_raw _ _
  | varbinary data fits =>
    rw [marshal, Writer.varbinary, Writer.counted_eq_raw "varbinary" fits, erase]
    exact Writer.raw_bind_raw _ _
  | null type =>
    rw [marshal, erase]
    exact type.writeNull_eq_raw
  | array items fits ih =>
    have length : (eraseAll items).length = items.length := by
      rw [eraseAll_eq_map, List.length_map]
    rw [marshal, marshalAll_eq_raw ih, Writer.short_eq_raw, Writer.raw_bind_raw, erase,
      WireValue.bytes, WireValue.payload, length]
    exact Writer.raw_bind_raw _ _
  -- any other value is offered in two parts, its tag and a payload of fixed width
  | _ =>
    rw [marshal, erase]
    exact Writer.raw_bind_raw _ _

/-- What erasure leaves of a value that can be built fits the prefixes, if its fields do. -/
theorem fits_erase {v : Value} (hv : v.Constructible) (h : v.FieldsFit) : v.erase.Fits := by
  induction hv with
  | bool v => exact .byte _
  | tinyInt v => exact .byte _
  | short v => exact .short _
  | int v => exact .int _
  | long v => exact .long _
  | float bits => exact .float _
  | timestamp micros => exact .timestamp _
  | string text =>
    cases h with
    | string _ fits =>
      refine .string _ fun s hs => ?_
      cases hs
      exact fits
  | varbinary data =>
    cases h with
    | varbinary _ fits =>
      refine .varbinary _ fun bytes hbytes => ?_
      cases hbytes
      exact fits
  | null type => exact type.fits_erase
  | @array items v constructible built ih =>
    obtain rfl := eq_array_of_array? built
    cases h with
    | array _ fits =>
      rw [erase, eraseAll_eq_map]
      refine .array _ ?_ ?_
      · rw [List.length_map]
        exact length_le_of_array? built
      · intro e he
        obtain ⟨item, hitem, rfl⟩ := List.mem_map.mp he
        exact ih item hitem (fits item hitem)

/-! ### Only such values are written -/

mutual

/-- A value that is written has no field that is too long to be counted. -/
theorem fieldsFit_of_run_marshal : ∀ (v : Value) {sink sink' : Sink},
    v.marshal.run sink = (.ok (), sink') → v.FieldsFit
  | bool _, _, _, _ => .bool _
  | tinyInt _, _, _, _ => .tinyInt _
  | short _, _, _, _ => .short _
  | int _, _, _, _ => .int _
  | long _, _, _, _ => .long _
  | float _, _, _, _ => .float _
  | timestamp _, _, _, _ => .timestamp _
  | null _, _, _, _ => .null _
  | string text, _, _, h => by
    rw [marshal] at h
    obtain ⟨_, _, -, hstring⟩ := Transfer.of_run_bind_ok h
    exact .string text (Writer.length_le_of_counted hstring)
  | varbinary data, _, _, h => by
    rw [marshal] at h
    obtain ⟨_, _, -, hdata⟩ := Transfer.of_run_bind_ok h
    exact .varbinary data (Writer.length_le_of_counted hdata)
  | array items, _, _, h => by
    rw [marshal] at h
    obtain ⟨_, _, -, hcount⟩ := Transfer.of_run_bind_ok h
    obtain ⟨_, _, -, hitems⟩ := Transfer.of_run_bind_ok hcount
    exact .array items (fieldsFit_of_run_marshalAll items hitems)

theorem fieldsFit_of_run_marshalAll : ∀ (items : List Value) {sink sink' : Sink},
    (marshalAll items).run sink = (.ok (), sink') → ∀ v ∈ items, v.FieldsFit
  | [], _, _, _ => fun v hv => nomatch hv
  | v :: after, _, _, h => by
    rw [marshalAll] at h
    obtain ⟨_, _, hfirst, hrest⟩ := Transfer.of_run_bind_ok h
    intro w hw
    cases hw with
    | head => exact fieldsFit_of_run_marshal v hfirst
    | tail _ hw => exact fieldsFit_of_run_marshalAll after hrest w hw

end

/-- A value is written just if its strings and byte arrays can be counted, and then as what erasure
leaves of it. -/
theorem bytes_marshal_eq_ok_iff {v : Value} {e : Bytes} :
    v.marshal.bytes = .ok e ↔ v.FieldsFit ∧ e = v.erase.bytes := by
  constructor
  · intro h
    obtain ⟨sink, hrun, -⟩ := Writer.bytes_eq_ok_iff.mp h
    have fits := fieldsFit_of_run_marshal v hrun
    rw [marshal_eq_raw fits, Writer.bytes_raw] at h
    exact ⟨fits, (Except.ok.inj h).symm⟩
  · rintro ⟨fits, rfl⟩
    rw [marshal_eq_raw fits, Writer.bytes_raw]

/-! ## What the server can tell apart -/

/-- A value that can be built and sent. -/
structure Sendable (v : Value) : Prop where
  constructible : v.Constructible
  fields_fit : v.FieldsFit

/-- The value is written as `e` to every sink that is not bounded. -/
def WrittenAs (v : Value) (e : Bytes) : Prop :=
  ∀ sink : Sink, sink.capacity = none → v.marshal.run sink = (.ok (), sink.push e)

theorem Sendable.writtenAs {v : Value} (h : v.Sendable) : v.WrittenAs v.erase.bytes := by
  intro sink hsink
  rw [marshal_eq_raw h.fields_fit]
  exact Writer.run_raw_unbounded hsink _

theorem Sendable.fits_erase {v : Value} (h : v.Sendable) : v.erase.Fits :=
  Value.fits_erase h.constructible h.fields_fit

/-- **Marshalling is decodable, and collides just where erasure does.**  Values that can be sent
are written to every sink that is not bounded.  Whatever follows its bytes, the server reads a
value's erasure back from just these bytes.  The bytes of two values are the same if and only if
their erasures are, and those of neither are a proper beginning of those of the other. -/
theorem read_marshal_iff_erase {v w : Value} (hv : v.Sendable) (hw : w.Sendable) :
    ∃ e f, v.WrittenAs e ∧ w.WrittenAs f ∧
      (∀ tail, WireValue.read (e ++ tail) = some (v.erase, tail)) ∧
      (e = f ↔ v.erase = w.erase) ∧ (e <+: f → e = f) := by
  refine ⟨v.erase.bytes, w.erase.bytes, hv.writtenAs, hw.writtenAs,
    WireValue.read_bytes hv.fits_erase, ?_, ?_⟩
  · constructor
    · intro h
      exact WireValue.bytes_injective hv.fits_erase hw.fits_erase h
    · intro h
      rw [h]
  · rintro ⟨tail, h⟩
    rw [← List.append_nil w.erase.bytes] at h
    obtain ⟨same, -⟩ := WireValue.eq_of_bytes_append hv.fits_erase hw.fits_erase h
    rw [same]

theorem Constructible.pair {v w : Value} (hv : v.Constructible) (hw : w.Constructible)
    (built : array? [v, w] = .ok (.array [v, w])) : (Value.array [v, w]).Constructible := by
  refine @Constructible.array [v, w] _ ?_ built
  rw [List.forall_mem_cons, List.forall_mem_singleton]
  exact ⟨hv, hw⟩

theorem FieldsFit.pair {v w : Value} (hv : v.FieldsFit) (hw : w.FieldsFit) :
    (Value.array [v, w]).FieldsFit := by
  refine .array _ ?_
  rw [List.forall_mem_cons, List.forall_mem_singleton]
  exact ⟨hv, hw⟩

/-- Truth values collide with single-byte integers, and a null among them with the least of them,
also in an array within an array. -/
theorem read_marshal_nested_bytes :
    let truths : Value := .array [.array [.bool true, .null ⟨.bool, rfl⟩], .array []]
    let integers : Value := .array [.array [.tinyInt 1, .tinyInt (-128)], .array []]
    truths.Sendable ∧ integers.Sendable ∧ ∃ e, truths.WrittenAs e ∧ integers.WrittenAs e ∧
      ∀ tail, WireValue.read (e ++ tail) =
        some (.array [.array [.byte 1, .byte (-128)], .array []], tail) := by
  intro truths integers
  have empty : (Value.array []).Constructible :=
    @Constructible.array [] _ (fun v hv => nomatch hv) rfl
  have emptyFits : (Value.array []).FieldsFit := .array [] fun v hv => nomatch hv
  have htruths : truths.Sendable :=
    ⟨.pair (.pair (.bool _) (.null _) rfl) empty rfl, .pair (.pair (.bool _) (.null _)) emptyFits⟩
  have hintegers : integers.Sendable :=
    ⟨.pair (.pair (.tinyInt _) (.tinyInt _) rfl) empty rfl,
      .pair (.pair (.tinyInt _) (.tinyInt _)) emptyFits⟩
  obtain ⟨e, f, he, hf, hread, hiff, -⟩ := read_marshal_iff_erase htruths hintegers
  obtain rfl : e = f := hiff.mpr rfl
  exact ⟨htruths, hintegers, e, he, hf, hread⟩

end Value
end ProcWire

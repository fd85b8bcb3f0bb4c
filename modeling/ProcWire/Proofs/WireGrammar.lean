import ProcWire.Proofs.Arrays
import ProcWire.Proofs.Marshalling

/-! # What marshalling can produce

`IsWireValue` is the grammar of a value on the wire, said of its bytes alone: a tag and
a payload of fixed width, a counted string or byte array or the NULL marker in the place
of its length, or an array, whose elements all start with the same tag.

Marshalling produces these byte strings and no others (`marshal_iff_isWireValue`).  What
is written is in the grammar because the elements of an array go together, so that they
share a tag (`Constructible.isWireValue`).  For the converse every wire value is given a
value that is no truth value: a single byte is always an integer there, and so elements
that share a tag go together again (`exists_array`).
-/
namespace ProcWire

/-- The tags whose payload has a fixed width, with these widths. -/
def fixedWidths : List (Int8 × Nat) := [(3, 1), (4, 2), (5, 4), (6, 8), (8, 8), (11, 8)]

/-- A value on the wire.  The tag of strings is 9, that of byte arrays 25, that of arrays -99. -/
inductive IsWireValue : Bytes → Prop
  | fixed (tag : Int8) (payload : Bytes) (width : (tag, payload.length) ∈ fixedWidths) :
      IsWireValue (Bytes.ofByte tag ++ payload)
  | null (tag : Int8) (nullable : tag = 9 ∨ tag = 25) :
      IsWireValue (Bytes.ofByte tag ++ Bytes.ofInt (-1))
  | string (length : Int32) (text : String) (counts : length.toInt = (Utf8.ofString text).length) :
      IsWireValue (Bytes.ofByte 9 ++ (Bytes.ofInt length ++ Utf8.ofString text))
  | varbinary (length : Int32) (data : Bytes) (counts : length.toInt = data.length) :
      IsWireValue (Bytes.ofByte 25 ++ (Bytes.ofInt length ++ data))
  | array (count : Int16) (items : List Bytes) (tag : UInt8) (counts : count.toInt = items.length)
      (values : ∀ item ∈ items, IsWireValue item)
      (homogeneous : ∀ item ∈ items, item.head? = some tag) :
      IsWireValue (Bytes.ofByte (-99) ++ (Bytes.ofShort count ++ items.flatten))

/-- What fits its prefixes and is no array is in the grammar. -/
theorem WireValue.Fits.isWireValue {v : WireValue} (h : v.Fits) (scalar : v.type ≠ .array) :
    IsWireValue v.bytes := by
  rw [WireValue.bytes]
  cases h with
  | byte v => exact .fixed 3 (Bytes.ofByte v) (by rw [Bytes.length_ofByte]; decide)
  | short v => exact .fixed 4 (Bytes.ofShort v) (by rw [Bytes.length_ofShort]; decide)
  | int v => exact .fixed 5 (Bytes.ofInt v) (by rw [Bytes.length_ofInt]; decide)
  | long v => exact .fixed 6 (Bytes.ofLong v) (by rw [Bytes.length_ofLong]; decide)
  | float bits => exact .fixed 8 (Bytes.ofFloat bits) (by rw [Bytes.length_ofFloat]; decide)
  | timestamp micros => exact .fixed 11 (Bytes.ofLong micros) (by rw [Bytes.length_ofLong]; decide)
  | string text fits =>
    cases text with
    | none => exact .null 9 (Or.inl rfl)
    | some text => exact .string _ text (Writer.toInt_ofNat_of_le_maxCount (fits text rfl))
  | varbinary data fits =>
    cases data with
    | none => exact .null 25 (Or.inr rfl)
    | some data => exact .varbinary _ data (Writer.toInt_ofNat_of_le_maxCount (fits data rfl))
  | array items count fits => exact absurd rfl scalar

namespace Value

/-! ## Tags -/

theorem type_erase (v : Value) : v.erase.type = v.wireType := by
  cases v with
  | null type =>
    obtain ⟨type, nullable⟩ := type
    cases type with
    | null => cases nullable
    | decimal => cases nullable
    | array => cases nullable
    | _ => rw [erase]; rfl
  | _ => rw [erase]; rfl

/-- A value is written with its tag in front. -/
theorem head?_bytes_erase (v : Value) : v.erase.bytes.head? = some v.wireType.tag.toUInt8 := by
  rw [WireValue.bytes, Bytes.ofByte_eq, type_erase]
  rfl

theorem wireType_eq_of_head?_eq {v w : Value} (h : v.erase.bytes.head? = w.erase.bytes.head?) :
    v.wireType = w.wireType := by
  rw [head?_bytes_erase, head?_bytes_erase] at h
  have tags := congrArg UInt8.toInt8 (Option.some.inj h)
  rw [Int8.toInt8_toUInt8, Int8.toInt8_toUInt8] at tags
  exact WireType.tag_injective tags

/-- The elements of an array share a tag. -/
theorem exists_tag {items : List Value} {v : Value} (built : array? items = .ok v) :
    ∃ tag, ∀ item ∈ items, item.erase.bytes.head? = some tag := by
  obtain ⟨-, -, compatible⟩ := array?_eq_ok_iff.mp built
  cases items with
  | nil => exact ⟨0, List.forall_mem_nil _⟩
  | cons first after =>
    refine ⟨first.wireType.tag.toUInt8, fun item hitem => ?_⟩
    rw [head?_bytes_erase, (compatible item hitem first List.mem_cons_self).wireType]

/-! ## What is written is in the grammar -/

theorem bytes_erase_array (items : List Value) :
    (array items).erase.bytes = Bytes.ofByte (-99) ++
      (Bytes.ofShort (Int16.ofNat items.length) ++ (items.map (·.erase.bytes)).flatten) := by
  have elements : WireValue.allBytes (eraseAll items) = (items.map (·.erase.bytes)).flatten := by
    rw [WireValue.allBytes_eq_flatMap, eraseAll_eq_map, List.flatMap_def, List.map_map]
    rfl
  rw [erase, WireValue.bytes, WireValue.payload, elements, eraseAll_eq_map, List.length_map]
  rfl

theorem toInt_ofNat_of_le_maxElements {n : Nat} (h : n ≤ maxElements) :
    (Int16.ofNat n).toInt = n :=
  Int16.toInt_ofNat_of_lt (Nat.lt_succ_of_le h)

theorem Constructible.isWireValue {v : Value} (hv : v.Constructible) (h : v.FieldsFit) :
    IsWireValue v.erase.bytes := by
  have fits := fits_erase hv h
  induction hv with
  | @array items v constructible built ih =>
    obtain rfl := eq_array_of_array? built
    obtain ⟨tag, homogeneous⟩ := exists_tag built
    cases h with
    | array _ h =>
      rw [bytes_erase_array]
      refine .array _ _ tag ?_ ?_ ?_
      · rw [List.length_map]
        exact toInt_ofNat_of_le_maxElements (length_le_of_array? built)
      · rw [List.forall_mem_map]
        intro item hitem
        exact ih item hitem (h item hitem) (fits_erase (constructible item hitem) (h item hitem))
      · rw [List.forall_mem_map]
        exact homogeneous
  | null type =>
    refine fits.isWireValue ?_
    rw [type_erase]
    intro htype
    have nullable := type.nullable
    rw [show type.type = .array from htype] at nullable
    cases nullable
  | _ => exact fits.isWireValue (by simp [type_erase, wireType])

/-! ## Whatever is in the grammar is written -/

/-- A value that can be built and is written as `e`.  It is no truth value, so that its tag tells
its kind. -/
structure Spells (v : Value) (e : Bytes) : Prop where
  constructible : v.Constructible
  fields_fit : v.FieldsFit
  bytes : v.erase.bytes = e
  no_truth : v.kind ≠ .typed .bool

theorem exists_spells_all {parts : List Bytes} (h : ∀ part ∈ parts, ∃ v : Value, v.Spells part) :
    ∃ items : List Value, (∀ v ∈ items, v.Spells v.erase.bytes) ∧
      items.map (·.erase.bytes) = parts := by
  induction parts with
  | nil => exact ⟨[], fun v hv => (List.not_mem_nil hv).elim, rfl⟩
  | cons part after ih =>
    obtain ⟨v, hv⟩ := h part List.mem_cons_self
    obtain ⟨items, hitems, bytes⟩ := ih fun part hpart => h part (List.mem_cons_of_mem _ hpart)
    have first : v.Spells v.erase.bytes := by
      rw [hv.bytes]
      exact hv
    exact ⟨v :: items, List.forall_mem_cons.mpr ⟨first, hitems⟩, by
      rw [List.map_cons, hv.bytes, bytes]⟩

/-- **Nothing that the wire can carry under one tag is refused**: an array can be built of values
that are written so. -/
theorem exists_array {parts : List Bytes} {tag : UInt8} (count : parts.length ≤ maxElements)
    (spelled : ∀ part ∈ parts, ∃ v : Value, v.Spells part)
    (homogeneous : ∀ part ∈ parts, part.head? = some tag) :
    ∃ items : List Value, (∀ v ∈ items, v.Spells v.erase.bytes) ∧
      items.map (·.erase.bytes) = parts ∧ array? items = .ok (array items) := by
  obtain ⟨items, spells, rfl⟩ := exists_spells_all spelled
  rw [List.length_map] at count
  rw [List.forall_mem_map] at homogeneous
  refine ⟨items, spells, rfl, array?_eq_ok_iff.mpr ⟨rfl, count, fun v hv w hw => ?_⟩⟩
  have wireType : v.wireType = w.wireType :=
    wireType_eq_of_head?_eq ((homogeneous v hv).trans (homogeneous w hw).symm)
  refine ⟨wireType, fun concrete concrete' => ?_⟩
  exact kind_eq_of_wireType_eq concrete concrete' (spells v hv).no_truth (spells w hw).no_truth
    wireType

/-- Every payload of fixed width is that of some value. -/
theorem exists_spells_fixed {tag : Int8} {payload : Bytes}
    (width : (tag, payload.length) ∈ fixedWidths) :
    ∃ v : Value, v.Spells (Bytes.ofByte tag ++ payload) := by
  simp only [fixedWidths, List.mem_cons, Prod.mk.injEq, List.not_mem_nil, or_false] at width
  rcases width with ⟨rfl, h⟩ | ⟨rfl, h⟩ | ⟨rfl, h⟩ | ⟨rfl, h⟩ | ⟨rfl, h⟩ | ⟨rfl, h⟩
  · obtain ⟨v, rfl⟩ := Bytes.exists_ofByte payload h
    exact ⟨.tinyInt v, .tinyInt v, .tinyInt v, by rw [erase]; rfl, by simp [kind]⟩
  · obtain ⟨v, rfl⟩ := Bytes.exists_ofShort payload h
    exact ⟨.short v, .short v, .short v, by rw [erase]; rfl, by simp [kind, wireType]⟩
  · obtain ⟨v, rfl⟩ := Bytes.exists_ofInt payload h
    exact ⟨.int v, .int v, .int v, by rw [erase]; rfl, by simp [kind, wireType]⟩
  · obtain ⟨v, rfl⟩ := Bytes.exists_ofLong payload h
    exact ⟨.long v, .long v, .long v, by rw [erase]; rfl, by simp [kind, wireType]⟩
  · obtain ⟨bits, rfl⟩ := Bytes.exists_ofFloat payload h
    exact ⟨.float bits, .float bits, .float bits, by rw [erase]; rfl, by simp [kind, wireType]⟩
  · obtain ⟨micros, rfl⟩ := Bytes.exists_ofLong payload h
    exact ⟨.timestamp micros, .timestamp micros, .timestamp micros, by rw [erase]; rfl,
      by simp [kind, wireType]⟩

theorem exists_spells {e : Bytes} (h : IsWireValue e) : ∃ v : Value, v.Spells e := by
  induction h with
  | fixed tag payload width => exact exists_spells_fixed width
  | null tag nullable =>
    rcases nullable with rfl | rfl
    · exact ⟨.null ⟨.string, rfl⟩, .null _, .null _, by rw [erase]; rfl, by simp [kind]⟩
    · exact ⟨.null ⟨.varbinary, rfl⟩, .null _, .null _, by rw [erase]; rfl, by simp [kind]⟩
  | string length text counts =>
    refine ⟨.string text, .string text, .string text (Writer.le_maxCount_of_toInt counts), ?_,
      by simp [kind, wireType]⟩
    rw [erase, ← Bytes.counted_of_toInt counts]
    rfl
  | varbinary length data counts =>
    refine ⟨.varbinary data, .varbinary data,
      .varbinary data (Writer.le_maxCount_of_toInt counts), ?_, by simp [kind, wireType]⟩
    rw [erase, ← Bytes.counted_of_toInt counts]
    rfl
  | array count parts tag counts values homogeneous ih =>
    have bound : parts.length ≤ maxElements := by
      have below := count.toInt_lt
      rw [counts] at below
      rw [maxElements]
      omega
    obtain ⟨items, spells, rfl, built⟩ := exists_array bound ih homogeneous
    rw [List.length_map] at counts bound
    have number : Int16.ofNat items.length = count := by
      rw [← Int16.toInt_inj, counts]
      exact toInt_ofNat_of_le_maxElements bound
    refine ⟨array items, .array (fun v hv => (spells v hv).constructible) built,
      .array items fun v hv => (spells v hv).fields_fit, ?_, ?_⟩
    · rw [bytes_erase_array, number]
    · simp [kind, wireType]

theorem Spells.bytes_marshal {v : Value} {e : Bytes} (h : v.Spells e) : v.marshal.bytes = .ok e :=
  bytes_marshal_eq_ok_iff.mpr ⟨h.fields_fit, h.bytes.symm⟩

/-- What is marshalled of values that are written is what erasure leaves of them. -/
theorem map_bytes_marshal {items : List Value} (h : ∀ v ∈ items, v.FieldsFit) :
    items.map (·.marshal.bytes) = (items.map (·.erase.bytes)).map Except.ok := by
  rw [List.map_map]
  exact List.map_congr_left fun v hv => bytes_marshal_eq_ok_iff.mpr ⟨h v hv, rfl⟩

/-! ## The image -/

/-- **Marshalling produces the wire values and nothing else.**  An array that can be built is
written with the number of its elements, which is not negative, and these share a tag.  No array
that the wire can carry is out of reach: if up to 32767 wire values share a tag, an array can be
built of values that are written as these.  (Where the tag is that of truth values these are
integers, since truth values do not mix with them.) -/
theorem marshal_iff_isWireValue :
    (∀ e, (∃ v : Value, v.Constructible ∧ v.marshal.bytes = .ok e) ↔ IsWireValue e) ∧
    (∀ items e, (Value.array items).Constructible → (Value.array items).marshal.bytes = .ok e →
      ∃ (count : Int16) (tag : UInt8) (parts : List Bytes),
        count.toInt = items.length ∧
        items.map (·.marshal.bytes) = parts.map Except.ok ∧
        (∀ part ∈ parts, part.head? = some tag) ∧
        e = Bytes.ofByte (-99) ++ (Bytes.ofShort count ++ parts.flatten)) ∧
    (∀ (parts : List Bytes) (tag : UInt8), parts.length ≤ 32767 →
      (∀ part ∈ parts, IsWireValue part) → (∀ part ∈ parts, part.head? = some tag) →
      ∃ items v, (∀ item ∈ items, item.Constructible) ∧
        items.map (·.marshal.bytes) = parts.map Except.ok ∧ array? items = .ok v) := by
  refine ⟨fun e => ⟨?_, ?_⟩, ?_, ?_⟩
  · rintro ⟨v, constructible, h⟩
    obtain ⟨fits, rfl⟩ := bytes_marshal_eq_ok_iff.mp h
    exact constructible.isWireValue fits
  · intro h
    obtain ⟨v, spells⟩ := exists_spells h
    exact ⟨v, spells.constructible, spells.bytes_marshal⟩
  · intro items e constructible h
    obtain ⟨fits, rfl⟩ := bytes_marshal_eq_ok_iff.mp h
    obtain ⟨built, -⟩ := constructible.of_array
    obtain ⟨tag, homogeneous⟩ := exists_tag built
    cases fits with
    | array _ fits =>
      refine ⟨_, tag, _, toInt_ofNat_of_le_maxElements (length_le_of_array? built),
        map_bytes_marshal fits, ?_, bytes_erase_array items⟩
      rw [List.forall_mem_map]
      exact homogeneous
  · intro parts tag count values homogeneous
    obtain ⟨items, spells, rfl, built⟩ :=
      exists_array count (fun part hpart => exists_spells (values part hpart)) homogeneous
    exact ⟨items, _, fun v hv => (spells v hv).constructible,
      map_bytes_marshal fun v hv => (spells v hv).fields_fit, built⟩

/-- A wire value of two levels: its elements are an array of a byte and a sentinel, and an array of
nothing.  The first of these is also what a truth value and a null make. -/
theorem marshal_iff_isWireValue_nested :
    let byte : Bytes := [3, 1]
    let sentinel : Bytes := [3, 128]
    let pair : Bytes := [157, 0, 2, 3, 1, 3, 128]
    let e : Bytes := [157, 0, 2, 157, 0, 2, 3, 1, 3, 128, 157, 0, 0]
    let items : List Value := [.bool true, .null ⟨.bool, rfl⟩]
    IsWireValue e ∧ (∃ v : Value, v.Constructible ∧ v.marshal.bytes = .ok e) ∧
      ((Value.array items).Constructible ∧ (Value.array items).marshal.bytes = .ok pair ∧
        ∃ (count : Int16) (tag : UInt8) (parts : List Bytes), count.toInt = 2 ∧
          items.map (·.marshal.bytes) = parts.map Except.ok ∧
          (∀ part ∈ parts, part.head? = some tag) ∧
          pair = Bytes.ofByte (-99) ++ (Bytes.ofShort count ++ parts.flatten)) ∧
      ∃ twins v, (∀ twin ∈ twins, twin.Constructible) ∧
        twins.map (·.marshal.bytes) = [.ok byte, .ok sentinel] ∧ array? twins = .ok v := by
  intro byte sentinel pair e items
  have values : ∀ part ∈ [byte, sentinel], IsWireValue part := by
    rw [List.forall_mem_cons, List.forall_mem_singleton]
    exact ⟨.fixed 3 [1] (by decide), .fixed 3 [128] (by decide)⟩
  have tags : ∀ part ∈ [byte, sentinel], part.head? = some 3 := by decide
  have inner : IsWireValue pair := .array 2 [byte, sentinel] 3 rfl values tags
  have empty : IsWireValue [157, 0, 0] :=
    .array 0 [] 0 rfl (List.forall_mem_nil _) (List.forall_mem_nil _)
  have outer : IsWireValue e := by
    refine .array 2 [pair, [157, 0, 0]] 157 rfl ?_ (by decide)
    rw [List.forall_mem_cons, List.forall_mem_singleton]
    exact ⟨inner, empty⟩
  have built : (Value.array items).Constructible := .pair (.bool _) (.null _) rfl
  have written : (Value.array items).marshal.bytes = .ok pair := by
    unfold items
    rfl
  obtain ⟨image, written_as, arrays⟩ := marshal_iff_isWireValue
  exact ⟨outer, (image e).mpr outer, ⟨built, written, written_as items pair built written⟩,
    arrays [byte, sentinel] 3 (by decide) values tags⟩

end Value
end ProcWire

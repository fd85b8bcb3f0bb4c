import ProcWire.Proofs.Forms
import ProcWire.Proofs.Writing
import ProcWire.WireType

/-! # Values as the server sees them

What arrives of a parameter is a tag and a payload; which constructor of `Value` it
came from is not on the wire.  A `WireValue` is just that: one payload for each tag
that is ever written.  `bytes` writes it down, and `read` is the server's reading: a
tag, and then the payload that the tag calls for, an array being a count and so many
tagged values.

`read_bytes` says that reading undoes writing whatever follows; so the bytes of wire
values are a prefix code (`eq_of_bytes_append`), and a list of them can be read back
once its length is known (`times_allBytes`).
-/
namespace ProcWire

/-! ## Parsers -/

/-- A reading that gives up, and does not say why, on whatever it does not expect. -/
abbrev Parser := StateT Bytes Option

namespace Parser
variable {α β : Type}

/-- A reader as a parser: every error gives up. -/
def ofReader (t : Reader α) : Parser α := fun stream =>
  match t.run stream with
  | (.ok a, rest) => some (a, rest)
  | (.error _, _) => none

/-- Parses `n` items one after the other. -/
def times : Nat → Parser α → Parser (List α)
  | 0, _ => pure []
  | n + 1, item => do
    let a ← item
    let after ← times n item
    pure (a :: after)

theorem run_ofReader {t : Reader α} {form : α → Bytes → Prop} (h : t.Accepts form) {a : α}
    {used : Bytes} (ha : form a used) (rest : Bytes) :
    ofReader t (used ++ rest) = some (a, rest) := by
  rw [ofReader, h.run ha]

theorem run_bind {item : Parser α} {next : α → Parser β} {stream rest : Bytes} {a : α}
    (h : item stream = some (a, rest)) : (item >>= next) stream = next a rest := by
  show (item stream).bind _ = _
  rw [h]
  rfl

theorem run_map {item : Parser α} {f : α → β} {stream rest : Bytes} {a : α}
    (h : item stream = some (a, rest)) : (f <$> item) stream = some (f a, rest) := by
  show (item stream).bind _ = _
  rw [h]
  rfl

/-- A parser that leaves no more than it was given. -/
def Shrinks (item : Parser α) : Prop :=
  ∀ stream a rest, item stream = some (a, rest) → rest.length ≤ stream.length

theorem of_run_bind {item : Parser α} {next : α → Parser β} {stream rest : Bytes} {b : β}
    (h : (item >>= next) stream = some (b, rest)) :
    ∃ a middle, item stream = some (a, middle) ∧ next a middle = some (b, rest) := by
  obtain ⟨⟨a, middle⟩, hitem, hnext⟩ := Option.bind_eq_some_iff.mp h
  exact ⟨a, middle, hitem, hnext⟩

theorem shrinks_pure (a : α) : Shrinks (pure a) := by
  intro stream b rest h
  cases h
  exact Nat.le_refl _

theorem of_run_ofReader {t : Reader α} {form : α → Bytes → Prop} (h : t.Accepts form)
    {stream rest : Bytes} {a : α} (hrun : ofReader t stream = some (a, rest)) :
    ∃ used, form a used ∧ stream = used ++ rest := by
  rw [ofReader] at hrun
  split at hrun
  · rename_i ht
    cases hrun
    exact (h _ _ _).mp ht
  · cases hrun

theorem shrinks_ofReader {t : Reader α} {form : α → Bytes → Prop} (h : t.Accepts form) :
    Shrinks (ofReader t) := by
  intro stream a rest hrun
  obtain ⟨used, -, rfl⟩ := of_run_ofReader h hrun
  simp

theorem Shrinks.bind {item : Parser α} {next : α → Parser β} (hitem : Shrinks item)
    (hnext : ∀ a, Shrinks (next a)) : Shrinks (item >>= next) := by
  intro stream b rest h
  obtain ⟨a, middle, hfirst, hsecond⟩ := of_run_bind h
  exact Nat.le_trans (hnext a _ _ _ hsecond) (hitem _ _ _ hfirst)

theorem Shrinks.map {item : Parser α} (h : Shrinks item) (f : α → β) : Shrinks (f <$> item) :=
  h.bind fun a => shrinks_pure (f a)

theorem Shrinks.times {item : Parser α} (h : Shrinks item) (n : Nat) : Shrinks (times n item) := by
  induction n with
  | zero => exact shrinks_pure []
  | succ n ih => exact h.bind fun a => ih.bind fun after => shrinks_pure (a :: after)

/-- Two sequences agree on a stream if their first steps do and their next steps agree after it. -/
theorem bind_congr {item other : Parser α} {next after : α → Parser β} {stream : Bytes}
    (first : item stream = other stream)
    (second : ∀ a rest, item stream = some (a, rest) → next a rest = after a rest) :
    (item >>= next) stream = (other >>= after) stream := by
  show (item stream).bind _ = (other stream).bind _
  rw [← first]
  cases hitem : item stream with
  | none => rfl
  | some result => exact second result.1 result.2 hitem

theorem map_congr {item other : Parser α} (f : α → β) {stream : Bytes}
    (h : item stream = other stream) : (f <$> item) stream = (f <$> other) stream := by
  show (item stream).bind _ = (other stream).bind _
  rw [h]

/-- Two parsers that agree on what is left of a stream agree on it when repeated. -/
theorem times_congr {item other : Parser α} (h : Shrinks item) (n : Nat) {stream : Bytes}
    (same : ∀ s, s.length ≤ stream.length → item s = other s) :
    times n item stream = times n other stream := by
  induction n generalizing stream with
  | zero => rfl
  | succ n ih =>
    rw [times, times]
    refine bind_congr (same stream (Nat.le_refl _)) fun a rest hitem => ?_
    have hrest := h _ _ _ hitem
    exact bind_congr (ih fun s hs => same s (Nat.le_trans hs hrest)) fun _ _ _ => rfl

end Parser

/-! ## Wire values -/

/-- A value as it travels: the payload under one of the tags that are ever written. -/
inductive WireValue where
  /-- The single byte that truth values and single-byte integers share. -/
  | byte (v : Int8)
  | short (v : Int16)
  | int (v : Int32)
  | long (v : Int64)
  | float (bits : UInt64)
  /-- A string, or the NULL marker in the place of its length. -/
  | string (text : Option String)
  /-- A byte array, or the NULL marker in the place of its length. -/
  | varbinary (data : Option Bytes)
  | timestamp (micros : Int64)
  | array (items : List WireValue)

namespace WireValue

/-- The type whose tag a wire value carries. -/
def type : WireValue → WireType
  | byte _ => .bool
  | short _ => .short
  | int _ => .int
  | long _ => .long
  | float _ => .float
  | string _ => .string
  | varbinary _ => .varbinary
  | timestamp _ => .timestamp
  | array _ => .array

mutual

/-- What follows the tag. -/
def payload : WireValue → Bytes
  | byte v => Bytes.ofByte v
  | short v => Bytes.ofShort v
  | int v => Bytes.ofInt v
  | long v => Bytes.ofLong v
  | float bits => Bytes.ofFloat bits
  | string none => Bytes.ofInt (-1)
  | string (some text) => Bytes.counted (Utf8.ofString text)
  | varbinary none => Bytes.ofInt (-1)
  | varbinary (some data) => Bytes.counted data
  | timestamp micros => Bytes.ofLong micros
  | array items => Bytes.ofShort (Int16.ofNat items.length) ++ allBytes items

/-- The tags and payloads of a list of wire values. -/
def allBytes : List WireValue → Bytes
  | [] => []
  | v :: after => Bytes.ofByte v.type.tag ++ payload v ++ allBytes after

end

/-- The tag and the payload. -/
def bytes (v : WireValue) : Bytes := Bytes.ofByte v.type.tag ++ v.payload

@[simp] theorem allBytes_nil : allBytes [] = [] := by rw [allBytes]

@[simp] theorem allBytes_cons (v : WireValue) (after : List WireValue) :
    allBytes (v :: after) = v.bytes ++ allBytes after := by
  rw [allBytes, bytes]

theorem allBytes_eq_flatMap (items : List WireValue) : allBytes items = items.flatMap bytes := by
  induction items with
  | nil => simp
  | cons v after ih => simp [ih]

/-- The most elements that an array on the wire may have. -/
def maxCount : Nat := 32767

/-- Every count and length in the value fits the prefix that announces it. -/
inductive Fits : WireValue → Prop
  | byte (v : Int8) : Fits (.byte v)
  | short (v : Int16) : Fits (.short v)
  | int (v : Int32) : Fits (.int v)
  | long (v : Int64) : Fits (.long v)
  | float (bits : UInt64) : Fits (.float bits)
  | string (text : Option String)
      (fits : ∀ s ∈ text, (Utf8.ofString s).length ≤ Writer.maxCount) : Fits (.string text)
  | varbinary (data : Option Bytes) (fits : ∀ bytes ∈ data, bytes.length ≤ Writer.maxCount) :
      Fits (.varbinary data)
  | timestamp (micros : Int64) : Fits (.timestamp micros)
  | array (items : List WireValue) (count : items.length ≤ maxCount)
      (fits : ∀ item ∈ items, Fits item) : Fits (.array items)

/-! ## Reading by tag -/

/-- The greatest length that any reader is asked to accept. -/
def noLimit : Nat := 0xFFFFFFFFFFFFFFFF

/-- Reads the payload that a tag calls for; `item` reads the elements of an array.  Three of the
types are never written, and nothing can follow their tags. -/
def readPayload (item : Parser WireValue) : WireType → Parser WireValue
  | .bool => byte <$> Parser.ofReader Reader.byte
  | .short => short <$> Parser.ofReader Reader.short
  | .int => int <$> Parser.ofReader Reader.int
  | .long => long <$> Parser.ofReader Reader.long
  | .float => float <$> Parser.ofReader Reader.float
  | .string => string <$> Parser.ofReader (Reader.nullableString noLimit)
  | .varbinary => varbinary <$> Parser.ofReader (Reader.varbinary noLimit)
  | .timestamp => timestamp <$> Parser.ofReader Reader.long
  | .array => do
    let count ← Parser.ofReader Reader.short
    array <$> Parser.times count.toNatClampNeg item
  | .null | .decimal => failure

/-- Reads a tag, and then what it calls for. -/
def readWith (item : Parser WireValue) : Parser WireValue := do
  let tag ← Parser.ofReader Reader.byte
  match WireType.ofTag? tag with
  | some type => readPayload item type
  | none => failure

/-- Reads a wire value in which no more than `depth` values lie within one another. -/
def readWithin : Nat → Parser WireValue
  | 0 => failure
  | depth + 1 => readWith (readWithin depth)

/-- Reads a wire value.  Each value within another begins with a byte of its own, so a stream holds
no deeper nesting than it has bytes. -/
def read : Parser WireValue := fun stream => readWithin stream.length stream

/-! ## Reading undoes writing -/

theorem counted_noLimit {payload : Bytes} (h : payload.length ≤ Writer.maxCount) :
    Counted noLimit payload (Bytes.counted payload) :=
  ⟨_, Writer.toInt_ofNat_of_le_maxCount h, Nat.le_trans h (by decide), rfl⟩

/-- If every element is read back, so is the list. -/
theorem times_allBytes {item : Parser WireValue} {items : List WireValue}
    (reads : ∀ v ∈ items, ∀ tail, item (v.bytes ++ tail) = some (v, tail)) (tail : Bytes) :
    Parser.times items.length item (allBytes items ++ tail) = some (items, tail) := by
  induction items with
  | nil =>
    rw [allBytes_nil]
    rfl
  | cons v after ih =>
    have head := reads v List.mem_cons_self (allBytes after ++ tail)
    have rest := ih fun w hw => reads w (List.mem_cons_of_mem v hw)
    rw [allBytes_cons, List.append_assoc, List.length_cons, Parser.times, Parser.run_bind head,
      Parser.run_bind rest]
    rfl

theorem length_bytes_le_of_mem {v : WireValue} {items : List WireValue} (h : v ∈ items) :
    v.bytes.length ≤ (allBytes items).length := by
  obtain ⟨before, after, rfl⟩ := List.append_of_mem h
  simp only [allBytes_eq_flatMap, List.flatMap_append, List.flatMap_cons, List.length_append]
  omega

/-- The tag in front decides which payload is read. -/
theorem readWith_tag (item : Parser WireValue) (v : WireValue) (rest : Bytes) :
    readWith item (v.bytes ++ rest) = readPayload item v.type (v.payload ++ rest) := by
  rw [readWith, bytes, List.append_assoc,
    Parser.run_bind (Parser.run_ofReader Reader.accepts_byte rfl _), WireType.ofTag?_tag]

/-- One layer is read back if the elements are, where there are any. -/
theorem readWith_bytes {item : Parser WireValue} {v : WireValue} (h : v.Fits)
    (elements : ∀ items, v = .array items →
      ∀ w ∈ items, ∀ tail, item (w.bytes ++ tail) = some (w, tail)) (tail : Bytes) :
    readWith item (v.bytes ++ tail) = some (v, tail) := by
  rw [readWith_tag]
  cases h with
  | byte v => exact Parser.run_map (Parser.run_ofReader Reader.accepts_byte rfl tail)
  | short v => exact Parser.run_map (Parser.run_ofReader Reader.accepts_short rfl tail)
  | int v => exact Parser.run_map (Parser.run_ofReader Reader.accepts_int rfl tail)
  | long v => exact Parser.run_map (Parser.run_ofReader Reader.accepts_long rfl tail)
  | float bits => exact Parser.run_map (Parser.run_ofReader Reader.accepts_float rfl tail)
  | timestamp micros => exact Parser.run_map (Parser.run_ofReader Reader.accepts_long rfl tail)
  | string text fits =>
    refine Parser.run_map (Parser.run_ofReader (Reader.accepts_nullableString noLimit) ?_ tail)
    cases text with
    | none => exact Or.inl ⟨rfl, rfl⟩
    | some text => exact Or.inr ⟨text, rfl, counted_noLimit (fits text rfl)⟩
  | varbinary data fits =>
    refine Parser.run_map (Parser.run_ofReader (Reader.accepts_varbinary noLimit) ?_ tail)
    cases data with
    | none => exact Or.inl ⟨rfl, rfl⟩
    | some data => exact Or.inr ⟨data, rfl, counted_noLimit (fits data rfl)⟩
  | array items count fits =>
    have number : (Int16.ofNat items.length).toNatClampNeg = items.length :=
      (Reader.of_toInt_eq_short (Int16.toInt_ofNat_of_lt (Nat.lt_succ_of_le count))).2
    rw [type, payload, readPayload, List.append_assoc,
      Parser.run_bind (Parser.run_ofReader Reader.accepts_short rfl _), number,
      Parser.run_map (times_allBytes (elements items rfl) tail)]

theorem readWithin_bytes (depth : Nat) : ∀ {v : WireValue}, v.Fits → v.bytes.length ≤ depth →
    ∀ tail, readWithin depth (v.bytes ++ tail) = some (v, tail) := by
  induction depth with
  | zero =>
    intro v h hdepth
    simp [bytes] at hdepth
  | succ depth ih =>
    intro v h hdepth tail
    refine readWith_bytes h ?_ tail
    rintro items rfl w hw tail
    cases h with
    | array items count fits =>
      have hle := length_bytes_le_of_mem hw
      -- the tag and the count come on top of the elements, so each of these is shorter
      simp only [bytes, payload, List.length_append, Bytes.length_ofByte,
        Bytes.length_ofShort] at hle hdepth
      refine ih (fits w hw) ?_ tail
      simp only [bytes, List.length_append, Bytes.length_ofByte]
      omega

/-- **What is written is read back**, whatever follows. -/
theorem read_bytes {v : WireValue} (h : v.Fits) (tail : Bytes) :
    read (v.bytes ++ tail) = some (v, tail) :=
  readWithin_bytes _ h (by simp) tail

/-- No two wire values begin alike: where one ends, no other can go on. -/
theorem eq_of_bytes_append {v w : WireValue} (hv : v.Fits) (hw : w.Fits) {s t : Bytes}
    (h : v.bytes ++ s = w.bytes ++ t) : v = w ∧ s = t := by
  have both := read_bytes hv s
  rw [h, read_bytes hw t] at both
  cases both
  exact ⟨rfl, rfl⟩

theorem bytes_injective {v w : WireValue} (hv : v.Fits) (hw : w.Fits) (h : v.bytes = w.bytes) :
    v = w :=
  (eq_of_bytes_append hv hw (congrArg (· ++ []) h)).1

/-! ## The bound on the depth -/

theorem shrinks_failure : Parser.Shrinks (failure : Parser WireValue) := by
  intro stream v rest h
  cases h

theorem shrinks_readPayload {item : Parser WireValue} (h : Parser.Shrinks item)
    (type : WireType) : Parser.Shrinks (readPayload item type) := by
  cases type with
  | bool => exact (Parser.shrinks_ofReader Reader.accepts_byte).map byte
  | short => exact (Parser.shrinks_ofReader Reader.accepts_short).map short
  | int => exact (Parser.shrinks_ofReader Reader.accepts_int).map int
  | long => exact (Parser.shrinks_ofReader Reader.accepts_long).map long
  | float => exact (Parser.shrinks_ofReader Reader.accepts_float).map float
  | string => exact (Parser.shrinks_ofReader (Reader.accepts_nullableString _)).map string
  | varbinary => exact (Parser.shrinks_ofReader (Reader.accepts_varbinary _)).map varbinary
  | timestamp => exact (Parser.shrinks_ofReader Reader.accepts_long).map timestamp
  | array =>
    exact (Parser.shrinks_ofReader Reader.accepts_short).bind fun count => (h.times _).map array
  | null => exact shrinks_failure
  | decimal => exact shrinks_failure

theorem shrinks_readWith {item : Parser WireValue} (h : Parser.Shrinks item) :
    Parser.Shrinks (readWith item) := by
  refine (Parser.shrinks_ofReader Reader.accepts_byte).bind fun tag => ?_
  split
  · exact shrinks_readPayload h _
  · exact shrinks_failure

theorem shrinks_readWithin (depth : Nat) : Parser.Shrinks (readWithin depth) := by
  induction depth with
  | zero =>
    intro stream v rest h
    cases h
  | succ depth ih => exact shrinks_readWith ih

theorem readPayload_congr {item other : Parser WireValue} (h : Parser.Shrinks item)
    {stream : Bytes} (same : ∀ s, s.length ≤ stream.length → item s = other s)
    (type : WireType) : readPayload item type stream = readPayload other type stream := by
  cases type with
  | array =>
    rw [readPayload, readPayload]
    refine Parser.bind_congr rfl fun count rest hcount => ?_
    have hrest := Parser.shrinks_ofReader Reader.accepts_short _ _ _ hcount
    exact Parser.map_congr array
      (Parser.times_congr h _ fun s hs => same s (Nat.le_trans hs hrest))
  -- no other payload holds elements
  | _ => rfl

/-- Elements are read from what is left behind a tag, so only shorter streams matter for them. -/
theorem readWith_congr {item other : Parser WireValue} (h : Parser.Shrinks item) {stream : Bytes}
    (same : ∀ s, s.length < stream.length → item s = other s) :
    readWith item stream = readWith other stream := by
  rw [readWith, readWith]
  refine Parser.bind_congr rfl fun tag rest htag => ?_
  obtain ⟨used, hused, rfl⟩ := Parser.of_run_ofReader Reader.accepts_byte htag
  have hlength : (used ++ rest).length = rest.length + 1 := by
    rw [hused, List.length_append, Bytes.length_ofByte, Nat.add_comm]
  cases WireType.ofTag? tag with
  | none => rfl
  | some type => exact readPayload_congr h (fun s hs => same s (by omega)) type

/-- The bound on the depth never stops the reader. -/
theorem readWithin_eq_read (depth : Nat) : ∀ {stream : Bytes}, stream.length ≤ depth →
    readWithin depth stream = read stream := by
  -- the bound that `read` sets itself is below `depth`, so the hypothesis is needed there too
  induction depth using Nat.strongRecOn with
  | _ depth ih =>
    intro stream hdepth
    cases depth with
    | zero =>
      obtain rfl := List.eq_nil_of_length_eq_zero (Nat.le_zero.mp hdepth)
      rfl
    | succ depth =>
      cases stream with
      | nil => rfl
      | cons b left =>
        simp only [List.length_cons, Nat.add_le_add_iff_right] at hdepth
        show readWith (readWithin depth) (b :: left) =
          readWith (readWithin left.length) (b :: left)
        refine readWith_congr (shrinks_readWithin depth) fun s hs => ?_
        have hs : s.length ≤ left.length := Nat.le_of_lt_succ hs
        rw [ih depth (Nat.lt_succ_self _) (Nat.le_trans hs hdepth),
          ih left.length (Nat.lt_succ_of_le hdepth) hs]

/-- **The reader's own recursion**: elements are read as values are. -/
theorem read_eq_readWith : read = readWith read := by
  funext stream
  rw [← readWithin_eq_read (stream.length + 1) (Nat.le_succ _), readWithin]
  exact readWith_congr (shrinks_readWithin _) fun s hs =>
    readWithin_eq_read _ (Nat.le_of_lt hs)

end WireValue
end ProcWire

import ProcWire.Proofs.Parts

/-! # Items of a fixed width

The fixed-width primitives carry signed integers of one, two, four and eight bytes and the bit
patterns of 64-bit floats.  An `Item` is any one of these and a `Width` is what the reader has to
know of it beforehand.  Items written one after another are their words laid end to end
(`writeAll_eq_raw`), and reading as many widths accepts these words and nothing else
(`accepts_readAll`).

So writing and reading undo each other in both orders (`readAll_writeAll`), whatever the items
are; every run of bytes of a width is the word of some item, so all that can go wrong for a reader
is that there are too few bytes.
-/
namespace ProcWire.FixedWidth
open Reader

/-- What a reader of one item is told. -/
inductive Width where
  | byte
  | short
  | int
  | long
  | float
  deriving DecidableEq, Repr

/-- The number of bytes of an item. -/
def Width.size : Width → Nat
  | byte => 1
  | short => 2
  | int => 4
  | long => 8
  | float => 8

/-- A signed integer, or the bit pattern of a float. -/
inductive Item where
  | byte (v : Int8)
  | short (v : Int16)
  | int (v : Int32)
  | long (v : Int64)
  | float (bits : UInt64)
  deriving DecidableEq, Repr

def Item.width : Item → Width
  | byte _ => .byte
  | short _ => .short
  | int _ => .int
  | long _ => .long
  | float _ => .float

/-- The word of an item, most significant byte first. -/
def Item.word : Item → Bytes
  | byte v => Bytes.ofByte v
  | short v => Bytes.ofShort v
  | int v => Bytes.ofInt v
  | long v => Bytes.ofLong v
  | float bits => Bytes.ofFloat bits

/-- Writes an item by the primitive of its width. -/
def Item.write : Item → Writer
  | byte v => Writer.byte v
  | short v => Writer.short v
  | int v => Writer.int v
  | long v => Writer.long v
  | float bits => Writer.float bits

/-- Reads an item by the primitive of its width. -/
def Width.read : Width → Reader Item
  | byte => do
    let v ← Reader.byte
    pure (.byte v)
  | short => do
    let v ← Reader.short
    pure (.short v)
  | int => do
    let v ← Reader.int
    pure (.int v)
  | long => do
    let v ← Reader.long
    pure (.long v)
  | float => do
    let bits ← Reader.float
    pure (.float bits)

/-- Writes items in order. -/
def writeAll : List Item → Writer
  | [] => pure ()
  | item :: after => do
    item.write
    writeAll after

/-- Reads one item for each width in order; the first failure ends it. -/
def readAll : List Width → Reader (List Item)
  | [] => pure []
  | width :: after => do
    let item ← width.read
    let items ← readAll after
    pure (item :: items)

variable {α : Type} {width : Width} {stream used : Bytes} {error : WireError}

/-! ## One item -/

theorem Item.write_eq_raw (item : Item) : item.write = Writer.raw item.word := by
  cases item <;> rfl

/-- A primitive that accepts the words of some items does so too when its result is made an
item. -/
theorem accepts_make {t : Reader α} {make : α → Item}
    (h : Accepts t fun v used => used = (make v).word)
    (items_of_width : ∀ item : Item, item.width = width ↔ ∃ v, item = make v) :
    Accepts (do let v ← t; pure (make v))
      fun item used => item.width = width ∧ used = item.word := by
  intro stream item rest
  constructor
  · intro hrun
    obtain ⟨v, used, tail, hused, rfl, hlast⟩ := h.of_bind hrun
    cases hlast
    exact ⟨used, ⟨(items_of_width _).mpr ⟨v, rfl⟩, hused⟩, rfl⟩
  · rintro ⟨used, ⟨hwidth, rfl⟩, rfl⟩
    obtain ⟨v, rfl⟩ := (items_of_width item).mp hwidth
    exact h.run_bind rfl rest

namespace Width

/-- A width is read off the words of its items, and off nothing else. -/
theorem accepts_read (width : Width) :
    Accepts width.read fun item used => item.width = width ∧ used = item.word := by
  cases width with
  | byte => exact accepts_make accepts_byte fun item => by cases item <;> simp [Item.width]
  | short => exact accepts_make accepts_short fun item => by cases item <;> simp [Item.width]
  | int => exact accepts_make accepts_int fun item => by cases item <;> simp [Item.width]
  | long => exact accepts_make accepts_long fun item => by cases item <;> simp [Item.width]
  | float => exact accepts_make accepts_float fun item => by cases item <;> simp [Item.width]

/-- Any run of bytes of a width is the word of an item. -/
theorem exists_word (width : Width) (h : used.length = width.size) :
    ∃ item : Item, item.width = width ∧ used = item.word := by
  cases width with
  | byte =>
    obtain ⟨v, rfl⟩ := Bytes.exists_ofByte used h
    exact ⟨.byte v, rfl, rfl⟩
  | short =>
    obtain ⟨v, rfl⟩ := Bytes.exists_ofShort used h
    exact ⟨.short v, rfl, rfl⟩
  | int =>
    obtain ⟨v, rfl⟩ := Bytes.exists_ofInt used h
    exact ⟨.int v, rfl, rfl⟩
  | long =>
    obtain ⟨v, rfl⟩ := Bytes.exists_ofLong used h
    exact ⟨.long v, rfl, rfl⟩
  | float =>
    obtain ⟨bits, rfl⟩ := Bytes.exists_ofFloat used h
    exact ⟨.float bits, rfl, rfl⟩

theorem run_read_short (width : Width) (h : stream.length < width.size) :
    width.read.run stream = (.error (.io .exhausted), []) := by
  cases width with
  | _ => exact Transfer.run_bind_error (run_word_short h) _

theorem exists_run_read (width : Width) (h : width.size ≤ stream.length) :
    ∃ item, width.read.run stream = (.ok item, stream.drop width.size) := by
  obtain ⟨item, hwidth, hword⟩ := width.exists_word (List.length_take_of_le h)
  have run := width.accepts_read.run ⟨hwidth, hword⟩ (stream.drop width.size)
  rw [List.take_append_drop] at run
  exact ⟨item, run⟩

/-- **All that can go wrong is that there are too few bytes.** -/
theorem run_read_eq_error_iff : (width.read.run stream).1 = .error error ↔
    error = .io .exhausted ∧ stream.length < width.size := by
  by_cases short : stream.length < width.size
  · rw [width.run_read_short short]
    simp [short, eq_comm]
  · obtain ⟨item, run⟩ := width.exists_run_read (Nat.le_of_not_lt short)
    rw [run]
    simp [short]

end Width

/-! ## Many items -/

/-- Items in order are one offer of their words. -/
theorem writeAll_eq_raw (items : List Item) :
    writeAll items = Writer.raw (items.flatMap Item.word) := by
  induction items with
  | nil => exact Writer.raw_nil.symm
  | cons item after ih =>
    rw [writeAll, item.write_eq_raw, ih, Writer.raw_bind_raw, List.flatMap_cons]

theorem bytes_writeAll (items : List Item) :
    (writeAll items).bytes = .ok (items.flatMap Item.word) := by
  rw [writeAll_eq_raw, Writer.bytes_raw]

/-- Widths in order are read off the words of their items, and off nothing else. -/
theorem accepts_readAll (widths : List Width) : Accepts (readAll widths)
    fun items used => items.map Item.width = widths ∧ used = items.flatMap Item.word := by
  induction widths with
  | nil =>
    intro stream items rest
    constructor
    · intro hrun
      cases hrun
      exact ⟨[], ⟨rfl, rfl⟩, rfl⟩
    · rintro ⟨used, ⟨hwidths, rfl⟩, rfl⟩
      obtain rfl := List.map_eq_nil_iff.mp hwidths
      rfl
  | cons width after ih =>
    intro stream items rest
    rw [readAll]
    constructor
    · intro hrun
      obtain ⟨item, _, tail, ⟨rfl, rfl⟩, rfl, hafter⟩ := width.accepts_read.of_bind hrun
      obtain ⟨items, _, tail, ⟨rfl, rfl⟩, rfl, hlast⟩ := ih.of_bind hafter
      cases hlast
      exact ⟨_, ⟨rfl, rfl⟩, by rw [List.flatMap_cons, List.append_assoc]⟩
    · rintro ⟨used, ⟨hwidths, rfl⟩, rfl⟩
      obtain ⟨item, items, rfl, rfl, rfl⟩ := List.map_eq_cons_iff.mp hwidths
      rw [List.flatMap_cons, List.append_assoc, item.width.accepts_read.run_bind ⟨rfl, rfl⟩,
        ih.run_bind ⟨rfl, rfl⟩]
      rfl

/-- **Writing and reading fixed widths undo each other.**  Items that are written are read back, and
what follows them is left; items that are read are written as the bytes that were taken; and a
width cannot be read exactly if there are fewer bytes than it has. -/
theorem readAll_writeAll :
    (∀ items : List Item, ∃ written, (writeAll items).bytes = .ok written ∧
      ∀ tail, (readAll (items.map Item.width)).run (written ++ tail) = (.ok items, tail)) ∧
    (∀ (widths : List Width) (stream rest : Bytes) (items : List Item),
      (readAll widths).run stream = (.ok items, rest) → items.map Item.width = widths ∧
        ∃ written, (writeAll items).bytes = .ok written ∧ stream = written ++ rest) ∧
    (∀ (width : Width) (stream : Bytes) (error : WireError),
      (width.read.run stream).1 = .error error ↔
        error = .io .exhausted ∧ stream.length < width.size) := by
  refine ⟨fun items => ⟨_, bytes_writeAll items, (accepts_readAll _).run ⟨rfl, rfl⟩⟩,
    fun widths stream rest items read => ?_, fun width stream error => Width.run_read_eq_error_iff⟩
  obtain ⟨written, ⟨widths_eq, rfl⟩, split⟩ := (accepts_readAll widths _ _ _).mp read
  exact ⟨widths_eq, _, bytes_writeAll items, split⟩

/-- A negative NaN with a payload between two negative integers goes back to its own bytes. -/
theorem readAll_writeAll_negative_nan :
    let stream : Bytes := [0xFF, 0xFE, 0xFF, 0xF8, 0, 0, 0, 0, 0, 1, 0x80, 7]
    let items : List Item := [.short (-2), .float 0xFFF8000000000001, .byte (-128)]
    (readAll [.short, .float, .byte]).run stream = (.ok items, [7]) ∧
      ∃ written, (writeAll items).bytes = .ok written ∧ stream = written ++ [7] := by
  intro stream items
  have read : (readAll [.short, .float, .byte]).run stream = (.ok items, [7]) := by decide
  exact ⟨read, (readAll_writeAll.2.1 _ _ _ _ read).2⟩

end ProcWire.FixedWidth

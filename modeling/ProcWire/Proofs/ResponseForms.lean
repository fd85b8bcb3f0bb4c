import Mathlib.Data.Nat.Bitwise
import ProcWire.Proofs.Forms
import ProcWire.Response.Call

/-! # The forms of a call response

`CallResponse.Form` and `Table.Form` write down the layout of a response: which
fields follow one another, which of them are there only if a flag is set, and which
counts must agree with what they count.  `CallResponse.accepts_read` says that the
reader accepts this layout and nothing else.

A table has no form of its own width: the eight bytes in front of it are free, a
string that is empty may be written as NULL, and everything else in it is fixed by
the table.
-/
namespace ProcWire

namespace Table

/-- The forms of a result table: two skipped lengths, the status, the column count, one tag
for each column, one name for each column, the row count, and the rows. -/
def Form (limits : Limits) (table : Table) (used : Bytes) : Prop :=
  ∃ (skipped names rows : Bytes) (columnCount : Int16) (rowCount : Int32),
    skipped.length = 8 ∧
    columnCount.toInt = table.columns.length ∧
    Sequence (StringForm limits.fieldLength) table.columnNames names ∧
    rowCount.toInt = table.rows.length ∧
    Sequence (Counted limits.fieldLength) table.rows rows ∧
    used = skipped ++ Bytes.ofByte table.statusCode ++ Bytes.ofShort columnCount ++
      table.columnTags.flatMap Bytes.ofByte ++ names ++ Bytes.ofInt rowCount ++ rows

theorem accepts_readPayload (n : Nat) :
    Reader.Accepts (readPayload n) fun row used => used = row ∧ row.length = n := by
  intro stream row rest
  show readPayload n stream = _ ↔ _
  unfold readPayload
  constructor
  · intro h
    dsimp only at h
    split at h
    · rename_i hlen
      cases h
      exact ⟨stream.take n, ⟨rfl, hlen⟩, (List.take_append_drop n stream).symm⟩
    · cases h
  · rintro ⟨used, ⟨rfl, rfl⟩, rfl⟩
    simp

theorem run_readPayload_short {n : Nat} {stream : Bytes} (h : stream.length < n) :
    (readPayload n).run stream = (.error (.framing n stream.length), []) := by
  show readPayload n stream = _
  rw [readPayload, List.take_of_length_le (Nat.le_of_lt h)]
  exact if_neg (Nat.ne_of_lt h)

/-- A row is its bytes behind their length. -/
theorem accepts_readRow (limits : Limits) :
    Reader.Accepts (readRow limits) (Counted limits.fieldLength) := by
  intro stream row rest
  rw [readRow]
  constructor
  · intro h
    obtain ⟨v, used, tail, rfl, rfl, hrow⟩ := Reader.accepts_int.of_bind h
    split at hrow
    · cases hrow
    · split at hrow
      · cases hrow
      · rename_i hneg hle
        obtain ⟨used, ⟨rfl, hlen⟩, rfl⟩ := (accepts_readPayload _ _ _ _).mp hrow
        refine ⟨Bytes.ofInt v ++ used, ⟨v, ?_, ?_, rfl⟩, by rw [List.append_assoc]⟩
        · rw [hlen]
          exact Reader.toInt_eq_of_not_neg hneg
        · rw [hlen]
          exact Nat.not_lt.mp hle
  · rintro ⟨used, ⟨v, hv, hle, rfl⟩, rfl⟩
    obtain ⟨hneg, hcount⟩ := Reader.of_toInt_eq hv
    rw [List.append_assoc, Reader.accepts_int.run_bind rfl, if_neg hneg, hcount,
      if_neg (Nat.not_lt.mpr hle)]
    exact (accepts_readPayload _).run ⟨rfl, rfl⟩ rest

theorem ofParts_columns (table : Table) :
    ofParts table.statusCode table.columnTags table.columnNames table.rows = .ok table := by
  have columns : List.zipWith Column.mk table.columnTags table.columnNames = table.columns := by
    rw [columnTags, columnNames, List.zipWith_map, List.zipWith_self]
    exact List.map_id _
  rw [ofParts, if_pos (by simp [columnTags, columnNames]), columns]

/-- **The table reader accepts the forms of tables.** -/
theorem accepts_read (limits : Limits) : Reader.Accepts (read limits) (Form limits) := by
  intro stream table rest
  rw [read]
  constructor
  · intro h
    obtain ⟨total, _, tail, rfl, rfl, h₁⟩ := Reader.accepts_int.of_bind h
    obtain ⟨metadata, _, tail, rfl, rfl, h₂⟩ := Reader.accepts_int.of_bind h₁
    obtain ⟨statusCode, _, tail, rfl, rfl, h₃⟩ := Reader.accepts_byte.of_bind h₂
    obtain ⟨columnCount, _, tail, rfl, rfl, h₄⟩ := Reader.accepts_short.of_bind h₃
    split at h₄
    · cases h₄
    rename_i hcolumns
    obtain ⟨types, tags, tail, ⟨htypes, htags⟩, rfl, h₅⟩ :=
      (Reader.accepts_times Reader.accepts_byte _).of_bind h₄
    obtain ⟨texts, names, tail, ⟨htexts, hnames⟩, rfl, h₆⟩ :=
      (Reader.accepts_times (Reader.accepts_string _) _).of_bind h₅
    obtain ⟨rowCount, _, tail, rfl, rfl, h₇⟩ := Reader.accepts_int.of_bind h₆
    split at h₇
    · cases h₇
    rename_i hrowCount
    obtain ⟨list, rows, tail, ⟨hlist, hrows⟩, rfl, h₈⟩ :=
      (Reader.accepts_times (accepts_readRow limits) _).of_bind h₇
    rw [Transfer.run_lift] at h₈
    injection h₈ with htable hrest
    obtain ⟨rfl, rfl, rfl, rfl⟩ := columnTags_of_ofParts htable
    subst hrest
    refine ⟨_, ⟨Bytes.ofInt total ++ Bytes.ofInt metadata, names, rows, columnCount, rowCount,
      by simp, ?_, hnames, ?_, hrows, rfl⟩, ?_⟩
    · rw [Reader.toInt_eq_of_not_neg_short hcolumns, ← htypes, columnTags, List.length_map]
    · rw [Reader.toInt_eq_of_not_neg hrowCount, hlist]
    · rw [(sequence_eq_iff Bytes.ofByte).mp htags]
      simp only [List.append_assoc]
  · rintro ⟨used, ⟨skipped, names, rows, columnCount, rowCount, hskipped, hcolumns, hnames,
      hrowCount, hrows, hused⟩, rfl⟩
    -- any eight bytes will do in front, since they are two integers
    obtain ⟨total, htotal⟩ := Bytes.exists_ofInt (skipped.take 4) (by simp [hskipped])
    obtain ⟨metadata, hmetadata⟩ := Bytes.exists_ofInt (skipped.drop 4) (by simp [hskipped])
    obtain ⟨hc, hcount⟩ := Reader.of_toInt_eq_short hcolumns
    obtain ⟨hr, hrowcount⟩ := Reader.of_toInt_eq hrowCount
    rw [hused, ← List.take_append_drop 4 skipped, htotal, hmetadata]
    simp only [List.append_assoc]
    rw [Reader.accepts_int.run_bind rfl, Reader.accepts_int.run_bind rfl,
      Reader.accepts_byte.run_bind rfl, Reader.accepts_short.run_bind rfl, if_neg hc, hcount,
      (Reader.accepts_times Reader.accepts_byte _).run_bind
        ⟨by simp [columnTags], (sequence_eq_iff Bytes.ofByte).mpr rfl⟩,
      (Reader.accepts_times (Reader.accepts_string _) _).run_bind
        ⟨by simp [columnNames], hnames⟩,
      Reader.accepts_int.run_bind rfl, if_neg hr, hrowcount,
      (Reader.accepts_times (accepts_readRow limits) _).run_bind ⟨rfl, hrows⟩, ofParts_columns]
    rfl

end Table

namespace CallResponse

/-- The forms of a text that is there exactly if its flag is set. -/
def TextForm (limits : Limits) (flagged : Bool) (text : Option String) (used : Bytes) : Prop :=
  (flagged = true ∧ ∃ s, text = some s ∧ StringForm limits.fieldLength s used) ∨
    (flagged = false ∧ text = none ∧ used = [])

/-- The forms of a call response.  Bit 5 of the flags announces the status text, bit 7 the text
of the procedure's own status. -/
def Form (limits : Limits) (response : CallResponse) (used : Bytes) : Prop :=
  ∃ (statusText appStatusText tables : Bytes) (count : Int16),
    TextForm limits (response.fieldsPresent.toNat.testBit 5) response.statusText statusText ∧
    TextForm limits (response.fieldsPresent.toNat.testBit 7) response.appStatusText
      appStatusText ∧
    count.toInt = response.tables.length ∧
    Sequence (Table.Form limits) response.tables tables ∧
    used = Bytes.ofLong response.handle ++ [response.fieldsPresent] ++
      Bytes.ofByte response.statusCode ++ statusText ++ Bytes.ofByte response.appStatusCode ++
      appStatusText ++ Bytes.ofInt response.roundTripTime ++ Bytes.ofShort count ++ tables

/-- A flag of a single bit is set if that bit is. -/
theorem and_flag_ne_zero_iff (fields : UInt8) {flag : UInt8} {bit : Nat}
    (h : flag.toNat = 2 ^ bit) : fields &&& flag ≠ 0 ↔ fields.toNat.testBit bit = true := by
  rw [Ne, ← UInt8.toNat_inj, UInt8.toNat_and, h, Nat.and_two_pow]
  cases fields.toNat.testBit bit <;> simp

theorem accepts_readText {fields flag : UInt8} {bit : Nat} (h : flag.toNat = 2 ^ bit)
    (limits : Limits) :
    Reader.Accepts (readText fields flag limits) (TextForm limits (fields.toNat.testBit bit)) := by
  have hflag := and_flag_ne_zero_iff fields h
  intro stream text rest
  rw [readText]
  constructor
  · intro hrun
    split at hrun
    · rename_i hset
      obtain ⟨s, used, tail, hs, rfl, hlast⟩ := (Reader.accepts_string _).of_bind hrun
      cases hlast
      exact ⟨used, Or.inl ⟨hflag.mp hset, s, rfl, hs⟩, rfl⟩
    · rename_i hunset
      cases hrun
      exact ⟨[], Or.inr ⟨Bool.eq_false_iff.mpr (hunset ∘ hflag.mpr), rfl, rfl⟩, rfl⟩
  · rintro ⟨used, ⟨hset, s, rfl, hs⟩ | ⟨hunset, rfl, rfl⟩, rfl⟩
    · rw [if_pos (hflag.mpr hset), (Reader.accepts_string _).run_bind hs]
      rfl
    · rw [if_neg (fun hset => Bool.eq_false_iff.mp hunset (hflag.mp hset))]
      rfl

theorem accepts_read (limits : Limits) : Reader.Accepts (read limits) (Form limits) := by
  have statusFlag : statusTextFlag.toNat = 2 ^ 5 := rfl
  have appStatusFlag : appStatusTextFlag.toNat = 2 ^ 7 := rfl
  intro stream response rest
  rw [read]
  constructor
  · intro h
    obtain ⟨handle, _, tail, rfl, rfl, h₁⟩ := Reader.accepts_long.of_bind h
    obtain ⟨fields, _, tail, rfl, rfl, h₂⟩ := Reader.accepts_byte.of_bind h₁
    obtain ⟨statusCode, _, tail, rfl, rfl, h₃⟩ := Reader.accepts_byte.of_bind h₂
    obtain ⟨statusText, status, tail, hstatus, rfl, h₄⟩ :=
      (accepts_readText statusFlag limits).of_bind h₃
    obtain ⟨appStatusCode, _, tail, rfl, rfl, h₅⟩ := Reader.accepts_byte.of_bind h₄
    obtain ⟨appStatusText, appStatus, tail, happStatus, rfl, h₆⟩ :=
      (accepts_readText appStatusFlag limits).of_bind h₅
    obtain ⟨roundTripTime, _, tail, rfl, rfl, h₇⟩ := Reader.accepts_int.of_bind h₆
    obtain ⟨count, _, tail, rfl, rfl, h₈⟩ := Reader.accepts_short.of_bind h₇
    split at h₈
    · cases h₈
    rename_i hcount
    obtain ⟨list, tables, tail, ⟨hlist, htables⟩, rfl, h₉⟩ :=
      (Reader.accepts_times (Table.accepts_read limits) _).of_bind h₈
    cases h₉
    refine ⟨_, ⟨status, appStatus, tables, count, hstatus, happStatus, ?_, htables, rfl⟩, ?_⟩
    · rw [Reader.toInt_eq_of_not_neg_short hcount, hlist]
    · rw [Bytes.ofByte_eq fields]
      simp only [List.append_assoc]
  · rintro ⟨used, ⟨status, appStatus, tables, count, hstatus, happStatus, hcount, htables, hused⟩,
      rfl⟩
    obtain ⟨hneg, hlength⟩ := Reader.of_toInt_eq_short hcount
    -- the flags are read as a signed byte
    have fields : [response.fieldsPresent] = Bytes.ofByte response.fieldsPresent.toInt8 := by
      rw [Bytes.ofByte_eq, UInt8.toUInt8_toInt8]
    rw [hused, fields]
    simp only [List.append_assoc]
    rw [Reader.accepts_long.run_bind rfl, Reader.accepts_byte.run_bind rfl,
      Reader.accepts_byte.run_bind rfl, UInt8.toUInt8_toInt8,
      (accepts_readText statusFlag limits).run_bind hstatus, Reader.accepts_byte.run_bind rfl,
      (accepts_readText appStatusFlag limits).run_bind happStatus,
      Reader.accepts_int.run_bind rfl, Reader.accepts_short.run_bind rfl, if_neg hneg, hlength,
      (Reader.accepts_times (Table.accepts_read limits) _).run_bind ⟨rfl, htables⟩]
    rfl

/-- **A call response is read exactly from its forms**: the reader ends with the response on `n`
bytes if and only if these are a form of it, and whatever follows a form is left unread. -/
theorem takes_iff_form (limits : Limits) (response : CallResponse) :
    (∀ stream n, Reader.Takes (read limits) stream (.ok response) n ↔
      n ≤ stream.length ∧ Form limits response (stream.take n)) ∧
    ∀ used rest, Form limits response used →
      (read limits).run (used ++ rest) = (.ok response, rest) :=
  ⟨fun _ _ => (accepts_read limits).takes_iff, fun _ rest h => (accepts_read limits).run h rest⟩

/-- A response with both texts, the second written as NULL, and a table of one column and two
rows, of which one is empty. -/
theorem read_form_with_null_text :
    let response : CallResponse := ⟨9, 0xE1, -2, some "é", -128, some "", 3,
      [⟨0, [⟨42, "c"⟩], [[1, 2], []]⟩]⟩
    let used : Bytes := [0, 0, 0, 0, 0, 0, 0, 9, 0xE1, 0xFE, 0, 0, 0, 2, 0xC3, 0xA9, 0x80,
      0xFF, 0xFF, 0xFF, 0xFF, 0, 0, 0, 3, 0, 1,
      1, 2, 3, 4, 5, 6, 7, 8, 0, 0, 1, 42, 0, 0, 0, 1, 0x63, 0, 0, 0, 2,
      0, 0, 0, 2, 1, 2, 0, 0, 0, 0]
    Form {} response used ∧ (read {}).run (used ++ [7]) = (.ok response, [7]) := by
  intro response used
  have name : StringForm ({} : Limits).fieldLength "c" [0, 0, 0, 1, 0x63] :=
    Or.inl ⟨1, by decide, by decide, by decide⟩
  have first : Counted ({} : Limits).fieldLength [1, 2] [0, 0, 0, 2, 1, 2] :=
    ⟨2, by decide, by decide, by decide⟩
  have second : Counted ({} : Limits).fieldLength [] [0, 0, 0, 0] :=
    ⟨0, by decide, by decide, by decide⟩
  have table : Table.Form {} ⟨0, [⟨42, "c"⟩], [[1, 2], []]⟩ (used.drop 27) :=
    ⟨[1, 2, 3, 4, 5, 6, 7, 8], _, _, 1, 2, rfl, by decide, .cons name .nil, by decide,
      .cons first (.cons second .nil), by decide⟩
  have form : Form {} response used :=
    ⟨[0, 0, 0, 2, 0xC3, 0xA9], [0xFF, 0xFF, 0xFF, 0xFF], _, 1,
      Or.inl ⟨by decide, "é", rfl, Or.inl ⟨2, by decide, by decide, by decide⟩⟩,
      Or.inl ⟨by decide, "", rfl, Or.inr ⟨rfl, by decide⟩⟩, by decide, .cons table .nil, by decide⟩
  exact ⟨form, (takes_iff_form {} response).2 used [7] form⟩

end CallResponse
end ProcWire

import ProcWire.Proofs.LoginForms
import ProcWire.Proofs.Parts

/-! # The layouts of messages

`LoginResponse.Layout`, `CallResponse.Layout` and `Table.Layout` say which parts of a
message follow one another.  The limits have no place in them: a layout is what the
server meant to say, and how a decoder with its limits fares on it, on the whole of it
or on its beginning, is what `Reader.LaidOut` tells.
-/
namespace ProcWire

/-- A string is a text, or if it is empty perhaps a NULL marker. -/
def TextLayout (s : String) (parts : List WirePart) : Prop :=
  (∃ fits, parts = [.text s fits]) ∨ s = "" ∧ parts = [.word (Bytes.ofInt (-1))]

/-- A text that is there exactly if its flag is set. -/
def FlaggedLayout (flagged : Bool) (text : Option String) (parts : List WirePart) : Prop :=
  (flagged = true ∧ ∃ s, text = some s ∧ TextLayout s parts) ∨
    (flagged = false ∧ text = none ∧ parts = [])

def RowLayout (row : Bytes) (parts : List WirePart) : Prop := ∃ fits, parts = [.row row fits]

/-- The parts of a table: its two lengths, its status, the column count, the tags and the names
of the columns, the row count and the rows. -/
def Table.Layout (table : Table) (parts : List WirePart) : Prop :=
  ∃ (total metadata : Int32) (columnCount : Int16) (rowCount : Int32)
    (names rows : List (List WirePart)),
    columnCount.toInt = table.columns.length ∧
    List.Forall₂ TextLayout table.columnNames names ∧
    rowCount.toInt = table.rows.length ∧
    List.Forall₂ RowLayout table.rows rows ∧
    parts = [.word (Bytes.ofInt total), .word (Bytes.ofInt metadata),
        .word (Bytes.ofByte table.statusCode), .word (Bytes.ofShort columnCount)] ++
      (table.columnTags.map fun tag => .word (Bytes.ofByte tag)) ++ names.flatten ++
      [.word (Bytes.ofInt rowCount)] ++ rows.flatten

/-- The parts of a call response. -/
def CallResponse.Layout (response : CallResponse) (parts : List WirePart) : Prop :=
  ∃ (statusText appStatusText : List WirePart) (count : Int16) (tables : List (List WirePart)),
    FlaggedLayout (response.fieldsPresent.toNat.testBit 5) response.statusText statusText ∧
    FlaggedLayout (response.fieldsPresent.toNat.testBit 7) response.appStatusText
      appStatusText ∧
    count.toInt = response.tables.length ∧
    List.Forall₂ Table.Layout response.tables tables ∧
    parts = [.word (Bytes.ofLong response.handle), .word [response.fieldsPresent],
        .word (Bytes.ofByte response.statusCode)] ++ statusText ++
      [.word (Bytes.ofByte response.appStatusCode)] ++ appStatusText ++
      [.word (Bytes.ofInt response.roundTripTime), .word (Bytes.ofShort count)] ++ tables.flatten

/-- The parts of a login response.  Its fourth word, the time at which the cluster started, is
free. -/
def LoginResponse.Layout (response : LoginResponse) (parts : List WirePart) : Prop :=
  ∃ (clusterStart : Int64) (build : List WirePart),
    TextLayout response.build build ∧
    parts = [.word (Bytes.ofByte 0), .word (Bytes.ofInt response.hostId),
      .word (Bytes.ofLong response.connectionId), .word (Bytes.ofLong clusterStart),
      .word (Bytes.ofInt response.leaderAddress)] ++ build

section Follows
open Reader
variable {limits : Limits} {parts : List WirePart}

theorem TextLayout.follows {max : Nat} {s : String} (h : TextLayout s parts) :
    Follows max (string max) parts s := by
  rcases h with ⟨fits, rfl⟩ | ⟨rfl, rfl⟩
  · exact follows_text s fits
  · exact follows_null_text

theorem FlaggedLayout.follows {fields flag : UInt8} {bit : Nat} {text : Option String}
    (hflag : flag.toNat = 2 ^ bit) (h : FlaggedLayout (fields.toNat.testBit bit) text parts) :
    Follows limits.fieldLength (CallResponse.readText fields flag limits) parts text := by
  have set_iff := CallResponse.and_flag_ne_zero_iff fields hflag
  rw [CallResponse.readText]
  rcases h with ⟨hset, s, rfl, hs⟩ | ⟨hunset, rfl, rfl⟩
  · rw [if_pos (set_iff.mpr hset)]
    exact hs.follows.bind_pure rfl
  · rw [if_neg (fun hset => Bool.eq_false_iff.mp hunset (set_iff.mp hset))]
    exact follows_pure none

theorem RowLayout.follows {row : Bytes} (h : RowLayout row parts) :
    Follows limits.fieldLength (Table.readRow limits) parts row := by
  obtain ⟨fits, rfl⟩ := h
  exact follows_row limits row fits

theorem Table.Layout.follows {table : Table} (h : table.Layout parts) :
    Follows limits.fieldLength (Table.read limits) parts table := by
  obtain ⟨total, metadata, columnCount, rowCount, names, rows, hcolumns, hnames, hrowCount, hrows,
    rfl⟩ := h
  obtain ⟨hc, hcount⟩ := of_toInt_eq_short hcolumns
  obtain ⟨hr, hrowcount⟩ := of_toInt_eq hrowCount
  have tags : Follows limits.fieldLength (Transfer.times table.columns.length byte)
      (table.columnTags.map fun tag => .word (Bytes.ofByte tag)) table.columnTags := by
    rw [List.map_eq_flatMap, show table.columns.length = table.columnTags.length by
      simp [columnTags]]
    refine follows_times (List.forall₂_map_right_iff.mpr (List.forall₂_same.mpr ?_))
    exact fun tag _ => follows_byte tag
  have texts : Follows limits.fieldLength
      (Transfer.times table.columns.length (string limits.fieldLength)) names.flatten
      table.columnNames := by
    rw [show table.columns.length = table.columnNames.length by simp [columnNames]]
    exact follows_times (hnames.imp fun _ _ => TextLayout.follows)
  have payloads : Follows limits.fieldLength
      (Transfer.times table.rows.length (readRow limits)) rows.flatten table.rows :=
    follows_times (hrows.imp fun _ _ => RowLayout.follows)
  simp only [List.append_assoc]
  rw [read]
  refine (follows_int total).bind ((follows_int metadata).bind
    ((follows_byte table.statusCode).bind ((follows_short columnCount).bind ?_)))
  rw [if_neg hc, hcount]
  refine tags.bind (texts.bind ((follows_int rowCount).bind ?_))
  rw [if_neg hr, hrowcount]
  refine payloads.bind_pure ?_
  rw [ofParts_columns]
  rfl

theorem CallResponse.Layout.follows {response : CallResponse} (h : response.Layout parts) :
    Follows limits.fieldLength (CallResponse.read limits) parts response := by
  obtain ⟨statusText, appStatusText, count, tables, hstatus, happStatus, hcount, htables, rfl⟩ := h
  obtain ⟨hneg, hlength⟩ := of_toInt_eq_short hcount
  have body : Follows limits.fieldLength
      (Transfer.times response.tables.length (Table.read limits)) tables.flatten response.tables :=
    follows_times (htables.imp fun _ _ => Table.Layout.follows)
  -- the flags are read as a signed byte
  have fields : [response.fieldsPresent] = Bytes.ofByte response.fieldsPresent.toInt8 := by
    rw [Bytes.ofByte_eq, UInt8.toUInt8_toInt8]
  rw [fields]
  simp only [List.append_assoc]
  rw [read]
  refine (follows_long response.handle).bind ((follows_byte response.fieldsPresent.toInt8).bind
    ((follows_byte response.statusCode).bind ?_))
  rw [UInt8.toUInt8_toInt8]
  refine (FlaggedLayout.follows rfl hstatus).bind ((follows_byte response.appStatusCode).bind
    ((FlaggedLayout.follows rfl happStatus).bind ((follows_int response.roundTripTime).bind
    ((follows_short count).bind ?_))))
  rw [if_neg hneg, hlength]
  exact body.bind_pure rfl

theorem LoginResponse.Layout.follows {response : LoginResponse} (h : response.Layout parts) :
    Follows limits.fieldLength (LoginResponse.read limits) parts response := by
  obtain ⟨clusterStart, build, hbuild, rfl⟩ := h
  rw [read]
  refine (follows_byte 0).bind ?_
  rw [if_neg (fun h => h rfl)]
  exact (follows_int response.hostId).bind ((follows_long response.connectionId).bind
    ((follows_long clusterStart).bind ((follows_int response.leaderAddress).bind
    (hbuild.follows.bind_pure rfl))))

end Follows

/-! ## Every message read has a layout -/

section Laid
open WirePart
variable {max : Nat} {limits : Limits} {used : Bytes}

theorem exists_textLayout {s : String} (h : StringForm max s used) :
    ∃ parts, TextLayout s parts ∧ Within max parts ∧ allBytes parts = used := by
  rcases h with ⟨length, hlength, hle, rfl⟩ | ⟨rfl, rfl⟩
  · refine ⟨[.text s (Writer.le_maxCount_of_toInt hlength)], Or.inl ⟨_, rfl⟩,
      (within_singleton rfl).mpr hle, ?_⟩
    exact (List.append_nil _).trans (Bytes.counted_of_toInt hlength)
  · exact ⟨_, Or.inr ⟨rfl, rfl⟩, within_word_cons.mpr (within_nil _), List.append_nil _⟩

theorem exists_flaggedLayout {flagged : Bool} {text : Option String}
    (h : CallResponse.TextForm limits flagged text used) :
    ∃ parts, FlaggedLayout flagged text parts ∧ Within limits.fieldLength parts ∧
      allBytes parts = used := by
  rcases h with ⟨hset, s, rfl, hs⟩ | ⟨hunset, rfl, rfl⟩
  · obtain ⟨parts, layout, within, bytes⟩ := exists_textLayout hs
    exact ⟨parts, Or.inl ⟨hset, s, rfl, layout⟩, within, bytes⟩
  · exact ⟨[], Or.inr ⟨hunset, rfl, rfl⟩, within_nil _, rfl⟩

theorem exists_rowLayout {row : Bytes} (h : Counted max row used) :
    ∃ parts, RowLayout row parts ∧ Within max parts ∧ allBytes parts = used := by
  obtain ⟨length, hlength, hle, rfl⟩ := h
  refine ⟨[.row row (Writer.le_maxCount_of_toInt hlength)], ⟨_, rfl⟩,
    (within_singleton rfl).mpr hle, ?_⟩
  exact (List.append_nil _).trans (Bytes.counted_of_toInt hlength)

theorem exists_groups {α : Type} {form : α → Bytes → Prop} {layout : α → List WirePart → Prop}
    {list : List α} (h : Sequence form list used)
    (each : ∀ {a used}, form a used →
      ∃ parts, layout a parts ∧ Within max parts ∧ allBytes parts = used) :
    ∃ groups, List.Forall₂ layout list groups ∧ Within max groups.flatten ∧
      allBytes groups.flatten = used := by
  induction h with
  | nil => exact ⟨[], .nil, within_nil _, rfl⟩
  | cons head _ ih =>
    obtain ⟨parts, layout, here, hparts⟩ := each head
    obtain ⟨groups, layouts, there, hgroups⟩ := ih
    refine ⟨parts :: groups, .cons layout layouts, within_append.mpr ⟨here, there⟩, ?_⟩
    rw [List.flatten_cons, allBytes_append, hparts, hgroups]

theorem Table.exists_layout {table : Table} (h : Table.Form limits table used) :
    ∃ parts, table.Layout parts ∧ Within limits.fieldLength parts ∧ allBytes parts = used := by
  obtain ⟨skipped, names, rows, columnCount, rowCount, hskipped, hcolumns, hnames, hrowCount, hrows,
    hused⟩ := h
  -- the eight bytes in front are two words, whatever they are
  obtain ⟨total, htotal⟩ := Bytes.exists_ofInt (skipped.take 4) (by simp [hskipped])
  obtain ⟨metadata, hmetadata⟩ := Bytes.exists_ofInt (skipped.drop 4) (by simp [hskipped])
  obtain ⟨nameParts, nameLayouts, namesWithin, rfl⟩ := exists_groups hnames exists_textLayout
  obtain ⟨rowParts, rowLayouts, rowsWithin, rfl⟩ := exists_groups hrows exists_rowLayout
  refine ⟨_, ⟨total, metadata, columnCount, rowCount, nameParts, rowParts, hcolumns, nameLayouts,
    hrowCount, rowLayouts, rfl⟩, ?_, ?_⟩
  · simp only [within_append, within_word_cons, within_nil, within_words, namesWithin, rowsWithin,
      and_self]
  · rw [hused, ← List.take_append_drop 4 skipped, htotal, hmetadata]
    simp only [allBytes_append, allBytes_cons, allBytes_nil, allBytes_words, bytes,
      List.append_assoc, List.append_nil]

theorem CallResponse.exists_layout {response : CallResponse}
    (h : CallResponse.Form limits response used) :
    ∃ parts, response.Layout parts ∧ Within limits.fieldLength parts ∧ allBytes parts = used := by
  obtain ⟨status, appStatus, tables, count, hstatus, happStatus, hcount, htables, hused⟩ := h
  obtain ⟨statusParts, statusLayout, statusWithin, rfl⟩ := exists_flaggedLayout hstatus
  obtain ⟨appStatusParts, appStatusLayout, appStatusWithin, rfl⟩ := exists_flaggedLayout happStatus
  obtain ⟨tableParts, tableLayouts, tablesWithin, rfl⟩ :=
    exists_groups htables Table.exists_layout
  refine ⟨_, ⟨statusParts, appStatusParts, count, tableParts, statusLayout, appStatusLayout, hcount,
    tableLayouts, rfl⟩, ?_, ?_⟩
  · simp only [within_append, within_word_cons, within_nil, statusWithin, appStatusWithin,
      tablesWithin, and_self]
  · rw [hused]
    simp only [allBytes_append, allBytes_cons, allBytes_nil, bytes, List.append_assoc,
      List.append_nil]

theorem LoginResponse.exists_layout {response : LoginResponse}
    (h : LoginResponse.Form limits response used) :
    ∃ parts, response.Layout parts ∧ Within limits.fieldLength parts ∧ allBytes parts = used := by
  obtain ⟨skipped, build, hskipped, hbuild, hused⟩ := h
  obtain ⟨clusterStart, rfl⟩ := Bytes.exists_ofLong skipped hskipped
  obtain ⟨text, layout, within, rfl⟩ := exists_textLayout hbuild
  refine ⟨_, ⟨clusterStart, text, layout, rfl⟩, ?_, ?_⟩
  · simp only [within_append, within_word_cons, within_nil, within, and_self]
  · rw [hused, show [0] = Bytes.ofByte 0 from rfl]
    simp only [allBytes_append, allBytes_cons, allBytes_nil, bytes, List.append_assoc,
      List.append_nil]

end Laid

/-! ## The decoders -/

namespace Reader
open WirePart

/-- What the reader reads has a layout, and the parts of a layout decide how the reader ends. -/
structure LaidOut {α : Type} (max : Nat) (t : Reader α) (layout : α → List WirePart → Prop) :
    Prop where
  follows : ∀ {a parts}, layout a parts → Follows max t parts a
  laid : ∀ {stream rest a}, t.run stream = (.ok a, rest) →
    ∃ parts, layout a parts ∧ Within max parts ∧ stream = allBytes parts ++ rest

theorem LaidOut.of_takes {α : Type} {max n : Nat} {t : Reader α} {layout : α → List WirePart → Prop}
    (h : LaidOut max t layout) {stream : Bytes} {a : α} (takes : Takes t stream (.ok a) n) :
    ∃ parts, layout a parts ∧ Within max parts ∧ allBytes parts = stream.take n := by
  obtain ⟨hn, hrun⟩ := takes
  obtain ⟨parts, layout, within, hstream⟩ := h.laid hrun
  have same : allBytes parts ++ stream.drop n = stream.take n ++ stream.drop n := by
    rw [List.take_append_drop, ← hstream]
  exact ⟨parts, layout, within, List.append_cancel_right same⟩

/-- A form in parts is a layout. -/
theorem LaidOut.of_accepts {α : Type} {max : Nat} {t : Reader α} {form : α → Bytes → Prop}
    {layout : α → List WirePart → Prop} (accepts : Accepts t form)
    (exists_layout : ∀ {a used}, form a used →
      ∃ parts, layout a parts ∧ Within max parts ∧ allBytes parts = used)
    (follows : ∀ {a parts}, layout a parts → Follows max t parts a) : LaidOut max t layout where
  follows := follows
  laid hrun := by
    obtain ⟨used, hform, rfl⟩ := (accepts _ _ _).mp hrun
    obtain ⟨parts, layout, within, rfl⟩ := exists_layout hform
    exact ⟨parts, layout, within, rfl⟩

end Reader

section Decoders
open Reader WirePart
variable (limits : Limits)

theorem Table.laidOut_read : LaidOut limits.fieldLength (Table.read limits) Table.Layout :=
  .of_accepts (accepts_read limits) exists_layout Table.Layout.follows

theorem CallResponse.laidOut_read :
    LaidOut limits.fieldLength (CallResponse.read limits) CallResponse.Layout :=
  .of_accepts (accepts_read limits) exists_layout CallResponse.Layout.follows

theorem LoginResponse.laidOut_read :
    LaidOut limits.fieldLength (LoginResponse.read limits) LoginResponse.Layout :=
  .of_accepts (accepts_read limits) exists_layout LoginResponse.Layout.follows

end Decoders
end ProcWire

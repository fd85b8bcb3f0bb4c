import ProcWire.Proofs.Layouts
import ProcWire.Proofs.StreamLocality

/-! # Fields that are read and discarded

Some of what a server sends is read and thrown away: the two lengths in front of every
table, the time at which the cluster started, and all bits of a response's flags but two.
Here it is shown that these bytes influence nothing: two streams that differ in them only
end in the same way, whether that is a response or an error, and after as many bytes.

For bytes the notion is `Reader.Skips`.  A reader skips a field behind a front if it cannot
tell two streams with that front apart by what they hold in the field; what follows the field
is arbitrary, so every error that may come later is covered.  Skipping goes through a
sequence of readers: the front of the whole is the front of the second reader behind parts
that the first one follows (`Reader.Follows.skips_bind`), within the limit or not.

A call response is read in two steps for this, a `CallResponse.Head` and then its tables.
-/
namespace ProcWire

namespace Transfer
variable {σ α β : Type}

theorem run_map (f : α → β) (t : Transfer σ α) (stream : σ) :
    (f <$> t).run stream = ((t.run stream).1.map f, (t.run stream).2) := by
  rw [map_eq_pure_bind, run_bind]
  rcases t.run stream with ⟨_ | _, _⟩ <;> rfl

/-- Running a transfer `m + n` times is running it `m` times and then `n` times. -/
theorem times_add (m n : Nat) (t : Transfer σ α) :
    times (m + n) t = (do
      let before ← times m t
      let after ← times n t
      pure (before ++ after)) := by
  induction m with
  | zero => simp
  | succ m ih =>
    rw [Nat.succ_add, times_succ, times_succ, ih]
    simp only [bind_assoc, pure_bind, List.cons_append]

end Transfer

namespace Reader
variable {α β : Type}

/-- The reader ends alike on both streams, and takes as many bytes of the one as of the other. -/
def EndsAlike (t : Reader α) (stream other : Bytes) : Prop :=
  ∃ outcome n, Takes t stream outcome n ∧ Takes t other outcome n

/-- The reader cannot tell what stands in the `width` bytes behind `front`. -/
def Skips (t : Reader α) (front : Bytes) (width : Nat) : Prop :=
  ∀ x y rest : Bytes, x.length = width → y.length = width →
    EndsAlike t (front ++ x ++ rest) (front ++ y ++ rest)

/-- What a local reader has taken is what it has not left. -/
theorem Local.takes_of_run {t : Reader α} (ht : Local t) {stream rest : Bytes}
    {outcome : Except WireError α} (hrun : t.run stream = (outcome, rest)) :
    Takes t stream outcome (stream.length - rest.length) := by
  obtain ⟨n, ⟨hn, hdrop⟩, -⟩ := ht.streamLocal stream
  obtain ⟨rfl, rfl⟩ := Prod.mk.inj (hrun.symm.trans hdrop)
  have hlen : stream.length - (stream.drop n).length = n := by
    rw [List.length_drop]
    omega
  rw [hlen]
  exact ⟨hn, hdrop⟩

theorem Local.endsAlike {t : Reader α} (ht : Local t) {stream other rest left : Bytes}
    {outcome : Except WireError α} (hrun : t.run stream = (outcome, rest))
    (hother : t.run other = (outcome, left)) (hlen : stream.length = other.length)
    (hrest : rest.length = left.length) : EndsAlike t stream other := by
  refine ⟨outcome, stream.length - rest.length, ht.takes_of_run hrun, ?_⟩
  rw [hlen, hrest]
  exact ht.takes_of_run hother

/-- A field in front is skipped if the reader goes on alike behind all that may stand in it. -/
theorem Local.skips {t : Reader α} (ht : Local t) {width : Nat}
    (h : ∀ x y rest : Bytes, x.length = width → y.length = width →
      t.run (x ++ rest) = t.run (y ++ rest)) : Skips t [] width := by
  intro x y rest hx hy
  refine ht.endsAlike rfl ?_ (by simp [hx, hy]) rfl
  exact (h x y rest hx hy).symm

/-- A reader that stops in front of the field does not see it. -/
theorem skips_fail (e : WireError) (front : Bytes) (width : Nat) :
    Skips (Transfer.fail e : Reader α) front width :=
  fun _ _ _ _ _ => ⟨.error e, 0, ⟨Nat.zero_le _, rfl⟩, ⟨Nat.zero_le _, rfl⟩⟩

/-- **A field is skipped behind parts that the first reader follows.** -/
theorem Follows.skips_bind {max width : Nat} {t : Reader α} {next : α → Reader β}
    {parts : List WirePart} {a : α} {front : Bytes} (first : Follows max t parts a)
    (ht : Local t) (second : Skips (next a) front width) :
    Skips (t >>= next) (WirePart.allBytes parts ++ front) width := by
  intro x y rest hx hy
  simp only [List.append_assoc]
  by_cases within : WirePart.Within max parts
  · have taken := fun tail => ht.takes_of_run (first.accepts within tail)
    simp only [List.length_append, Nat.add_sub_cancel] at taken
    obtain ⟨outcome, n, ends, ends'⟩ := second x y rest hx hy
    simp only [List.append_assoc] at ends ends'
    refine ⟨outcome, (WirePart.allBytes parts).length + n, (taken _).bind_ok ?_,
      (taken _).bind_ok ?_⟩
    · rwa [List.drop_left]
    · rwa [List.drop_left]
  -- the first reader stops at a part that is too long, with all of the field still to come
  · obtain ⟨before, after, field, payload, beyond⟩ := WirePart.exists_firstBeyond within
    have stops := fun tail => first.refuses before after field payload beyond tail
    have taken := fun tail => ht.takes_of_run (stops tail)
    refine ⟨_, _, (taken _).bind_error next, ?_⟩
    convert (taken (front ++ (y ++ rest))).bind_error next using 1
    simp only [List.length_append, hx, hy]

end Reader

/-! ## A call response in two steps -/

namespace CallResponse

/-- What stands in front of the tables of a call response. -/
structure Head where
  handle : Int64
  fieldsPresent : UInt8
  statusCode : Int8
  statusText : Option String
  appStatusCode : Int8
  appStatusText : Option String
  roundTripTime : Int32
  tableCount : Int16

namespace Head

/-- Reads what is left of a head behind its flags. -/
def readBehindFlags (limits : Limits) (handle : Int64) (fields : UInt8) : Reader Head := do
  let statusCode ← Reader.byte
  let statusText ← readText fields statusTextFlag limits
  let appStatusCode ← Reader.byte
  let appStatusText ← readText fields appStatusTextFlag limits
  let roundTripTime ← Reader.int
  let tableCount ← Reader.short
  pure ⟨handle, fields, statusCode, statusText, appStatusCode, appStatusText, roundTripTime,
    tableCount⟩

/-- Reads a head. -/
def read (limits : Limits) : Reader Head := do
  let handle ← Reader.long
  let fields ← Reader.byte
  readBehindFlags limits handle fields.toUInt8

/-- The response with this head and some tables. -/
def response (head : Head) (tables : List Table) : CallResponse :=
  ⟨head.handle, head.fieldsPresent, head.statusCode, head.statusText, head.appStatusCode,
    head.appStatusText, head.roundTripTime, tables⟩

/-- Reads the tables that a head announces. -/
def readTables (limits : Limits) (head : Head) : Reader CallResponse :=
  if head.tableCount < 0 then
    Transfer.fail (.negativeTableCount head.tableCount)
  else do
    let tables ← Transfer.times head.tableCount.toNatClampNeg (Table.read limits)
    pure (head.response tables)

/-- The parts of a head. -/
def Layout (head : Head) (parts : List WirePart) : Prop :=
  ∃ statusText appStatusText : List WirePart,
    FlaggedLayout (head.fieldsPresent.toNat.testBit 5) head.statusText statusText ∧
    FlaggedLayout (head.fieldsPresent.toNat.testBit 7) head.appStatusText appStatusText ∧
    parts = [.word (Bytes.ofLong head.handle), .word [head.fieldsPresent],
        .word (Bytes.ofByte head.statusCode)] ++ statusText ++
      [.word (Bytes.ofByte head.appStatusCode)] ++ appStatusText ++
      [.word (Bytes.ofInt head.roundTripTime), .word (Bytes.ofShort head.tableCount)]

end Head

/-- **A call response is its head and then the tables that this announces.** -/
theorem read_eq_head_bind (limits : Limits) :
    read limits = Head.read limits >>= Head.readTables limits := by
  simp only [read, Head.read, Head.readBehindFlags, Head.readTables, Head.response, bind_assoc,
    pure_bind]

section Head
open Reader
variable {limits : Limits}

theorem Head.local_read : Local (Head.read limits) :=
  local_long.bind fun _ => local_byte.bind fun _ => local_byte.bind fun _ =>
    (local_readText limits _ _).bind fun _ => local_byte.bind fun _ =>
    (local_readText limits _ _).bind fun _ => local_int.bind fun _ =>
    local_short.bind fun _ => local_pure _

theorem Head.Layout.follows {head : Head} {parts : List WirePart} (h : head.Layout parts) :
    Follows limits.fieldLength (Head.read limits) parts head := by
  obtain ⟨statusText, appStatusText, hstatus, happStatus, rfl⟩ := h
  -- the flags are read as a signed byte
  have fields : [head.fieldsPresent] = Bytes.ofByte head.fieldsPresent.toInt8 := by
    rw [Bytes.ofByte_eq, UInt8.toUInt8_toInt8]
  rw [fields]
  simp only [List.append_assoc]
  refine (follows_long head.handle).bind ((follows_byte head.fieldsPresent.toInt8).bind
    ((follows_byte head.statusCode).bind ?_))
  rw [UInt8.toUInt8_toInt8]
  exact (FlaggedLayout.follows rfl hstatus).bind ((follows_byte head.appStatusCode).bind
    ((FlaggedLayout.follows rfl happStatus).bind ((follows_int head.roundTripTime).bind
    ((follows_short head.tableCount).bind_pure rfl))))

end Head
end CallResponse

/-! ## What is skipped -/

section Skipped
open Reader WirePart
variable {limits : Limits}

/-- A table does not depend on the eight bytes in front of it. -/
theorem Table.run_read_of_length {x y : Bytes} (hx : x.length = 8) (hy : y.length = 8)
    (rest : Bytes) : (read limits).run (x ++ rest) = (read limits).run (y ++ rest) := by
  have words : ∀ z : Bytes, z.length = 8 →
      ∃ total metadata : Int32, z = Bytes.ofInt total ++ Bytes.ofInt metadata := by
    intro z hz
    obtain ⟨total, htotal⟩ := Bytes.exists_ofInt (z.take 4) (by simp [hz])
    obtain ⟨metadata, hmetadata⟩ := Bytes.exists_ofInt (z.drop 4) (by simp [hz])
    exact ⟨total, metadata, by rw [← htotal, ← hmetadata, List.take_append_drop]⟩
  obtain ⟨_, _, rfl⟩ := words x hx
  obtain ⟨_, _, rfl⟩ := words y hy
  rw [read, List.append_assoc, List.append_assoc, accepts_int.run_bind rfl,
    accepts_int.run_bind rfl, accepts_int.run_bind rfl, accepts_int.run_bind rfl]

/-- Behind as many tables as one likes, the lengths of the next one are skipped. -/
theorem CallResponse.Head.skips_readTables {head : Head} {tables : List Table}
    {groups : List (List WirePart)} (hgroups : List.Forall₂ Table.Layout tables groups)
    (more : tables.length < head.tableCount.toInt) :
    Skips (head.readTables limits) (allBytes groups.flatten) 8 := by
  have hneg : ¬ head.tableCount < 0 := by
    rw [neg_iff_toInt_short]
    omega
  obtain ⟨further, hcount⟩ : ∃ further, head.tableCount.toNatClampNeg =
      tables.length + (further + 1) := by
    have announced := toInt_eq_of_not_neg_short hneg
    exact ⟨head.tableCount.toNatClampNeg - tables.length - 1, by omega⟩
  have before : Follows limits.fieldLength (Transfer.times tables.length (Table.read limits))
      groups.flatten tables := follows_times (hgroups.imp fun _ _ => Table.Layout.follows)
  have tableLocal := Table.local_read limits
  rw [readTables, if_neg hneg, hcount, Transfer.times_add, bind_assoc, Transfer.times_succ,
    ← List.append_nil (allBytes groups.flatten)]
  refine before.skips_bind (tableLocal.times _) ?_
  refine Local.skips ?_ fun x y rest hx hy => ?_
  · simp only [bind_assoc]
    exact tableLocal.bind fun _ => (tableLocal.times _).bind fun _ => local_pure _
  · simp only [bind_assoc, Transfer.run_bind, Table.run_read_of_length hx hy]

/-- **The two lengths in front of a table are discarded**, whichever table it is. -/
theorem CallResponse.skips_lengths {head : Head} {parts : List WirePart} {tables : List Table}
    {groups : List (List WirePart)} (hparts : head.Layout parts)
    (hgroups : List.Forall₂ Table.Layout tables groups)
    (more : tables.length < head.tableCount.toInt) :
    Skips (read limits) (allBytes (parts ++ groups.flatten)) 8 := by
  rw [read_eq_head_bind, allBytes_append]
  exact hparts.follows.skips_bind Head.local_read (Head.skips_readTables hgroups more)

/-- **The time at which the cluster started is discarded**, behind whatever bytes. -/
theorem LoginResponse.skips_clusterStart {front : Bytes} (hfront : front.length = 13) :
    Skips (read limits) front 8 := by
  obtain ⟨result, hresult⟩ := Bytes.exists_ofByte (front.take 1) (by simp [hfront])
  obtain ⟨hostId, hhostId⟩ := Bytes.exists_ofInt ((front.drop 1).take 4) (by simp [hfront])
  obtain ⟨connectionId, hconnectionId⟩ :=
    Bytes.exists_ofLong ((front.drop 1).drop 4) (by simp [hfront])
  have split : front = allBytes [.word (Bytes.ofByte result)] ++
      (allBytes [.word (Bytes.ofInt hostId)] ++
        (allBytes [.word (Bytes.ofLong connectionId)] ++ [])) := by
    simp only [allBytes_cons, allBytes_nil, bytes, ← hresult, ← hhostId, ← hconnectionId,
      List.append_nil, List.take_append_drop]
  have behind : ∀ next : Reader LoginResponse, Local next →
      Skips (long >>= fun _ => next) [] 8 := by
    intro next hnext
    refine Local.skips (local_long.bind fun _ => hnext) fun x y rest hx hy => ?_
    obtain ⟨_, rfl⟩ := Bytes.exists_ofLong x hx
    obtain ⟨_, rfl⟩ := Bytes.exists_ofLong y hy
    rw [accepts_long.run_bind rfl, accepts_long.run_bind rfl]
  rw [split, read]
  refine (@follows_byte limits.fieldLength result).skips_bind local_byte ?_
  split
  · exact skips_fail _ _ _
  · refine (@follows_int limits.fieldLength hostId).skips_bind local_int ?_
    refine (@follows_long limits.fieldLength connectionId).skips_bind local_long ?_
    exact behind _ (local_int.bind fun _ => (local_string _).bind fun _ => local_pure _)

end Skipped

/-! ## The flags of a call response -/

namespace CallResponse
open Reader
variable {limits : Limits} {fields other : UInt8}

/-- The two bytes agree on the flags that have a meaning. -/
structure SameFlags (fields other : UInt8) : Prop where
  statusText : fields.toNat.testBit 5 = other.toNat.testBit 5
  appStatusText : fields.toNat.testBit 7 = other.toNat.testBit 7

theorem readText_congr {flag : UInt8} {bit : Nat} (hflag : flag.toNat = 2 ^ bit)
    (same : fields.toNat.testBit bit = other.toNat.testBit bit) :
    readText fields flag limits = readText other flag limits := by
  have set_iff : fields &&& flag ≠ 0 ↔ other &&& flag ≠ 0 := by
    rw [and_flag_ne_zero_iff fields hflag, and_flag_ne_zero_iff other hflag, same]
  rw [readText, readText]
  simp only [set_iff]

theorem Head.readBehindFlags_congr (same : SameFlags fields other) (handle : Int64) :
    readBehindFlags limits handle other =
      (fun head : Head => { head with fieldsPresent := other }) <$>
        readBehindFlags limits handle fields := by
  have statusText : readText fields statusTextFlag limits = readText other statusTextFlag limits :=
    readText_congr rfl same.statusText
  have appStatusText :
      readText fields appStatusTextFlag limits = readText other appStatusTextFlag limits :=
    readText_congr rfl same.appStatusText
  simp only [readBehindFlags, statusText, appStatusText, map_bind, map_pure]

theorem Head.readTables_congr (head : Head) (other : UInt8) :
    readTables limits { head with fieldsPresent := other } =
      (fun response : CallResponse => { response with fieldsPresent := other }) <$>
        readTables limits head := by
  rw [readTables, readTables]
  split
  · rfl
  · simp only [map_bind, map_pure, response]

/-- **Of the flags without a meaning nothing is left but the stored byte.** -/
theorem takes_of_sameFlags (same : SameFlags fields other) {handle : Bytes}
    (hhandle : handle.length = 8) (rest : Bytes) :
    ∃ outcome n, Takes (read limits) (handle ++ fields :: rest) outcome n ∧
      Takes (read limits) (handle ++ other :: rest)
        (outcome.map fun response => { response with fieldsPresent := other }) n := by
  obtain ⟨number, rfl⟩ := Bytes.exists_ofLong handle hhandle
  have behind : ∀ f : UInt8, (read limits).run (Bytes.ofLong number ++ f :: rest) =
      (Head.readBehindFlags limits number f >>= Head.readTables limits).run rest := by
    intro f
    have stored : f :: rest = Bytes.ofByte f.toInt8 ++ rest := by
      rw [Bytes.ofByte_eq, UInt8.toUInt8_toInt8, List.singleton_append]
    rw [read_eq_head_bind, Head.read, bind_assoc, accepts_long.run_bind rfl, stored, bind_assoc,
      accepts_byte.run_bind rfl, UInt8.toUInt8_toInt8]
  have same_run : (read limits).run (Bytes.ofLong number ++ other :: rest) =
      ((fun response : CallResponse => { response with fieldsPresent := other }) <$>
        read limits).run (Bytes.ofLong number ++ fields :: rest) := by
    rw [Transfer.run_map, behind, behind, ← Transfer.run_map, Head.readBehindFlags_congr same,
      map_bind, bind_map_left]
    simp only [Head.readTables_congr]
  rcases hrun : (read limits).run (Bytes.ofLong number ++ fields :: rest) with ⟨outcome, left⟩
  rw [Transfer.run_map, hrun] at same_run
  have taken := (local_read limits).takes_of_run same_run
  refine ⟨outcome, _, (local_read limits).takes_of_run hrun, ?_⟩
  rwa [List.length_append, List.length_cons] at taken ⊢

end CallResponse

/-! ## Everything that is discarded -/

/-- **What is read and discarded influences no outcome**, be it a response or an error: not the two
lengths in front of a table, behind however many tables, not the time at which the cluster started,
and of the flags without a meaning nothing is left but the stored byte. -/
theorem discardedFields_ignored (limits : Limits) :
    (∀ (head : CallResponse.Head) (tables : List Table) (parts : List WirePart)
        (groups : List (List WirePart)), head.Layout parts →
      List.Forall₂ Table.Layout tables groups → tables.length < head.tableCount.toInt →
      ∀ x y rest : Bytes, x.length = 8 → y.length = 8 →
        let front := WirePart.allBytes (parts ++ groups.flatten)
        Reader.EndsAlike (CallResponse.read limits) (front ++ x ++ rest) (front ++ y ++ rest)) ∧
    (∀ (handle rest : Bytes) (fields other : UInt8), handle.length = 8 →
      fields.toNat.testBit 5 = other.toNat.testBit 5 →
      fields.toNat.testBit 7 = other.toNat.testBit 7 →
      ∃ outcome n,
        Reader.Takes (CallResponse.read limits) (handle ++ fields :: rest) outcome n ∧
        Reader.Takes (CallResponse.read limits) (handle ++ other :: rest)
          (outcome.map fun response => { response with fieldsPresent := other }) n) ∧
    ∀ front x y rest : Bytes, front.length = 13 → x.length = 8 → y.length = 8 →
      Reader.EndsAlike (LoginResponse.read limits) (front ++ x ++ rest) (front ++ y ++ rest) :=
  ⟨fun _ _ _ _ hparts hgroups more => CallResponse.skips_lengths hparts hgroups more,
    fun _ rest _ _ hhandle status appStatus =>
      CallResponse.takes_of_sameFlags ⟨status, appStatus⟩ hhandle rest,
    fun _ x y rest hfront => LoginResponse.skips_clusterStart hfront x y rest⟩

/-- A response whose second table is refused, with lengths that say nothing and with negative ones;
a response with a flag that has no meaning; and a login under another start of the cluster. -/
theorem discardedFields_ignored_before_refusal :
    let head : CallResponse.Head := ⟨9, 0, 1, none, -128, none, 5, 2⟩
    let table : Table := ⟨0, [], [[7]]⟩
    let front : Bytes := [0, 0, 0, 0, 0, 0, 0, 9, 0, 1, 0x80, 0, 0, 0, 5, 0, 2,
      0, 0, 0, 0, 0, 0, 0, 0, 0, 0, 0, 0, 0, 0, 1, 0, 0, 0, 1, 7]
    let x : Bytes := [0, 0, 0, 0, 0, 0, 0, 0]
    let y : Bytes := [0xFF, 0xFF, 0xFF, 0xFF, 0x80, 0, 0, 0]
    let refused : Bytes := [0, 0xFF, 0xFE, 5]
    let login : Bytes := [0, 0, 0, 0, 1, 0, 0, 0, 0, 0, 0, 0, 2]
    (∃ parts groups, head.Layout parts ∧ List.Forall₂ Table.Layout [table] groups ∧
      WirePart.allBytes (parts ++ groups.flatten) = front) ∧
    (CallResponse.read {}).run (front ++ x ++ refused) =
      (.error (.protocol (.negativeColumnCount (-2))), [5]) ∧
    Reader.EndsAlike (CallResponse.read {}) (front ++ x ++ refused) (front ++ y ++ refused) ∧
    (∃ outcome n, Reader.Takes (CallResponse.read {}) (front.take 8 ++ 0 :: x) outcome n ∧
      Reader.Takes (CallResponse.read {}) (front.take 8 ++ 0x5F :: x)
        (outcome.map fun response => { response with fieldsPresent := 0x5F }) n) ∧
    Reader.EndsAlike (LoginResponse.read {}) (login ++ x ++ refused) (login ++ y ++ refused) := by
  intro head table front x y refused login
  let parts : List WirePart := [.word (Bytes.ofLong 9), .word [0], .word (Bytes.ofByte 1),
    .word (Bytes.ofByte (-128)), .word (Bytes.ofInt 5), .word (Bytes.ofShort 2)]
  let groups : List (List WirePart) := [[.word (Bytes.ofInt 0), .word (Bytes.ofInt 0),
    .word (Bytes.ofByte 0), .word (Bytes.ofShort 0), .word (Bytes.ofInt 1),
    .row [7] (by decide)]]
  have layout : head.Layout parts :=
    ⟨[], [], Or.inr ⟨by decide, rfl, rfl⟩, Or.inr ⟨by decide, rfl, rfl⟩, rfl⟩
  have layouts : List.Forall₂ Table.Layout [table] groups :=
    .cons ⟨0, 0, 0, 1, [], [[.row [7] (by decide)]], by decide, .nil, by decide,
      .cons ⟨by decide, rfl⟩ .nil, rfl⟩ .nil
  have bytes : WirePart.allBytes (parts ++ groups.flatten) = front := by decide
  obtain ⟨lengths, flags, clusterStart⟩ := discardedFields_ignored {}
  refine ⟨⟨parts, groups, layout, layouts, bytes⟩, by decide, ?_,
    flags (front.take 8) x 0 0x5F rfl (by decide) (by decide),
    clusterStart login x y refused rfl rfl rfl⟩
  rw [← bytes]
  exact lengths head [table] parts groups layout layouts (by decide) x y refused rfl rfl

end ProcWire

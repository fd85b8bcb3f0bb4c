import ProcWire.Proofs.Marshalling
import ProcWire.Proofs.StreamLocality
import ProcWire.Request.Call
import ProcWire.Request.Login

/-! # Which errors there are

A `WireError` can say many things, and no decoder and no encoder says them all.  The
inductive predicates `FromText`, `FromTable`, `FromCall`, `FromLogin` and `FromRequest`
list for each of them what it can say, with the conditions that the data in an error
satisfy: a count that is called negative is, a length that is said to be beyond the limit
is beyond the limit in force, a row that is said to be incomplete is.

`Transfer.Ensures` carries this along a sequence: under an invariant of the stream, the
results satisfy one condition and the errors another.  Readers need no invariant.  Writers
are looked at on sinks without a bound, where an offer cannot fail.  The condition on
results is needed in one place, at the end of a table: by then there are as many names as
types, so that the two are never found to disagree.
-/
namespace ProcWire

namespace Transfer
variable {σ α β : Type} {inv : σ → Prop} {good : α → Prop} {good' : β → Prop}
  {bad bad' : WireError → Prop}

/-- On the streams that the invariant holds of, every result is good and keeps the invariant, and
every error is one of the bad ones. -/
structure Ensures (inv : σ → Prop) (good : α → Prop) (bad : WireError → Prop)
    (t : Transfer σ α) : Prop where
  ok : ∀ {stream a rest}, inv stream → t.run stream = (.ok a, rest) → good a ∧ inv rest
  error : ∀ {stream e rest}, inv stream → t.run stream = (.error e, rest) → bad e

theorem ensures_lift {result : Except WireError α} (hok : ∀ a, result = .ok a → good a)
    (herror : ∀ e, result = .error e → bad e) : Ensures inv good bad (lift result) where
  ok hinv hrun := by
    cases hrun
    exact ⟨hok _ rfl, hinv⟩
  error _ hrun := by
    cases hrun
    exact herror _ rfl

theorem ensures_pure {a : α} (h : good a) : Ensures inv good bad (pure a) :=
  ensures_lift (fun _ hb => Except.ok.inj hb ▸ h) fun _ he => nomatch he

theorem ensures_fail {e : WireError} (h : bad e) : Ensures inv good bad (fail e) :=
  ensures_lift (fun _ ha => nomatch ha) fun _ he => Except.error.inj he ▸ h

theorem Ensures.bind {t : Transfer σ α} {next : α → Transfer σ β} (first : Ensures inv good bad t)
    (second : ∀ a, good a → Ensures inv good' bad (next a)) :
    Ensures inv good' bad (t >>= next) where
  ok hinv hrun := by
    obtain ⟨a, middle, ht, hnext⟩ := of_run_bind_ok hrun
    obtain ⟨ha, hmiddle⟩ := first.ok hinv ht
    exact (second a ha).ok hmiddle hnext
  error {stream e rest} hinv hrun := by
    rcases ht : t.run stream with ⟨a | a, middle⟩
    · rw [run_bind_error ht] at hrun
      cases hrun
      exact first.error hinv ht
    · obtain ⟨ha, hmiddle⟩ := first.ok hinv ht
      rw [run_bind_ok ht] at hrun
      exact (second a ha).error hmiddle hrun

theorem Ensures.ite {p : Prop} [Decidable p] {t u : Transfer σ α}
    (ht : p → Ensures inv good bad t) (hu : ¬ p → Ensures inv good bad u) :
    Ensures inv good bad (if p then t else u) := by
  split
  · exact ht ‹_›
  · exact hu ‹_›

/-- A transfer run `n` times has `n` results. -/
theorem Ensures.times {t : Transfer σ α} (h : Ensures inv good bad t) (n : Nat) :
    Ensures inv (fun list : List α => list.length = n) bad (times n t) := by
  induction n with
  | zero => exact ensures_pure rfl
  | succ n ih =>
    rw [times_succ]
    exact h.bind fun a _ => ih.bind fun after hafter => ensures_pure (congrArg (· + 1) hafter)

/-- More errors may be allowed for, and nothing be said of the results. -/
theorem Ensures.weaken {t : Transfer σ α} (h : Ensures inv good bad t)
    (hbad : ∀ e, bad e → bad' e) : Ensures inv (fun _ : α => True) bad' t where
  ok hinv hrun := ⟨trivial, (h.ok hinv hrun).2⟩
  error hinv hrun := hbad _ (h.error hinv hrun)

end Transfer

/-! ## Decoders -/

namespace WireError

/-- What a reader of a string can say, if the limit is `max`. -/
inductive FromText (max : Nat) : WireError → Prop
  | exhausted : FromText max (.io .exhausted)
  | negative {length : Int32} (h : length.toInt < -1) :
    FromText max (.protocol (.negativeLength "string" length))
  | tooLong {length : Nat} (h : max < length) (bound : length ≤ 2147483647) :
    FromText max (.limitExceeded "string" length max)
  | notUtf8 (defect : Utf8.Defect) : FromText max (.protocol (.invalidUtf8 defect))

/-- What the decoder of a table can say. -/
inductive FromTable (max : Nat) : WireError → Prop
  | text {e : WireError} (h : FromText max e) : FromTable max e
  | negativeColumns {count : Int16} (h : count.toInt < 0) :
    FromTable max (.protocol (.negativeColumnCount count))
  | negativeRows {count : Int32} (h : count.toInt < 0) :
    FromTable max (.protocol (.negativeRowCount count))
  | negativeRow {length : Int32} (h : length.toInt < 0) :
    FromTable max (.protocol (.negativeLength "row" length))
  | rowTooLong {length : Nat} (h : max < length) (bound : length ≤ 2147483647) :
    FromTable max (.limitExceeded "row" length max)
  | framing {expected actual : Nat} (h : actual < expected) (bound : expected ≤ max) :
    FromTable max (.framing expected actual)

/-- What the decoder of a call response can say. -/
inductive FromCall (max : Nat) : WireError → Prop
  | table {e : WireError} (h : FromTable max e) : FromCall max e
  | negativeTables {count : Int16} (h : count.toInt < 0) : FromCall max (.negativeTableCount count)

/-- What the decoder of a login response can say. -/
inductive FromLogin (max : Nat) : WireError → Prop
  | text {e : WireError} (h : FromText max e) : FromLogin max e
  | refused {code : Int8} (h : code ≠ 0) : FromLogin max (.authenticationFailed code)

/-- What an encoder of a request can say. -/
inductive FromRequest : WireError → Prop
  | invalid (fault : ValueFault) : FromRequest (.invalidValue fault)
  | tooLarge : FromRequest .messageTooLarge

end WireError

namespace Reader
open Transfer WireError
variable {α : Type} {bad : WireError → Prop}

/-- Whatever the stream, the errors of the reader are bad ones. -/
abbrev FailsAs (bad : WireError → Prop) (t : Reader α) : Prop :=
  Ensures (fun _ => True) (fun _ => True) bad t

theorem failsAs_raw (h : bad (.io .exhausted)) (n : Nat) : FailsAs bad (raw n) where
  ok _ _ := ⟨trivial, trivial⟩
  error {stream e rest} _ hrun := by
    have hraw : raw n stream = (.error e, rest) := hrun
    rw [raw] at hraw
    split at hraw
    · cases hraw
    · cases hraw
      exact h

theorem failsAs_word (h : bad (.io .exhausted)) (width : Nat) : FailsAs bad (word width) :=
  (failsAs_raw h width).bind fun _ _ => ensures_pure trivial

theorem failsAs_byte (h : bad (.io .exhausted)) : FailsAs bad byte :=
  (failsAs_word h 1).bind fun _ _ => ensures_pure trivial

theorem failsAs_short (h : bad (.io .exhausted)) : FailsAs bad short :=
  (failsAs_word h 2).bind fun _ _ => ensures_pure trivial

theorem failsAs_int (h : bad (.io .exhausted)) : FailsAs bad int :=
  (failsAs_word h 4).bind fun _ _ => ensures_pure trivial

theorem failsAs_long (h : bad (.io .exhausted)) : FailsAs bad long :=
  (failsAs_word h 8).bind fun _ _ => ensures_pure trivial

/-- A length of 32 bits is no longer than that. -/
theorem toNatClampNeg_le (v : Int32) : v.toNatClampNeg ≤ 2147483647 := by
  have bound := v.toInt_lt
  rw [← Int32.toNat_toInt]
  omega

theorem failsAs_length (max : Nat) : FailsAs (FromText max) (length "string" max) := by
  refine (failsAs_int .exhausted).bind fun v _ => Ensures.ite (fun _ => ensures_pure trivial) ?_
  intro hnull
  refine Ensures.ite (fun hneg => ensures_fail (.negative ?_)) fun _ =>
    Ensures.ite (fun hlong => ensures_fail (.tooLong hlong (toNatClampNeg_le v)))
      fun _ => ensures_pure trivial
  -- a negative length that is not the NULL marker is below it
  have apart : v.toInt ≠ -1 := fun h => hnull (Int32.toInt_inj.mp h)
  have below := neg_iff_toInt.mp hneg
  omega

theorem failsAs_text (max : Nat) (bytes : Bytes) :
    FailsAs (FromText max) (Transfer.lift (text bytes)) := by
  refine ensures_lift (fun _ _ => trivial) fun e he => ?_
  rw [text] at he
  cases hdecode : Utf8.toString? bytes with
  | ok s =>
    rw [hdecode] at he
    cases he
  | error defect =>
    rw [hdecode] at he
    cases he
    exact .notUtf8 defect

theorem failsAs_nullableString (max : Nat) : FailsAs (FromText max) (nullableString max) := by
  refine (failsAs_length max).bind fun n _ => ?_
  cases n with
  | none => exact ensures_pure trivial
  | some n =>
    exact (failsAs_raw .exhausted n).bind fun bytes _ =>
      (failsAs_text max bytes).bind fun _ _ => ensures_pure trivial

theorem failsAs_string (max : Nat) : FailsAs (FromText max) (string max) :=
  (failsAs_nullableString max).bind fun _ _ => ensures_pure trivial

end Reader

section Decoders
open Transfer Reader WireError
variable (limits : Limits)

theorem Table.failsAs_readPayload {length : Nat} (h : length ≤ limits.fieldLength) :
    FailsAs (FromTable limits.fieldLength) (Table.readPayload length) where
  ok _ _ := ⟨trivial, trivial⟩
  error {stream e rest} _ hrun := by
    have hpayload : Table.readPayload length stream = (.error e, rest) := hrun
    simp only [Table.readPayload] at hpayload
    split at hpayload
    · cases hpayload
    · rename_i hshort
      cases hpayload
      have bound := List.length_take_le length stream
      exact .framing (Nat.lt_of_le_of_ne bound hshort) h

theorem Table.failsAs_readRow : FailsAs (FromTable limits.fieldLength) (Table.readRow limits) :=
  (failsAs_int (.text .exhausted)).bind fun v _ =>
    Ensures.ite (fun hneg => ensures_fail (.negativeRow (neg_iff_toInt.mp hneg))) fun _ =>
      Ensures.ite (fun hlong => ensures_fail (.rowTooLong hlong (toNatClampNeg_le v)))
        fun hle => Table.failsAs_readPayload limits (Nat.not_lt.mp hle)

theorem Table.failsAs_read : FailsAs (FromTable limits.fieldLength) (Table.read limits) := by
  have exhausted : FromTable limits.fieldLength (.io .exhausted) := .text .exhausted
  have text := (failsAs_string limits.fieldLength).weaken fun _ => FromTable.text
  refine (failsAs_int exhausted).bind fun _ _ => (failsAs_int exhausted).bind fun _ _ =>
    (failsAs_byte exhausted).bind fun statusCode _ =>
    (failsAs_short exhausted).bind fun columnCount _ =>
    Ensures.ite (fun hneg => ensures_fail (.negativeColumns (neg_iff_toInt_short.mp hneg))) fun _ => ?_
  refine ((failsAs_byte exhausted).times _).bind fun types htypes =>
    (text.times _).bind fun names hnames => (failsAs_int exhausted).bind fun rowCount _ =>
    Ensures.ite (fun hneg => ensures_fail (.negativeRows (neg_iff_toInt.mp hneg))) fun _ => ?_
  refine ((Table.failsAs_readRow limits).times _).bind fun rows _ =>
    ensures_lift (fun _ _ => trivial) fun e he => ?_
  -- there are as many names as types, so the last check cannot fail
  rw [Table.ofParts, if_pos (htypes.trans hnames.symm)] at he
  cases he

theorem CallResponse.failsAs_readText (fields flag : UInt8) :
    FailsAs (FromCall limits.fieldLength) (CallResponse.readText fields flag limits) := by
  have text := (failsAs_string limits.fieldLength).weaken fun _ he => FromCall.table (.text he)
  exact Ensures.ite (fun _ => text.bind fun _ _ => ensures_pure trivial)
    fun _ => ensures_pure trivial

theorem CallResponse.failsAs_read :
    FailsAs (FromCall limits.fieldLength) (CallResponse.read limits) := by
  have exhausted : FromCall limits.fieldLength (.io .exhausted) := .table (.text .exhausted)
  have table := (Table.failsAs_read limits).weaken fun _ => FromCall.table
  refine (failsAs_long exhausted).bind fun _ _ => (failsAs_byte exhausted).bind fun _ _ =>
    (failsAs_byte exhausted).bind fun _ _ =>
    (CallResponse.failsAs_readText limits _ _).bind fun _ _ =>
    (failsAs_byte exhausted).bind fun _ _ =>
    (CallResponse.failsAs_readText limits _ _).bind fun _ _ =>
    (failsAs_int exhausted).bind fun _ _ => (failsAs_short exhausted).bind fun count _ => ?_
  exact Ensures.ite (fun hneg => ensures_fail (.negativeTables (neg_iff_toInt_short.mp hneg)))
    fun _ => (table.times _).bind fun _ _ => ensures_pure trivial

/-- What the decoder of a login response can say once the login is accepted. -/
theorem LoginResponse.failsAs_behindResult :
    FailsAs (FromText limits.fieldLength) (do
      let hostId ← Reader.int
      let connectionId ← Reader.long
      let _clusterStart ← Reader.long
      let leaderAddress ← Reader.int
      let build ← Reader.string limits.fieldLength
      pure (⟨hostId, connectionId, leaderAddress, build⟩ : LoginResponse)) :=
  (failsAs_int .exhausted).bind fun _ _ => (failsAs_long .exhausted).bind fun _ _ =>
    (failsAs_long .exhausted).bind fun _ _ => (failsAs_int .exhausted).bind fun _ _ =>
    (failsAs_string limits.fieldLength).bind fun _ _ => ensures_pure trivial

/-- A login that is refused is so by its first byte, with nothing behind it taken. -/
theorem LoginResponse.fromLogin_of_takes {stream : Bytes} {e : WireError} {n : Nat}
    (h : Takes (LoginResponse.read limits) stream (.error e) n) :
    FromLogin limits.fieldLength e ∧ ∀ code, e = .authenticationFailed code → n = 1 := by
  obtain ⟨hn, hrun⟩ := h
  rw [LoginResponse.read] at hrun
  cases stream with
  | nil =>
    have nothing : byte.run [] = (.error (.io .exhausted), []) := rfl
    rw [run_bind_error nothing] at hrun
    obtain ⟨he, -⟩ := Prod.mk.inj hrun
    cases he
    exact ⟨.text .exhausted, fun code h => nomatch h⟩
  | cons b stream =>
    have first : b :: stream = Bytes.ofByte b.toInt8 ++ stream := by
      rw [Bytes.ofByte_eq, UInt8.toUInt8_toInt8, List.singleton_append]
    rw [first, accepts_byte.run_bind rfl] at hrun
    split at hrun
    · rename_i hcode
      obtain ⟨he, hrest⟩ := Prod.mk.inj hrun
      cases he
      refine ⟨.refused hcode, fun code _ => ?_⟩
      have total := congrArg List.length hrest
      rw [List.length_cons] at hn
      simp only [List.length_drop, List.length_append, Bytes.length_ofByte] at total
      omega
    · have text := (LoginResponse.failsAs_behindResult limits).error trivial hrun
      refine ⟨.text text, ?_⟩
      rintro code rfl
      cases text

end Decoders

/-! ## Encoders -/

namespace Writer
open Transfer WireError

/-- On a sink without a bound the writer fails only on a value that has no place in a request. -/
abbrev FailsOnValues (writer : Writer) : Prop :=
  Ensures (fun sink : Sink => sink.capacity = none) (fun _ => True)
    (fun e => ∃ fault, e = .invalidValue fault) writer

theorem failsOnValues_raw (data : Bytes) : FailsOnValues (raw data) where
  ok hsink hrun := by
    rw [run_raw_unbounded hsink] at hrun
    cases hrun
    exact ⟨trivial, hsink⟩
  error hsink hrun := by
    rw [run_raw_unbounded hsink] at hrun
    cases hrun

theorem failsOnValues_counted (field : String) (payload : Bytes) :
    FailsOnValues (counted field payload) :=
  Ensures.ite (fun _ => (failsOnValues_raw _).bind fun _ _ => failsOnValues_raw _)
    fun _ => ensures_fail ⟨_, rfl⟩

/-- The bytes of such a writer are refused for a value, or for being too many. -/
theorem fromRequest_of_message {writer : Writer} {limits : Limits} {e : WireError}
    (h : writer.FailsOnValues) (he : writer.message limits = .error e) : FromRequest e := by
  rw [message] at he
  cases hbytes : writer.bytes with
  | error d =>
    rw [hbytes] at he
    cases he
    rw [bytes] at hbytes
    split at hbytes
    · cases hbytes
    · rename_i hrun
      cases hbytes
      obtain ⟨fault, rfl⟩ := h.error rfl hrun
      exact .invalid fault
  | ok data =>
    rw [hbytes] at he
    replace he : (if data.length > limits.messageSize then Except.error WireError.messageTooLarge
      else Except.ok data) = Except.error e := he
    split at he
    · cases he
      exact .tooLarge
    · cases he

end Writer

namespace Value
open Transfer Writer

theorem failsOnValues_write (type : WireType) : FailsOnValues type.write := failsOnValues_raw _

mutual

/-- A null is of a type that has one, so it is not refused for its type. -/
theorem failsOnValues_marshal : ∀ v : Value, FailsOnValues v.marshal
  | bool _ | tinyInt _ | short _ | int _ | long _ | float _ | timestamp _ => by
    rw [marshal]
    exact (failsOnValues_write _).bind fun _ _ => failsOnValues_raw _
  | string text => by
    rw [marshal]
    exact (failsOnValues_write _).bind fun _ _ => failsOnValues_counted _ _
  | varbinary data => by
    rw [marshal]
    exact (failsOnValues_write _).bind fun _ _ => failsOnValues_counted _ _
  | array items => by
    rw [marshal]
    exact (failsOnValues_write _).bind fun _ _ => (failsOnValues_raw _).bind fun _ _ =>
      failsOnValues_marshalAll items
  | null type => by
    rw [marshal, type.writeNull_eq_raw]
    exact failsOnValues_raw _

theorem failsOnValues_marshalAll : ∀ items : List Value, FailsOnValues (marshalAll items)
  | [] => by
    rw [marshalAll]
    exact ensures_pure trivial
  | v :: after => by
    rw [marshalAll]
    exact (failsOnValues_marshal v).bind fun _ _ => failsOnValues_marshalAll after

end

end Value

section Encoders
open Transfer Writer

theorem LoginRequest.failsOnValues_write (request : LoginRequest) :
    FailsOnValues request.write :=
  (failsOnValues_counted _ _).bind fun _ _ => (failsOnValues_counted _ _).bind fun _ _ =>
    failsOnValues_raw _

theorem CallRequest.failsOnValues_write (request : CallRequest) : FailsOnValues request.write :=
  Ensures.ite (fun _ => ensures_fail ⟨_, rfl⟩) fun _ =>
    (failsOnValues_raw _).bind fun _ _ => (failsOnValues_counted _ _).bind fun _ _ =>
    (failsOnValues_raw _).bind fun _ _ => (failsOnValues_raw _).bind fun _ _ =>
    Value.failsOnValues_marshalAll request.params

end Encoders

/-! ## The two sides apart -/

namespace WireError
variable {max : Nat} {e : WireError}

/-- An error that has to do with what was received: the stream that it came on, its form, or a login
that it refuses. -/
structure OfDecoding (e : WireError) : Prop where
  not_encodeFailure : e.isEncodeFailure = false
  not_server : ∀ status text, e ≠ .server status text
  not_columnMismatch : ∀ types names, e ≠ .protocol (.columnMismatch types names)

theorem FromText.ofDecoding (h : FromText max e) : e.OfDecoding := by
  cases h <;> exact ⟨rfl, nofun, nofun⟩

theorem FromTable.ofDecoding (h : FromTable max e) : e.OfDecoding := by
  cases h with
  | text h => exact h.ofDecoding
  | _ => exact ⟨rfl, nofun, nofun⟩

theorem FromCall.ofDecoding (h : FromCall max e) : e.OfDecoding := by
  cases h with
  | table h => exact h.ofDecoding
  | negativeTables h => exact ⟨rfl, nofun, nofun⟩

theorem FromLogin.ofDecoding (h : FromLogin max e) : e.OfDecoding := by
  cases h with
  | text h => exact h.ofDecoding
  | refused h => exact ⟨rfl, nofun, nofun⟩

theorem FromRequest.isEncodeFailure (h : FromRequest e) : e.isEncodeFailure = true := by
  cases h <;> rfl

end WireError

/-- **The errors of decoders and of encoders never mix**, and each says only what is so.  A decoder
fails in one of the ways that are listed for it, with data that agree with the limit in force, and a
login is refused after one byte.  An encoder refuses a value or a message that is too large, and
nothing else goes wrong with it, whatever the parameters. -/
theorem errors_apart (limits : Limits) :
    (∀ stream e rest, (Table.read limits).run stream = (.error e, rest) →
      e.FromTable limits.fieldLength ∧ e.OfDecoding) ∧
    (∀ stream e rest, (CallResponse.read limits).run stream = (.error e, rest) →
      e.FromCall limits.fieldLength ∧ e.OfDecoding) ∧
    (∀ stream e n, Reader.Takes (LoginResponse.read limits) stream (.error e) n →
      e.FromLogin limits.fieldLength ∧ e.OfDecoding ∧
        ∀ code, e = .authenticationFailed code → n = 1) ∧
    (∀ (request : LoginRequest) (e : WireError), request.encode limits = .error e →
      e.FromRequest ∧ e.isEncodeFailure = true) ∧
    ∀ (request : CallRequest) (e : WireError), request.encode limits = .error e →
      e.FromRequest ∧ e.isEncodeFailure = true := by
  refine ⟨?_, ?_, ?_, ?_, ?_⟩
  · intro stream e rest hrun
    have kind := (Table.failsAs_read limits).error trivial hrun
    exact ⟨kind, kind.ofDecoding⟩
  · intro stream e rest hrun
    have kind := (CallResponse.failsAs_read limits).error trivial hrun
    exact ⟨kind, kind.ofDecoding⟩
  · intro stream e n takes
    obtain ⟨kind, first⟩ := LoginResponse.fromLogin_of_takes limits takes
    exact ⟨kind, kind.ofDecoding, first⟩
  · intro request e he
    have kind := Writer.fromRequest_of_message request.failsOnValues_write he
    exact ⟨kind, kind.isEncodeFailure⟩
  · intro request e he
    have kind := Writer.fromRequest_of_message request.failsOnValues_write he
    exact ⟨kind, kind.isEncodeFailure⟩

/-- A row that is cut short, a negative number of tables, a refused login, and two requests for
which the limit leaves no room. -/
theorem errors_apart_on_each_side :
    let limits : Limits := ⟨0, 3⟩
    let table : Bytes := [0, 0, 0, 0, 0, 0, 0, 0, 1, 0, 0, 0, 0, 0, 1, 0, 0, 0, 3, 7, 8]
    let call : Bytes := [0, 0, 0, 0, 0, 0, 0, 9, 0, 1, 0x80, 0, 0, 0, 5, 0xFF, 0xFF, 6]
    let login : LoginRequest := ⟨"u", List.replicate 32 7, rfl⟩
    ((Table.read limits).run table = (.error (.framing 3 2), []) ∧
      WireError.FromTable 3 (.framing 3 2)) ∧
    ((CallResponse.read limits).run call = (.error (.negativeTableCount (-1)), [6]) ∧
      WireError.FromCall 3 (.negativeTableCount (-1))) ∧
    (Reader.Takes (LoginResponse.read limits) [0xFF, 1, 2] (.error (.authenticationFailed (-1))) 1 ∧
      WireError.FromLogin 3 (.authenticationFailed (-1))) ∧
    (login.encode limits = .error .messageTooLarge ∧
      CallRequest.encode ⟨"P", 1, []⟩ limits = .error .messageTooLarge ∧
      WireError.FromRequest .messageTooLarge) := by
  intro limits table call login
  have short : (Table.read limits).run table = (.error (.framing 3 2), []) := by decide
  have negative : (CallResponse.read limits).run call =
      (.error (.negativeTableCount (-1)), [6]) := by decide
  have refused : Reader.Takes (LoginResponse.read limits) [0xFF, 1, 2]
      (.error (.authenticationFailed (-1))) 1 := ⟨by decide, by decide⟩
  have loginLarge : login.encode limits = .error .messageTooLarge := by decide
  have callLarge : CallRequest.encode ⟨"P", 1, []⟩ limits = .error .messageTooLarge := by rfl
  obtain ⟨ofTable, ofCall, ofLogin, ofLoginRequest, ofCallRequest⟩ := errors_apart limits
  exact ⟨⟨short, (ofTable _ _ _ short).1⟩, ⟨negative, (ofCall _ _ _ negative).1⟩,
    ⟨refused, (ofLogin _ _ _ refused).1⟩, loginLarge, callLarge,
    (ofCallRequest _ _ callLarge).1⟩

end ProcWire

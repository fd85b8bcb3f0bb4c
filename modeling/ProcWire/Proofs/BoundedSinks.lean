import ProcWire.Proofs.RequestForms

/-! # Writing to a bounded sink

A sink that holds some bytes already and takes only so many in all may run full in the
middle of whatever is written to it: between the parts of a request, between a tag and
its payload, inside a length.  None of this shows.  Everything that can be written is
`Decided` before its first byte: it is refused, and then no sink is ever touched, or it
amounts to one offer of all its bytes, of which a sink keeps what it has room for.

What a write does to an empty sink without a bound therefore says what it does to every
sink (`Writer.Decided.bounded`).  `Output` lists what can be written, and
`Output.write_bounded` is the law for all of it; in particular a request that is
encoded first and one that is written part by part leave every sink alike, unless the
limit on messages stops the former.
-/
namespace ProcWire
namespace Writer

/-- What a writer does to an empty sink without a bound settles what it does to any sink.  If it
fails there, the failure is one of encoding, and every sink is left as it was.  Otherwise a bounded
sink keeps of the same bytes those it has room for, and the writer has failed if these are not all. -/
structure Bounded (writer : Writer) : Prop where
  refused : ∀ e, writer.bytes = .error e →
    e.isEncodeFailure = true ∧ ∀ sink, writer.run sink = (.error e, sink)
  unbounded : ∀ data, writer.bytes = .ok data → ∀ sink : Sink, sink.capacity = none →
    writer.run sink = (.ok (), sink.push data)
  bounded : ∀ data, writer.bytes = .ok data →
    ∀ (sink : Sink) (capacity : Nat), sink.capacity = some capacity →
      ∃ result left, writer.run sink = (result, left) ∧ left.capacity = some capacity ∧
        left.toList = sink.toList ++ data.take (capacity - sink.toList.length) ∧
        (result = .ok () ↔ data.length ≤ capacity - sink.toList.length) ∧
        (capacity - sink.toList.length < data.length → result = .error (.io .full))

/-- A writer that refuses before its first byte, or makes a single offer. -/
def Decided (writer : Writer) : Prop :=
  (∃ e : WireError, e.isEncodeFailure = true ∧ writer = Transfer.fail e) ∨
    ∃ data, writer = raw data

theorem decided_raw (data : Bytes) : Decided (raw data) := Or.inr ⟨data, rfl⟩

theorem decided_fail {e : WireError} (h : e.isEncodeFailure = true) :
    Decided (Transfer.fail e) := Or.inl ⟨e, h, rfl⟩

theorem bytes_fail (e : WireError) : bytes (Transfer.fail e) = .error e := rfl

/-- One offer to a bounded sink. -/
theorem run_raw_bounded {sink : Sink} {capacity : Nat} (h : sink.capacity = some capacity)
    (data : Bytes) :
    (raw data).run sink =
      (if data.length ≤ capacity - sink.toList.length then .ok () else .error (.io .full),
        sink.push (data.take (capacity - sink.toList.length))) := by
  have kept : sink.fitting data = data.take (capacity - sink.toList.length) := by
    rw [Sink.fitting, h]
    rfl
  by_cases fits : data.length ≤ capacity - sink.toList.length
  · have whole : sink.fitting data = data := kept.trans (List.take_of_length_le fits)
    rw [run_raw_of_fits (congrArg List.length whole), if_pos fits, List.take_of_length_le fits]
  · have short : (sink.fitting data).length ≠ data.length := by
      rw [kept, List.length_take]
      omega
    rw [run_raw_of_not_fits short, if_neg fits, kept]

/-- **A writer that is decided before its first byte keeps to the law.** -/
theorem Decided.bounded {writer : Writer} (h : writer.Decided) : writer.Bounded := by
  rcases h with ⟨e, failure, rfl⟩ | ⟨data, rfl⟩
  · constructor
    · intro d hd
      cases hd
      exact ⟨failure, fun sink => rfl⟩
    · intro data hdata
      cases hdata
    · intro data hdata
      cases hdata
  · constructor
    · intro e he
      rw [bytes_raw] at he
      cases he
    · intro other hother sink hsink
      rw [bytes_raw] at hother
      cases hother
      exact run_raw_unbounded hsink data
    · intro other hother sink capacity hsink
      rw [bytes_raw] at hother
      cases hother
      refine ⟨_, _, run_raw_bounded hsink data, hsink, Sink.toList_push _ _, ?_, ?_⟩
      · split
        · exact iff_of_true rfl ‹_›
        · exact iff_of_false (fun h => nomatch h) ‹_›
      · intro hshort
        rw [if_neg (Nat.not_le.mpr hshort)]

/-! ## Whole messages -/

/-- The writer produces more bytes than a message may have. -/
def TooLarge (writer : Writer) (limits : Limits) : Prop :=
  ∃ data, writer.bytes = .ok data ∧ limits.messageSize < data.length

theorem message_eq_error_iff {writer : Writer} {limits : Limits} {e : WireError} :
    writer.message limits = .error e ↔
      writer.bytes = .error e ∨ (writer.TooLarge limits ∧ e = .messageTooLarge) := by
  rw [message, TooLarge]
  cases writer.bytes with
  | error d =>
    constructor
    · exact Or.inl
    · rintro (h | ⟨⟨data, hdata, -⟩, -⟩)
      · exact h
      · cases hdata
  | ok data =>
    show (if data.length > limits.messageSize then Except.error WireError.messageTooLarge
      else Except.ok data) = Except.error e ↔ _
    split
    · rename_i large
      constructor
      · intro h
        cases h
        exact Or.inr ⟨⟨data, rfl, large⟩, rfl⟩
      · rintro (h | ⟨-, rfl⟩)
        · cases h
        · rfl
    · rename_i small
      constructor
      · intro h
        cases h
      · rintro (h | ⟨⟨other, hother, large⟩, -⟩)
        · cases h
        · cases hother
          exact absurd large small

theorem whole_of_error {writer : Writer} {limits : Limits} {e : WireError}
    (h : writer.message limits = .error e) : writer.whole limits = Transfer.fail e := by
  rw [whole, h]
  rfl

theorem whole_of_ok {writer : Writer} {limits : Limits} {data : Bytes}
    (h : writer.message limits = .ok data) : writer.whole limits = raw data := by
  rw [whole, h]
  rfl

/-- Encoding as a whole comes to what the message comes to. -/
theorem bytes_whole (writer : Writer) (limits : Limits) :
    (writer.whole limits).bytes = writer.message limits := by
  cases h : writer.message limits with
  | error e => rw [whole_of_error h, bytes_fail]
  | ok data => rw [whole_of_ok h, bytes_raw]

theorem Decided.whole {writer : Writer} (h : writer.Decided) (limits : Limits) :
    (writer.whole limits).Decided := by
  cases hmessage : writer.message limits with
  | ok data =>
    rw [whole_of_ok hmessage]
    exact decided_raw data
  | error e =>
    rw [whole_of_error hmessage]
    rcases message_eq_error_iff.mp hmessage with hbytes | ⟨-, rfl⟩
    · exact decided_fail (h.bounded.refused e hbytes).1
    · exact decided_fail rfl

/-- **Encoding first makes no difference** but where the limit forbids the message. -/
theorem Decided.run_whole_iff {writer : Writer} (h : writer.Decided) (limits : Limits) :
    (∀ sink, (writer.whole limits).run sink = writer.run sink) ↔ ¬ writer.TooLarge limits := by
  constructor
  · rintro same ⟨data, hdata, large⟩
    have refused := whole_of_error (message_eq_error_iff.mpr (Or.inr ⟨⟨data, hdata, large⟩, rfl⟩))
    have sent := h.bounded.unbounded data hdata {} rfl
    rw [← same, refused] at sent
    cases sent
  · intro small sink
    rcases h with ⟨e, failure, rfl⟩ | ⟨data, rfl⟩
    · rw [whole_of_error (message_eq_error_iff.mpr (Or.inl (bytes_fail e)))]
    · have fits : data.length ≤ limits.messageSize :=
        Nat.not_lt.mp fun large => small ⟨data, bytes_raw data, large⟩
      rw [whole_of_ok (message_eq_ok_iff.mpr ⟨bytes_raw data, fits⟩)]

end Writer

/-! ## Requests -/

namespace LoginRequest

theorem decided_write {request : LoginRequest}
    (h : (Utf8.ofString request.username).length ≤ Writer.maxCount) :
    request.write.Decided := by
  rw [write_eq_raw h]
  exact Writer.decided_raw _

end LoginRequest

namespace CallRequest

theorem write_of_tooMany {request : CallRequest} (h : maxParams < request.params.length) :
    request.write =
      Transfer.fail (.invalidValue (.tooManyParameters request.params.length)) :=
  if_pos h

theorem decided_write {request : CallRequest}
    (procedure : (Utf8.ofString request.procedure).length ≤ Writer.maxCount)
    (params : ∀ v ∈ request.params, v.FieldsFit) : request.write.Decided := by
  by_cases count : request.params.length ≤ maxParams
  · rw [write_eq_raw ⟨procedure, count, params⟩]
    exact Writer.decided_raw _
  · rw [write_of_tooMany (Nat.not_le.mp count)]
    exact Writer.decided_fail rfl

theorem bytes_write_eq_error_iff {request : CallRequest}
    (procedure : (Utf8.ofString request.procedure).length ≤ Writer.maxCount)
    (params : ∀ v ∈ request.params, v.FieldsFit) {e : WireError} :
    request.write.bytes = .error e ↔ maxParams < request.params.length ∧
      e = .invalidValue (.tooManyParameters request.params.length) := by
  by_cases count : request.params.length ≤ maxParams
  · rw [write_eq_raw ⟨procedure, count, params⟩, Writer.bytes_raw]
    constructor
    · intro h
      cases h
    · rintro ⟨many, -⟩
      exact absurd count (Nat.not_le.mpr many)
  · rw [write_of_tooMany (Nat.not_le.mp count), Writer.bytes_fail]
    constructor
    · intro h
      cases h
      exact ⟨Nat.not_le.mp count, rfl⟩
    · rintro ⟨-, rfl⟩
      rfl

end CallRequest

/-! ## Everything that can be written -/

/-- What can be written to a sink: the primitives, the null of a type, a value, and the two
requests, each part by part or as a whole within limits. -/
inductive Output where
  | byte (v : Int8)
  | short (v : Int16)
  | int (v : Int32)
  | long (v : Int64)
  | float (bits : UInt64)
  | boolean (v : Bool)
  | string (text : String)
  | varbinary (data : Bytes)
  | timestamp (micros : Int64)
  | raw (data : Bytes)
  | null (type : WireType)
  | value (v : Value)
  | loginParts (request : LoginRequest)
  | callParts (request : CallRequest)
  | login (request : LoginRequest) (limits : Limits)
  | call (request : CallRequest) (limits : Limits)

namespace Output

/-- Writes an output. -/
def write : Output → Writer
  | byte v => Writer.byte v
  | short v => Writer.short v
  | int v => Writer.int v
  | long v => Writer.long v
  | float bits => Writer.float bits
  | boolean v => Writer.boolean v
  | string text => Writer.string text
  | varbinary data => Writer.varbinary data
  | timestamp micros => Writer.timestamp micros
  | raw data => Writer.raw data
  | null type => type.writeNull
  | value v => v.marshal
  | loginParts request => request.write
  | callParts request => request.write
  | login request limits => request.send limits
  | call request limits => request.send limits

/-- Every string and byte array in an output is short enough for its length prefix. -/
def FieldsFit : Output → Prop
  | string text => (Utf8.ofString text).length ≤ Writer.maxCount
  | varbinary data => data.length ≤ Writer.maxCount
  | value v => v.FieldsFit
  | loginParts request | login request _ =>
    (Utf8.ofString request.username).length ≤ Writer.maxCount
  | callParts request | call request _ =>
    (Utf8.ofString request.procedure).length ≤ Writer.maxCount ∧
      ∀ v ∈ request.params, v.FieldsFit
  | _ => True

/-- The outputs that are refused, and why: a null of a type without a sentinel, a call with more
parameters than can be counted, a message above the limit. -/
def Refused : Output → WireError → Prop
  | null type, e => type ∈ [WireType.null, .decimal, .array] ∧ e = .unsupportedNullType type
  | callParts request, e => 32767 < request.params.length ∧
      e = .invalidValue (.tooManyParameters request.params.length)
  | login request limits, e => request.write.TooLarge limits ∧ e = .messageTooLarge
  | call request limits, e =>
      (32767 < request.params.length ∧
        e = .invalidValue (.tooManyParameters request.params.length)) ∨
      (request.write.TooLarge limits ∧ e = .messageTooLarge)
  | _, _ => False

end Output

namespace WireType

theorem nullPayload?_eq_none_iff {type : WireType} :
    type.nullPayload? = none ↔ type ∈ [null, decimal, array] := by
  cases type <;> simp [nullPayload?]

theorem writeNull_of_none {type : WireType} (h : type.nullPayload? = none) :
    type.writeNull = Transfer.fail (.unsupportedNullType type) := by
  rw [writeNull, h]

theorem writeNull_of_some {type : WireType} {payload : Bytes}
    (h : type.nullPayload? = some payload) :
    type.writeNull = Writer.raw (Bytes.ofByte type.tag ++ payload) := by
  rw [writeNull, h]
  exact Writer.raw_bind_raw _ _

theorem decided_writeNull (type : WireType) : type.writeNull.Decided := by
  cases h : type.nullPayload? with
  | none =>
    rw [writeNull_of_none h]
    exact Writer.decided_fail rfl
  | some payload =>
    rw [writeNull_of_some h]
    exact Writer.decided_raw _

theorem bytes_writeNull_eq_error_iff {type : WireType} {e : WireError} :
    type.writeNull.bytes = .error e ↔
      type ∈ [null, decimal, array] ∧ e = .unsupportedNullType type := by
  rw [← nullPayload?_eq_none_iff]
  cases h : type.nullPayload? with
  | none =>
    rw [writeNull_of_none h, Writer.bytes_fail]
    constructor
    · intro he
      cases he
      exact ⟨rfl, rfl⟩
    · rintro ⟨-, rfl⟩
      rfl
  | some payload =>
    rw [writeNull_of_some h, Writer.bytes_raw]
    exact iff_of_false (fun he => nomatch he) fun he => nomatch he.1

end WireType

namespace Output

theorem decided_write {output : Output} (h : output.FieldsFit) : output.write.Decided := by
  cases output with
  | string text => exact Or.inr ⟨_, Writer.counted_eq_raw "string" h⟩
  | varbinary data => exact Or.inr ⟨_, Writer.counted_eq_raw "varbinary" h⟩
  | null type => exact type.decided_writeNull
  | value v => exact Or.inr ⟨_, Value.marshal_eq_raw h⟩
  | loginParts request => exact LoginRequest.decided_write h
  | callParts request => exact CallRequest.decided_write h.1 h.2
  | login request limits => exact (LoginRequest.decided_write h).whole limits
  | call request limits => exact (CallRequest.decided_write h.1 h.2).whole limits
  -- a word is one offer by definition
  | _ => exact Writer.decided_raw _

/-- An output that amounts to an offer is not refused. -/
theorem bytes_ne_error {writer : Writer} {data : Bytes} (h : writer = Writer.raw data)
    (e : WireError) : writer.bytes ≠ .error e := by
  rw [h, Writer.bytes_raw]
  intro he
  cases he

theorem bytes_write_eq_error_iff {output : Output} (h : output.FieldsFit) (e : WireError) :
    output.write.bytes = .error e ↔ output.Refused e := by
  cases output with
  | string text =>
    exact iff_of_false (bytes_ne_error (Writer.counted_eq_raw "string" h) e) id
  | varbinary data =>
    exact iff_of_false (bytes_ne_error (Writer.counted_eq_raw "varbinary" h) e) id
  | value v => exact iff_of_false (bytes_ne_error (Value.marshal_eq_raw h) e) id
  | null type => exact WireType.bytes_writeNull_eq_error_iff
  | loginParts request =>
    exact iff_of_false (bytes_ne_error (LoginRequest.write_eq_raw h) e) id
  | callParts request => exact CallRequest.bytes_write_eq_error_iff h.1 h.2
  | login request limits =>
    show (request.write.whole limits).bytes = _ ↔ _
    rw [Writer.bytes_whole, Writer.message_eq_error_iff]
    exact or_iff_right (bytes_ne_error (LoginRequest.write_eq_raw h) e)
  | call request limits =>
    show (request.write.whole limits).bytes = _ ↔ _
    rw [Writer.bytes_whole, Writer.message_eq_error_iff,
      CallRequest.bytes_write_eq_error_iff h.1 h.2]
    rfl
  | _ => exact iff_of_false (bytes_ne_error rfl e) id

/-- **One law governs every write.**  Take any output whose strings and byte arrays can be counted.
Either it is refused, for one of the reasons in `Refused`, with the same error on every sink and
without a byte of it written, or a bounded sink comes to hold what of its bytes there was room for,
and the write fails just if that is not all of them.  So a request that is encoded first and one
that is written part by part cannot be told apart on any sink, unless the message is above the
limit. -/
theorem write_bounded :
    (∀ output : Output, output.FieldsFit →
      output.write.Bounded ∧ ∀ e, output.write.bytes = .error e ↔ output.Refused e) ∧
    (∀ (request : CallRequest) (limits : Limits), (callParts request).FieldsFit →
      ((∀ sink, (request.send limits).run sink = request.write.run sink) ↔
        ¬ request.write.TooLarge limits)) ∧
    (∀ (request : LoginRequest) (limits : Limits), (loginParts request).FieldsFit →
      ((∀ sink, (request.send limits).run sink = request.write.run sink) ↔
        ¬ request.write.TooLarge limits)) := by
  refine ⟨?_, ?_, ?_⟩
  · intro output fits
    exact ⟨(decided_write fits).bounded, bytes_write_eq_error_iff fits⟩
  · intro request limits fits
    exact (decided_write fits).run_whole_iff limits
  · intro request limits fits
    exact (decided_write fits).run_whole_iff limits

/-- A call that a sink has room for up to the tag of an element within an array, written part by
part and as a whole, and a null that the same sink never sees. -/
theorem write_bounded_within_array :
    let request : CallRequest := ⟨"P", 1, [.array [.short 1, .null ⟨.short, rfl⟩]]⟩
    let sink : Sink := ⟨#[7], some 24⟩
    let kept : Bytes := [7, 0, 0, 0, 0, 1, 80, 0, 0, 0, 0, 0, 0, 0, 1, 0, 1, 157, 0, 2, 4, 0, 1, 4]
    (callParts request).FieldsFit ∧ ¬ request.write.TooLarge {} ∧
      (∃ left, request.write.run sink = (.error (.io .full), left) ∧ left.toList = kept ∧
        (request.send {}).run sink = (.error (.io .full), left)) ∧
      WireType.array.writeNull.run sink = (.error (.unsupportedNullType .array), sink) := by
  intro request sink kept
  have fits : (callParts request).FieldsFit := by
    refine ⟨by decide, ?_⟩
    rw [List.forall_mem_singleton]
    exact .pair (.short _) (.null _)
  have data : request.write.bytes = .ok [0, 0, 0, 0, 1, 80, 0, 0, 0, 0, 0, 0, 0, 1, 0, 1,
      157, 0, 2, 4, 0, 1, 4, 128, 0] := by
    unfold request
    rfl
  have small : ¬ request.write.TooLarge {} := by
    rintro ⟨bytes, hbytes, large⟩
    rw [data] at hbytes
    cases hbytes
    exact absurd large (by decide)
  obtain ⟨law, calls, -⟩ := write_bounded
  obtain ⟨result, left, hrun, -, hleft, -, hfull⟩ :=
    (law (callParts request) fits).1.bounded _ data sink 24 rfl
  obtain rfl := hfull (by decide)
  have whole := (calls request {} fits).mpr small sink
  have refused := (law (null .array) trivial).1.refused (.unsupportedNullType .array) rfl
  exact ⟨fits, small, ⟨left, hrun, hleft, whole.trans hrun⟩, refused.2 sink⟩

end Output
end ProcWire

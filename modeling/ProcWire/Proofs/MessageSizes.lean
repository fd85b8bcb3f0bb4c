import ProcWire.Proofs.BoundedSinks

/-! # The sizes of messages

How long a request will be can be told without writing it.  `Value.size` adds up what the
parts of a value take, however deep they lie, and a request takes a fixed number of bytes
besides its text and its parameters.

`encode_size` says what comes of this under a limit on messages.  Too many parameters are refused
whatever the limit is; any other request is encoded if and only if its size is within the limit, and
the message then has just that size.
-/
namespace ProcWire

@[simp] theorem Bytes.length_counted (payload : Bytes) :
    (Bytes.counted payload).length = 4 + payload.length := by
  simp [Bytes.counted]

/-! ### Sizes -/

/-- The bytes that a null of a type takes: those of any value of the type, or a tag and a length
where values differ in size. -/
def NullType.size : NullType → Nat
  | ⟨.bool, _⟩ => 2
  | ⟨.short, _⟩ => 3
  | ⟨.int, _⟩ => 5
  | ⟨.long, _⟩ | ⟨.float, _⟩ | ⟨.timestamp, _⟩ => 9
  | ⟨.string, _⟩ | ⟨.varbinary, _⟩ => 5

namespace Value

mutual

/-- The bytes that a value takes, its tag among them. -/
def size : Value → Nat
  | bool _ | tinyInt _ => 2
  | short _ => 3
  | int _ => 5
  | long _ | float _ | timestamp _ => 9
  | string text => 5 + text.utf8ByteSize
  | varbinary data => 5 + data.length
  | array items => 3 + sizeAll items
  | null type => type.size

/-- The bytes that the values of a list take together. -/
def sizeAll : List Value → Nat
  | [] => 0
  | v :: after => size v + sizeAll after

end

end Value

/-- A sentinel is as long as its type says. -/
theorem NullType.length_bytes_erase (type : NullType) : type.erase.bytes.length = type.size := by
  obtain ⟨type, nullable⟩ := type
  cases type with
  | null => cases nullable
  | decimal => cases nullable
  | array => cases nullable
  | _ => rfl

/-- The tag of a wire value is one byte. -/
theorem WireValue.length_bytes (v : WireValue) : v.bytes.length = 1 + v.payload.length := by
  rw [bytes, List.length_append, Bytes.length_ofByte]

namespace Value
open WireValue (length_bytes)

mutual

/-- What is left of a value takes as many bytes as the value. -/
theorem length_bytes_erase : ∀ v : Value, v.erase.bytes.length = v.size
  | bool _ | tinyInt _ => by simp [erase, size, length_bytes, WireValue.payload]
  | short _ => by simp [erase, size, length_bytes, WireValue.payload]
  | int _ => by simp [erase, size, length_bytes, WireValue.payload]
  | long _ | timestamp _ => by simp [erase, size, length_bytes, WireValue.payload]
  | float _ => by simp [erase, size, length_bytes, WireValue.payload]
  | string text => by
    rw [erase, size, length_bytes, WireValue.payload, Bytes.length_counted, Utf8.length_ofString]
    omega
  | varbinary data => by
    rw [erase, size, length_bytes, WireValue.payload, Bytes.length_counted]
    omega
  | array items => by
    have elements := length_allBytes_eraseAll items
    rw [erase, size, length_bytes, WireValue.payload, List.length_append, Bytes.length_ofShort,
      elements]
    omega
  | null type => by
    rw [erase, size, type.length_bytes_erase]

theorem length_allBytes_eraseAll : ∀ items : List Value,
    (WireValue.allBytes (eraseAll items)).length = sizeAll items
  | [] => by rw [eraseAll, WireValue.allBytes_nil, sizeAll, List.length_nil]
  | v :: after => by
    rw [eraseAll, WireValue.allBytes_cons, List.length_append, sizeAll, length_bytes_erase v,
      length_allBytes_eraseAll after]

end

end Value

/-- The bytes of the message that asks for a call: fifteen, and the name and the parameters. -/
def CallRequest.size (request : CallRequest) : Nat :=
  15 + request.procedure.utf8ByteSize + Value.sizeAll request.params

theorem CallRequest.length_bytes (request : CallRequest) :
    request.bytes.length = request.size := by
  simp only [bytes, size, List.length_append, Bytes.length_ofByte, Bytes.length_counted,
    Bytes.length_ofLong, Bytes.length_ofShort, Value.length_allBytes_eraseAll,
    Utf8.length_ofString]
  omega

/-- The bytes of the message that opens a connection: forty-eight, and the name of the user. -/
def LoginRequest.size (request : LoginRequest) : Nat :=
  48 + request.username.utf8ByteSize

theorem LoginRequest.length_bytes (request : LoginRequest) :
    request.bytes.length = request.size := by
  have service : (Utf8.ofString service).length = 8 := by decide
  simp only [bytes, size, List.length_append, Bytes.length_counted, service,
    request.length_digest, Utf8.length_ofString]
  omega

/-! ### Messages and the limit on them -/

namespace Writer
variable {data : Bytes} {limits : Limits}

theorem message_raw_of_lt (h : limits.messageSize < data.length) :
    (raw data).message limits = .error .messageTooLarge :=
  message_eq_error_iff.mpr (Or.inr ⟨⟨data, bytes_raw data, h⟩, rfl⟩)

theorem message_raw_of_le (h : data.length ≤ limits.messageSize) :
    (raw data).message limits = .ok data :=
  message_eq_ok_iff.mpr ⟨bytes_raw data, h⟩

end Writer

/-- **The size of a request decides whether it is encoded.**  A call with more parameters than can
be counted is refused as such under every limit, whatever its size.  Any other call, and any login,
is too large if its size is above the limit; if not, it is encoded in just so many bytes. -/
theorem encode_size (limits : Limits) :
    (∀ call : CallRequest, call.procedure.utf8ByteSize ≤ Writer.maxCount →
      (∀ v ∈ call.params, v.FieldsFit) →
      (32767 < call.params.length →
        call.encode limits = .error (.invalidValue (.tooManyParameters call.params.length))) ∧
      (call.params.length ≤ 32767 → limits.messageSize < call.size →
        call.encode limits = .error .messageTooLarge) ∧
      (call.params.length ≤ 32767 → call.size ≤ limits.messageSize →
        ∃ e, call.encode limits = .ok e ∧ e.length = call.size)) ∧
    (∀ login : LoginRequest, login.username.utf8ByteSize ≤ Writer.maxCount →
      (limits.messageSize < login.size → login.encode limits = .error .messageTooLarge) ∧
      (login.size ≤ limits.messageSize →
        ∃ e, login.encode limits = .ok e ∧ e.length = login.size)) := by
  constructor
  · intro call procedure params
    rw [← Utf8.length_ofString] at procedure
    rw [CallRequest.encode, ← call.length_bytes]
    refine ⟨?_, ?_, ?_⟩
    · intro many
      rw [CallRequest.write_of_tooMany many]
      rfl
    · intro count large
      rw [CallRequest.write_eq_raw ⟨procedure, count, params⟩, Writer.message_raw_of_lt large]
    · intro count small
      rw [CallRequest.write_eq_raw ⟨procedure, count, params⟩, Writer.message_raw_of_le small]
      exact ⟨call.bytes, rfl, rfl⟩
  · intro login username
    rw [← Utf8.length_ofString] at username
    rw [LoginRequest.encode, LoginRequest.write_eq_raw username, ← login.length_bytes]
    constructor
    · exact Writer.message_raw_of_lt
    · intro small
      exact ⟨login.bytes, Writer.message_raw_of_le small, rfl⟩

/-- A call and a login at the limit and one byte above it, and a call with one parameter too many
where there is no room for any. -/
theorem encode_size_at_the_limit :
    let call : CallRequest :=
      ⟨"é", 7, [.array [.string "é", .null ⟨.string, rfl⟩], .null ⟨.float, rfl⟩, .bool true]⟩
    let many : CallRequest := ⟨"P", 0, List.replicate 32768 (.bool true)⟩
    let login : LoginRequest := ⟨"é", List.replicate 32 7, rfl⟩
    (call.size = 43 ∧ (∃ e, call.encode ⟨43, 0⟩ = .ok e ∧ e.length = 43) ∧
      call.encode ⟨42, 0⟩ = .error .messageTooLarge) ∧
    many.encode ⟨0, 0⟩ = .error (.invalidValue (.tooManyParameters 32768)) ∧
    (login.size = 50 ∧ (∃ e, login.encode ⟨50, 0⟩ = .ok e ∧ e.length = 50) ∧
      login.encode ⟨49, 0⟩ = .error .messageTooLarge) := by
  intro call many login
  have params : ∀ v ∈ call.params, v.FieldsFit := by
    rw [List.forall_mem_cons, List.forall_mem_cons, List.forall_mem_singleton]
    exact ⟨.pair (.string _ (by decide)) (.null _), .null _, .bool _⟩
  have manyParams : ∀ v ∈ many.params, v.FieldsFit := by
    intro v hv
    rw [List.eq_of_mem_replicate hv]
    exact .bool true
  have manyCount : many.params.length = 32768 := List.length_replicate
  have callSize : call.size = 43 := by decide
  have loginSize : login.size = 50 := by decide
  obtain ⟨atLimit, -⟩ := encode_size ⟨43, 0⟩
  obtain ⟨below, -⟩ := encode_size ⟨42, 0⟩
  obtain ⟨noRoom, -⟩ := encode_size ⟨0, 0⟩
  refine ⟨⟨callSize, ?_, ?_⟩, ?_, loginSize, ?_, ?_⟩
  · rw [← callSize]
    exact (atLimit call (by decide) params).2.2 (by decide) (by decide)
  · exact (below call (by decide) params).2.1 (by decide) (by decide)
  · rw [← manyCount]
    exact (noRoom many (by decide) manyParams).1 (by rw [manyCount]; decide)
  · rw [← loginSize]
    exact ((encode_size ⟨50, 0⟩).2 login (by decide)).2 (by decide)
  · exact ((encode_size ⟨49, 0⟩).2 login (by decide)).1 (by decide)

end ProcWire

import ProcWire.Proofs.Marshalling
import ProcWire.Request.Call

/-! # Requests as the server reads them

A request is laid out so that each part says where it ends: a fixed width, a length,
or, for the parameters of a call, their number and then a tag for each.  So the server
can take it apart again.  `CallRequest.parse` and `LoginRequest.parse` are its reading
of the two kinds of request.

A request is encoded only when every part can be counted, and then as `bytes` says,
whatever the limits are (`of_encode`).  Parsing these bytes gives back the request, as
far as marshalling has kept its parameters (`parse_bytes`), and so two requests have
the same bytes only if they are the same to that extent (`bytes_eq_iff`).
-/
namespace ProcWire

/-- A message is the bytes of its writer, if the limit allows for them. -/
theorem Writer.message_eq_ok_iff {writer : Writer} {limits : Limits} {e : Bytes} :
    writer.message limits = .ok e ↔ writer.bytes = .ok e ∧ e.length ≤ limits.messageSize := by
  rw [message]
  cases writer.bytes with
  | error error =>
    constructor
    · intro h
      cases h
    · rintro ⟨h, -⟩
      cases h
  | ok bytes =>
    show (if bytes.length > limits.messageSize then Except.error WireError.messageTooLarge
      else Except.ok bytes) = Except.ok e ↔ _
    split
    · rename_i hlarge
      constructor
      · intro h
        cases h
      · rintro ⟨h, hle⟩
        cases h
        exact absurd hle (Nat.not_le.mpr hlarge)
    · rename_i hle
      constructor
      · intro h
        cases h
        exact ⟨rfl, Nat.not_lt.mp hle⟩
      · exact And.left

/-- Reads a string behind its length. -/
def Parser.string : Parser String := Parser.ofReader (Reader.string WireValue.noLimit)

theorem Parser.string_counted {text : String}
    (h : (Utf8.ofString text).length ≤ Writer.maxCount) (rest : Bytes) :
    Parser.string (Bytes.counted (Utf8.ofString text) ++ rest) = some (text, rest) :=
  Parser.run_ofReader (Reader.accepts_string _) (Or.inl (WireValue.counted_noLimit h)) rest

namespace Value

/-- What is marshalled of each parameter, in order. -/
def encodings (params : List Value) : List (Except WireError Bytes) :=
  params.map fun v => v.marshal.bytes

theorem encodings_eq {params : List Value} (h : ∀ v ∈ params, v.FieldsFit) :
    encodings params = ((eraseAll params).map WireValue.bytes).map Except.ok := by
  rw [encodings, eraseAll_eq_map, List.map_map, List.map_map]
  refine List.map_congr_left fun v hv => ?_
  rw [marshal_eq_raw (h v hv), Writer.bytes_raw]
  rfl

/-- Parameters are marshalled alike just if their erasures have the same bytes one by one. -/
theorem encodings_eq_iff {params others : List Value} (h : ∀ v ∈ params, v.FieldsFit)
    (h' : ∀ v ∈ others, v.FieldsFit) :
    encodings params = encodings others ↔
      (eraseAll params).map WireValue.bytes = (eraseAll others).map WireValue.bytes := by
  rw [encodings_eq h, encodings_eq h']
  exact List.map_inj_right fun _ _ => Except.ok.inj

end Value

/-! ## Calls -/

namespace CallRequest

/-- What the server finds in a call request. -/
structure Parsed where
  procedure : String
  handle : Int64
  params : List WireValue

/-- Reads a call request: a zero byte, the procedure, the handle, and the parameters behind their
number. -/
def parse : Parser Parsed := do
  let timeout ← Parser.ofReader Reader.byte
  if timeout ≠ 0 then failure
  let procedure ← Parser.string
  let handle ← Parser.ofReader Reader.long
  let count ← Parser.ofReader Reader.short
  let params ← Parser.times count.toNatClampNeg WireValue.read
  pure ⟨procedure, handle, params⟩

/-- What the server is to find: the parameters as far as they are kept. -/
def parsed (request : CallRequest) : Parsed where
  procedure := request.procedure
  handle := request.handle
  params := request.params.map Value.erase

/-- Every part of the request is short enough to be counted. -/
structure Fits (request : CallRequest) : Prop where
  procedure : (Utf8.ofString request.procedure).length ≤ Writer.maxCount
  count : request.params.length ≤ maxParams
  params : ∀ v ∈ request.params, v.FieldsFit

/-- The parts of a call request, laid end to end. -/
def bytes (request : CallRequest) : Bytes :=
  Bytes.ofByte 0 ++ (Bytes.counted (Utf8.ofString request.procedure) ++
    (Bytes.ofLong request.handle ++ (Bytes.ofShort (Int16.ofNat request.params.length) ++
      WireValue.allBytes (Value.eraseAll request.params))))

variable {request other : CallRequest}

theorem write_eq_raw (h : request.Fits) : request.write = Writer.raw request.bytes := by
  have params := Value.marshalAll_eq_raw fun v hv => Value.marshal_eq_raw (h.params v hv)
  rw [write, if_neg (Nat.not_lt.mpr h.count), params, Writer.byte_eq_raw, Writer.string,
    Writer.counted_eq_raw "string" h.procedure, Writer.long_eq_raw, Writer.short_eq_raw,
    Writer.raw_bind_raw, Writer.raw_bind_raw, Writer.raw_bind_raw, Writer.raw_bind_raw, bytes]

theorem fits_of_run_write {sink sink' : Sink} (h : request.write.run sink = (.ok (), sink')) :
    request.Fits := by
  rw [write] at h
  split at h
  · cases h
  · rename_i hcount
    obtain ⟨_, _, -, h₁⟩ := Transfer.of_run_bind_ok h
    obtain ⟨_, _, hprocedure, h₂⟩ := Transfer.of_run_bind_ok h₁
    obtain ⟨_, _, -, h₃⟩ := Transfer.of_run_bind_ok h₂
    obtain ⟨_, _, -, hparams⟩ := Transfer.of_run_bind_ok h₃
    exact ⟨Writer.length_le_of_counted hprocedure, Nat.not_lt.mp hcount,
      Value.fieldsFit_of_run_marshalAll _ hparams⟩

/-- Only requests that fit are encoded, and the limits do not change the bytes. -/
theorem of_encode {limits : Limits} {e : Bytes} (h : request.encode limits = .ok e) :
    request.Fits ∧ e = request.bytes := by
  obtain ⟨hwrite, -⟩ := Writer.message_eq_ok_iff.mp h
  obtain ⟨sink, hrun, -⟩ := Writer.bytes_eq_ok_iff.mp hwrite
  have fits := fits_of_run_write hrun
  rw [write_eq_raw fits, Writer.bytes_raw] at hwrite
  exact ⟨fits, (Except.ok.inj hwrite).symm⟩

/-- **The server finds what was sent**, whatever follows it on the stream. -/
theorem parse_bytes (h : request.Fits) (constructible : ∀ v ∈ request.params, v.Constructible)
    (tail : Bytes) : parse (request.bytes ++ tail) = some (request.parsed, tail) := by
  have number : (Int16.ofNat request.params.length).toNatClampNeg =
      (Value.eraseAll request.params).length := by
    rw [Value.eraseAll_eq_map, List.length_map]
    exact (Reader.of_toInt_eq_short (Int16.toInt_ofNat_of_lt (Nat.lt_succ_of_le h.count))).2
  have reads : ∀ e ∈ Value.eraseAll request.params, ∀ tail,
      WireValue.read (e.bytes ++ tail) = some (e, tail) := by
    intro e he
    rw [Value.eraseAll_eq_map] at he
    obtain ⟨v, hv, rfl⟩ := List.mem_map.mp he
    exact WireValue.read_bytes (Value.fits_erase (constructible v hv) (h.params v hv))
  rw [parse, bytes]
  simp only [List.append_assoc]
  rw [Parser.run_bind (Parser.run_ofReader Reader.accepts_byte rfl _)]
  show (Parser.string >>= _) _ = _
  rw [Parser.run_bind (Parser.string_counted h.procedure _),
    Parser.run_bind (Parser.run_ofReader Reader.accepts_long rfl _),
    Parser.run_bind (Parser.run_ofReader Reader.accepts_short rfl _), number,
    Parser.run_bind (WireValue.times_allBytes reads tail), Value.eraseAll_eq_map]
  rfl

/-- **Calls have the same bytes just if the server need not tell them apart.** -/
theorem bytes_eq_iff (h : request.Fits) (h' : other.Fits)
    (constructible : ∀ v ∈ request.params, v.Constructible)
    (constructible' : ∀ v ∈ other.params, v.Constructible) :
    request.bytes = other.bytes ↔ request.procedure = other.procedure ∧
      request.handle = other.handle ∧
      Value.encodings request.params = Value.encodings other.params := by
  rw [Value.encodings_eq_iff h.params h'.params]
  constructor
  · intro same
    have found := parse_bytes h constructible []
    rw [same, parse_bytes h' constructible' []] at found
    have parts := congrArg Prod.fst (Option.some.inj found)
    obtain ⟨procedure, handle, params⟩ := Parsed.mk.inj parts.symm
    rw [Value.eraseAll_eq_map, Value.eraseAll_eq_map, params]
    exact ⟨procedure, handle, rfl⟩
  · rintro ⟨procedure, handle, params⟩
    have count : request.params.length = other.params.length := by
      simpa only [Value.eraseAll_eq_map, List.length_map] using congrArg List.length params
    have all : WireValue.allBytes (Value.eraseAll request.params) =
        WireValue.allBytes (Value.eraseAll other.params) := by
      rw [WireValue.allBytes_eq_flatMap, WireValue.allBytes_eq_flatMap, List.flatMap_def,
        List.flatMap_def, params]
    rw [bytes, bytes, procedure, handle, count, all]

end CallRequest

/-! ## Logins -/

namespace LoginRequest

/-- What the server finds in a login request. -/
structure Parsed where
  service : String
  username : String
  digest : Bytes

/-- Reads a login request: the service, the user, and the 32 bytes of the digest. -/
def parse : Parser Parsed := do
  let service ← Parser.string
  let username ← Parser.string
  let digest ← Parser.ofReader (Reader.raw 32)
  pure ⟨service, username, digest⟩

/-- What the server is to find. -/
def parsed (request : LoginRequest) : Parsed where
  service := "database"
  username := request.username
  digest := request.digest

/-- The parts of a login request, laid end to end. -/
def bytes (request : LoginRequest) : Bytes :=
  Bytes.counted (Utf8.ofString service) ++ (Bytes.counted (Utf8.ofString request.username) ++
    request.digest)

variable {request other : LoginRequest}

theorem length_ofString_service : (Utf8.ofString service).length ≤ Writer.maxCount := by
  decide

theorem write_eq_raw (h : (Utf8.ofString request.username).length ≤ Writer.maxCount) :
    request.write = Writer.raw request.bytes := by
  rw [write, Writer.string, Writer.string, Writer.counted_eq_raw "string" length_ofString_service,
    Writer.counted_eq_raw "string" h, Writer.raw_bind_raw, Writer.raw_bind_raw, bytes]

/-- Only requests whose username can be counted are encoded, and the limits do not change the
bytes. -/
theorem of_encode {limits : Limits} {e : Bytes} (h : request.encode limits = .ok e) :
    (Utf8.ofString request.username).length ≤ Writer.maxCount ∧ e = request.bytes := by
  obtain ⟨hwrite, -⟩ := Writer.message_eq_ok_iff.mp h
  obtain ⟨sink, hrun, -⟩ := Writer.bytes_eq_ok_iff.mp hwrite
  rw [write] at hrun
  obtain ⟨_, _, -, h₁⟩ := Transfer.of_run_bind_ok hrun
  obtain ⟨_, _, husername, -⟩ := Transfer.of_run_bind_ok h₁
  have fits := Writer.length_le_of_counted husername
  rw [write_eq_raw fits, Writer.bytes_raw] at hwrite
  exact ⟨fits, (Except.ok.inj hwrite).symm⟩

/-- **The server finds what was sent**, whatever follows it on the stream. -/
theorem parse_bytes (h : (Utf8.ofString request.username).length ≤ Writer.maxCount)
    (tail : Bytes) : parse (request.bytes ++ tail) = some (request.parsed, tail) := by
  rw [parse, bytes, List.append_assoc, List.append_assoc,
    Parser.run_bind (Parser.string_counted length_ofString_service _),
    Parser.run_bind (Parser.string_counted h _),
    Parser.run_bind (Parser.run_ofReader (Reader.accepts_raw 32) ⟨rfl, request.length_digest⟩ _)]
  rfl

/-- Logins have the same bytes just if user and digest are the same. -/
theorem bytes_eq_iff (h : (Utf8.ofString request.username).length ≤ Writer.maxCount)
    (h' : (Utf8.ofString other.username).length ≤ Writer.maxCount) :
    request.bytes = other.bytes ↔
      request.username = other.username ∧ request.digest = other.digest := by
  constructor
  · intro same
    have found := parse_bytes h []
    rw [same, parse_bytes h' []] at found
    have parts := congrArg Prod.fst (Option.some.inj found)
    obtain ⟨-, username, digest⟩ := Parsed.mk.inj parts.symm
    exact ⟨username, digest⟩
  · rintro ⟨username, digest⟩
    rw [bytes, bytes, username, digest]

end LoginRequest

/-! ## Every request can be told from every other -/

/-- **Requests are uniquely decodable.**  What is encoded of a call, under whatever limits, parses
back without a byte left over: the procedure, the handle, and of each parameter in its turn what
erasure leaves.  So two calls are encoded alike if and only if procedure and handle are the same and
the parameters, one by one, are marshalled alike.  What is encoded of a login parses back as the
service, the user and the digest, and two logins are encoded alike only if these are the same. -/
theorem parse_encode_unique :
    (∀ (call : CallRequest) (limits : Limits) (e : Bytes),
      (∀ v ∈ call.params, v.Constructible) → call.encode limits = .ok e →
        CallRequest.parse e =
          some (⟨call.procedure, call.handle, call.params.map Value.erase⟩, [])) ∧
    (∀ (call other : CallRequest) (limits limits' : Limits) (e f : Bytes),
      (∀ v ∈ call.params, v.Constructible) → (∀ v ∈ other.params, v.Constructible) →
      call.encode limits = .ok e → other.encode limits' = .ok f →
        (e = f ↔ call.procedure = other.procedure ∧ call.handle = other.handle ∧
          call.params.map (fun v => v.marshal.bytes) =
            other.params.map (fun v => v.marshal.bytes))) ∧
    (∀ (login : LoginRequest) (limits : Limits) (e : Bytes), login.encode limits = .ok e →
        LoginRequest.parse e = some (⟨"database", login.username, login.digest⟩, [])) ∧
    (∀ (login other : LoginRequest) (limits limits' : Limits) (e f : Bytes),
      login.encode limits = .ok e → other.encode limits' = .ok f →
        (e = f ↔ login.username = other.username ∧ login.digest = other.digest)) := by
  refine ⟨?_, ?_, ?_, ?_⟩
  · intro call limits e constructible h
    obtain ⟨fits, rfl⟩ := CallRequest.of_encode h
    have found := CallRequest.parse_bytes fits constructible []
    rwa [List.append_nil] at found
  · intro call other limits limits' e f constructible constructible' h h'
    obtain ⟨fits, rfl⟩ := CallRequest.of_encode h
    obtain ⟨fits', rfl⟩ := CallRequest.of_encode h'
    exact CallRequest.bytes_eq_iff fits fits' constructible constructible'
  · intro login limits e h
    obtain ⟨fits, rfl⟩ := LoginRequest.of_encode h
    have found := LoginRequest.parse_bytes fits []
    rwa [List.append_nil] at found
  · intro login other limits limits' e f h h'
    obtain ⟨fits, rfl⟩ := LoginRequest.of_encode h
    obtain ⟨fits', rfl⟩ := LoginRequest.of_encode h'
    exact LoginRequest.bytes_eq_iff fits fits'

/-- Two calls that no server can tell apart, and two logins that differ in their digests. -/
theorem parse_encode_twin_requests :
    let call : CallRequest :=
      ⟨"Go", 42, [.array [.bool true, .null ⟨.bool, rfl⟩], .null ⟨.string, rfl⟩]⟩
    let twin : CallRequest :=
      ⟨"Go", 42, [.array [.tinyInt 1, .tinyInt (-128)], .null ⟨.string, rfl⟩]⟩
    let e : Bytes := [0, 0, 0, 0, 2, 71, 111, 0, 0, 0, 0, 0, 0, 0, 42, 0, 2,
      157, 0, 2, 3, 1, 3, 128, 9, 255, 255, 255, 255]
    let login : LoginRequest := ⟨"me", List.replicate 32 7, rfl⟩
    let other : LoginRequest := ⟨"me", List.replicate 32 8, rfl⟩
    let fields : Bytes := [0, 0, 0, 8, 100, 97, 116, 97, 98, 97, 115, 101, 0, 0, 0, 2, 109, 101]
    ((∀ v ∈ call.params, v.Constructible) ∧ (∀ v ∈ twin.params, v.Constructible) ∧
      call.encode {} = .ok e ∧ twin.encode {} = .ok e ∧
      CallRequest.parse e =
        some (⟨"Go", 42, [.array [.byte 1, .byte (-128)], .string none]⟩, []) ∧
      call.params.map (fun v => v.marshal.bytes) = twin.params.map fun v => v.marshal.bytes) ∧
    login.encode {} = .ok (fields ++ List.replicate 32 7) ∧
      other.encode {} = .ok (fields ++ List.replicate 32 8) ∧
      LoginRequest.parse (fields ++ List.replicate 32 7) =
        some (⟨"database", "me", List.replicate 32 7⟩, []) ∧
      fields ++ List.replicate 32 7 ≠ fields ++ List.replicate 32 8 := by
  intro call twin e login other fields
  have hcall : ∀ v ∈ call.params, v.Constructible := by
    rw [List.forall_mem_cons, List.forall_mem_singleton]
    exact ⟨.pair (.bool _) (.null _) rfl, .null _⟩
  have htwin : ∀ v ∈ twin.params, v.Constructible := by
    rw [List.forall_mem_cons, List.forall_mem_singleton]
    exact ⟨.pair (.tinyInt _) (.tinyInt _) rfl, .null _⟩
  have he : call.encode {} = .ok e := by
    unfold call e
    rfl
  have he' : twin.encode {} = .ok e := by
    unfold twin e
    rfl
  have hlogin : login.encode {} = .ok (fields ++ List.replicate 32 7) := by
    unfold login fields
    rfl
  have hother : other.encode {} = .ok (fields ++ List.replicate 32 8) := by
    unfold other fields
    rfl
  obtain ⟨calls, callsDiffer, logins, loginsDiffer⟩ := parse_encode_unique
  refine ⟨⟨hcall, htwin, he, he', calls call {} e hcall he, ?_⟩, hlogin, hother,
    logins login {} _ hlogin, ?_⟩
  · exact ((callsDiffer call twin {} {} e e hcall htwin he he').mp rfl).2.2
  · rw [Ne, loginsDiffer login other {} {} _ _ hlogin hother]
    rintro ⟨-, digest⟩
    exact absurd digest (by decide)

end ProcWire

import ProcWire.Proofs.Forms
import ProcWire.Response.Login

/-! # The forms of a login response

A login that is accepted is answered by a zero byte and what the server says about itself, all of
it in fields of fixed width but for the name of its build at the end.  `LoginResponse.Form` writes
this down, and `LoginResponse.accepts_read` says that the reader accepts it and nothing else.  A
login that is refused is answered by a single byte.

The address of the leader is a signed number to the reader, but four bytes on the wire.  The
dotted form shows these four, from the first to the last, so the sign never matters.
-/
namespace ProcWire.LoginResponse
open Reader

/-- The forms of a login response: the byte that accepts, the two numbers that the server goes by,
eight bytes that are skipped, the leader's address, and the name of the build. -/
def Form (limits : Limits) (response : LoginResponse) (used : Bytes) : Prop :=
  ∃ skipped build : Bytes, skipped.length = 8 ∧
    StringForm limits.fieldLength response.build build ∧
    used = [0] ++ Bytes.ofInt response.hostId ++ Bytes.ofLong response.connectionId ++ skipped ++
      Bytes.ofInt response.leaderAddress ++ build

theorem accepts_read (limits : Limits) : Accepts (read limits) (Form limits) := by
  have zero : [0] = Bytes.ofByte 0 := rfl
  intro stream response rest
  rw [read]
  constructor
  · intro h
    obtain ⟨result, _, tail, rfl, rfl, h₁⟩ := accepts_byte.of_bind h
    split at h₁
    · cases h₁
    rename_i accepted
    obtain ⟨hostId, _, tail, rfl, rfl, h₂⟩ := accepts_int.of_bind h₁
    obtain ⟨connectionId, _, tail, rfl, rfl, h₃⟩ := accepts_long.of_bind h₂
    obtain ⟨clusterStart, _, tail, rfl, rfl, h₄⟩ := accepts_long.of_bind h₃
    obtain ⟨leaderAddress, _, tail, rfl, rfl, h₅⟩ := accepts_int.of_bind h₄
    obtain ⟨build, text, tail, htext, rfl, h₆⟩ := (accepts_string _).of_bind h₅
    cases h₆
    refine ⟨_, ⟨Bytes.ofLong clusterStart, text, Bytes.length_ofLong _, htext, rfl⟩, ?_⟩
    rw [show result = 0 from Decidable.not_not.mp accepted, zero]
    simp only [List.append_assoc]
  · rintro ⟨used, ⟨skipped, text, hskipped, htext, hused⟩, rfl⟩
    -- any eight bytes will do for the time that is skipped
    obtain ⟨clusterStart, rfl⟩ := Bytes.exists_ofLong skipped hskipped
    rw [hused, zero]
    simp only [List.append_assoc]
    rw [accepts_byte.run_bind rfl, if_neg (fun refused => refused rfl), accepts_int.run_bind rfl,
      accepts_long.run_bind rfl, accepts_long.run_bind rfl, accepts_int.run_bind rfl,
      (accepts_string _).run_bind htext]
    rfl

/-- The four bytes of an address, in dotted form. -/
theorem leaderIpv4_eq (response : LoginResponse) : ∃ a b c d : UInt8,
    Bytes.ofInt response.leaderAddress = [a, b, c, d] ∧
      response.leaderIpv4 = s!"{a.toNat}.{b.toNat}.{c.toNat}.{d.toNat}" :=
  ⟨_, _, _, _, rfl, rfl⟩

/-- The leader's address begins behind the first twenty-one bytes of a form. -/
theorem Form.leaderAddress {limits : Limits} {response : LoginResponse} {used : Bytes}
    (h : Form limits response used) (rest : Bytes) :
    ((used ++ rest).drop 21).take 4 = Bytes.ofInt response.leaderAddress := by
  obtain ⟨skipped, build, hskipped, -, rfl⟩ := h
  have before : ([0] ++ Bytes.ofInt response.hostId ++ Bytes.ofLong response.connectionId ++
      skipped).length = 21 := by
    simp [hskipped]
  rw [List.append_assoc, List.append_assoc, List.drop_left' before,
    List.take_left' (Bytes.length_ofInt _)]

/-- A login is refused by its first byte, and no more of the stream is taken. -/
theorem takes_refused (limits : Limits) {code : UInt8} (refused : code ≠ 0) (rest : Bytes) :
    Takes (read limits) (code :: rest) (.error (.authenticationFailed code.toInt8)) 1 := by
  have form : code :: rest = Bytes.ofByte code.toInt8 ++ rest := by
    rw [Bytes.ofByte_eq, UInt8.toUInt8_toInt8]
    rfl
  have signed : code.toInt8 ≠ 0 := by
    intro zero
    refine refused ?_
    rw [← UInt8.toUInt8_toInt8 code, zero]
    rfl
  refine ⟨Nat.succ_le_succ (Nat.zero_le _), ?_⟩
  rw [read, form, accepts_byte.run_bind rfl, if_pos signed]
  rfl

/-- **The login response decoder accepts exactly its format.**  It ends with a response on `n` bytes
if and only if these are a form of it, and bytes 21 to 24 are then the leader's address as it is
shown, in this order.  If the first byte is not zero, the login is refused with it as a code, and
nothing behind it is looked at. -/
theorem takes_accepted_or_refused (limits : Limits) :
    (∀ (response : LoginResponse) (stream : Bytes) (n : Nat),
      Takes (read limits) stream (.ok response) n ↔
        n ≤ stream.length ∧ Form limits response (stream.take n)) ∧
    (∀ (response : LoginResponse) (stream : Bytes) (n : Nat),
      Takes (read limits) stream (.ok response) n → ∃ a b c d : UInt8,
        (stream.drop 21).take 4 = [a, b, c, d] ∧
          response.leaderIpv4 = s!"{a.toNat}.{b.toNat}.{c.toNat}.{d.toNat}") ∧
    (∀ (code : UInt8) (rest : Bytes), code ≠ 0 →
      Takes (read limits) (code :: rest) (.error (.authenticationFailed code.toInt8)) 1) := by
  refine ⟨fun _ _ _ => (accepts_read limits).takes_iff, ?_,
    fun _ rest refused => takes_refused limits refused rest⟩
  intro response stream n takes
  obtain ⟨-, form⟩ := (accepts_read limits).takes_iff.mp takes
  obtain ⟨a, b, c, d, address, dotted⟩ := response.leaderIpv4_eq
  have found := form.leaderAddress (stream.drop n)
  rw [List.take_append_drop] at found
  exact ⟨a, b, c, d, found.trans address, dotted⟩

/-- A response whose leader has an address above 127.255.255.255 and whose build has no name, and a
refusal with a code above 127. -/
theorem takes_accepted_with_high_address :
    let response : LoginResponse := ⟨2, -1, -1062731519, ""⟩
    let used : Bytes := [0, 0, 0, 0, 2, 0xFF, 0xFF, 0xFF, 0xFF, 0xFF, 0xFF, 0xFF, 0xFF,
      1, 2, 3, 4, 5, 6, 7, 8, 192, 168, 1, 1, 0xFF, 0xFF, 0xFF, 0xFF]
    Form {} response used ∧ Takes (read {}) (used ++ [7]) (.ok response) 29 ∧
      response.leaderIpv4 = "192.168.1.1" ∧
      Takes (read {}) [0xFF, 1, 2] (.error (.authenticationFailed (-1))) 1 := by
  intro response used
  have form : Form {} response used :=
    ⟨[1, 2, 3, 4, 5, 6, 7, 8], [0xFF, 0xFF, 0xFF, 0xFF], rfl, Or.inr ⟨rfl, by decide⟩, by decide⟩
  obtain ⟨accepted, shown, refused⟩ := takes_accepted_or_refused {}
  have whole : (used ++ [7]).take 29 = used := rfl
  have takes := (accepted response (used ++ [7]) 29).mpr ⟨by decide, whole ▸ form⟩
  obtain ⟨a, b, c, d, address, dotted⟩ := shown response (used ++ [7]) 29 takes
  have bytes : [192, 168, 1, 1] = [a, b, c, d] := address
  cases bytes
  exact ⟨form, takes, dotted, refused 0xFF [1, 2] (by decide)⟩

end ProcWire.LoginResponse

import ProcWire.Proofs.ResponseForms
import ProcWire.Response.Login

/-! # Decoders look at no more than they take

A decoder reads a stream that may go on after the message, or stop short of its end.
It is *stream local* when the bytes that it takes decide how it ends: with anything
else behind them it ends in the same way, and with any fewer of them it ends because
the stream did.  So it never reads ahead, and it never judges a message before the
last of the bytes that the judgement rests on is there.

The unit of the argument is `Settles`: the bytes `used` are just what a reader needs
to come to an outcome.  Settling composes along a sequence of readers
(`Settles.bind`), so `Local` (every stream either settles the reader or is too short
for it) goes from the primitives to the three decoders.  Messages laid end to end are
then decoded one after the other, whether each is well formed or not.
-/
namespace ProcWire

/-- The errors of a stream that ended too early. -/
def WireError.IsCut : WireError → Prop
  | .io _ | .framing _ _ => True
  | _ => False

namespace Reader
variable {α β : Type}

/-- An outcome that is owed to the end of the stream. -/
def CutShort (outcome : Except WireError α) : Prop := ∃ e, outcome = .error e ∧ e.IsCut

/-- The bytes a reader takes decide how it ends: nothing behind them matters, and none of them
can be missing. -/
def StreamLocal (t : Reader α) : Prop :=
  ∀ stream, ∃ n, Takes t stream (t.run stream).1 n ∧
    (¬ CutShort (t.run stream).1 →
      (∀ tail, Takes t (stream.take n ++ tail) (t.run stream).1 n) ∧
      ∀ k, k < n → CutShort (t.run (stream.take k)).1)

/-- The bytes `used` are just what the reader needs to come to `outcome`. -/
structure Settles (t : Reader α) (used : Bytes) (outcome : Except WireError α) : Prop where
  run : ∀ tail, t.run (used ++ tail) = (outcome, tail)
  settled : ¬ CutShort outcome
  needs : ∀ part more, used = part ++ more → more ≠ [] → CutShort (t.run part).1

/-- Every stream either begins with what settles the reader or is cut short. -/
def Local (t : Reader α) : Prop :=
  ∀ stream, (∃ used rest outcome, stream = used ++ rest ∧ Settles t used outcome) ∨
    ∃ e, t.run stream = (.error e, []) ∧ e.IsCut

theorem not_cutShort_ok (a : α) : ¬ CutShort (.ok a : Except WireError α) := by
  rintro ⟨e, he, -⟩
  cases he

theorem not_cutShort_error {e : WireError} (h : ¬ e.IsCut) :
    ¬ CutShort (.error e : Except WireError α) := by
  rintro ⟨d, hd, hcut⟩
  cases hd
  exact h hcut

/-! ## Sequences -/

theorem cutShort_bind {t : Reader α} {next : α → Reader β} {stream : Bytes}
    (h : CutShort (t.run stream).1) : CutShort ((t >>= next).run stream).1 := by
  obtain ⟨e, he, hcut⟩ := h
  have hrun : t.run stream = (.error e, (t.run stream).2) := Prod.ext he rfl
  rw [Transfer.run_bind_error hrun]
  exact ⟨e, rfl, hcut⟩

/-- What settles the first reader and what settles the next settle the two in sequence. -/
theorem Settles.bind {t : Reader α} {next : α → Reader β} {used more : Bytes} {a : α}
    {outcome : Except WireError β} (first : Settles t used (.ok a))
    (second : Settles (next a) more outcome) : Settles (t >>= next) (used ++ more) outcome where
  run tail := by
    rw [List.append_assoc, Transfer.run_bind_ok (first.run _), second.run]
  settled := second.settled
  needs part missing hsplit hne := by
    -- the cut falls within the second part, or within the first
    rcases List.append_eq_append_iff.mp hsplit with ⟨inner, rfl, hmore⟩ | ⟨inner, hused, rfl⟩
    · rw [Transfer.run_bind_ok (first.run _)]
      exact second.needs inner missing hmore hne
    · cases inner with
      | nil =>
        rw [List.append_nil] at hused
        subst hused
        rw [← List.append_nil used, Transfer.run_bind_ok (first.run _)]
        exact second.needs [] more rfl hne
      | cons b inner =>
        exact cutShort_bind (first.needs part (b :: inner) hused (List.cons_ne_nil _ _))

/-- A failure of the first reader settles the sequence. -/
theorem Settles.bind_error {t : Reader α} {next : α → Reader β} {used : Bytes} {e : WireError}
    (first : Settles t used (.error e)) : Settles (t >>= next) used (.error e) where
  run tail := Transfer.run_bind_error (first.run tail) next
  settled := by
    rintro ⟨d, hd, hcut⟩
    cases hd
    exact first.settled ⟨e, rfl, hcut⟩
  needs part missing hsplit hne := cutShort_bind (first.needs part missing hsplit hne)

theorem Local.bind {t : Reader α} {next : α → Reader β} (ht : Local t)
    (hnext : ∀ a, Local (next a)) : Local (t >>= next) := by
  intro stream
  rcases ht stream with ⟨used, rest, outcome, rfl, first⟩ | ⟨e, hrun, hcut⟩
  · cases outcome with
    | error e => exact Or.inl ⟨used, rest, .error e, rfl, first.bind_error⟩
    | ok a =>
      rcases hnext a rest with ⟨more, rest, outcome, rfl, second⟩ | ⟨e, hrun, hcut⟩
      · exact Or.inl ⟨used ++ more, rest, outcome, (List.append_assoc ..).symm, first.bind second⟩
      · exact Or.inr ⟨e, (Transfer.run_bind_ok (first.run rest) next).trans hrun, hcut⟩
  · exact Or.inr ⟨e, Transfer.run_bind_error hrun next, hcut⟩

/-- An outcome that no byte has a part in is settled from the start. -/
theorem local_lift {result : Except WireError α} (h : ¬ CutShort result) :
    Local (Transfer.lift result : Reader α) := by
  refine fun stream => Or.inl ⟨[], stream, result, rfl, fun _ => rfl, h, ?_⟩
  intro part more hsplit hne
  exact absurd (List.append_eq_nil_iff.mp hsplit.symm).2 hne

theorem local_pure (a : α) : Local (pure a : Reader α) := local_lift (not_cutShort_ok a)

theorem local_fail {e : WireError} (h : ¬ e.IsCut) : Local (Transfer.fail e : Reader α) :=
  local_lift (not_cutShort_error h)

theorem Local.ite {p : Prop} [Decidable p] {t u : Reader α} (ht : Local t) (hu : Local u) :
    Local (if p then t else u) := by
  split
  · exact ht
  · exact hu

theorem Local.times {t : Reader α} (ht : Local t) (n : Nat) : Local (Transfer.times n t) := by
  induction n with
  | zero => exact local_pure []
  | succ n ih =>
    rw [Transfer.times_succ]
    exact ht.bind fun a => ih.bind fun after => local_pure (a :: after)

/-! ## Primitives -/

/-- A reader that takes the next `n` bytes, and tells a shorter stream by an error of its own. -/
theorem local_of_width {t : Reader Bytes} (n : Nat)
    (enough : ∀ used tail : Bytes, used.length = n → t.run (used ++ tail) = (.ok used, tail))
    (short : ∀ stream : Bytes, stream.length < n →
      ∃ e, t.run stream = (.error e, []) ∧ e.IsCut) : Local t := by
  intro stream
  by_cases hn : stream.length < n
  · exact Or.inr (short stream hn)
  · have hlen : (stream.take n).length = n := List.length_take_of_le (Nat.not_lt.mp hn)
    refine Or.inl ⟨stream.take n, stream.drop n, .ok (stream.take n),
      (List.take_append_drop n stream).symm, fun tail => enough _ tail hlen, not_cutShort_ok _, ?_⟩
    intro part more hsplit hne
    have hpart : part.length < n := by
      have total := congrArg List.length hsplit
      have hpos := List.length_pos_iff.mpr hne
      rw [hlen, List.length_append] at total
      omega
    obtain ⟨e, hrun, hcut⟩ := short part hpart
    exact ⟨e, congrArg Prod.fst hrun, hcut⟩

theorem local_raw (n : Nat) : Local (raw n) :=
  local_of_width n (fun _ tail h => (accepts_raw n).run ⟨rfl, h⟩ tail)
    fun _ h => ⟨.io .exhausted, run_raw_short h, trivial⟩

theorem local_word (width : Nat) : Local (word width) :=
  (local_raw width).bind fun _ => local_pure _

theorem local_byte : Local byte := (local_word 1).bind fun _ => local_pure _

theorem local_short : Local short := (local_word 2).bind fun _ => local_pure _

theorem local_int : Local int := (local_word 4).bind fun _ => local_pure _

theorem local_long : Local long := (local_word 8).bind fun _ => local_pure _

theorem local_length (field : String) (max : Nat) : Local (length field max) :=
  local_int.bind fun _ =>
    (local_pure _).ite ((local_fail id).ite ((local_fail id).ite (local_pure _)))

theorem local_text (n : Nat) :
    Local (do let bytes ← raw n; let s ← Transfer.lift (text bytes); pure (some s)) := by
  refine (local_raw n).bind fun bytes => ?_
  refine Local.bind (local_lift ?_) fun s => local_pure (some s)
  rw [text]
  cases Utf8.toString? bytes with
  | ok s => exact not_cutShort_ok s
  | error defect => exact not_cutShort_error id

theorem local_nullableString (max : Nat) : Local (nullableString max) := by
  refine (local_length "string" max).bind fun n => ?_
  cases n with
  | none => exact local_pure none
  | some n => exact local_text n

theorem local_string (max : Nat) : Local (string max) :=
  (local_nullableString max).bind fun _ => local_pure _

/-- A local reader is stream local: what settles it is what it takes. -/
theorem Local.streamLocal {t : Reader α} (ht : Local t) : StreamLocal t := by
  intro stream
  rcases ht stream with ⟨used, rest, outcome, rfl, settles⟩ | ⟨e, hrun, hcut⟩
  · have htakes : ∀ tail, Takes t (used ++ tail) outcome used.length := by
      intro tail
      refine ⟨by simp, ?_⟩
      rw [settles.run, List.drop_left]
    refine ⟨used.length, ?_⟩
    rw [settles.run rest, List.take_left]
    refine ⟨htakes rest, fun _ => ⟨htakes, fun k hk => ?_⟩⟩
    rw [List.take_append_of_le_length (Nat.le_of_lt hk)]
    refine settles.needs (used.take k) (used.drop k) (List.take_append_drop k used).symm ?_
    exact fun hdrop => Nat.not_le.mpr hk (List.drop_eq_nil_iff.mp hdrop)
  · refine ⟨stream.length, ?_⟩
    rw [hrun]
    refine ⟨⟨Nat.le_refl _, by rw [hrun, List.drop_length]⟩, fun hsettled => ?_⟩
    exact absurd ⟨e, rfl, hcut⟩ hsettled

/-- A message that a local reader takes to its end is read the same with anything behind it. -/
theorem Local.run_append {t : Reader α} (ht : Local t) {bytes : Bytes}
    {outcome : Except WireError α} (hrun : t.run bytes = (outcome, []))
    (hsettled : ¬ CutShort outcome) (tail : Bytes) : t.run (bytes ++ tail) = (outcome, tail) := by
  rcases ht bytes with ⟨used, rest, decided, rfl, settles⟩ | ⟨e, hcutRun, hcut⟩
  · have hboth := (settles.run rest).symm.trans hrun
    injection hboth with hout hrest
    subst hout hrest
    rw [List.append_nil]
    exact settles.run tail
  · rw [hrun] at hcutRun
    exact absurd ⟨e, congrArg Prod.fst hcutRun, hcut⟩ hsettled

end Reader

/-! ## The decoders -/

section Decoders
open Reader
variable (limits : Limits)

theorem Table.local_readPayload (n : Nat) : Local (Table.readPayload n) :=
  local_of_width n (fun _ tail h => (Table.accepts_readPayload n).run ⟨rfl, h⟩ tail)
    fun stream h => ⟨.framing n stream.length, Table.run_readPayload_short h, trivial⟩

theorem Table.local_readRow : Local (Table.readRow limits) :=
  local_int.bind fun _ =>
    (local_fail id).ite ((local_fail id).ite (Table.local_readPayload _))

/-- The last check looks at the parts only, and they have all been taken by then. -/
theorem Table.local_ofParts (statusCode : Int8) (types : List Int8) (names : List String)
    (rows : List Bytes) : Local (Transfer.lift (Table.ofParts statusCode types names rows)) := by
  refine local_lift ?_
  rw [Table.ofParts]
  split
  · exact not_cutShort_ok _
  · exact not_cutShort_error id

theorem Table.local_read : Local (Table.read limits) := by
  refine local_int.bind fun _ => local_int.bind fun _ => local_byte.bind fun statusCode =>
    local_short.bind fun columnCount => (local_fail id).ite ?_
  refine (local_byte.times _).bind fun types => ((local_string _).times _).bind fun names =>
    local_int.bind fun rowCount => (local_fail id).ite ?_
  exact ((Table.local_readRow limits).times _).bind fun rows =>
    local_ofParts statusCode types names rows

theorem CallResponse.local_readText (fields flag : UInt8) :
    Local (CallResponse.readText fields flag limits) :=
  ((local_string _).bind fun _ => local_pure _).ite (local_pure _)

theorem CallResponse.local_read : Local (CallResponse.read limits) :=
  local_long.bind fun _ => local_byte.bind fun _ => local_byte.bind fun _ =>
    (CallResponse.local_readText limits _ _).bind fun _ => local_byte.bind fun _ =>
    (CallResponse.local_readText limits _ _).bind fun _ => local_int.bind fun _ =>
    local_short.bind fun _ => (local_fail id).ite
      (((Table.local_read limits).times _).bind fun _ => local_pure _)

theorem LoginResponse.local_read : Local (LoginResponse.read limits) :=
  local_byte.bind fun _ => (local_fail id).ite
    (local_int.bind fun _ => local_long.bind fun _ => local_long.bind fun _ =>
      local_int.bind fun _ => (local_string _).bind fun _ => local_pure _)

end Decoders

/-! ## Messages end to end -/

/-- What can be decoded from a stream. -/
inductive Message where
  | login (response : LoginResponse)
  | call (response : CallResponse)
  | table (table : Table)
  deriving DecidableEq, Repr

/-- A decoder with the limits that it applies. -/
inductive Decoder where
  | login (limits : Limits)
  | call (limits : Limits)
  | table (limits : Limits)

namespace Decoder

/-- Decodes one message. -/
def read : Decoder → Reader Message
  | login limits => Message.login <$> LoginResponse.read limits
  | call limits => Message.call <$> CallResponse.read limits
  | table limits => Message.table <$> Table.read limits

/-- Runs decoders one after the other on one stream.  A failure does not end the series: the next
decoder starts where the stream was left. -/
def readEach : List Decoder → Bytes → List (Except WireError Message) × Bytes
  | [], stream => ([], stream)
  | decoder :: after, stream =>
    let (outcome, rest) := decoder.read.run stream
    let (outcomes, rest) := readEach after rest
    (outcome :: outcomes, rest)

theorem local_read (decoder : Decoder) : Reader.Local decoder.read := by
  cases decoder with
  | login limits => exact (LoginResponse.local_read limits).bind fun _ => Reader.local_pure _
  | call limits => exact (CallResponse.local_read limits).bind fun _ => Reader.local_pure _
  | table limits => exact (Table.local_read limits).bind fun _ => Reader.local_pure _

/-- Bytes that a decoder takes to their end, and what it makes of them. -/
structure Item where
  decoder : Decoder
  bytes : Bytes
  outcome : Except WireError Message
  run : decoder.read.run bytes = (outcome, [])
  settled : ¬ Reader.CutShort outcome

theorem readEach_items (items : List Item) (tail : Bytes) :
    readEach (items.map Item.decoder) (items.flatMap Item.bytes ++ tail) =
      (items.map Item.outcome, tail) := by
  induction items with
  | nil => rfl
  | cons item items ih =>
    have head := (local_read item.decoder).run_append item.run item.settled
    simp only [List.map_cons, List.flatMap_cons, List.append_assoc, readEach, head, ih]

/-- **The decoders are stream local**, so items laid end to end are decoded one after the other,
and each, if it fails too, leaves the stream at the start of the next. -/
theorem streamLocal_read (limits : Limits) :
    Reader.StreamLocal (LoginResponse.read limits) ∧
    Reader.StreamLocal (CallResponse.read limits) ∧
    Reader.StreamLocal (Table.read limits) ∧
    ∀ (items : List Item) (tail : Bytes),
      readEach (items.map Item.decoder) (items.flatMap Item.bytes ++ tail) =
        (items.map Item.outcome, tail) :=
  ⟨(LoginResponse.local_read limits).streamLocal, (CallResponse.local_read limits).streamLocal,
    (Table.local_read limits).streamLocal, readEach_items⟩

/-- A refused login takes one byte, and the table behind it is decoded all the same. -/
theorem streamLocal_read_behind_refusal :
    readEach [.login {}, .table {}] [5, 0, 0, 0, 0, 0, 0, 0, 0, 1, 0, 0, 0, 0, 0, 0] =
      ([.error (.authenticationFailed 5), .ok (.table ⟨1, [], []⟩)], []) := by
  let refused : Item :=
    { decoder := .login {}
      bytes := [5]
      outcome := .error (.authenticationFailed 5)
      run := rfl
      settled := Reader.not_cutShort_error id }
  let table : Item :=
    { decoder := .table {}
      bytes := [0, 0, 0, 0, 0, 0, 0, 0, 1, 0, 0, 0, 0, 0, 0]
      outcome := .ok (.table ⟨1, [], []⟩)
      run := rfl
      settled := Reader.not_cutShort_ok _ }
  exact (streamLocal_read {}).2.2.2 [refused, table] []

end Decoder
end ProcWire

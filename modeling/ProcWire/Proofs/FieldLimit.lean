import ProcWire.Proofs.Layouts
import ProcWire.Proofs.StreamLocality

/-! # Lowering the field limit

A decoder runs twice on one stream, with two limits on strings and rows.  As long as no
length lies between the two limits, the runs are the same step for step; at the first
that does, the run with the lower limit stops, with the length taken and nothing behind
it.  `Tightens` says this of two readers.  It holds of the two places where a limit is
looked at, in front of a string and in front of a row, and it composes along a sequence
of readers, so it holds of the decoders.

Which message a lower limit still lets through is then read off its parts: the limit
has to be at least the length of every string that is not NULL and of every row.
-/
namespace ProcWire

namespace Reader
variable {α β : Type} {max low high : Nat}

/-- The reader stops behind a length that is beyond the limit, before anything that it announces
is taken. -/
def StopsAtLength (max : Nat) (t : Reader α) (stream : Bytes) : Prop :=
  ∃ (field : String) (length : Nat) (announced : Int32) (before rest : Bytes),
    stream = before ++ Bytes.ofInt announced ++ rest ∧ announced.toInt = length ∧ max < length ∧
    t.run stream = (.error (.limitExceeded field length max), rest)

/-- On every stream the two readers end alike and take as much, or the first stops at a length
that is beyond the limit. -/
def Tightens (max : Nat) (t u : Reader α) : Prop :=
  ∀ stream, (∃ outcome n, Takes t stream outcome n ∧ Takes u stream outcome n) ∨
    StopsAtLength max t stream

theorem StopsAtLength.bind {t : Reader α} {stream : Bytes} (h : StopsAtLength max t stream)
    (next : α → Reader β) : StopsAtLength max (t >>= next) stream := by
  obtain ⟨field, length, announced, before, rest, hstream, hlength, long, hrun⟩ := h
  exact ⟨field, length, announced, before, rest, hstream, hlength, long,
    Transfer.run_bind_error hrun next⟩

theorem StopsAtLength.behind {t : Reader α} {next : α → Reader β} {stream : Bytes} {a : α} {n : Nat}
    (takes : Takes t stream (.ok a) n) (h : StopsAtLength max (next a) (stream.drop n)) :
    StopsAtLength max (t >>= next) stream := by
  obtain ⟨field, length, announced, before, rest, hstream, hlength, long, hrun⟩ := h
  refine ⟨field, length, announced, stream.take n ++ before, rest, ?_, hlength, long,
    (Transfer.run_bind_ok takes.2 next).trans hrun⟩
  rw [List.append_assoc, List.append_assoc, ← List.append_assoc before, ← hstream,
    List.take_append_drop]

/-- **Two readers in sequence end alike, or stop at the first length that is too long.** -/
theorem Tightens.bind {t u : Reader α} {next next' : α → Reader β} (first : Tightens max t u)
    (second : ∀ a, Tightens max (next a) (next' a)) :
    Tightens max (t >>= next) (u >>= next') := by
  intro stream
  rcases first stream with ⟨outcome, n, ht, hu⟩ | stops
  · cases outcome with
    | error e => exact Or.inl ⟨.error e, n, ht.bind_error next, hu.bind_error next'⟩
    | ok a =>
      rcases second a (stream.drop n) with ⟨outcome, m, hnext, hnext'⟩ | stops
      · exact Or.inl ⟨outcome, n + m, ht.bind_ok hnext, hu.bind_ok hnext'⟩
      · exact Or.inr (stops.behind ht)
  · exact Or.inr (stops.bind next)

/-- A reader that looks at no limit is as tight as it was. -/
theorem Local.tightens {t : Reader α} (h : Local t) : Tightens max t t := by
  intro stream
  obtain ⟨n, takes, -⟩ := h.streamLocal stream
  exact Or.inl ⟨_, n, takes, takes⟩

theorem Tightens.ite {p : Prop} [Decidable p] {t t' u u' : Reader α} (ht : Tightens max t t')
    (hu : Tightens max u u') : Tightens max (if p then t else u) (if p then t' else u') := by
  split
  · exact ht
  · exact hu

theorem Tightens.times {t u : Reader α} (h : Tightens max t u) (n : Nat) :
    Tightens max (Transfer.times n t) (Transfer.times n u) := by
  induction n with
  | zero => exact (local_pure []).tightens
  | succ n ih =>
    rw [Transfer.times_succ, Transfer.times_succ]
    exact h.bind fun a => ih.bind fun after => (local_pure (a :: after)).tightens

/-! ## Where a limit is looked at -/

/-- Behind the length `v` the readers end alike, or the first goes no further, because `v` is
beyond the limit. -/
def Judges (max : Nat) (v : Int32) (t u : Reader α) : Prop :=
  Tightens max t u ∨ ∃ (field : String) (length : Nat), v.toInt = length ∧ max < length ∧
    t = Transfer.fail (.limitExceeded field length max)

theorem tightens_int {next next' : Int32 → Reader α}
    (judges : ∀ v, Judges max v (next v) (next' v)) :
    Tightens max (int >>= next) (int >>= next') := by
  intro stream
  by_cases short : stream.length < 4
  -- without a length there is nothing to judge, and both have run out of the stream
  · refine Or.inl ⟨.error (.io .exhausted), stream.length, ⟨Nat.le_refl _, ?_⟩,
      ⟨Nat.le_refl _, ?_⟩⟩
    · rw [run_int_short short, List.drop_length]
    · rw [run_int_short short, List.drop_length]
  · have enough : 4 ≤ stream.length := Nat.not_lt.mp short
    obtain ⟨v, hv⟩ := Bytes.exists_ofInt (stream.take 4) (List.length_take_of_le enough)
    have takes : Takes int stream (.ok v) 4 := accepts_int.takes_iff.mpr ⟨enough, hv⟩
    rcases judges v with alike | ⟨field, length, hlength, long, hnext⟩
    · rcases alike (stream.drop 4) with ⟨outcome, m, hnext, hnext'⟩ | stops
      · exact Or.inl ⟨outcome, 4 + m, takes.bind_ok hnext, takes.bind_ok hnext'⟩
      · exact Or.inr (stops.behind takes)
    · refine Or.inr ⟨field, length, v, [], stream.drop 4, ?_, hlength, long, ?_⟩
      · rw [← hv, List.nil_append, List.take_append_drop]
      · rw [Transfer.run_bind_ok takes.2, hnext]
        rfl

/-- The check that strings and rows have in common: a length is first looked at for its sign, so
only one that counts something is held against the limit. -/
theorem judges_length (field : String) (hle : low ≤ high) (v : Int32) {t : Reader α}
    (ht : Local t) :
    Judges low v
      (if v < 0 then Transfer.fail (.protocol (.negativeLength field v))
        else if v.toNatClampNeg > low then
          Transfer.fail (.limitExceeded field v.toNatClampNeg low)
        else t)
      (if v < 0 then Transfer.fail (.protocol (.negativeLength field v))
        else if v.toNatClampNeg > high then
          Transfer.fail (.limitExceeded field v.toNatClampNeg high)
        else t) := by
  by_cases hneg : v < 0
  · rw [if_pos hneg, if_pos hneg]
    exact Or.inl (local_fail id).tightens
  rw [if_neg hneg, if_neg hneg]
  by_cases hlong : v.toNatClampNeg > low
  · exact Or.inr ⟨field, _, toInt_eq_of_not_neg hneg, hlong, if_pos hlong⟩
  · rw [if_neg hlong, if_neg (by omega)]
    exact Or.inl ht.tightens

theorem tightens_length (field : String) (hle : low ≤ high) :
    Tightens low (length field low) (length field high) := by
  refine tightens_int fun v => ?_
  by_cases hnull : v = nullLength
  · rw [if_pos hnull, if_pos hnull]
    exact Or.inl (local_pure none).tightens
  · rw [if_neg hnull, if_neg hnull]
    exact judges_length field hle v (local_pure _)

theorem tightens_string (hle : low ≤ high) : Tightens low (string low) (string high) := by
  refine Tightens.bind ((tightens_length "string" hle).bind fun n => ?_)
    fun s => (local_pure _).tightens
  cases n with
  | none => exact (local_pure none).tightens
  | some n => exact (local_text n).tightens

end Reader

/-! ## The decoders -/

section Decoders
open Reader
variable {low high : Limits} (hle : low.fieldLength ≤ high.fieldLength)
include hle

theorem Table.tightens_readRow :
    Tightens low.fieldLength (Table.readRow low) (Table.readRow high) :=
  tightens_int fun v => judges_length "row" hle v (Table.local_readPayload _)

theorem Table.tightens_read : Tightens low.fieldLength (Table.read low) (Table.read high) := by
  refine local_int.tightens.bind fun _ => local_int.tightens.bind fun _ =>
    local_byte.tightens.bind fun statusCode => local_short.tightens.bind fun columnCount =>
    (local_fail id).tightens.ite ?_
  refine (local_byte.times _).tightens.bind fun types =>
    ((tightens_string hle).times _).bind fun names => local_int.tightens.bind fun rowCount =>
    (local_fail id).tightens.ite ?_
  exact ((Table.tightens_readRow hle).times _).bind fun rows =>
    (local_ofParts statusCode types names rows).tightens

theorem CallResponse.tightens_readText (fields flag : UInt8) :
    Tightens low.fieldLength (CallResponse.readText fields flag low)
      (CallResponse.readText fields flag high) :=
  ((tightens_string hle).bind fun _ => (local_pure _).tightens).ite (local_pure _).tightens

theorem CallResponse.tightens_read :
    Tightens low.fieldLength (CallResponse.read low) (CallResponse.read high) := by
  refine local_long.tightens.bind fun _ => local_byte.tightens.bind fun _ =>
    local_byte.tightens.bind fun _ => (CallResponse.tightens_readText hle _ _).bind fun _ =>
    local_byte.tightens.bind fun _ => (CallResponse.tightens_readText hle _ _).bind fun _ =>
    local_int.tightens.bind fun _ => local_short.tightens.bind fun _ =>
    (local_fail id).tightens.ite ?_
  exact ((Table.tightens_read hle).times _).bind fun _ => (local_pure _).tightens

theorem LoginResponse.tightens_read :
    Tightens low.fieldLength (LoginResponse.read low) (LoginResponse.read high) := by
  refine local_byte.tightens.bind fun _ => (local_fail id).tightens.ite ?_
  exact local_int.tightens.bind fun _ => local_long.tightens.bind fun _ =>
    local_long.tightens.bind fun _ => local_int.tightens.bind fun _ =>
    (tightens_string hle).bind fun _ => (local_pure _).tightens

end Decoders

/-! ## The threshold -/

namespace Reader
open WirePart
variable {α : Type} {max max' : Nat} {t u : Reader α} {layout : α → List WirePart → Prop}

/-- How a reader compares with one of a higher limit. -/
structure LowersLimit (max : Nat) (t u : Reader α) (layout : α → List WirePart → Prop) : Prop where
  tightens : Tightens max t u
  /-- Of what the higher limit lets through, the lower one lets through just the messages whose
  strings and rows are within it, and it stops at the first that is not. -/
  threshold : ∀ stream a n, Takes u stream (.ok a) n →
    ∃ parts, layout a parts ∧ allBytes parts = stream.take n ∧
      ((∃ b m, Takes t stream (.ok b) m) ↔ Within max parts) ∧
      (Within max parts → Takes t stream (.ok a) n) ∧
      (¬ Within max parts → ∃ before after field payload,
        FirstBeyond max parts before after field payload ∧
        Takes t stream (.error (.limitExceeded field payload.length max))
          ((allBytes before).length + 4))

theorem LaidOut.takes_of_within (h : LaidOut max t layout) {stream : Bytes} {a : α} {n : Nat}
    {parts : List WirePart} (hn : n ≤ stream.length) (ha : layout a parts)
    (bytes : allBytes parts = stream.take n) (within : Within max parts) :
    Takes t stream (.ok a) n := by
  have run := (h.follows ha).accepts within (stream.drop n)
  rw [bytes, List.take_append_drop] at run
  exact ⟨hn, run⟩

theorem LaidOut.takes_of_firstBeyond (h : LaidOut max t layout) {stream : Bytes} {a : α} {n : Nat}
    {parts before after : List WirePart} {field : String} {payload : Bytes} (ha : layout a parts)
    (bytes : allBytes parts = stream.take n)
    (first : FirstBeyond max parts before after field payload) :
    Takes t stream (.error (.limitExceeded field payload.length max))
      ((allBytes before).length + 4) := by
  have run := (h.follows ha).refuses before after field payload first (stream.drop n)
  rw [bytes, List.take_append_drop] at run
  obtain ⟨part, rfl, -, counted, -⟩ := first
  -- the first run has gone up to and with the length, so this is where the stream is cut
  have hstream : stream = (allBytes before ++ Bytes.ofInt (Int32.ofNat payload.length)) ++
      (payload ++ allBytes after ++ stream.drop n) := by
    conv_lhs => rw [← List.take_append_drop n stream, ← bytes]
    rw [allBytes_append, allBytes_cons, bytes_of_counted? counted, Bytes.counted]
    simp only [List.append_assoc]
  have length : (allBytes before ++ Bytes.ofInt (Int32.ofNat payload.length)).length =
      (allBytes before).length + 4 := by
    rw [List.length_append, Bytes.length_ofInt]
  refine ⟨?_, ?_⟩
  · rw [hstream, List.length_append, length]
    exact Nat.le_add_right _ _
  · rw [run, ← length]
    conv_rhs => rw [hstream, List.drop_left]

theorem LaidOut.lowersLimit (lower : LaidOut max t layout) (higher : LaidOut max' u layout)
    (tightens : Tightens max t u) : LowersLimit max t u layout where
  tightens := tightens
  threshold stream a n takes := by
    obtain ⟨parts, ha, -, bytes⟩ := higher.of_takes takes
    have accepted := lower.takes_of_within takes.1 ha bytes
    have refused : ¬ Within max parts → ∃ before after field payload,
        FirstBeyond max parts before after field payload ∧
        Takes t stream (.error (.limitExceeded field payload.length max))
          ((allBytes before).length + 4) := by
      intro beyond
      obtain ⟨before, after, field, payload, first⟩ := exists_firstBeyond beyond
      exact ⟨before, after, field, payload, first, lower.takes_of_firstBeyond ha bytes first⟩
    refine ⟨parts, ha, bytes, ⟨?_, fun within => ⟨a, n, accepted within⟩⟩, accepted, refused⟩
    rintro ⟨b, m, hb⟩
    by_contra beyond
    obtain ⟨before, after, field, payload, -, stopped⟩ := refused beyond
    cases hb.2.symm.trans stopped.2

end Reader

/-- **Lowering the field limit** changes nothing but that a decoder stops at the first length that
is beyond the new limit. -/
theorem fieldLimit_lowered (low high : Limits) (hle : low.fieldLength ≤ high.fieldLength) :
    Reader.LowersLimit low.fieldLength (LoginResponse.read low) (LoginResponse.read high)
      LoginResponse.Layout ∧
    Reader.LowersLimit low.fieldLength (CallResponse.read low) (CallResponse.read high)
      CallResponse.Layout ∧
    Reader.LowersLimit low.fieldLength (Table.read low) (Table.read high) Table.Layout :=
  ⟨(LoginResponse.laidOut_read low).lowersLimit (LoginResponse.laidOut_read high)
      (LoginResponse.tightens_read hle),
    (CallResponse.laidOut_read low).lowersLimit (CallResponse.laidOut_read high)
      (CallResponse.tightens_read hle),
    (Table.laidOut_read low).lowersLimit (Table.laidOut_read high) (Table.tightens_read hle)⟩

/-- A limit of two lets the name of the column through, which is as long, and stops at a row of
three. -/
theorem fieldLimit_lowered_below_row :
    let low : Limits := ⟨0, 2⟩
    let high : Limits := ⟨7, 3⟩
    let stream : Bytes := [0, 0, 0, 0, 0, 0, 0, 0, 1, 0, 1, 5, 0, 0, 0, 2, 0x69, 0x64, 0, 0, 0, 1,
      0, 0, 0, 3, 7, 8, 9]
    let table : Table := ⟨1, [⟨5, "id"⟩], [[7, 8, 9]]⟩
    low.fieldLength ≤ high.fieldLength ∧
    Reader.Takes (Table.read high) stream (.ok table) 29 ∧
    Reader.Takes (Table.read low) stream (.error (.limitExceeded "row" 3 2)) 26 ∧
    ∃ parts, table.Layout parts ∧ WirePart.allBytes parts = stream ∧ ¬ WirePart.Within 2 parts := by
  intro low high stream table
  have hle : low.fieldLength ≤ high.fieldLength := by decide
  have accepted : Reader.Takes (Table.read high) stream (.ok table) 29 :=
    ⟨by decide, by decide +kernel⟩
  have refused : Reader.Takes (Table.read low) stream (.error (.limitExceeded "row" 3 2)) 26 :=
    ⟨by decide, by decide +kernel⟩
  obtain ⟨parts, layout, bytes, -, within, -⟩ :=
    (fieldLimit_lowered low high hle).2.2.threshold stream table 29 accepted
  refine ⟨hle, accepted, refused, parts, layout, bytes, fun h => ?_⟩
  cases refused.2.symm.trans (within h).2

end ProcWire

import ProcWire.Proofs.Layouts

/-! # Messages that stop short

A decoder that is given a message only in part says so, and how it says so depends on
where the message stops.  Inside the payload of a row it is a framing error with the
length that the row declares and the number of its bytes that are there, which may be
none; anywhere else (in a word, in a string, in the length of a row, between two parts,
and so behind a row of no bytes) the stream is exhausted.

`WirePart.cutErrorOf` computes the error from the parts.  Here it is told apart by
`WirePart.CutInRow`, which finds the row that the end of the stream falls into.
-/
namespace ProcWire
namespace WirePart

/-- A stream of `k` bytes ends inside a row: of the `expected` bytes of its payload, `actual` are
there. -/
def CutInRow (parts : List WirePart) (k expected actual : Nat) : Prop :=
  ∃ before row fits after, parts = before ++ .row row fits :: after ∧ row.length = expected ∧
    actual < expected ∧ k = (allBytes before).length + 4 + actual

variable {parts after : List WirePart} {part : WirePart} {k expected actual : Nat}

theorem length_bytes_row (row : Bytes) (fits : row.length ≤ Writer.maxCount) :
    (WirePart.row row fits).bytes.length = 4 + row.length := by
  rw [bytes, Bytes.counted, List.length_append, Bytes.length_ofInt]

theorem not_cutInRow_nil : ¬ CutInRow [] k expected actual := by
  rintro ⟨before, row, fits, after, h, -⟩
  exact List.append_ne_nil_of_right_ne_nil before (List.cons_ne_nil _ after) h.symm

/-- The row is the first part, or the first part is there as a whole. -/
theorem cutInRow_cons :
    CutInRow (part :: after) k expected actual ↔
      (∃ row fits, part = .row row fits ∧ row.length = expected ∧ actual < expected ∧
        k = 4 + actual) ∨
      part.bytes.length ≤ k ∧ CutInRow after (k - part.bytes.length) expected actual := by
  constructor
  · rintro ⟨before, row, fits, rest, hparts, hlength, hlt, rfl⟩
    rcases List.cons_eq_append_iff.mp hparts with ⟨rfl, hrow⟩ | ⟨before, rfl, rfl⟩
    · obtain ⟨rfl, rfl⟩ := List.cons.inj hrow
      exact Or.inl ⟨row, fits, rfl, hlength, hlt, by simp⟩
    · rw [allBytes_cons, List.length_append]
      exact Or.inr ⟨by omega, before, row, fits, rest, rfl, hlength, hlt, by omega⟩
  · rintro (⟨row, fits, rfl, hlength, hlt, rfl⟩ |
      ⟨hle, before, row, fits, rest, rfl, hlength, hlt, hk⟩)
    · exact ⟨[], row, fits, after, rfl, hlength, hlt, by simp⟩
    · refine ⟨part :: before, row, fits, rest, rfl, hlength, hlt, ?_⟩
      rw [allBytes_cons, List.length_append]
      omega

theorem cutError_eq_framing_iff (hk : k < part.bytes.length) :
    part.cutError k = .framing expected actual ↔
      ∃ row fits, part = .row row fits ∧ row.length = expected ∧ actual < expected ∧
        k = 4 + actual := by
  constructor
  · intro h
    cases part with
    | word bytes => cases h
    | text s fits => cases h
    | row row fits =>
      rw [length_bytes_row] at hk
      rw [cutError] at h
      split at h
      · cases h
      · cases h
        exact ⟨row, fits, rfl, rfl, by omega, by omega⟩
  · rintro ⟨row, fits, rfl, rfl, hlt, rfl⟩
    rw [cutError, if_neg (Nat.not_lt.mpr (Nat.le_add_right 4 actual)), Nat.add_sub_cancel_left]

/-- **A framing error tells the row that the end of the stream falls into.** -/
theorem cutErrorOf_eq_framing_iff :
    cutErrorOf parts k = .framing expected actual ↔ CutInRow parts k expected actual := by
  induction parts generalizing k with
  | nil =>
    refine ⟨fun h => ?_, fun h => absurd h not_cutInRow_nil⟩
    cases h
  | cons part after ih =>
    rw [cutInRow_cons, cutErrorOf]
    split
    -- a stream that ends in the first part cannot end in a row behind it
    · rename_i hk
      rw [cutError_eq_framing_iff hk]
      exact (or_iff_left fun h => Nat.not_le.mpr hk h.1).symm
    · rename_i hk
      rw [ih]
      constructor
      · exact fun h => Or.inr ⟨Nat.not_lt.mp hk, h⟩
      · rintro (⟨row, fits, rfl, hlength, hlt, rfl⟩ | ⟨-, h⟩)
        · rw [length_bytes_row] at hk
          omega
        · exact h

theorem cutErrorOf_eq_exhausted_or (parts : List WirePart) (k : Nat) :
    cutErrorOf parts k = .io .exhausted ∨
      ∃ expected actual, cutErrorOf parts k = .framing expected actual := by
  induction parts generalizing k with
  | nil => exact Or.inl rfl
  | cons part after ih =>
    rw [cutErrorOf]
    split
    · cases part with
      | row row fits =>
        rw [cutError]
        split
        · exact Or.inl rfl
        · exact Or.inr ⟨_, _, rfl⟩
      | _ => exact Or.inl rfl
    · exact ih _

/-- Where the stream does not end inside a row, it is said to be exhausted. -/
theorem cutErrorOf_eq_exhausted (h : ∀ expected actual, ¬ CutInRow parts k expected actual) :
    cutErrorOf parts k = .io .exhausted := by
  rcases cutErrorOf_eq_exhausted_or parts k with hcut | ⟨expected, actual, hcut⟩
  · exact hcut
  · exact absurd (cutErrorOf_eq_framing_iff.mp hcut) (h expected actual)

end WirePart

namespace Reader
open WirePart
variable {α : Type}

/-- Every message that the reader takes is refused if it stops short, with a framing error exactly
if it stops inside a row, and otherwise because the stream is exhausted. -/
def DetectsCuts (t : Reader α) (layout : α → List WirePart → Prop) : Prop :=
  ∀ stream a n, Takes t stream (.ok a) n →
    ∃ parts, layout a parts ∧ allBytes parts = stream.take n ∧ ∀ k, k < n →
      ∃ e, t.run (stream.take k) = (.error e, []) ∧
        (∀ expected actual, e = .framing expected actual ↔ CutInRow parts k expected actual) ∧
        ((∀ expected actual, ¬ CutInRow parts k expected actual) → e = .io .exhausted)

theorem LaidOut.run_take {max n k : Nat} {t : Reader α} {layout : α → List WirePart → Prop}
    (h : LaidOut max t layout) {stream : Bytes} {a : α} {parts : List WirePart}
    (ha : layout a parts) (within : Within max parts) (bytes : allBytes parts = stream.take n)
    (hk : k < (stream.take n).length) :
    t.run (stream.take k) = (.error (cutErrorOf parts k), []) := by
  have cut := (h.follows ha).cut within k (by rwa [bytes])
  have hkn : k ≤ n := by
    rw [List.length_take] at hk
    omega
  rwa [bytes, List.take_take, Nat.min_eq_left hkn] at cut

theorem LaidOut.detectsCuts {max : Nat} {t : Reader α} {layout : α → List WirePart → Prop}
    (h : LaidOut max t layout) : DetectsCuts t layout := by
  intro stream a n takes
  obtain ⟨parts, ha, within, bytes⟩ := h.of_takes takes
  refine ⟨parts, ha, bytes, fun k hk => ⟨cutErrorOf parts k, ?_, ?_, cutErrorOf_eq_exhausted⟩⟩
  · exact h.run_take ha within bytes (by rwa [List.length_take_of_le takes.1])
  · exact fun expected actual => cutErrorOf_eq_framing_iff

end Reader

/-- There are no rows in a login response. -/
theorem LoginResponse.Layout.not_cutInRow {response : LoginResponse} {parts : List WirePart}
    (h : response.Layout parts) (k expected actual : Nat) :
    ¬ WirePart.CutInRow parts k expected actual := by
  obtain ⟨clusterStart, build, hbuild, rfl⟩ := h
  rintro ⟨before, row, fits, after, hparts, -⟩
  have mem : WirePart.row row fits ∈ before ++ .row row fits :: after :=
    List.mem_append_right before List.mem_cons_self
  rw [← hparts] at mem
  rcases hbuild with ⟨textFits, rfl⟩ | ⟨-, rfl⟩ <;> simp at mem

section Decoders
open Reader WirePart
variable (limits : Limits)

/-- **A message that stops short is always refused, by where it stops.** -/
theorem truncation_detected :
    DetectsCuts (CallResponse.read limits) CallResponse.Layout ∧
    DetectsCuts (Table.read limits) Table.Layout ∧
    ∀ stream response n, Takes (LoginResponse.read limits) stream (.ok response) n → ∀ k, k < n →
      (LoginResponse.read limits).run (stream.take k) = (.error (.io .exhausted), []) := by
  refine ⟨(CallResponse.laidOut_read limits).detectsCuts, (Table.laidOut_read limits).detectsCuts,
    ?_⟩
  intro stream response n takes k hk
  obtain ⟨parts, ha, -, cut⟩ :=
    (LoginResponse.laidOut_read limits).detectsCuts stream response n takes
  obtain ⟨e, hrun, -, exhausted⟩ := cut k hk
  rw [hrun, exhausted (ha.not_cutInRow k)]

end Decoders

/-- A call response that stops one byte into a row of three, and a login response that stops
inside its text. -/
theorem truncation_detected_in_row_and_text :
    let call : Bytes := [0, 0, 0, 0, 0, 0, 0, 9, 0, 1, 0x80, 0, 0, 0, 5, 0, 1,
      0, 0, 0, 0, 0, 0, 0, 0, 0, 0, 0, 0, 0, 0, 1, 0, 0, 0, 3, 7, 8, 9, 0xFF]
    let response : CallResponse := ⟨9, 0, 1, none, -128, none, 5, [⟨0, [], [[7, 8, 9]]⟩]⟩
    let login : Bytes := [0, 0, 0, 0, 1, 0, 0, 0, 0, 0, 0, 0, 2, 0, 0, 0, 0, 0, 0, 0, 0,
      127, 0, 0, 1, 0, 0, 0, 2, 0x76, 0x38]
    Reader.Takes (CallResponse.read {}) call (.ok response) 39 ∧
    (CallResponse.read {}).run (call.take 37) = (.error (.framing 3 1), []) ∧
    (∃ parts, response.Layout parts ∧ WirePart.allBytes parts = call.take 39 ∧
      WirePart.CutInRow parts 37 3 1) ∧
    Reader.Takes (LoginResponse.read {}) login (.ok ⟨1, 2, 2130706433, "v8"⟩) 31 ∧
    (LoginResponse.read {}).run (login.take 30) = (.error (.io .exhausted), []) := by
  intro call response login
  have takesCall : Reader.Takes (CallResponse.read {}) call (.ok response) 39 :=
    ⟨by decide, by decide⟩
  have takesLogin : Reader.Takes (LoginResponse.read {}) login (.ok ⟨1, 2, 2130706433, "v8"⟩) 31 :=
    ⟨by decide, by decide +kernel⟩
  have cut : (CallResponse.read {}).run (call.take 37) = (.error (.framing 3 1), []) := by decide
  obtain ⟨parts, layout, bytes, told⟩ := (truncation_detected {}).1 call response 39 takesCall
  obtain ⟨e, hrun, framing, -⟩ := told 37 (by decide)
  rw [cut] at hrun
  cases hrun
  exact ⟨takesCall, cut, ⟨parts, layout, bytes, (framing 3 1).mp rfl⟩, takesLogin,
    (truncation_detected {}).2.2 login _ 31 takesLogin 30 (by decide)⟩

end ProcWire

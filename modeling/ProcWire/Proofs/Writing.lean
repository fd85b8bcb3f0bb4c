import ProcWire.Proofs.Words

/-! # Writing in parts is writing at once

A writer that makes many small offers to a sink is the same as one offer of all its
bytes (`Writer.raw_bind_raw`).  This holds on every sink, also one that runs full
between two offers or within one: the sink then holds what of the whole there was
room for, and the writer has failed in the same way.

So a writer is known by its bytes.  The laws below compute them for strings and byte
arrays; whatever is too long to be counted is refused before the sink sees any of it.
-/
namespace ProcWire
namespace Sink

theorem fitting_append_of_fits {sink : Sink} {a : Bytes} (h : (sink.fitting a).length = a.length)
    (b : Bytes) : sink.fitting (a ++ b) = a ++ (sink.push a).fitting b := by
  obtain ⟨held, capacity⟩ := sink
  cases capacity with
  | none => rfl
  | some capacity =>
    simp only [fitting, push, List.length_take] at h ⊢
    rw [List.take_append, List.take_of_length_le (by omega)]
    congr 2
    have size : (held ++ a).size = held.size + a.length := by
      rw [← Array.length_toList, Array.toList_appendList, List.length_append, Array.length_toList]
    omega

theorem fitting_append_of_not_fits {sink : Sink} {a : Bytes}
    (h : (sink.fitting a).length ≠ a.length) (b : Bytes) :
    sink.fitting (a ++ b) = sink.fitting a := by
  obtain ⟨held, capacity⟩ := sink
  cases capacity with
  | none => exact absurd rfl h
  | some capacity =>
    simp only [fitting, List.length_take] at h ⊢
    rw [List.take_append, show capacity - held.size - a.length = 0 by omega, List.take_zero,
      List.append_nil]

theorem length_fitting_le (sink : Sink) (data : Bytes) :
    (sink.fitting data).length ≤ data.length := by
  obtain ⟨held, capacity⟩ := sink
  cases capacity with
  | none => exact Nat.le_refl _
  | some capacity =>
    rw [fitting, List.length_take]
    exact Nat.min_le_right _ _

theorem fitting_eq_of_length {sink : Sink} {data : Bytes}
    (h : (sink.fitting data).length = data.length) : sink.fitting data = data := by
  have whole := fitting_append_of_fits h []
  have room : (sink.push data).fitting [] = [] :=
    List.eq_nil_of_length_eq_zero (Nat.le_zero.mp (length_fitting_le _ _))
  rwa [room, List.append_nil] at whole

theorem push_push (sink : Sink) (a b : Bytes) : (sink.push a).push b = sink.push (a ++ b) := by
  obtain ⟨held, capacity⟩ := sink
  have joined : held ++ a ++ b = held ++ (a ++ b) := by
    apply Array.toList_inj.mp
    simp
  rw [push, push, push, joined]

theorem push_nil (sink : Sink) : sink.push [] = sink := by
  obtain ⟨held, capacity⟩ := sink
  simp [push]

end Sink

namespace Writer

theorem run_raw_of_fits {sink : Sink} {data : Bytes}
    (h : (sink.fitting data).length = data.length) :
    (raw data).run sink = (.ok (), sink.push data) := by
  show raw data sink = _
  rw [raw]
  simp only [Sink.fitting_eq_of_length h, ite_true]

theorem run_raw_of_not_fits {sink : Sink} {data : Bytes}
    (h : (sink.fitting data).length ≠ data.length) :
    (raw data).run sink = (.error (.io .full), sink.push (sink.fitting data)) := by
  show raw data sink = _
  simp only [raw, if_neg h]

/-- **Two offers are one offer of both**, on every sink. -/
theorem raw_bind_raw (a b : Bytes) : (do raw a; raw b) = raw (a ++ b) := by
  funext sink
  show (raw a >>= fun _ => raw b).run sink = (raw (a ++ b)).run sink
  by_cases ha : (sink.fitting a).length = a.length
  · have whole := Sink.fitting_append_of_fits ha b
    rw [Transfer.run_bind_ok (run_raw_of_fits ha)]
    by_cases hb : ((sink.push a).fitting b).length = b.length
    · rw [run_raw_of_fits hb, run_raw_of_fits (by rw [whole]; simp [hb]), Sink.push_push]
    · rw [run_raw_of_not_fits hb, run_raw_of_not_fits (by rw [whole]; simp [hb]), whole,
        Sink.push_push]
  -- the second offer is not made, and the sink is as full as the whole would leave it
  · have whole := Sink.fitting_append_of_not_fits ha b
    have hle := Sink.length_fitting_le sink a
    rw [Transfer.run_bind_error (run_raw_of_not_fits ha), run_raw_of_not_fits, whole]
    rw [whole, List.length_append]
    omega

theorem raw_nil : raw [] = pure () := by
  funext sink
  have fits : (sink.fitting []).length = ([] : Bytes).length :=
    Nat.le_zero.mp (Sink.length_fitting_le sink [])
  exact (run_raw_of_fits fits).trans (by rw [Sink.push_nil]; rfl)

/-- A sink without a bound takes everything. -/
theorem run_raw_unbounded {sink : Sink} (h : sink.capacity = none) (data : Bytes) :
    (raw data).run sink = (.ok (), sink.push data) := by
  refine run_raw_of_fits ?_
  rw [Sink.fitting, h]

theorem bytes_raw (data : Bytes) : (raw data).bytes = .ok data := by
  rw [bytes, run_raw_unbounded rfl]
  simp only [Sink.toList_push]
  rfl

theorem bytes_eq_ok_iff {writer : Writer} {data : Bytes} :
    writer.bytes = .ok data ↔ ∃ sink, writer.run {} = (.ok (), sink) ∧ sink.toList = data := by
  rw [bytes]
  split
  · rename_i sink hrun
    constructor
    · intro h
      exact ⟨sink, hrun, Except.ok.inj h⟩
    · rintro ⟨other, hother, rfl⟩
      rw [hrun] at hother
      cases hother
      rfl
  · rename_i e sink hrun
    constructor
    · intro h
      cases h
    · rintro ⟨other, hother, -⟩
      rw [hrun] at hother
      cases hother

end Writer

namespace Bytes

/-- A payload behind its length. -/
def counted (payload : Bytes) : Bytes := ofInt (Int32.ofNat payload.length) ++ payload

end Bytes

namespace Writer

theorem counted_eq_raw (field : String) {payload : Bytes} (h : payload.length ≤ maxCount) :
    counted field payload = raw (Bytes.counted payload) := by
  rw [counted, if_pos h, int_eq_raw, raw_bind_raw]
  rfl

theorem length_le_of_counted {field : String} {payload : Bytes} {sink sink' : Sink}
    (h : (counted field payload).run sink = (.ok (), sink')) : payload.length ≤ maxCount := by
  rw [counted] at h
  split at h
  · assumption
  · cases h

theorem toInt_ofNat_of_le_maxCount {n : Nat} (h : n ≤ maxCount) : (Int32.ofNat n).toInt = n :=
  Int32.toInt_ofNat_of_lt (Nat.lt_succ_of_le h)

theorem le_maxCount_of_toInt {length : Int32} {n : Nat} (h : length.toInt = n) : n ≤ maxCount := by
  have bound := length.toInt_lt
  rw [h] at bound
  rw [maxCount]
  omega

end Writer

namespace Bytes

/-- A length that says how many bytes there are is the one that is written before them. -/
theorem counted_of_toInt {length : Int32} {payload : Bytes} (h : length.toInt = payload.length) :
    counted payload = ofInt length ++ payload := by
  have same : Int32.ofNat payload.length = length := by
    rw [← Int32.toInt_inj, h]
    exact Writer.toInt_ofNat_of_le_maxCount (Writer.le_maxCount_of_toInt h)
  rw [counted, same]

end Bytes
end ProcWire

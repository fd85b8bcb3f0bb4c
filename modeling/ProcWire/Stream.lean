import ProcWire.Error

/-! # Transfers

Reading from a stream and writing to one have the same shape.  A *transfer* takes
the stream as it stands, ends with a result or an error, and in either case
leaves the stream somewhere: a failed transfer is not undone.  Transfers are
sequenced as in any state monad with errors; the first error ends the sequence
where it stands.

A reader's stream is the list of bytes still to come.  A writer's stream is a
`Sink`, which may be bounded.
-/
namespace ProcWire

/-- A step on a stream of type `σ` with a result of type `α`. -/
def Transfer (σ α : Type) : Type := σ → Except WireError α × σ

namespace Transfer
variable {σ α β : Type}

/-- Runs a transfer on a stream. -/
@[inline] def run (t : Transfer σ α) (stream : σ) : Except WireError α × σ := t stream

@[always_inline]
instance : Monad (Transfer σ) where
  pure a := fun stream => (.ok a, stream)
  bind t next := fun stream =>
    match t stream with
    | (.ok a, stream) => next a stream
    | (.error e, stream) => (.error e, stream)

/-- Fails and leaves the stream alone. -/
@[inline] def fail (error : WireError) : Transfer σ α := fun stream => (.error error, stream)

/-- Carries a result computed elsewhere into a transfer; the stream is left alone. -/
@[inline] def lift (result : Except WireError α) : Transfer σ α := fun stream => (result, stream)

theorem run_lift (result : Except WireError α) (stream : σ) :
    (lift result : Transfer σ α).run stream = (result, stream) := rfl

theorem run_bind (t : Transfer σ α) (next : α → Transfer σ β) (stream : σ) :
    (t >>= next).run stream =
      match t.run stream with
      | (.ok a, stream) => (next a).run stream
      | (.error e, stream) => (.error e, stream) := rfl

/-- A transfer that succeeds hands its stream to the next. -/
theorem run_bind_ok {t : Transfer σ α} {stream stream' : σ} {a : α}
    (h : t.run stream = (.ok a, stream')) (next : α → Transfer σ β) :
    (t >>= next).run stream = (next a).run stream' := by
  rw [run_bind, h]

/-- A transfer that fails ends the sequence where it stands. -/
theorem run_bind_error {t : Transfer σ α} {stream stream' : σ} {e : WireError}
    (h : t.run stream = (.error e, stream')) (next : α → Transfer σ β) :
    (t >>= next).run stream = (.error e, stream') := by
  rw [run_bind, h]

instance : LawfulMonad (Transfer σ) := by
  refine LawfulMonad.mk' _ (fun t => ?_) (fun _ _ => rfl) (fun t f g => ?_)
  · funext stream
    change (match t stream with
      | (.ok a, stream) => (Except.ok (id a), stream)
      | (.error e, stream) => (.error e, stream)) = t stream
    rcases t stream with ⟨_ | _, _⟩ <;> rfl
  · funext stream
    change (match (match t stream with
        | (.ok a, stream) => f a stream
        | (.error e, stream) => (.error e, stream)) with
      | (.ok b, stream) => g b stream
      | (.error e, stream) => (.error e, stream)) =
      match t stream with
        | (.ok a, stream) => (match f a stream with
          | (.ok b, stream) => g b stream
          | (.error e, stream) => (.error e, stream))
        | (.error e, stream) => (.error e, stream)
    rcases t stream with ⟨_ | _, _⟩ <;> rfl

/-- Runs a transfer `n` times onto the results in `before`, which are held last first. -/
def timesOnto (t : Transfer σ α) : Nat → List α → Transfer σ (List α)
  | 0, before => pure before.reverse
  | n + 1, before => do
    let a ← t
    timesOnto t n (a :: before)

/-- Runs a transfer `n` times and lists the results; the first failure ends it. -/
def times (n : Nat) (t : Transfer σ α) : Transfer σ (List α) := timesOnto t n []

theorem timesOnto_eq (t : Transfer σ α) (n : Nat) (before : List α) :
    timesOnto t n before = (times n t >>= fun after => pure (before.reverse ++ after)) := by
  induction n generalizing before with
  | zero => simp [timesOnto, times]
  | succ n ih =>
    rw [times, timesOnto, timesOnto, bind_assoc]
    congr 1
    funext a
    rw [ih, ih [a]]
    simp

@[simp] theorem times_zero (t : Transfer σ α) : times 0 t = pure [] := rfl

/-- Running a transfer once more than `n` times puts one more result in front. -/
theorem times_succ (n : Nat) (t : Transfer σ α) :
    times (n + 1) t = (do let a ← t; let after ← times n t; pure (a :: after)) := by
  rw [times, timesOnto]
  congr 1
  funext a
  rw [timesOnto_eq]
  simp

end Transfer

/-- A reader: its stream is the bytes still to come. -/
abbrev Reader := Transfer Bytes

/-- The receiving end of a writer: the bytes it holds and, if it is bounded, how many it will
take in all. -/
structure Sink where
  held : Array UInt8 := #[]
  capacity : Option Nat := none

namespace Sink

/-- The part of `data` that a sink has room for. -/
def fitting (sink : Sink) (data : Bytes) : Bytes :=
  match sink.capacity with
  | none => data
  | some capacity => data.take (capacity - sink.held.size)

/-- The contents of a sink, in the order written. -/
def toList (sink : Sink) : Bytes := sink.held.toList

/-- Adds bytes to the end, whether or not there is room. -/
def push : Sink → Bytes → Sink
  | ⟨held, capacity⟩, data => ⟨held ++ data, capacity⟩

@[simp] theorem toList_push (sink : Sink) (data : Bytes) :
    (sink.push data).toList = sink.toList ++ data := by
  simp [push, toList]

@[simp] theorem capacity_push (sink : Sink) (data : Bytes) :
    (sink.push data).capacity = sink.capacity := rfl

end Sink

/-- A writer: its stream is the sink it writes to. -/
abbrev Writer := Transfer Sink Unit

/-- Offers bytes to the sink.  What fits is kept; if that is not all, the writer fails. -/
def Writer.raw (data : Bytes) : Writer := fun sink =>
  let kept := sink.fitting data
  let result := if kept.length = data.length then .ok () else .error (.io .full)
  (result, sink.push kept)

/-- The bytes that a writer produces when there is room for everything. -/
def Writer.bytes (writer : Writer) : Except WireError Bytes :=
  match writer.run {} with
  | (.ok (), sink) => .ok sink.toList
  | (.error e, _) => .error e

end ProcWire

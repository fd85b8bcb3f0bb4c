import ProcWire.Proofs.HexText
import ProcWire.Proofs.JsonText
import ProcWire.Response.Rendering

/-! # The text of a response loses nothing

A decoded response is shown as JSON, compact or pretty.  Different responses have
different texts in either layout, so the text is as good as the response
(`CallResponse.text_faithful`).

The text gives back the JSON value (`Json.compact_injective`, `Json.pretty_injective`).
What is left is that the value gives back the response, member by member: an integer
of a width by its value, a status by its name or else by its code, a missing text by
`null`, which is no string, and a row by its digits.  A table shows the types and the
names of its columns apart; both lists together are the columns.
-/
namespace ProcWire

open Function (Injective)

namespace Status

/-- The statuses with a name. -/
def named : List Status :=
  [success, userAbort, gracefulFailure, unexpectedFailure, connectionLost, serverUnavailable,
    connectionTimeout, responseUnknown, txnRestart, operationalFailure]

/-- No two statuses share a name. -/
theorem eq_of_name?_eq : ∀ s ∈ named, ∀ t ∈ named, s.name? = t.name? → s = t := by
  decide +kernel

/-- A status is shown by its name, or it is a code without a name and shown as such. -/
theorem cases_toJson (status : Status) :
    (∃ name, status ∈ named ∧ status.name? = some name ∧ status.toJson = .string name) ∨
    (∃ code, status = other code ∧ status.toJson = .object [("other", .number code.toInt)]) := by
  cases status with
  | other code => exact Or.inr ⟨code, rfl, rfl⟩
  | _ => exact Or.inl ⟨_, by decide, rfl, rfl⟩

theorem toJson_injective : Injective toJson := by
  intro s t h
  obtain ⟨name, hs, hname, form⟩ | ⟨code, rfl, form⟩ := cases_toJson s <;>
    obtain ⟨name', ht, hname', form'⟩ | ⟨code', rfl, form'⟩ := cases_toJson t <;>
    rw [form, form'] at h
  · refine eq_of_name?_eq s hs t ht ?_
    rw [hname, hname', Json.string.inj h]
  · nomatch h
  · nomatch h
  · simp only [Json.object.injEq, List.cons.injEq, Prod.mk.injEq, Json.number.injEq,
      Int8.toInt_inj, true_and, and_true] at h
    rw [h]

end Status

theorem Json.ofText?_injective : Injective ofText? := by
  rintro (_ | a) (_ | b) h
  · rfl
  · nomatch h
  · nomatch h
  · exact congrArg some (Json.string.inj h)

namespace Table

/-- Columns are their type tags and their names. -/
theorem columns_eq_of_map {a b : List Column} (tags : a.map Column.tag = b.map Column.tag)
    (names : a.map Column.name = b.map Column.name) : a = b := by
  have columns (a : List Column) :
      List.zipWith Column.mk (a.map Column.tag) (a.map Column.name) = a := by
    rw [List.zipWith_map, List.zipWith_self, List.map_id']
  rw [← columns a, tags, names, columns b]

theorem toJson_injective : Injective toJson := by
  intro a b h
  simp only [toJson, Json.object.injEq, List.cons.injEq, Prod.mk.injEq, Json.number.injEq,
    Json.array.injEq, Int8.toInt_inj, true_and, and_true] at h
  obtain ⟨statusCode, tags, names, rows⟩ := h
  have tag_inj : Injective fun tag : Int8 => Json.number tag.toInt :=
    fun _ _ h => Int8.toInt_inj.mp (Json.number.inj h)
  have name_inj : Injective Json.string := fun _ _ h => Json.string.inj h
  have row_inj : Injective fun row : Bytes => Json.string (Hex.toString row) :=
    fun _ _ h => Hex.encode_injective (String.ofList_injective (Json.string.inj h))
  have columns := columns_eq_of_map (tag_inj.list_map tags) (name_inj.list_map names)
  have rows := row_inj.list_map rows
  cases a
  cases b
  congr

end Table

namespace CallResponse

theorem toJson_injective : Injective toJson := by
  intro a b h
  simp only [toJson, Json.object.injEq, List.cons.injEq, Prod.mk.injEq, Json.number.injEq,
    Json.array.injEq, Int8.toInt_inj, Int32.toInt_inj, Int64.toInt_inj, Int.natCast_inj,
    UInt8.toNat_inj, true_and, and_true] at h
  obtain ⟨handle, fieldsPresent, status, statusText, appStatus, appStatusText, roundTripTime,
    tables⟩ := h
  have statusCode := Status.ofCode_injective (Status.toJson_injective status)
  have statusText := Json.ofText?_injective statusText
  have appStatusText := Json.ofText?_injective appStatusText
  have tables := Table.toJson_injective.list_map tables
  cases a
  cases b
  congr

/-- **A response can be told from its text, compact or pretty, and the pretty text is the compact
one with white space between its pieces.** -/
theorem text_faithful (a b : CallResponse) :
    (a.toJson.compact = b.toJson.compact ↔ a = b) ∧
    (a.toJson.pretty = b.toJson.pretty ↔ a = b) ∧
    Json.withoutBlanks .outside a.toJson.pretty.toList = a.toJson.compact.toList := by
  refine ⟨⟨fun h => toJson_injective (Json.compact_injective h), ?_⟩,
    ⟨fun h => toJson_injective (Json.pretty_injective h), ?_⟩, Json.withoutBlanks_pretty _⟩
  · rintro rfl
    rfl
  · rintro rfl
    rfl

end CallResponse

end ProcWire

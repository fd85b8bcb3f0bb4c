import Mathlib.Data.List.Pairwise
import ProcWire.Proofs.Arrays

/-! # Which elements make an array

`Value.array?` judges all elements by one of them, the *anchor*: the first that is not a null,
wherever it stands, or the first of all where there are only nulls.  `Value.GoesWith` is the
condition that the elements then meet, put on any two of them, and no place in the list is special
to it.  So a list is accepted or refused whatever its order, and every part of an
accepted list is accepted.

The order does show in a refusal, which names the first element that does not go with the anchor.
-/
namespace ProcWire.Value

variable {items : List Value} {v w anchor item : Value}

/-- Whether two elements may stand in one array.  A null goes with the values of its wire type, so
one of truth values goes with single-byte integers too; two values that are not nulls must be of
one kind. -/
def GoesWith (v w : Value) : Prop :=
  if v.isNull ∨ w.isNull then v.wireType = w.wireType else v.kind = w.kind

instance : DecidableRel GoesWith := fun v w => by
  unfold GoesWith
  infer_instance

theorem goesWith_of_null (h : v.isNull = true ∨ w.isNull = true) :
    v.GoesWith w ↔ v.wireType = w.wireType := by
  rw [GoesWith, if_pos h]

theorem goesWith_of_concrete (hv : v.isNull = false) (hw : w.isNull = false) :
    v.GoesWith w ↔ v.kind = w.kind := by
  rw [GoesWith, if_neg (by simp [hv, hw])]

theorem goesWith_iff_compatible : v.GoesWith w ↔ v.Compatible w := by
  by_cases hnull : v.isNull = true ∨ w.isNull = true
  · rw [goesWith_of_null hnull]
    refine ⟨fun h => ⟨h, fun hv hw => ?_⟩, fun h => h.wireType⟩
    simp [hv, hw] at hnull
  · obtain ⟨hv, hw⟩ : v.isNull = false ∧ w.isNull = false := by simpa using hnull
    rw [goesWith_of_concrete hv hw]
    refine ⟨fun h => ⟨?_, fun _ _ => h⟩, fun h => h.kind hv hw⟩
    rw [← wireType_kind hv, ← wireType_kind hw, h]

theorem GoesWith.refl (v : Value) : v.GoesWith v :=
  goesWith_iff_compatible.mpr ⟨rfl, fun _ _ => rfl⟩

theorem GoesWith.symm (h : v.GoesWith w) : w.GoesWith v := by
  have compatible := goesWith_iff_compatible.mp h
  exact goesWith_iff_compatible.mpr
    ⟨compatible.wireType.symm, fun hw hv => (compatible.kind hv hw).symm⟩

instance : Std.Symm GoesWith := ⟨fun _ _ => GoesWith.symm⟩

/-- The elements go together two by two, or what is the same, each with all. -/
theorem pairwise_goesWith_iff :
    items.Pairwise GoesWith ↔ ∀ a ∈ items, ∀ b ∈ items, a.Compatible b := by
  simp only [← goesWith_iff_compatible]
  constructor
  · intro together a ha b hb
    exact together.forall_of_forall (fun c _ => GoesWith.refl c) ha hb
  · exact List.pairwise_of_forall_mem_list

theorem array?_eq_ok_iff_pairwise : array? items = .ok v ↔
    v = array items ∧ items.length ≤ maxElements ∧ items.Pairwise GoesWith := by
  rw [array?_eq_ok_iff, pairwise_goesWith_iff]

/-! ## The anchor -/

/-- The element that all others are judged by. -/
inductive Anchor : List Value → Value → Prop where
  /-- The first that is not a null. -/
  | concrete {nulls after : List Value} {v : Value} (nulls_before : ∀ w ∈ nulls, w.isNull = true)
      (not_null : v.isNull = false) : Anchor (nulls ++ v :: after) v
  /-- The first of all, if all are nulls. -/
  | null {after : List Value} {v : Value} (only_nulls : ∀ w ∈ v :: after, w.isNull = true) :
      Anchor (v :: after) v

theorem exists_anchor (h : items ≠ []) : ∃ anchor, Anchor items anchor := by
  cases hfirst : firstConcrete items with
  | some v =>
    obtain ⟨concrete, nulls, after, rfl, before⟩ := List.find?_eq_some_iff_append.mp hfirst
    exact ⟨v, .concrete (by simpa using before) (by simpa using concrete)⟩
  | none =>
    obtain ⟨v, after, rfl⟩ := List.exists_cons_of_ne_nil h
    exact ⟨v, .null (by simpa using List.find?_eq_none.mp hfirst)⟩

/-- The rule of an array, read off its anchor. -/
theorem Anchor.ofItems (h : Anchor items anchor) : ElementRule.ofItems items =
    ⟨if anchor.isNull then none else some anchor.kind, some anchor.wireType⟩ := by
  cases h with
  | concrete nulls_before not_null =>
    rename_i nulls after
    have first : firstConcrete (nulls ++ anchor :: after) = some anchor :=
      List.find?_eq_some_iff_append.mpr
        ⟨by simp [not_null], nulls, after, rfl, by simpa using nulls_before⟩
    simp [ElementRule.ofItems, first, not_null]
  | null only_nulls =>
    rename_i after
    have none : firstConcrete (anchor :: after) = none :=
      List.find?_eq_none.mpr (by simpa using only_nulls)
    simp [ElementRule.ofItems, none, only_nulls anchor List.mem_cons_self]

/-- Among nulls only there are no others. -/
theorem Anchor.isNull_of_mem (h : Anchor items anchor) (null : anchor.isNull = true)
    (mem : item ∈ items) : item.isNull = true := by
  cases h with
  | concrete nulls_before not_null => simp [null] at not_null
  | null only_nulls => exact only_nulls item mem

/-- To belong into an array is to go with its anchor. -/
theorem Anchor.admits_iff (h : Anchor items anchor) (mem : item ∈ items) :
    (ElementRule.ofItems items).admits item = true ↔ anchor.GoesWith item := by
  cases hitem : item.isNull with
  | true =>
    rw [goesWith_of_null (.inr hitem)]
    cases item with
    | null type =>
      rw [admits_null, h.ofItems]
      exact Option.some_inj
    | _ => cases hitem
  | false =>
    have concrete : anchor.isNull = false := by
      rw [← Bool.not_eq_true]
      intro null
      simp [h.isNull_of_mem null mem] at hitem
    rw [goesWith_of_concrete concrete hitem, admits_concrete _ hitem, h.ofItems]
    simp [concrete, eq_comm]

/-- A list that is short enough is refused for its first element that does not go with the
anchor. -/
theorem Anchor.array?_eq_error (h : Anchor items anchor) (count : items.length ≤ maxElements)
    {before after : List Value} {odd : Value} (split : items = before ++ odd :: after)
    (good : ∀ w ∈ before, anchor.GoesWith w) (bad : ¬ anchor.GoesWith odd) :
    array? items = .error (.invalidValue
      (.mixedArray odd.kind (if anchor.isNull then none else some anchor.kind))) := by
  have found : items.find? (!(ElementRule.ofItems items).admits ·) = some odd := by
    refine List.find?_eq_some_iff_append.mpr ⟨?_, before, after, split, fun w hw => ?_⟩
    · have refused := mt (h.admits_iff (by simp [split])).mp bad
      simpa using refused
    · have admitted := (h.admits_iff (by simp [split, hw])).mpr (good w hw)
      simpa using admitted
  simp only [array?, found, if_neg (Nat.not_lt.mpr count)]
  rw [h.ofItems]

/-- Where not all elements go together, one of them is the first that does not go with the
anchor. -/
theorem Anchor.exists_odd (h : Anchor items anchor) (apart : ¬ items.Pairwise GoesWith)
    (count : items.length ≤ maxElements) : ∃ before odd after, items = before ++ odd :: after ∧
      (∀ w ∈ before, anchor.GoesWith w) ∧ ¬ anchor.GoesWith odd := by
  cases hfind : items.find? (fun w => !decide (anchor.GoesWith w)) with
  | some odd =>
    obtain ⟨bad, before, after, split, good⟩ := List.find?_eq_some_iff_append.mp hfind
    exact ⟨before, odd, after, split, by simpa using good, by simpa using bad⟩
  | none =>
    have good : ∀ w ∈ items, anchor.GoesWith w := by
      simpa using List.find?_eq_none.mp hfind
    have none : items.find? (!(ElementRule.ofItems items).admits ·) = none := by
      refine List.find?_eq_none.mpr fun w hw => ?_
      simpa using (h.admits_iff hw).mpr (good w hw)
    have accepted : array? items = .ok (array items) := by
      simp only [array?, none, if_neg (Nat.not_lt.mpr count)]
    exact absurd (array?_eq_ok_iff_pairwise.mp accepted).2.2 apart

/-- **An array is built of the lists that are short enough and whose elements go together two by
two**, and it holds them in their order.  This does not depend on the order, and it passes to
every part of a list.  A list that is too long is refused for its length; any other for the
first of its elements that does not go with the anchor, and the message names the kinds of
the two. -/
theorem array?_pairwise (items : List Value) :
    (∀ v, array? items = .ok v ↔
      v = array items ∧ items.length ≤ maxElements ∧ items.Pairwise GoesWith) ∧
    (∀ others, others.Perm items →
      ((∃ v, array? others = .ok v) ↔ ∃ v, array? items = .ok v)) ∧
    (∀ part v, part.Sublist items → array? items = .ok v → array? part = .ok (array part)) ∧
    (maxElements < items.length →
      array? items = .error (.invalidValue (.arrayTooLong items.length))) ∧
    (items.length ≤ maxElements → ¬ items.Pairwise GoesWith →
      ∃ anchor before odd after fault, Anchor items anchor ∧
        items = before ++ odd :: after ∧ (∀ w ∈ before, anchor.GoesWith w) ∧
        ¬ anchor.GoesWith odd ∧ array? items = .error (.invalidValue fault) ∧
        fault.message = "array elements must share one type, found " ++ odd.kind.name ++
          " among " ++ if anchor.isNull then "nulls" else anchor.kind.name) := by
  have together {others : List Value} : (∃ v, array? others = .ok v) ↔
      others.length ≤ maxElements ∧ others.Pairwise GoesWith := by
    simp only [array?_eq_ok_iff_pairwise, exists_eq_left]
  refine ⟨fun v => array?_eq_ok_iff_pairwise, fun others perm => ?_, fun part v sub ok => ?_,
    fun long => ?_, fun count apart => ?_⟩
  · rw [together, together, perm.length_eq, perm.pairwise_iff GoesWith.symm]
  · obtain ⟨-, count, pairs⟩ := array?_eq_ok_iff_pairwise.mp ok
    exact array?_eq_ok_iff_pairwise.mpr
      ⟨rfl, Nat.le_trans sub.length_le count, pairs.sublist sub⟩
  · rw [array?, if_pos long]
  · have nonempty : items ≠ [] := by
      rintro rfl
      exact apart .nil
    obtain ⟨anchor, h⟩ := exists_anchor nonempty
    obtain ⟨before, odd, after, split, good, bad⟩ := h.exists_odd apart count
    refine ⟨anchor, before, odd, after, _, h, split, good, bad,
      h.array?_eq_error count split good bad, ?_⟩
    cases anchor.isNull <;> rfl

/-- A null of the truth values' type goes with single-byte integers; a truth value does not. -/
example : array? [.null ⟨.bool, rfl⟩, .tinyInt 1, .bool true] =
    .error (.invalidValue (.mixedArray (.typed .bool) (some .tinyInt))) := rfl

end ProcWire.Value

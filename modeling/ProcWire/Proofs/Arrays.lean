import ProcWire.Value

/-! # What an array holds

`Value.array?` compares every element with a rule that it makes from the first of them.
`Value.Compatible` puts the same condition on two elements at a time, whatever their
places: they go out under the same tag, and two that are not nulls are of the same kind.
`array?_eq_ok_iff` says that the two agree.
-/
namespace ProcWire

/-- The wire type of the values of a kind.  Only nulls are of the last kind, and these have wire
types of their own. -/
def Kind.wireType : Kind → WireType
  | typed type => type
  | tinyInt => .bool
  | missing => .null

namespace Value

variable {items : List Value} {item v w : Value}

/-- What two elements of one array must have in common. -/
structure Compatible (v w : Value) : Prop where
  wireType : v.wireType = w.wireType
  kind : v.isNull = false → w.isNull = false → v.kind = w.kind

theorem wireType_kind (h : v.isNull = false) : v.kind.wireType = v.wireType := by
  cases v with
  | null type => cases h
  | _ => rfl

/-- Apart from truth values, the tag of a value that is not a null tells its kind. -/
theorem kind_eq_of_wireType_eq (hv : v.isNull = false) (hw : w.isNull = false)
    (truth : v.kind ≠ .typed .bool) (truth' : w.kind ≠ .typed .bool)
    (h : v.wireType = w.wireType) : v.kind = w.kind := by
  have known : ∀ {u : Value}, u.isNull = false → u.kind ≠ .typed .bool →
      u.kind = if u.wireType = .bool then .tinyInt else .typed u.wireType := by
    intro u hu htruth
    cases u with
    | null type => cases hu
    | bool b => exact absurd rfl htruth
    | _ => rfl
  rw [known hv truth, known hw truth', h]

/-! ## The rule of an array -/

theorem mem_of_firstConcrete (h : firstConcrete items = some v) :
    v ∈ items ∧ v.isNull = false :=
  ⟨List.mem_of_find?_eq_some h, by simpa using List.find?_some h⟩

theorem exists_firstConcrete (h : item ∈ items) (concrete : item.isNull = false) :
    ∃ v, firstConcrete items = some v := by
  have found : (firstConcrete items).isSome := by
    rw [firstConcrete, List.find?_isSome]
    exact ⟨item, h, by simp [concrete]⟩
  exact Option.isSome_iff_exists.mp found

/-- The wire type in the rule is that of some element. -/
theorem exists_mem_nullType (h : item ∈ items) :
    ∃ v ∈ items, (ElementRule.ofItems items).nullType = some v.wireType := by
  cases hfirst : firstConcrete items with
  | some v =>
    refine ⟨v, (mem_of_firstConcrete hfirst).1, ?_⟩
    simp [ElementRule.ofItems, hfirst]
  | none =>
    cases items with
    | nil => cases h
    | cons v after =>
      refine ⟨v, List.mem_cons_self, ?_⟩
      simp [ElementRule.ofItems, hfirst]

theorem admits_null (rule : ElementRule) (type : NullType) :
    rule.admits (null type) = true ↔ rule.nullType = some type.type := by
  simp [ElementRule.admits, eq_comm]

theorem admits_concrete (rule : ElementRule) (h : item.isNull = false) :
    rule.admits item = true ↔ ∀ kind, rule.kind = some kind → item.kind = kind := by
  have same : rule.admits item = rule.kind.all (item.kind = ·) := by
    cases item with
    | null type => cases h
    | _ => rfl
  rw [same]
  cases rule.kind with
  | none => exact iff_of_true rfl fun kind h => nomatch h
  | some kind => simp

/-- An element that belongs into an array has the wire type in the rule, and its kind is that of
the first concrete element. -/
theorem of_admits (h : item ∈ items) (admitted : (ElementRule.ofItems items).admits item = true) :
    (ElementRule.ofItems items).nullType = some item.wireType ∧
      (item.isNull = false → (ElementRule.ofItems items).kind = some item.kind) := by
  cases hnull : item.isNull with
  | true =>
    cases item with
    | null type => exact ⟨(admits_null _ type).mp admitted, fun h => nomatch h⟩
    | _ => cases hnull
  | false =>
    obtain ⟨v, hv⟩ := exists_firstConcrete h hnull
    have rule : (ElementRule.ofItems items).kind = some v.kind := by
      simp [ElementRule.ofItems, hv]
    have kind := (admits_concrete _ hnull).mp admitted v.kind rule
    have wireType : item.wireType = v.wireType := by
      rw [← wireType_kind hnull, ← wireType_kind (mem_of_firstConcrete hv).2, kind]
    refine ⟨?_, fun _ => rule.trans (congrArg some kind.symm)⟩
    simp [ElementRule.ofItems, hv, wireType]

theorem admits_of_compatible (h : item ∈ items) (compatible : ∀ v ∈ items, v.Compatible item) :
    (ElementRule.ofItems items).admits item = true := by
  cases hnull : item.isNull with
  | true =>
    cases item with
    | null type =>
      obtain ⟨v, hv, rule⟩ := exists_mem_nullType h
      rw [admits_null, rule]
      exact congrArg some (compatible v hv).wireType
    | _ => cases hnull
  | false =>
    rw [admits_concrete _ hnull]
    intro kind hkind
    obtain ⟨v, hv, rfl⟩ := Option.map_eq_some_iff.mp hkind
    obtain ⟨mem, concrete⟩ := mem_of_firstConcrete hv
    exact ((compatible v mem).kind concrete hnull).symm

/-- **An array is built of the lists that can be counted and whose elements go together.** -/
theorem array?_eq_ok_iff : array? items = .ok v ↔
    v = array items ∧ items.length ≤ maxElements ∧ ∀ a ∈ items, ∀ b ∈ items, a.Compatible b := by
  have accepted : array? items = .ok v ↔ v = array items ∧ items.length ≤ maxElements ∧
      ∀ item ∈ items, (ElementRule.ofItems items).admits item = true := by
    constructor
    · intro h
      refine ⟨eq_array_of_array? h, length_le_of_array? h, ?_⟩
      simp only [array?] at h
      split at h
      · cases h
      · split at h
        · rename_i hnone
          intro item hitem
          have fine := List.find?_eq_none.mp hnone item hitem
          rwa [Bool.not_eq_true, Bool.not_eq_false'] at fine
        · cases h
    · rintro ⟨rfl, count, admitted⟩
      have none : items.find? (!(ElementRule.ofItems items).admits ·) = none := by
        simpa using admitted
      simp only [array?, none, if_neg (Nat.not_lt.mpr count)]
  rw [accepted]
  refine and_congr_right fun _ => and_congr_right fun _ => ⟨fun admitted a ha b hb => ?_, ?_⟩
  · obtain ⟨typeA, kindA⟩ := of_admits ha (admitted a ha)
    obtain ⟨typeB, kindB⟩ := of_admits hb (admitted b hb)
    refine ⟨Option.some.inj (typeA.symm.trans typeB), fun concreteA concreteB => ?_⟩
    exact Option.some.inj ((kindA concreteA).symm.trans (kindB concreteB))
  · intro compatible item hitem
    exact admits_of_compatible hitem fun v hv => compatible v hv item hitem

theorem Constructible.of_array (h : (Value.array items).Constructible) :
    array? items = .ok (Value.array items) ∧ ∀ item ∈ items, item.Constructible := by
  generalize hv : Value.array items = v at h
  cases h with
  | array constructible built =>
    obtain rfl := eq_array_of_array? built
    cases hv
    exact ⟨built, constructible⟩
  | _ => cases hv

end Value
end ProcWire

import Mathlib.Data.List.Forall2

/-! # Chains of stages

Stages that can fail are chained by `bind`, and such a chain fails with its first failure
(`bind_eq_error_iff`).  One stage put to every element of a list is a chain too; it succeeds if
all of them do (`mapM_eq_ok_iff`), and otherwise fails as the leftmost of those that fail
(`mapM_eq_error_iff`).
-/
namespace ProcWire
variable {ε ε' α β : Type}

theorem bind_eq_ok_iff {x : Except ε α} {f : α → Except ε β} {b : β} :
    x >>= f = .ok b ↔ ∃ a, x = .ok a ∧ f a = .ok b := by
  cases x with
  | error e => exact iff_of_false nofun (by rintro ⟨_, ⟨⟩, _⟩)
  | ok a =>
    constructor
    · intro h
      exact ⟨a, rfl, h⟩
    · rintro ⟨_, ⟨⟩, h⟩
      exact h

/-- A chain fails where it fails first. -/
theorem bind_eq_error_iff {x : Except ε α} {f : α → Except ε β} {e : ε} :
    x >>= f = .error e ↔ x = .error e ∨ ∃ a, x = .ok a ∧ f a = .error e := by
  cases x with
  | error e' =>
    constructor
    · rintro ⟨⟩
      exact Or.inl rfl
    · rintro (⟨⟨⟩⟩ | ⟨_, ⟨⟩, _⟩)
      rfl
  | ok a =>
    constructor
    · intro h
      exact Or.inr ⟨a, rfl, h⟩
    · rintro (⟨⟨⟩⟩ | ⟨_, ⟨⟩, h⟩)
      exact h

theorem mapError_eq_ok_iff {x : Except ε α} {g : ε → ε'} {a : α} :
    x.mapError g = .ok a ↔ x = .ok a := by
  cases x with
  | error e => exact iff_of_false nofun nofun
  | ok a' => rw [Except.mapError, Except.ok.injEq, Except.ok.injEq]

theorem mapError_eq_error_iff {x : Except ε α} {g : ε → ε'} {e' : ε'} :
    x.mapError g = .error e' ↔ ∃ e, x = .error e ∧ g e = e' := by
  cases x with
  | error e => simp [Except.mapError]
  | ok a => simp [Except.mapError]

/-- What belongs to a member of one list is a member of the other. -/
theorem exists_mem_of_forall₂ {R : α → β → Prop} {xs : List α} {ys : List β} {y : β}
    (h : List.Forall₂ R xs ys) (mem : y ∈ ys) : ∃ x ∈ xs, R x y := by
  induction h with
  | nil => cases mem
  | cons here _ ih =>
    rcases List.mem_cons.mp mem with rfl | mem
    · exact ⟨_, List.mem_cons_self, here⟩
    · obtain ⟨x, hx, there⟩ := ih mem
      exact ⟨x, List.mem_cons_of_mem _ hx, there⟩

theorem mapM_eq_ok_iff {f : α → Except ε β} {xs : List α} {ys : List β} :
    xs.mapM f = .ok ys ↔ List.Forall₂ (fun x y => f x = .ok y) xs ys := by
  induction xs generalizing ys with
  | nil =>
    rw [List.mapM_nil, List.forall₂_nil_left_iff]
    exact ⟨fun h => (Except.ok.inj h).symm, fun h => h ▸ rfl⟩
  | cons x xs ih =>
    simp only [List.mapM_cons, bind_eq_ok_iff, ih, List.forall₂_cons_left_iff]
    constructor
    · rintro ⟨y, hy, ys', hys, ⟨⟩⟩
      exact ⟨y, ys', hy, hys, rfl⟩
    · rintro ⟨y, ys', hy, hys, rfl⟩
      exact ⟨y, hy, ys', hys, rfl⟩

/-- Of several that fail, the leftmost is reported. -/
theorem mapM_eq_error_iff {f : α → Except ε β} {xs : List α} {e : ε} :
    xs.mapM f = .error e ↔ ∃ before bad after, xs = before ++ bad :: after ∧
      (∀ x ∈ before, ∃ y, f x = .ok y) ∧ f bad = .error e := by
  induction xs with
  | nil => simp [pure, Except.pure]
  | cons x xs ih =>
    simp only [List.mapM_cons, bind_eq_error_iff, ih]
    constructor
    · rintro (bad | ⟨y, hy, ⟨before, bad, after, rfl, good, hbad⟩ | ⟨_, _, ⟨⟩⟩⟩)
      · exact ⟨[], x, xs, rfl, nofun, bad⟩
      · exact ⟨x :: before, bad, after, rfl, List.forall_mem_cons.mpr ⟨⟨y, hy⟩, good⟩, hbad⟩
    · rintro ⟨before, bad, after, split, good, hbad⟩
      cases before with
      | nil =>
        obtain ⟨rfl, rfl⟩ := List.cons.inj split
        exact Or.inl hbad
      | cons z before =>
        obtain ⟨rfl, rfl⟩ := List.cons.inj split
        obtain ⟨⟨y, hy⟩, good⟩ := List.forall_mem_cons.mp good
        exact Or.inr ⟨y, hy, Or.inl ⟨before, bad, after, rfl, good, hbad⟩⟩

end ProcWire

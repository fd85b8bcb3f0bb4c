import Mathlib.Algebra.BigOperators.Group.List.Basic
import ProcWire.Text.Scanner

/-! # How scanners read

What a scanner makes of a text that is known as far as the scanner looks.  A chain goes on where
its first part has stopped, a choice takes its second branch on the same text, and a run
ends where the text behind it stops it (`Stops`).  A text of digits holds no other
character, which is how the longer forms of a number are told from it.
-/
namespace ProcWire.Scanner
variable {α β : Type} {x y : Scanner α} {f : α → Scanner β} {a : α} {r : α × List Char}
  {p : Char → Bool} {c d : Char} {text rest run : List Char}

/-! ## Chains and choices -/

theorem bind_of_some (h : x text = some (a, rest)) : (x >>= f) text = f a rest := by
  simp only [bind, StateT.bind, h, Option.bind_some]

theorem bind_of_none (h : x text = none) : (x >>= f) text = none := by
  simp only [bind, StateT.bind, h, Option.bind_none]

theorem pure_apply (a : α) (text : List Char) : (pure a : Scanner α) text = some (a, text) := rfl

theorem orElse_of_some (h : x text = some r) : (x <|> y) text = some r := by
  simp only [HOrElse.hOrElse, OrElse.orElse, Alternative.orElse, StateT.orElse, h,
    Option.orElse_some]

theorem orElse_of_none (h : x text = none) : (x <|> y) text = y text := by
  simp only [HOrElse.hOrElse, OrElse.orElse, Alternative.orElse, StateT.orElse, h,
    Option.orElse_none]

/-! ## Single characters -/

/-- A character of a sort is none that is not. -/
theorem ne_of_sort (h : p c = true) (h' : p d = false) : c ≠ d := by
  rintro rfl
  rw [h] at h'
  cases h'

theorem satisfy_cons (h : p c = true) : satisfy p (c :: rest) = some (c, rest) := by
  rw [satisfy, if_pos h]

/-- A text that does not go on with a character of some sort. -/
def Stops (p : Char → Bool) (text : List Char) : Prop := ∀ c, text.head? = some c → p c = false

theorem stops_nil : Stops p [] := nofun

theorem stops_cons : Stops p (c :: rest) ↔ p c = false := by
  simp [Stops]

theorem satisfy_of_stops (h : Stops p text) : satisfy p text = none := by
  cases text with
  | nil => rfl
  | cons c rest => rw [satisfy, if_neg (by simp [stops_cons.mp h])]

theorem char_cons (c : Char) (rest : List Char) : char c (c :: rest) = some ((), rest) :=
  bind_of_some (satisfy_cons (by simp))

theorem char_cons_of_ne (h : d ≠ c) : char c (d :: rest) = none :=
  bind_of_none (satisfy_of_stops (stops_cons.mpr (by simpa using h)))

theorem literal_cons_of_ne {chars : List Char} (h : d ≠ c) :
    literal (c :: chars) (d :: rest) = none := by
  simp [literal, h]

theorem oneOf_cons_of_notMem {chars : List Char} (h : c ∉ chars) : oneOf chars (c :: rest) = none :=
  satisfy_of_stops (stops_cons.mpr (by simpa using h))

theorem next_nil (p : Char → Bool) : next p [] = some (false, []) := rfl

theorem next_cons (p : Char → Bool) (c : Char) (rest : List Char) :
    next p (c :: rest) = some (p c, c :: rest) := rfl

/-! ## Runs of characters -/

theorem takeWhile_append (inside : ∀ c ∈ run, p c = true) (stop : Stops p rest) :
    takeWhile p (run ++ rest) = some (run, rest) := by
  have nothing : rest.takeWhile p = [] ∧ rest.dropWhile p = rest := by
    cases rest with
    | nil => exact ⟨rfl, rfl⟩
    | cons c rest => simp [stops_cons.mp stop]
  rw [takeWhile, List.takeWhile_append_of_pos inside, List.dropWhile_append_of_pos inside,
    nothing.1, nothing.2, List.append_nil]

theorem takeWhile1_append (inside : ∀ c ∈ run, p c = true) (stop : Stops p rest)
    (some_read : run ≠ []) : takeWhile1 p (run ++ rest) = some (run, rest) := by
  refine (bind_of_some (takeWhile_append inside stop)).trans ?_
  rw [if_neg (by simpa using some_read), pure_apply]

theorem manyOnto_of_some {bound : List Char} {before : List α} (h : x text = some (a, rest)) :
    manyOnto x (c :: bound) before text = manyOnto x bound (a :: before) rest := by
  simp only [manyOnto, h]

theorem manyOnto_of_none {bound : List Char} {before : List α} (h : x text = none) :
    manyOnto x bound before text = some (before.reverse, text) := by
  cases bound with
  | nil => rfl
  | cons b bound => simp only [manyOnto, h]

theorem many_of_none (h : x text = none) : many x text = some ([], text) :=
  manyOnto_of_none h

/-- Pieces that a scanner reads one after another, up to a text that it reads nothing of. -/
theorem many_flatMap {γ : Type} (piece : γ → List Char) (read : γ → α) {items : List γ}
    (reads : ∀ i ∈ items, piece i ≠ [] ∧ ∀ rest, x (piece i ++ rest) = some (read i, rest))
    (stop : x rest = none) :
    many x (items.flatMap piece ++ rest) = some (items.map read, rest) := by
  -- Each piece has a character, so the text has enough of them to bound the runs.
  have onto (bound : List Char) (before : List α) (enough : items.length ≤ bound.length) :
      manyOnto x bound before (items.flatMap piece ++ rest) =
        some (before.reverse ++ items.map read, rest) := by
    induction items generalizing bound before with
    | nil =>
      rw [List.map_nil, List.append_nil]
      exact manyOnto_of_none stop
    | cons i items ih =>
      obtain ⟨⟨-, here⟩, later⟩ := List.forall_mem_cons.mp reads
      obtain ⟨b, bound, rfl⟩ := List.exists_cons_of_length_pos (Nat.zero_lt_of_lt enough)
      rw [List.flatMap_cons, List.append_assoc, manyOnto_of_some (here _),
        ih later _ _ (Nat.le_of_succ_le_succ enough)]
      simp
  refine onto _ [] ?_
  have one : ∀ length ∈ items.map fun i => (piece i).length, 1 ≤ length := by
    simp only [List.forall_mem_map]
    exact fun i mem => List.length_pos_iff.mpr (reads i mem).1
  have enough := List.length_le_sum_of_one_le _ one
  rw [List.length_map, ← List.length_flatMap] at enough
  rw [List.length_append]
  exact Nat.le_add_right_of_le enough

/-- Characters that a scanner reads one by one, up to a text that it reads nothing of. -/
theorem many_append {x : Scanner Char} (inside : ∀ c ∈ run, ∀ rest, x (c :: rest) = some (c, rest))
    (stop : x rest = none) : many x (run ++ rest) = some (run, rest) := by
  have pieces := many_flatMap (fun c => [c]) id (fun c mem => ⟨by simp, inside c mem⟩) stop
  rwa [List.flatMap_singleton', List.map_id] at pieces

/-- One item, and nothing that separates it from another. -/
theorem separated1_single {separator : Scanner β} {item : Scanner α}
    (first : item text = some (a, rest)) (stop : separator rest = none) :
    separated1 separator item text = some ([a], rest) := by
  refine (bind_of_some first).trans ((bind_of_some (many_of_none ?_)).trans rfl)
  simp only [SeqRight.seqRight]
  exact bind_of_none stop

/-! ## Texts of digits -/

section Digits
variable {digits : List Char}

theorem number_append (count : Nat) (inside : ∀ c ∈ digits, Numeral.isDigit c = true)
    (stop : Stops Numeral.isDigit rest) : number count (digits ++ rest) =
      if count ≤ digits.length then
        some (Numeral.value (digits.take count), digits.drop count ++ rest)
      else none := by
  split
  · rename_i enough
    have all : (digits.take count).all Numeral.isDigit = true :=
      List.all_eq_true.mpr fun c mem => inside c (List.mem_of_mem_take mem)
    simp [number, List.take_append_of_le_length enough, List.drop_append_of_le_length enough, all,
      enough]
  · rename_i few
    have short : digits.length ≤ count := Nat.le_of_not_le few
    cases rest with
    | nil => simp [number, List.take_of_length_le short, Nat.ne_of_lt (Nat.not_le.mp few)]
    | cons c rest =>
      have reached : c ∈ (digits ++ c :: rest).take count := by
        rw [List.take_append, List.take_of_length_le short]
        obtain ⟨more, hmore⟩ :=
          Nat.exists_eq_succ_of_ne_zero (Nat.sub_ne_zero_of_lt (Nat.not_le.mp few))
        simp [hmore]
      have refused : ((digits ++ c :: rest).take count).all Numeral.isDigit = false :=
        List.all_eq_false.mpr ⟨c, reached, by simp [stops_cons.mp stop]⟩
      simp [number, refused]

/-- Digits that something else than a mark follows are no number with the mark behind it. -/
theorem number_char_of_digits {count : Nat} {g : Nat → Unit → Scanner β}
    (inside : ∀ c ∈ digits, Numeral.isDigit c = true) (stop : Stops Numeral.isDigit rest)
    (mark : Numeral.isDigit d = false) (other : Stops (· = d) rest) :
    (number count >>= fun n => char d >>= g n) (digits ++ rest) = none := by
  have read := number_append count inside stop
  split at read
  · refine (bind_of_some read).trans (bind_of_none (bind_of_none (satisfy_of_stops ?_)))
    cases left : digits.drop count with
    | nil => exact other
    | cons c left' =>
      have digit := inside c (List.mem_of_mem_drop (left ▸ List.mem_cons_self))
      exact stops_cons.mpr (decide_eq_false (ne_of_sort digit mark))
  · exact bind_of_none read

end Digits

end ProcWire.Scanner

import Mathlib.Data.List.Basic
import ProcWire.Json
import ProcWire.Text.Blank

/-! # A JSON text determines its value

There are two facts about the printer of `Json`.  The layouts differ in nothing but
white space outside of string literals: without it, every text is the compact one
(`Strips.render`, `withoutBlanks_pretty`).  And the compact text of a value determines
the value, also in front of further text (`told_render`).  So no text is that of two
values, be it compact or pretty (`compact_injective`, `pretty_injective`).

Both are proved along the value, by `Json.induction`, from one law for each piece of
a text.  For the first, `Strips` says that a piece loses its white space whatever
comes before and behind.  For the second, `Told` says that a piece can be told from
what is behind it.  That needs care for numbers only, which have no end of their own;
`Ends` is what has to come behind them.
-/
namespace ProcWire.Json

/-! ### Values and their pieces -/

/-- What holds of a value as soon as it holds of its elements and members holds of every value. -/
@[elab_as_elim]
theorem induction {P : Json → Prop} (null : P .null) (number : ∀ n, P (.number n))
    (string : ∀ text, P (.string text))
    (array : ∀ items, (∀ item ∈ items, P item) → P (.array items))
    (object : ∀ members, (∀ member ∈ members, P member.2) → P (.object members)) :
    ∀ json, P json
  | .null => null
  | .number n => number n
  | .string text => string text
  | .array items => array items fun item _ => induction null number string array object item
  | .object members =>
    object members fun member _mem => induction null number string array object member.2
termination_by json => json
decreasing_by
  · decreasing_tactic
  · have smaller := List.sizeOf_lt_of_mem _mem
    obtain ⟨name, value⟩ := member
    simp only [Prod.mk.sizeOf_spec, Json.object.sizeOf_spec] at smaller ⊢
    omega

/-- The text of a member. -/
def renderMember (layout : Layout) (depth : Nat) (member : String × Json) : List Char :=
  quote member.1 ++ ':' :: (layout.afterColon ++ render layout depth member.2)

section Pieces
variable (layout : Layout) (depth : Nat)

theorem renderItems_eq (items : List Json) (before : List (List Char)) :
    renderItems layout depth items before = before.reverse ++ items.map (render layout depth) := by
  induction items generalizing before with
  | nil => rw [renderItems, List.map_nil, List.append_nil]
  | cons item rest ih => rw [renderItems, ih, List.reverse_cons, List.append_assoc]; rfl

theorem renderMembers_eq (members : List (String × Json)) (before : List (List Char)) :
    renderMembers layout depth members before =
      before.reverse ++ members.map (renderMember layout depth) := by
  induction members generalizing before with
  | nil => rw [renderMembers, List.map_nil, List.append_nil]
  | cons member rest ih => rw [renderMembers, ih, List.reverse_cons, List.append_assoc]; rfl

theorem render_array (items : List Json) :
    render layout depth (.array items) =
      enclose layout depth '[' ']' (items.map (render layout (depth + 1))) := by
  rw [render, renderItems_eq]
  rfl

theorem render_object (members : List (String × Json)) :
    render layout depth (.object members) =
      enclose layout depth '\x7b' '\x7d' (members.map (renderMember layout (depth + 1))) := by
  rw [render, renderMembers_eq]
  rfl

end Pieces

/-- Pieces behind one another, each behind a separator but the first. -/
theorem intercalate_cons (separator piece : List Char) (pieces : List (List Char)) :
    separator.intercalate (piece :: pieces) = piece ++ pieces.flatMap (separator ++ ·) := by
  induction pieces generalizing piece with
  | nil => simp
  | cons next rest ih =>
    rw [List.intercalate_cons_cons, ih, List.flatMap_cons, List.append_assoc, List.append_assoc]

section Brackets
variable {layout : Layout} {depth : Nat} {opening closing : Char}

theorem enclose_nil : enclose layout depth opening closing [] = [opening, closing] := rfl

theorem enclose_cons (piece : List Char) (pieces : List (List Char)) :
    enclose layout depth opening closing (piece :: pieces) =
      opening :: (layout.gap (depth + 1) ++ (piece ++
        (pieces.flatMap (',' :: layout.gap (depth + 1) ++ ·) ++
          (layout.gap depth ++ [closing])))) := by
  rw [enclose, intercalate_cons, List.append_assoc]
  rfl

end Brackets

/-! ### Numerals -/

theorem mem_integer {n : Int} {c : Char} (mem : c ∈ integer n) : c = '-' ∨ c.isDigit = true := by
  have digit {c : Char} (mem : c ∈ Nat.toDigits 10 n.natAbs) : c.isDigit = true :=
    Nat.isDigit_of_mem_toDigits (by decide) (by decide) mem
  rw [integer] at mem
  split at mem
  · rcases List.mem_cons.mp mem with sign | mem
    · exact Or.inl sign
    · exact Or.inr (digit mem)
  · exact Or.inr (digit mem)

theorem integer_ne_nil (n : Int) : integer n ≠ [] := by
  rw [integer]
  split
  · nofun
  · exact Nat.toDigits_ne_nil

theorem isBlank_of_isDigit {c : Char} (h : c.isDigit = true) : Text.isBlank c = false := by
  have range : 48 ≤ c.toNat ∧ c.toNat ≤ 57 := Char.isDigit_iff_toNat.mp h
  simp only [Text.isBlank, blankChars, CharSet.contains, List.any_cons, List.any_nil,
    Bool.or_false, Bool.or_eq_false_iff, Bool.and_eq_false_iff, decide_eq_false_iff_not]
  omega

/-! ### Escapes -/

/-- The characters that do not stand for themselves in a string literal. -/
def escaped : List Char := '"' :: '\\' :: (List.range 0x20).map Char.ofNat

theorem escape_of_notMem {c : Char} (h : c ∉ escaped) : escape c = [c] := by
  simp only [escaped, List.mem_cons, List.mem_map, List.mem_range, not_or, not_exists,
    not_and] at h
  obtain ⟨quote, backslash, control⟩ := h
  have printable : ¬ c.toNat < 0x20 := fun low => control c.toNat low (Char.ofNat_toNat c)
  rw [escape, if_neg quote, if_neg backslash, if_neg, if_neg, if_neg, if_neg, if_neg,
    if_neg printable]
  all_goals
    rintro rfl
    exact printable (by decide)

theorem exists_escape_of_mem {c : Char} (h : c ∈ escaped) : ∃ rest, escape c = '\\' :: rest := by
  have all : escaped.all fun c => (escape c).head? = some '\\' := by decide +kernel
  exact List.head?_eq_some_iff.mp (of_decide_eq_true (List.all_eq_true.mp all c h))

/-- No escape is the beginning of another. -/
theorem eq_of_escape_begins {c d : Char} (hc : c ∈ escaped) (hd : d ∈ escaped)
    (h : escape c <+: escape d) : c = d := by
  have all : escaped.all fun c => escaped.all fun d => escape c <+: escape d → c = d := by
    decide +kernel
  exact of_decide_eq_true (List.all_eq_true.mp (List.all_eq_true.mp all c hc) d hd) h

/-- A character of a string literal is its closing quote, or the form of a character begins
there. -/
theorem escape_append_ne (c : Char) (s t : List Char) : escape c ++ s ≠ '"' :: t := by
  by_cases h : c ∈ escaped
  · obtain ⟨rest, form⟩ := exists_escape_of_mem h
    rw [form]
    nofun
  · rw [escape_of_notMem h]
    rintro ⟨⟩
    exact h (by decide)

theorem eq_of_escape_append {c d : Char} {s t : List Char} (hc : c ∉ escaped)
    (h : escape c ++ s = escape d ++ t) : c = d := by
  rw [escape_of_notMem hc] at h
  by_cases hd : d ∈ escaped
  · obtain ⟨rest, form⟩ := exists_escape_of_mem hd
    rw [form] at h
    obtain ⟨rfl, -⟩ := List.cons.inj h
    exact absurd (by decide) hc
  · rw [escape_of_notMem hd] at h
    exact (List.cons.inj h).1

/-- A character is told from what is behind its form. -/
theorem escape_append_inj {c d : Char} {s t : List Char} (h : escape c ++ s = escape d ++ t) :
    c = d ∧ s = t := by
  have same : c = d := by
    by_cases hc : c ∈ escaped
    · by_cases hd : d ∈ escaped
      · rcases List.append_eq_append_iff.mp h with ⟨more, longer, -⟩ | ⟨more, longer, -⟩
        · exact eq_of_escape_begins hc hd ⟨more, longer.symm⟩
        · exact (eq_of_escape_begins hd hc ⟨more, longer.symm⟩).symm
      · exact (eq_of_escape_append hd h.symm).symm
    · exact eq_of_escape_append hc h
  subst same
  exact ⟨rfl, List.append_cancel_left h⟩

/-! ### White space outside of string literals -/

/-- Where in a text a character stands. -/
inductive Place where
  | outside
  /-- In a string literal. -/
  | inside
  /-- In a string literal, right behind the backslash of an escape. -/
  | escape
  deriving DecidableEq

/-- The place behind a character. -/
def Place.next : Place → Char → Place
  | outside, c => if c = '"' then inside else outside
  | inside, c => if c = '"' then outside else if c = '\\' then escape else inside
  | escape, _ => inside

/-- A text, read from a place on, without the white space outside of its string literals. -/
def withoutBlanks : Place → List Char → List Char
  | _, [] => []
  | place, c :: text =>
    if place = .outside ∧ Text.isBlank c then withoutBlanks place text
    else c :: withoutBlanks (place.next c) text

/-- White space does not lead into a string literal. -/
theorem Place.next_blank {c : Char} (h : Text.isBlank c = true) :
    Place.outside.next c = .outside := by
  refine if_neg ?_
  rintro rfl
  exact absurd h (by decide)

theorem withoutBlanks_append (p s : List Char) : ∀ place : Place,
    withoutBlanks place (p ++ s) =
      withoutBlanks place p ++ withoutBlanks (p.foldl Place.next place) s := by
  induction p with
  | nil => exact fun _ => rfl
  | cons c p ih =>
    intro place
    rw [List.cons_append, withoutBlanks, withoutBlanks, ih, ih, List.foldl_cons]
    split
    · rename_i blank
      rw [blank.1, Place.next_blank blank.2]
    · rfl

/-- A layout puts nothing but white space between the pieces of a text. -/
structure Layout.Blank (layout : Layout) : Prop where
  gap : ∀ depth, ∀ c ∈ layout.gap depth, Text.isBlank c = true
  afterColon : ∀ c ∈ layout.afterColon, Text.isBlank c = true

/-- What is left of a piece that leads from one place to another. -/
structure Strips (here there : Place) (p p' : List Char) : Prop where
  left : withoutBlanks here p = p'
  behind : p.foldl Place.next here = there

namespace Strips
variable {here there onward : Place} {p p' q q' : List Char}

theorem append (hp : Strips here there p p') (hq : Strips there onward q q') :
    Strips here onward (p ++ q) (p' ++ q') where
  left := by rw [withoutBlanks_append, hp.left, hp.behind, hq.left]
  behind := by rw [List.foldl_append, hp.behind, hq.behind]

theorem nil : Strips here here [] [] := ⟨rfl, rfl⟩

/-- A concatenation is stripped piece by piece. -/
theorem flatMap {α : Type} {f f' : α → List Char} :
    ∀ {xs : List α}, (∀ x ∈ xs, Strips here here (f x) (f' x)) →
      Strips here here (xs.flatMap f) (xs.flatMap f')
  | [], _ => nil
  | x :: _, h =>
    (h x List.mem_cons_self).append (flatMap fun y hy => h y (List.mem_cons_of_mem x hy))

theorem blanks (h : ∀ c ∈ p, Text.isBlank c = true) : Strips .outside .outside p [] := by
  have each : ∀ c ∈ p, Strips .outside .outside [c] [] := fun c mem =>
    ⟨if_pos ⟨rfl, h c mem⟩, Place.next_blank (h c mem)⟩
  have all := flatMap each
  rwa [List.flatMap_singleton', List.flatMap_eq_nil_iff.mpr fun _ _ => rfl] at all

/-- A character that is neither white space nor a quote. -/
theorem singleton {c : Char} (blank : Text.isBlank c = false) (quote : c ≠ '"') :
    Strips .outside .outside [c] [c] where
  left := by simp [withoutBlanks, blank]
  behind := if_neg quote

theorem bare (h : ∀ c ∈ p, Text.isBlank c = false ∧ c ≠ '"') :
    Strips .outside .outside p p := by
  have all := flatMap fun c mem => singleton (h c mem).1 (h c mem).2
  rwa [List.flatMap_singleton'] at all

theorem escape (c : Char) : Strips .inside .inside (escape c) (escape c) := by
  by_cases h : c ∈ escaped
  · have all : escaped.all fun c => withoutBlanks .inside (Json.escape c) = Json.escape c ∧
        (Json.escape c).foldl Place.next .inside = .inside := by decide +kernel
    obtain ⟨left, behind⟩ := of_decide_eq_true (List.all_eq_true.mp all c h)
    exact ⟨left, behind⟩
  · rw [escape_of_notMem h]
    refine ⟨rfl, ?_⟩
    have quote : c ≠ '"' := by rintro rfl; exact h (by decide)
    have backslash : c ≠ '\\' := by rintro rfl; exact h (by decide)
    simp only [List.foldl_cons, List.foldl_nil, Place.next, if_neg quote, if_neg backslash]

/-- A string literal keeps its white space. -/
theorem quote (text : String) : Strips .outside .outside (quote text) (quote text) := by
  have opening : Strips .outside .inside ['"'] ['"'] := ⟨by decide, by decide⟩
  have closing : Strips .inside .outside ['"'] ['"'] := ⟨by decide, by decide⟩
  exact opening.append ((flatMap fun c _ => escape c).append closing)

theorem integer (n : Int) : Strips .outside .outside (integer n) (integer n) := by
  refine bare fun c mem => ?_
  rcases mem_integer mem with rfl | digit
  · decide
  · refine ⟨isBlank_of_isDigit digit, ?_⟩
    rintro rfl
    contradiction

/-- Pieces between brackets are stripped one by one, and what stands between them is white space
but for the commas. -/
theorem enclose {α : Type} {layout : Layout} (blank : layout.Blank) (depth depth' : Nat)
    {opening closing : Char} (ho : Strips .outside .outside [opening] [opening])
    (hc : Strips .outside .outside [closing] [closing]) {f f' : α → List Char} {xs : List α}
    (h : ∀ x ∈ xs, Strips .outside .outside (f x) (f' x)) :
    Strips .outside .outside (enclose layout depth opening closing (xs.map f))
      (enclose .compact depth' opening closing (xs.map f')) := by
  have comma : Strips .outside .outside [','] [','] := ⟨by decide, by decide⟩
  have gap (depth : Nat) : Strips .outside .outside (layout.gap depth) [] :=
    blanks (blank.gap depth)
  cases xs with
  | nil => exact ho.append hc
  | cons x xs =>
    rw [List.map_cons, List.map_cons, enclose_cons, enclose_cons]
    have rest : Strips .outside .outside
        ((xs.map f).flatMap (',' :: layout.gap (depth + 1) ++ ·))
        ((xs.map f').flatMap (',' :: Layout.compact.gap (depth' + 1) ++ ·)) := by
      rw [List.flatMap_map, List.flatMap_map]
      exact flatMap fun y hy =>
        (comma.append (gap _)).append (h y (List.mem_cons_of_mem x hy))
    exact ho.append ((gap _).append ((h x List.mem_cons_self).append
      (rest.append ((gap _).append hc))))

/-- A text in any layout is the compact one but for the white space outside of its string
literals. -/
theorem render {layout : Layout} (blank : layout.Blank) (json : Json) : ∀ depth depth' : Nat,
    Strips .outside .outside (render layout depth json) (render .compact depth' json) := by
  induction json using Json.induction with
  | null => exact fun _ _ => ⟨rfl, rfl⟩
  | number n => exact fun _ _ => integer n
  | string text => exact fun _ _ => quote text
  | array items each =>
    intro depth depth'
    rw [render_array, render_array]
    exact enclose blank depth depth' ⟨by decide, by decide⟩ ⟨by decide, by decide⟩
      fun item mem => each item mem _ _
  | object members each =>
    intro depth depth'
    rw [render_object, render_object]
    refine enclose blank depth depth' ⟨by decide, by decide⟩ ⟨by decide, by decide⟩
      fun member mem => ?_
    have colon : Strips .outside .outside [':'] [':'] := ⟨by decide, by decide⟩
    exact (quote member.1).append
      (colon.append ((blanks blank.afterColon).append (each member mem _ _)))

end Strips

/-! ### Reading back -/

/-- What may come behind a value: anything that does not prolong a numeral. -/
def Ends (s : List Char) : Prop := ∀ c ∈ s.head?, c.isDigit = false

theorem Ends.nil : Ends [] := nofun

theorem Ends.cons {c : Char} {s : List Char} (hc : c.isDigit = false) : Ends (c :: s) := by
  rintro _ ⟨⟩
  exact hc

/-- A piece can be told from what comes behind it. -/
def Told {α : Type} (f : α → List Char) (a : α) : Prop :=
  ∀ (b : α) (s t : List Char), Ends s → Ends t → f a ++ s = f b ++ t → a = b ∧ s = t

/-- Two runs of digits in front of what ends them are one run. -/
theorem digits_append_inj {p q s t : List Char} (hp : ∀ c ∈ p, c.isDigit = true)
    (hq : ∀ c ∈ q, c.isDigit = true) (hs : Ends s) (ht : Ends t) (h : p ++ s = q ++ t) :
    p = q ∧ s = t := by
  have run {p s : List Char} (hp : ∀ c ∈ p, c.isDigit = true) (hs : Ends s) :
      (p ++ s).takeWhile Char.isDigit = p := by
    have nothing : s.takeWhile Char.isDigit = [] := by
      cases s with
      | nil => rfl
      | cons c s => rw [List.takeWhile_cons, hs c rfl]; rfl
    rw [List.takeWhile_append_of_pos hp, nothing, List.append_nil]
  have same : p = q := by rw [← run hp hs, h, run hq ht]
  subst same
  exact ⟨rfl, List.append_cancel_left h⟩

theorem toDigits_append_inj {m n : Nat} {s t : List Char} (hs : Ends s) (ht : Ends t)
    (h : Nat.toDigits 10 m ++ s = Nat.toDigits 10 n ++ t) : m = n ∧ s = t := by
  have digits (n : Nat) : ∀ c ∈ Nat.toDigits 10 n, c.isDigit = true := fun c mem =>
    Nat.isDigit_of_mem_toDigits (by decide) (by decide) mem
  obtain ⟨same, rest⟩ := digits_append_inj (digits m) (digits n) hs ht h
  have value := congrArg (Nat.ofDigitChars 10 · 0) same
  simp only [Nat.ofDigitChars_ten_toDigits] at value
  exact ⟨value, rest⟩

/-- The digits of a natural number have no sign. -/
theorem toDigits_append_ne (n : Nat) (s t : List Char) : Nat.toDigits 10 n ++ s ≠ '-' :: t := by
  intro h
  cases digits : Nat.toDigits 10 n with
  | nil => exact Nat.toDigits_ne_nil digits
  | cons c rest =>
    have mem : c ∈ Nat.toDigits 10 n := by rw [digits]; exact List.mem_cons_self
    have digit := Nat.isDigit_of_mem_toDigits (by decide) (by decide) mem
    rw [digits] at h
    obtain ⟨rfl, -⟩ := List.cons.inj h
    contradiction

theorem told_integer (m : Int) : Told integer m := by
  intro n s t hs ht h
  simp only [integer] at h
  split at h <;> split at h
  · obtain ⟨same, rest⟩ := toDigits_append_inj hs ht (List.cons.inj h).2
    exact ⟨by omega, rest⟩
  · exact absurd h.symm (toDigits_append_ne _ _ _)
  · exact absurd h (toDigits_append_ne _ _ _)
  · obtain ⟨same, rest⟩ := toDigits_append_inj hs ht h
    exact ⟨by omega, rest⟩

theorem escapes_append_inj {s t : List Char} : ∀ {a b : List Char},
    a.flatMap escape ++ '"' :: s = b.flatMap escape ++ '"' :: t → a = b ∧ s = t
  | [], [], h => ⟨rfl, (List.cons.inj h).2⟩
  | [], d :: b, h => by
    rw [List.flatMap_cons, List.append_assoc] at h
    exact absurd h.symm (escape_append_ne _ _ _)
  | c :: a, [], h => by
    rw [List.flatMap_cons, List.append_assoc] at h
    exact absurd h (escape_append_ne _ _ _)
  | c :: a, d :: b, h => by
    rw [List.flatMap_cons, List.flatMap_cons, List.append_assoc, List.append_assoc] at h
    obtain ⟨rfl, rest⟩ := escape_append_inj h
    obtain ⟨rfl, behind⟩ := escapes_append_inj rest
    exact ⟨rfl, behind⟩

/-- A string literal is told by its closing quote. -/
theorem quote_append_inj {a b : String} {s t : List Char} (h : quote a ++ s = quote b ++ t) :
    a = b ∧ s = t := by
  simp only [quote, List.cons_append, List.append_assoc, List.nil_append, List.cons.injEq,
    true_and] at h
  obtain ⟨same, rest⟩ := escapes_append_inj h
  exact ⟨String.toList_inj.mp same, rest⟩

section Lists
variable {α : Type} {f : α → List Char} {depth : Nat} {opening closing : Char}

/-- What comes behind an element: a comma with another, or the bracket. -/
theorem ends_of_rest (hc : closing.isDigit = false) (xs : List α) (s : List Char) :
    Ends (xs.flatMap (',' :: f ·) ++ closing :: s) := by
  cases xs with
  | nil => exact Ends.cons hc
  | cons => exact Ends.cons (by decide)

/-- The elements behind the first, told one by one. -/
theorem rest_append_inj (hc : closing.isDigit = false) (comma : closing ≠ ',') {s t : List Char} :
    ∀ {as bs : List α}, (∀ a ∈ as, Told f a) →
      as.flatMap (',' :: f ·) ++ closing :: s = bs.flatMap (',' :: f ·) ++ closing :: t →
      as = bs ∧ s = t
  | [], [], _, h => ⟨rfl, (List.cons.inj h).2⟩
  | [], b :: bs, _, h => absurd (List.cons.inj h).1 comma
  | a :: as, [], _, h => absurd (List.cons.inj h).1.symm comma
  | a :: as, b :: bs, told, h => by
    simp only [List.flatMap_cons, List.cons_append, List.append_assoc, List.cons.injEq,
      true_and] at h
    obtain ⟨rfl, rest⟩ := told a List.mem_cons_self b _ _ (ends_of_rest hc as s)
      (ends_of_rest hc bs t) h
    obtain ⟨rfl, behind⟩ := rest_append_inj hc comma
      (fun x mem => told x (List.mem_cons_of_mem a mem)) rest
    exact ⟨rfl, behind⟩

/-- A list between brackets, all of whose elements can be told, and none of which begins like the
closing bracket. -/
theorem told_enclose (hc : closing.isDigit = false) (comma : closing ≠ ',')
    (begins : ∀ (x : α) (s t : List Char), f x ++ s ≠ closing :: t) {as : List α}
    (told : ∀ a ∈ as, Told f a) :
    Told (fun xs => enclose .compact depth opening closing (xs.map f)) as := by
  -- the brackets and the first element, apart from what is behind it
  have form (xs : List α) (s : List Char) :
      enclose .compact depth opening closing (xs.map f) ++ s = opening ::
        match xs with
        | [] => closing :: s
        | x :: xs => f x ++ (xs.flatMap (',' :: f ·) ++ closing :: s) := by
    cases xs with
    | nil => rfl
    | cons x xs =>
      rw [List.map_cons, enclose_cons, List.flatMap_map]
      simp [Layout.compact]
  intro bs s t hs ht h
  simp only [form, List.cons.injEq, true_and] at h
  cases as with
  | nil =>
    cases bs with
    | nil => exact ⟨rfl, (List.cons.inj h).2⟩
    | cons b bs => exact absurd h.symm (begins b _ _)
  | cons a as =>
    cases bs with
    | nil => exact absurd h (begins a _ _)
    | cons b bs =>
      obtain ⟨rfl, rest⟩ := told a List.mem_cons_self b _ _ (ends_of_rest hc as s)
        (ends_of_rest hc bs t) h
      obtain ⟨rfl, behind⟩ := rest_append_inj hc comma
        (fun x mem => told x (List.mem_cons_of_mem a mem)) rest
      exact ⟨rfl, behind⟩

end Lists

/-- What a value is, whatever it holds. -/
inductive Shape where
  | null
  | number
  | string
  | array
  | object
  deriving DecidableEq

/-- The shape of a value. -/
def shape : Json → Shape
  | .null => .null
  | .number _ => .number
  | .string _ => .string
  | .array _ => .array
  | .object _ => .object

/-- The shape of the value whose text begins with a character. -/
def Shape.ofLead? (c : Char) : Option Shape :=
  if c = 'n' then some null
  else if c = '-' ∨ c.isDigit then some number
  else if c = '"' then some string
  else if c = '[' then some array
  else if c = '\x7b' then some object
  else none

/-- The first character of a text gives away the shape of its value. -/
theorem exists_lead (layout : Layout) (depth : Nat) (json : Json) :
    ∃ c rest, render layout depth json = c :: rest ∧ Shape.ofLead? c = some json.shape := by
  have brackets (opening closing : Char) (pieces : List (List Char)) :
      ∃ rest, enclose layout depth opening closing pieces = opening :: rest := by
    cases pieces with
    | nil => exact ⟨_, enclose_nil⟩
    | cons => exact ⟨_, enclose_cons _ _⟩
  cases json with
  | null => exact ⟨_, _, rfl, rfl⟩
  | number n =>
    obtain ⟨c, rest, form⟩ := List.exists_cons_of_ne_nil (integer_ne_nil n)
    have numeral : c = '-' ∨ c.isDigit = true :=
      mem_integer (form ▸ List.mem_cons_self)
    have name : c ≠ 'n' := by
      rintro rfl
      contradiction
    exact ⟨c, rest, form, by rw [Shape.ofLead?, if_neg name, if_pos numeral]; rfl⟩
  | string text => exact ⟨_, _, rfl, rfl⟩
  | array items =>
    obtain ⟨rest, form⟩ := brackets '[' ']' (items.map (render layout (depth + 1)))
    exact ⟨_, _, (render_array layout depth items).trans form, rfl⟩
  | object members =>
    obtain ⟨rest, form⟩ := brackets '\x7b' '\x7d' (members.map (renderMember layout (depth + 1)))
    exact ⟨_, _, (render_object layout depth members).trans form, rfl⟩

/-- No text begins with the bracket that closes an array. -/
theorem render_append_ne {layout : Layout} {depth : Nat} (json : Json) (s t : List Char) :
    render layout depth json ++ s ≠ ']' :: t := by
  obtain ⟨c, rest, form, lead⟩ := exists_lead layout depth json
  rw [form]
  rintro ⟨⟩
  contradiction

theorem shape_eq_of_append {layout : Layout} {depth : Nat} {a b : Json} {s t : List Char}
    (h : render layout depth a ++ s = render layout depth b ++ t) : a.shape = b.shape := by
  obtain ⟨c, rest, form, lead⟩ := exists_lead layout depth a
  obtain ⟨d, rest', form', lead'⟩ := exists_lead layout depth b
  rw [form, form'] at h
  obtain ⟨rfl, -⟩ := List.cons.inj h
  exact Option.some.inj (lead.symm.trans lead')

/-- A member is told by the end of its name and then by its value. -/
theorem told_renderMember {depth : Nat} {member : String × Json}
    (told : Told (render .compact depth) member.2) :
    Told (renderMember .compact depth) member := by
  intro other s t hs ht h
  simp only [renderMember, List.append_assoc, List.cons_append] at h
  obtain ⟨name, rest⟩ := quote_append_inj h
  obtain ⟨value, behind⟩ := told other.2 s t hs ht (List.cons.inj rest).2
  exact ⟨Prod.ext name value, behind⟩

/-- **A value is told from what is behind its compact text.** The first character gives away the
shape; what is inside is told by the induction, piece after piece. -/
theorem told_render (a : Json) : ∀ depth, Told (render .compact depth) a := by
  -- on the value that is known; the other one is opened by its shape in each case
  induction a using Json.induction with
  | null =>
    intro depth b s t _ _ h
    cases b with
    | null => exact ⟨rfl, List.append_cancel_left h⟩
    | _ => nomatch shape_eq_of_append h
  | number m =>
    intro depth b s t hs ht h
    cases b with
    | number n =>
      obtain ⟨rfl, rest⟩ := told_integer m n s t hs ht h
      exact ⟨rfl, rest⟩
    | _ => nomatch shape_eq_of_append h
  | string text =>
    intro depth b s t _ _ h
    cases b with
    | string =>
      obtain ⟨rfl, rest⟩ := quote_append_inj h
      exact ⟨rfl, rest⟩
    | _ => nomatch shape_eq_of_append h
  | array items each =>
    intro depth b s t hs ht h
    cases b with
    | array items' =>
      rw [render_array, render_array] at h
      obtain ⟨rfl, rest⟩ := told_enclose (by decide) (by decide) render_append_ne
        (fun item mem => each item mem (depth + 1)) items' s t hs ht h
      exact ⟨rfl, rest⟩
    | _ => nomatch shape_eq_of_append h
  | object members each =>
    intro depth b s t hs ht h
    cases b with
    | object members' =>
      rw [render_object, render_object] at h
      obtain ⟨rfl, rest⟩ := told_enclose (by decide) (by decide) (by nofun)
        (fun member mem => told_renderMember (each member mem (depth + 1))) members' s t hs ht h
      exact ⟨rfl, rest⟩
    | _ => nomatch shape_eq_of_append h

theorem compact_injective {a b : Json} (h : a.compact = b.compact) : a = b := by
  have same : render .compact 0 a ++ [] = render .compact 0 b ++ [] :=
    congrArg (· ++ []) (String.ofList_injective h)
  exact (told_render a 0 b [] [] Ends.nil Ends.nil same).1

/-- Without the white space between its pieces the pretty text is the compact one. -/
theorem withoutBlanks_pretty (json : Json) :
    withoutBlanks .outside json.pretty.toList = json.compact.toList := by
  have blank : Layout.pretty.Blank := by
    refine ⟨fun depth c mem => ?_, List.forall_mem_singleton.mpr rfl⟩
    rcases List.mem_cons.mp mem with rfl | mem
    · decide
    · obtain rfl := List.eq_of_mem_replicate mem
      decide
  rw [pretty, compact, String.toList_ofList, String.toList_ofList]
  exact (Strips.render blank json 0 0).left

example : withoutBlanks .outside ['[', ' ', '"', ' ', '\\', '"', '"', '\n', ']'] =
    ['[', '"', ' ', '\\', '"', '"', ']'] := by decide

theorem pretty_injective {a b : Json} (h : a.pretty = b.pretty) : a = b := by
  refine compact_injective (String.toList_inj.mp ?_)
  rw [← withoutBlanks_pretty, h, withoutBlanks_pretty]

end ProcWire.Json

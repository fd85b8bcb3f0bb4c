import ProcWire.Proofs.Utf8
import ProcWire.Proofs.Words

/-! # What a reader accepts

A *form* relates a value to the byte strings that stand for it.  A reader `Accepts`
a form when it succeeds exactly on the streams that begin with a form of some value,
yields that value, and takes that form and nothing behind it.  One law per reading
primitive says which form it accepts; a sequence of readers is then followed forwards
by `Accepts.run_bind`, which feeds a form to the reader in front, and backwards by
`Accepts.of_bind`, which splits off the form that the reader in front has taken.

`Takes` is the same in terms of a number of bytes: how a reader ends on a stream,
and how much of it is gone by then.
-/
namespace ProcWire

namespace Transfer
variable {σ α β : Type}

/-- A sequence that succeeds has a first step that does. -/
theorem of_run_bind_ok {t : Transfer σ α} {next : α → Transfer σ β} {stream rest : σ} {b : β}
    (h : (t >>= next).run stream = (.ok b, rest)) :
    ∃ a middle, t.run stream = (.ok a, middle) ∧ (next a).run middle = (.ok b, rest) := by
  rw [run_bind] at h
  split at h
  · rename_i a middle ht
    exact ⟨a, middle, ht, h⟩
  · cases h

end Transfer

/-- The forms of the members of a list, laid end to end. -/
inductive Sequence {α : Type} (form : α → Bytes → Prop) : List α → Bytes → Prop
  | nil : Sequence form [] []
  | cons {a : α} {after : List α} {used more : Bytes} (head : form a used)
      (tail : Sequence form after more) : Sequence form (a :: after) (used ++ more)

/-- Where each member has one form, so has the list. -/
theorem sequence_eq_iff {α : Type} (bytes : α → Bytes) {list : List α} {used : Bytes} :
    Sequence (fun a used => used = bytes a) list used ↔ used = list.flatMap bytes := by
  induction list generalizing used with
  | nil =>
    constructor
    · rintro ⟨⟩
      rfl
    · rintro rfl
      exact .nil
  | cons a after ih =>
    rw [List.flatMap_cons]
    constructor
    · rintro (_ | ⟨rfl, tail⟩)
      rw [ih.mp tail]
    · rintro rfl
      exact .cons rfl (ih.mpr rfl)

/-- A payload behind its 32-bit length, which is at most `max`. -/
def Counted (max : Nat) (payload used : Bytes) : Prop :=
  ∃ length : Int32, length.toInt = payload.length ∧ payload.length ≤ max ∧
    used = Bytes.ofInt length ++ payload

/-- A string behind its length; the empty string may also be the NULL marker. -/
def StringForm (max : Nat) (text : String) (used : Bytes) : Prop :=
  Counted max (Utf8.ofString text) used ∨ text = "" ∧ used = Bytes.ofInt (-1)

namespace Reader
variable {α β : Type}

/-- On `stream` the reader comes to `outcome`, and by then the first `n` bytes are gone. -/
def Takes (t : Reader α) (stream : Bytes) (outcome : Except WireError α) (n : Nat) : Prop :=
  n ≤ stream.length ∧ t.run stream = (outcome, stream.drop n)

theorem Takes.bind_ok {t : Reader α} {next : α → Reader β} {stream : Bytes} {a : α}
    {outcome : Except WireError β} {n m : Nat} (first : Takes t stream (.ok a) n)
    (second : Takes (next a) (stream.drop n) outcome m) :
    Takes (t >>= next) stream outcome (n + m) := by
  obtain ⟨hn, hfirst⟩ := first
  obtain ⟨hm, hsecond⟩ := second
  rw [List.length_drop] at hm
  refine ⟨by omega, ?_⟩
  rw [Transfer.run_bind_ok hfirst, hsecond, List.drop_drop]

theorem Takes.bind_error {t : Reader α} {stream : Bytes} {e : WireError} {n : Nat}
    (first : Takes t stream (.error e) n) (next : α → Reader β) :
    Takes (t >>= next) stream (.error e) n :=
  ⟨first.1, Transfer.run_bind_error first.2 next⟩

/-- What a reader has left tells what it has taken. -/
theorem takes_of_run_append {t : Reader α} {used rest : Bytes} {outcome : Except WireError α}
    {n : Nat} (h : t.run (used ++ rest) = (outcome, rest)) (width : used.length = n) :
    Takes t (used ++ rest) outcome n := by
  subst width
  exact ⟨by simp, by rw [h, List.drop_left]⟩

/-- The reader succeeds exactly on the streams that begin with a form, and takes that form. -/
def Accepts (t : Reader α) (form : α → Bytes → Prop) : Prop :=
  ∀ stream a rest, t.run stream = (.ok a, rest) ↔ ∃ used, form a used ∧ stream = used ++ rest

namespace Accepts
variable {t : Reader α} {form : α → Bytes → Prop} {next : α → Reader β}

theorem run (h : Accepts t form) {a : α} {used : Bytes} (ha : form a used) (rest : Bytes) :
    t.run (used ++ rest) = (.ok a, rest) :=
  (h _ _ _).mpr ⟨used, ha, rfl⟩

/-- A form in front of the stream is taken by the first reader of a sequence. -/
theorem run_bind (h : Accepts t form) {a : α} {used : Bytes} (ha : form a used) (rest : Bytes) :
    (t >>= next).run (used ++ rest) = (next a).run rest :=
  Transfer.run_bind_ok (h.run ha rest) next

/-- A sequence that succeeds has begun with a form of its first reader. -/
theorem of_bind (h : Accepts t form) {stream rest : Bytes} {b : β}
    (hrun : (t >>= next).run stream = (.ok b, rest)) :
    ∃ a used tail, form a used ∧ stream = used ++ tail ∧ (next a).run tail = (.ok b, rest) := by
  obtain ⟨a, tail, ht, hnext⟩ := Transfer.of_run_bind_ok hrun
  obtain ⟨used, ha, hs⟩ := (h _ _ _).mp ht
  exact ⟨a, used, tail, ha, hs, hnext⟩

/-- A reader succeeds on `n` bytes exactly if these are a form of its result. -/
theorem takes_iff (h : Accepts t form) {stream : Bytes} {a : α} {n : Nat} :
    Takes t stream (.ok a) n ↔ n ≤ stream.length ∧ form a (stream.take n) := by
  refine and_congr_right fun hn => ?_
  rw [h]
  constructor
  · rintro ⟨used, ha, hs⟩
    have hlen : used.length = n := by
      have total := congrArg List.length hs
      rw [List.length_append, List.length_drop] at total
      omega
    rw [hs, List.take_left' hlen]
    exact ha
  · intro ha
    exact ⟨stream.take n, ha, (List.take_append_drop n stream).symm⟩

end Accepts

/-! ## Fixed widths -/

theorem accepts_raw (n : Nat) :
    Accepts (raw n) fun bytes used => used = bytes ∧ bytes.length = n := by
  intro stream bytes rest
  show raw n stream = _ ↔ _
  unfold raw
  constructor
  · intro h
    split at h
    · rename_i hs
      cases h
      obtain ⟨rfl, hlen⟩ := Bytes.append_of_split? hs
      exact ⟨bytes, ⟨rfl, hlen⟩, rfl⟩
    · cases h
  · rintro ⟨used, ⟨rfl, rfl⟩, rfl⟩
    rw [Bytes.split?_append]

theorem run_raw_short {n : Nat} {stream : Bytes} (h : stream.length < n) :
    (raw n).run stream = (.error (.io .exhausted), []) := by
  show raw n stream = _
  rw [raw, Bytes.split?_eq_none_iff.mpr h]

/-- A reader of one word accepts the word, if its values are the numbers of that width. -/
theorem accepts_word {width : Nat} {ofNumber : Nat → α} {number : α → Nat}
    (bound : ∀ a, number a < Nat.pow 256 width) (left : ∀ a, ofNumber (number a) = a)
    (right : ∀ n, n < Nat.pow 256 width → number (ofNumber n) = n) :
    Accepts (do let n ← word width; pure (ofNumber n))
      fun a used => used = Bytes.ofNat width (number a) := by
  intro stream a rest
  rw [word, bind_assoc]
  constructor
  · intro h
    obtain ⟨bytes, used, tail, ⟨rfl, hlen⟩, rfl, hrun⟩ := (accepts_raw width).of_bind h
    cases hrun
    have hlt := Bytes.toNat_lt used
    rw [hlen] at hlt
    refine ⟨used, ?_, rfl⟩
    show used = Bytes.ofNat width (number (ofNumber (Bytes.toNat used)))
    rw [right _ hlt, ← hlen, Bytes.ofNat_toNat]
  · rintro ⟨used, rfl, rfl⟩
    rw [(accepts_raw width).run_bind ⟨rfl, Bytes.length_ofNat _ _⟩]
    show (Except.ok (ofNumber _), rest) = _
    rw [Bytes.toNat_ofNat_of_lt (bound a), left]

theorem accepts_byte : Accepts byte fun v used => used = Bytes.ofByte v :=
  accepts_word (fun v => v.toUInt8.toNat_lt)
    (fun v => by rw [UInt8.ofNat_toNat, Int8.toInt8_toUInt8])
    fun n hn => by rw [UInt8.toUInt8_toInt8, UInt8.toNat_ofNat']; exact Nat.mod_eq_of_lt hn

theorem accepts_short : Accepts short fun v used => used = Bytes.ofShort v :=
  accepts_word (fun v => v.toUInt16.toNat_lt)
    (fun v => by rw [UInt16.ofNat_toNat, Int16.toInt16_toUInt16])
    fun n hn => by rw [UInt16.toUInt16_toInt16, UInt16.toNat_ofNat']; exact Nat.mod_eq_of_lt hn

theorem accepts_int : Accepts int fun v used => used = Bytes.ofInt v :=
  accepts_word (fun v => v.toUInt32.toNat_lt)
    (fun v => by rw [UInt32.ofNat_toNat, Int32.toInt32_toUInt32])
    fun n hn => by rw [UInt32.toUInt32_toInt32, UInt32.toNat_ofNat']; exact Nat.mod_eq_of_lt hn

theorem accepts_long : Accepts long fun v used => used = Bytes.ofLong v :=
  accepts_word (fun v => v.toUInt64.toNat_lt)
    (fun v => by rw [UInt64.ofNat_toNat, Int64.toInt64_toUInt64])
    fun n hn => by rw [UInt64.toUInt64_toInt64, UInt64.toNat_ofNat']; exact Nat.mod_eq_of_lt hn

theorem accepts_float : Accepts float fun bits used => used = Bytes.ofFloat bits :=
  accepts_word (fun bits => bits.toNat_lt) (fun bits => UInt64.ofNat_toNat)
    fun n hn => by rw [UInt64.toNat_ofNat']; exact Nat.mod_eq_of_lt hn

/-! ## Repetition -/

/-- A reader run `n` times accepts the lists of `n` values, each in its form. -/
theorem accepts_times {t : Reader α} {form : α → Bytes → Prop} (h : Accepts t form) (n : Nat) :
    Accepts (Transfer.times n t) fun list used => list.length = n ∧ Sequence form list used := by
  induction n with
  | zero =>
    intro stream list rest
    constructor
    · intro hrun
      cases hrun
      exact ⟨[], ⟨rfl, .nil⟩, rfl⟩
    · rintro ⟨used, ⟨hlen, hseq⟩, rfl⟩
      obtain rfl := List.eq_nil_of_length_eq_zero hlen
      cases hseq
      rfl
  | succ n ih =>
    intro stream list rest
    rw [Transfer.times_succ]
    constructor
    · intro hrun
      obtain ⟨a, used, tail, ha, rfl, hnext⟩ := h.of_bind hrun
      obtain ⟨after, more, tail, ⟨hlen, hafter⟩, rfl, hlast⟩ := ih.of_bind hnext
      cases hlast
      exact ⟨used ++ more, ⟨congrArg (· + 1) hlen, .cons ha hafter⟩, by rw [List.append_assoc]⟩
    · rintro ⟨used, ⟨hlen, hseq⟩, rfl⟩
      cases hseq with
      | nil => cases hlen
      | cons ha hafter =>
        rw [List.append_assoc, h.run_bind ha, ih.run_bind ⟨Nat.succ.inj hlen, hafter⟩]
        rfl

/-! ## Counts -/

theorem neg_iff_toInt {v : Int32} : v < 0 ↔ v.toInt < 0 := by
  rw [Int32.lt_iff_toInt_lt, Int32.toInt_zero]

theorem neg_iff_toInt_short {v : Int16} : v < 0 ↔ v.toInt < 0 := by
  rw [Int16.lt_iff_toInt_lt, Int16.toInt_zero]

/-- A count that is not negative is a number of items. -/
theorem toInt_eq_of_not_neg {v : Int32} (h : ¬ v < 0) : v.toInt = v.toNatClampNeg := by
  rw [neg_iff_toInt] at h
  exact (Int.toNat_of_nonneg (Int.not_lt.mp h)).symm

theorem of_toInt_eq {v : Int32} {n : Nat} (h : v.toInt = n) : ¬ v < 0 ∧ v.toNatClampNeg = n := by
  constructor
  · rw [neg_iff_toInt, h]
    omega
  · show v.toInt.toNat = n
    rw [h]
    rfl

theorem toInt_eq_of_not_neg_short {v : Int16} (h : ¬ v < 0) : v.toInt = v.toNatClampNeg := by
  rw [neg_iff_toInt_short] at h
  exact (Int.toNat_of_nonneg (Int.not_lt.mp h)).symm

theorem of_toInt_eq_short {v : Int16} {n : Nat} (h : v.toInt = n) :
    ¬ v < 0 ∧ v.toNatClampNeg = n := by
  constructor
  · rw [neg_iff_toInt_short, h]
    omega
  · show v.toInt.toNat = n
    rw [h]
    rfl

/-! ## Lengths and strings -/

/-- The NULL marker is negative, so a count is not mistaken for it. -/
theorem ne_nullLength {v : Int32} (h : ¬ v < 0) : v ≠ nullLength := by
  rintro rfl
  exact h (by decide)

/-- How a length prefix is judged, once its four bytes are there. -/
theorem run_length (field : String) (max : Nat) (v : Int32) (rest : Bytes) :
    (length field max).run (Bytes.ofInt v ++ rest) =
      (if v = nullLength then .ok none
        else if v < 0 then .error (.protocol (.negativeLength field v))
        else if v.toNatClampNeg > max then .error (.limitExceeded field v.toNatClampNeg max)
        else .ok (some v.toNatClampNeg), rest) := by
  rw [length, accepts_int.run_bind rfl]
  split
  · rfl
  · split
    · rfl
    · split <;> rfl

/-- A length prefix that is a count is held against the limit alone. -/
theorem run_length_of_toInt {v : Int32} {count : Nat} (hv : v.toInt = count) (field : String)
    (max : Nat) (rest : Bytes) :
    (length field max).run (Bytes.ofInt v ++ rest) =
      (if max < count then .error (.limitExceeded field count max)
        else .ok (some count), rest) := by
  obtain ⟨hneg, hcount⟩ := of_toInt_eq hv
  rw [run_length, if_neg (ne_nullLength hneg), if_neg hneg, hcount]

theorem accepts_length (field : String) (max : Nat) :
    Accepts (length field max) fun n used => (n = none ∧ used = Bytes.ofInt (-1)) ∨
      ∃ v : Int32, ∃ count : Nat, v.toInt = count ∧ count ≤ max ∧ n = some count ∧
        used = Bytes.ofInt v := by
  intro stream n rest
  constructor
  · intro h
    obtain ⟨v, used, tail, rfl, rfl, -⟩ := accepts_int.of_bind h
    rw [run_length] at h
    split at h
    · rename_i hnull
      cases h
      exact ⟨_, Or.inl ⟨rfl, by rw [hnull]; rfl⟩, rfl⟩
    · split at h
      · cases h
      · split at h
        · cases h
        · rename_i hneg hle
          cases h
          exact ⟨_, Or.inr ⟨v, _, toInt_eq_of_not_neg hneg, Nat.not_lt.mp hle, rfl, rfl⟩, rfl⟩
  · rintro ⟨used, ⟨rfl, rfl⟩ | ⟨v, count, hv, hle, rfl, rfl⟩, rfl⟩
    · exact run_length ..
    · rw [run_length_of_toInt hv, if_neg (Nat.not_lt.mpr hle)]

theorem text_eq_ok_iff {bytes : Bytes} {s : String} :
    text bytes = .ok s ↔ bytes = Utf8.ofString s := by
  rw [← Utf8.toString?_eq_ok_iff, text]
  cases Utf8.toString? bytes <;> simp [Except.mapError]

/-- What stands behind a length that may be NULL, once `judge` has made a value of it. -/
def nullable (field : String) (max : Nat) (judge : Bytes → Except WireError α) :
    Reader (Option α) := do
  match ← length field max with
  | none => pure none
  | some n =>
    let bytes ← raw n
    let a ← Transfer.lift (judge bytes)
    pure (some a)

theorem nullableString_eq (max : Nat) : nullableString max = nullable "string" max text := rfl

theorem varbinary_eq (max : Nat) : varbinary max = nullable "varbinary" max .ok := rfl

/-- Behind a length that is a count, the payload is read unless it is beyond the limit. -/
theorem run_nullable_of_toInt {v : Int32} {count : Nat} (hv : v.toInt = count) (field : String)
    (max : Nat) (judge : Bytes → Except WireError α) (rest : Bytes) :
    (nullable field max judge).run (Bytes.ofInt v ++ rest) =
      if max < count then (.error (.limitExceeded field count max), rest)
      else (raw count >>= fun bytes =>
        Transfer.lift (judge bytes) >>= fun a => pure (some a)).run rest := by
  rw [nullable, Transfer.run_bind, run_length_of_toInt hv]
  by_cases beyond : max < count
  · rw [if_pos beyond, if_pos beyond]
  · rw [if_neg beyond, if_neg beyond]

/-- A payload within the limit is judged by itself, and what is behind it stays. -/
theorem run_nullable_whole {field : String} {max : Nat} {judge : Bytes → Except WireError α}
    {v : Int32} {payload : Bytes} (announced : v.toInt = payload.length)
    (within : payload.length ≤ max) (rest : Bytes) :
    (nullable field max judge).run (Bytes.ofInt v ++ payload ++ rest) =
      ((judge payload).map some, rest) := by
  rw [List.append_assoc, run_nullable_of_toInt announced, if_neg (Nat.not_lt.mpr within),
    (accepts_raw _).run_bind ⟨rfl, rfl⟩]
  cases judge payload <;> rfl

theorem accepts_nullable (field : String) (max : Nat) {judge : Bytes → Except WireError α}
    {payload : α → Bytes} (judged : ∀ {bytes a}, judge bytes = .ok a ↔ bytes = payload a) :
    Accepts (nullable field max judge)
      fun v used => (v = none ∧ used = Bytes.ofInt (-1)) ∨
        ∃ a, v = some a ∧ Counted max (payload a) used := by
  intro stream v rest
  constructor
  · intro h
    obtain ⟨n, used, tail, hn, rfl, hnext⟩ := (accepts_length field max).of_bind h
    rcases hn with ⟨rfl, rfl⟩ | ⟨v, count, hv, hle, rfl, rfl⟩
    · cases hnext
      exact ⟨_, Or.inl ⟨rfl, rfl⟩, rfl⟩
    · obtain ⟨bytes, used, tail, ⟨rfl, hlen⟩, rfl, hbytes⟩ := (accepts_raw count).of_bind hnext
      obtain ⟨a, middle, ha, hlast⟩ := Transfer.of_run_bind_ok hbytes
      cases hlast
      rw [Transfer.run_lift] at ha
      injection ha with ha htail
      obtain rfl := judged.mp ha
      subst htail hlen
      exact ⟨_, Or.inr ⟨a, rfl, v, hv, hle, rfl⟩, by rw [List.append_assoc]⟩
  · rintro ⟨used, ⟨rfl, rfl⟩ | ⟨a, rfl, v, hv, hle, rfl⟩, rfl⟩
    · rw [nullable, (accepts_length field max).run_bind (Or.inl ⟨rfl, rfl⟩)]
      rfl
    · rw [List.append_assoc, nullable,
        (accepts_length field max).run_bind (Or.inr ⟨v, _, hv, hle, rfl, rfl⟩)]
      simp only
      rw [(accepts_raw _).run_bind ⟨rfl, rfl⟩, judged.mpr rfl]
      rfl

theorem accepts_nullableString (max : Nat) :
    Accepts (nullableString max) fun s used => (s = none ∧ used = Bytes.ofInt (-1)) ∨
      ∃ text, s = some text ∧ Counted max (Utf8.ofString text) used :=
  accepts_nullable "string" max text_eq_ok_iff

theorem accepts_varbinary (max : Nat) :
    Accepts (varbinary max) fun data used => (data = none ∧ used = Bytes.ofInt (-1)) ∨
      ∃ bytes, data = some bytes ∧ Counted max bytes used :=
  accepts_nullable "varbinary" max ⟨Except.ok.inj, congrArg Except.ok⟩

theorem accepts_string (max : Nat) : Accepts (string max) (StringForm max) := by
  intro stream text rest
  rw [string]
  constructor
  · intro h
    obtain ⟨s, used, tail, hs, rfl, hnext⟩ := (accepts_nullableString max).of_bind h
    cases hnext
    rcases hs with ⟨rfl, rfl⟩ | ⟨text, rfl, hform⟩
    · exact ⟨_, Or.inr ⟨rfl, rfl⟩, rfl⟩
    · exact ⟨_, Or.inl hform, rfl⟩
  · rintro ⟨used, hform | ⟨rfl, rfl⟩, rfl⟩
    · rw [(accepts_nullableString max).run_bind (Or.inr ⟨text, rfl, hform⟩)]
      rfl
    · rw [(accepts_nullableString max).run_bind (Or.inl ⟨rfl, rfl⟩)]
      rfl

end Reader
end ProcWire

import Mathlib.Data.List.Forall2
import ProcWire.Proofs.ResponseForms
import ProcWire.Proofs.Writing

/-! # The parts of a message

A message from the server is a list of `WirePart`s: words of fixed width, strings and rows.
`WirePart.Within` says that no string and no row is longer than a limit.

A reader `Follows` parts when these decide how it ends, in three ways.  If the parts are
within the limit, the reader accepts their bytes.  If besides the bytes stop short, it
fails as `WirePart.cutErrorOf` says, by where they stop.  If some part is beyond the limit,
it fails at the first that is, with nothing of its payload taken.  Following composes
along a sequence of readers (`Follows.bind`), and so it goes from the primitives to the
decoders.
-/
namespace ProcWire

/-- A part of a message.  A NULL marker in the place of a length is a word. -/
inductive WirePart where
  | word (bytes : Bytes)
  /-- A string behind its length. -/
  | text (text : String) (fits : (Utf8.ofString text).length ≤ Writer.maxCount)
  /-- A row behind its length. -/
  | row (payload : Bytes) (fits : payload.length ≤ Writer.maxCount)

namespace WirePart

/-- What stands behind a length, and the name under which errors refer to it. -/
def counted? : WirePart → Option (String × Bytes)
  | word _ => none
  | text s _ => some ("string", Utf8.ofString s)
  | row payload _ => some ("row", payload)

/-- The bytes of a part. -/
def bytes : WirePart → Bytes
  | word bytes => bytes
  | text s _ => Bytes.counted (Utf8.ofString s)
  | row payload _ => Bytes.counted payload

/-- The bytes of parts, laid end to end. -/
def allBytes (parts : List WirePart) : Bytes := parts.flatMap bytes

@[simp] theorem allBytes_nil : allBytes [] = [] := rfl

@[simp] theorem allBytes_cons (part : WirePart) (after : List WirePart) :
    allBytes (part :: after) = part.bytes ++ allBytes after := rfl

@[simp] theorem allBytes_append (parts more : List WirePart) :
    allBytes (parts ++ more) = allBytes parts ++ allBytes more :=
  List.flatMap_append

theorem allBytes_words {α : Type} (list : List α) (f : α → Bytes) :
    allBytes (list.map fun a => word (f a)) = list.flatMap f :=
  List.flatMap_map ..

theorem bytes_of_counted? {part : WirePart} {field : String} {payload : Bytes}
    (h : part.counted? = some (field, payload)) :
    part.bytes = Bytes.counted payload := by
  cases part with
  | word bytes => cases h
  | text s fits =>
    cases h
    rfl
  | row payload fits =>
    cases h
    rfl

/-- No string and no row is longer than the limit. -/
def Within (max : Nat) (parts : List WirePart) : Prop :=
  ∀ part ∈ parts, ∀ field payload, part.counted? = some (field, payload) → payload.length ≤ max

theorem within_nil (max : Nat) : Within max [] := List.forall_mem_nil _

theorem within_append {max : Nat} {parts more : List WirePart} :
    Within max (parts ++ more) ↔ Within max parts ∧ Within max more :=
  List.forall_mem_append

theorem within_word_cons {max : Nat} {bytes : Bytes} {after : List WirePart} :
    Within max (word bytes :: after) ↔ Within max after := by
  unfold Within
  rw [List.forall_mem_cons]
  exact and_iff_right fun field payload h => absurd h (Option.some_ne_none _).symm

theorem within_words {α : Type} (max : Nat) (list : List α) (f : α → Bytes) :
    Within max (list.map fun a => word (f a)) := by
  induction list with
  | nil => exact within_nil max
  | cons a after ih => exact within_word_cons.mpr ih

theorem within_singleton {max : Nat} {part : WirePart} {field : String} {payload : Bytes}
    (h : part.counted? = some (field, payload)) :
    Within max [part] ↔ payload.length ≤ max := by
  unfold Within
  rw [List.forall_mem_singleton]
  constructor
  · exact fun within => within field payload h
  · intro fits other bytes hother
    rw [h] at hother
    cases hother
    exact fits

/-- A word has no limit to keep to. -/
theorem exists_counted_of_not_within {max : Nat} {part : WirePart} (h : ¬ Within max [part]) :
    ∃ field payload, part.counted? = some (field, payload) := by
  cases part with
  | word bytes => exact absurd (within_word_cons.mpr (within_nil max)) h
  | text s fits => exact ⟨_, _, rfl⟩
  | row payload fits => exact ⟨_, _, rfl⟩

/-! ## What is beyond a limit -/

/-- Between the parts `before` and `after`, the first string or row that is longer than the
limit. -/
def FirstBeyond (max : Nat) (parts before after : List WirePart) (field : String)
    (payload : Bytes) : Prop :=
  ∃ part, parts = before ++ part :: after ∧ Within max before ∧
    part.counted? = some (field, payload) ∧ max < payload.length

section FirstBeyond
variable {max : Nat} {part : WirePart} {parts more before after : List WirePart} {field : String}
  {payload : Bytes}

theorem not_firstBeyond_nil : ¬ FirstBeyond max [] before after field payload := by
  rintro ⟨part, h, -⟩
  exact List.append_ne_nil_of_right_ne_nil before (List.cons_ne_nil part after) h.symm

theorem firstBeyond_singleton :
    FirstBeyond max [part] before after field payload ↔
      before = [] ∧ after = [] ∧ part.counted? = some (field, payload) ∧ max < payload.length := by
  constructor
  · rintro ⟨refused, split, -, counted, long⟩
    rcases List.singleton_eq_append_iff.mp split with ⟨rfl, h⟩ | ⟨-, h⟩
    · cases h
      exact ⟨rfl, rfl, counted, long⟩
    · cases h
  · rintro ⟨rfl, rfl, counted, long⟩
    exact ⟨part, rfl, within_nil max, counted, long⟩

/-- What is beyond the limit stands in the first parts, or these are within it. -/
theorem FirstBeyond.of_append (h : FirstBeyond max (parts ++ more) before after field payload) :
    (∃ inner, before = parts ++ inner ∧ Within max parts ∧
      FirstBeyond max more inner after field payload) ∨
    ∃ inner, after = inner ++ more ∧ FirstBeyond max parts before inner field payload := by
  obtain ⟨part, split, within, counted, long⟩ := h
  rcases List.append_eq_append_iff.mp split with ⟨inner, rfl, hmore⟩ | ⟨inner, hparts, htail⟩
  · obtain ⟨here, there⟩ := within_append.mp within
    exact Or.inl ⟨inner, rfl, here, part, hmore, there, counted, long⟩
  · cases inner with
    | nil =>
      rw [List.append_nil] at hparts
      subst hparts
      exact Or.inl ⟨[], (List.append_nil _).symm, within, part, htail.symm, within_nil max, counted,
        long⟩
    | cons refused inner =>
      obtain ⟨rfl, rfl⟩ : part = refused ∧ after = inner ++ more := List.cons.inj htail
      exact Or.inr ⟨inner, rfl, part, hparts, within, counted, long⟩

theorem FirstBeyond.cons (here : Within max [part])
    (h : FirstBeyond max parts before after field payload) :
    FirstBeyond max (part :: parts) (part :: before) after field payload := by
  obtain ⟨refused, rfl, within, counted, long⟩ := h
  exact ⟨refused, rfl, within_append.mpr ⟨here, within⟩, counted, long⟩

theorem exists_firstBeyond (h : ¬ Within max parts) :
    ∃ before after field payload, FirstBeyond max parts before after field payload := by
  induction parts with
  | nil => exact absurd (within_nil max) h
  | cons part parts ih =>
    by_cases here : Within max [part]
    · have there : ¬ Within max parts := fun there => h (within_append.mpr ⟨here, there⟩)
      obtain ⟨before, after, field, payload, first⟩ := ih there
      exact ⟨part :: before, after, field, payload, first.cons here⟩
    · obtain ⟨field, payload, counted⟩ := exists_counted_of_not_within here
      rw [within_singleton counted] at here
      exact ⟨[], parts, field, payload, part, rfl, within_nil max, counted, Nat.not_le.mp here⟩

end FirstBeyond

/-! ## Where a message stops short -/

/-- What a stream that ends `k` bytes into the part is told. -/
def cutError : WirePart → Nat → WireError
  | row payload _, k => if k < 4 then .io .exhausted else .framing payload.length (k - 4)
  | _, _ => .io .exhausted

/-- What a stream that ends `k` bytes into the message is told. -/
def cutErrorOf : List WirePart → Nat → WireError
  | [], _ => .io .exhausted
  | part :: after, k =>
    if k < part.bytes.length then part.cutError k else cutErrorOf after (k - part.bytes.length)

theorem cutError_of_lt {part : WirePart} {k : Nat} (h : k < 4) :
    part.cutError k = .io .exhausted := by
  cases part with
  | row payload fits => exact if_pos h
  | _ => rfl

theorem cutErrorOf_singleton {part : WirePart} {k : Nat} (h : k < (allBytes [part]).length) :
    cutErrorOf [part] k = part.cutError k :=
  if_pos (by simpa using h)

theorem cutErrorOf_append_of_lt {parts : List WirePart} {k : Nat} (h : k < (allBytes parts).length)
    (more : List WirePart) : cutErrorOf (parts ++ more) k = cutErrorOf parts k := by
  induction parts generalizing k with
  | nil => cases h
  | cons part after ih =>
    rw [allBytes_cons, List.length_append] at h
    rw [List.cons_append, cutErrorOf, cutErrorOf]
    split
    · rfl
    · exact ih (by omega)

theorem cutErrorOf_append_of_le {parts : List WirePart} {k : Nat} (h : (allBytes parts).length ≤ k)
    (more : List WirePart) :
    cutErrorOf (parts ++ more) k = cutErrorOf more (k - (allBytes parts).length) := by
  induction parts generalizing k with
  | nil => rfl
  | cons part after ih =>
    rw [allBytes_cons, List.length_append] at h ⊢
    rw [List.cons_append, cutErrorOf, if_neg (by omega), ih (by omega), Nat.sub_sub]

end WirePart

namespace Reader
variable {α β : Type} {max : Nat}
open WirePart

/-- The parts decide how the reader ends on a stream that begins with their bytes, or stops short
of them; `max` is the limit that the reader applies. -/
structure Follows (max : Nat) (t : Reader α) (parts : List WirePart) (a : α) : Prop where
  accepts : Within max parts → ∀ tail, t.run (allBytes parts ++ tail) = (.ok a, tail)
  cut : Within max parts → ∀ k, k < (allBytes parts).length →
    t.run ((allBytes parts).take k) = (.error (cutErrorOf parts k), [])
  refuses : ∀ before after field payload, FirstBeyond max parts before after field payload →
    ∀ tail, t.run (allBytes parts ++ tail) =
      (.error (.limitExceeded field payload.length max), payload ++ allBytes after ++ tail)

theorem follows_pure (a : α) : Follows max (pure a) [] a where
  accepts _ _ := rfl
  cut _ k h := absurd h (Nat.not_lt_zero k)
  refuses _ _ _ _ beyond := absurd beyond not_firstBeyond_nil

/-- **Readers in sequence follow parts in sequence.** -/
theorem Follows.bind {t : Reader α} {next : α → Reader β} {parts more : List WirePart} {a : α}
    {b : β} (first : Follows max t parts a) (second : Follows max (next a) more b) :
    Follows max (t >>= next) (parts ++ more) b where
  accepts within tail := by
    obtain ⟨here, there⟩ := within_append.mp within
    rw [allBytes_append, List.append_assoc, Transfer.run_bind_ok (first.accepts here _),
      second.accepts there]
  -- the cut falls within the first parts, or these are accepted as a whole
  cut within k hk := by
    obtain ⟨here, there⟩ := within_append.mp within
    rw [allBytes_append, List.length_append] at hk
    rw [allBytes_append]
    by_cases inside : k < (allBytes parts).length
    · rw [List.take_append_of_le_length (Nat.le_of_lt inside), cutErrorOf_append_of_lt inside,
        Transfer.run_bind_error (first.cut here k inside)]
    · have beyond : (allBytes parts).length ≤ k := Nat.not_lt.mp inside
      rw [List.take_append, List.take_of_length_le beyond, cutErrorOf_append_of_le beyond,
        Transfer.run_bind_ok (first.accepts here _), second.cut there _ (by omega)]
  refuses before after field payload beyond tail := by
    rw [allBytes_append, List.append_assoc]
    rcases beyond.of_append with ⟨inner, rfl, here, there⟩ | ⟨inner, rfl, there⟩
    · rw [Transfer.run_bind_ok (first.accepts here _)]
      exact second.refuses inner after field payload there tail
    · rw [Transfer.run_bind_error (first.refuses before inner field payload there _),
        allBytes_append]
      simp only [List.append_assoc]

/-! ## Words -/

/-- A reader that begins with a word fails on a stream that is too short for it. -/
theorem run_word_short {width : Nat} {next : Nat → Reader α} {stream : Bytes}
    (h : stream.length < width) :
    (word width >>= next).run stream = (.error (.io .exhausted), []) :=
  Transfer.run_bind_error (Transfer.run_bind_error (run_raw_short h) _) _

theorem run_int_short {next : Int32 → Reader α} {stream : Bytes} (h : stream.length < 4) :
    (int >>= next).run stream = (.error (.io .exhausted), []) :=
  Transfer.run_bind_error (run_word_short h) _

theorem follows_word {t : Reader α} {a : α} {bytes : Bytes}
    (accepts : ∀ tail, t.run (bytes ++ tail) = (.ok a, tail))
    (short : ∀ stream : Bytes, stream.length < bytes.length →
      t.run stream = (.error (.io .exhausted), [])) : Follows max t [.word bytes] a := by
  have whole : allBytes [.word bytes] = bytes := List.append_nil bytes
  constructor
  · intro _ tail
    rw [whole]
    exact accepts tail
  · intro _ k hk
    rw [whole] at hk ⊢
    rw [short _ (by rw [List.length_take]; omega), cutErrorOf]
    split <;> rfl
  · intro before after field payload beyond
    obtain ⟨-, -, counted, -⟩ := firstBeyond_singleton.mp beyond
    cases counted

theorem follows_byte (v : Int8) : Follows max byte [.word (Bytes.ofByte v)] v :=
  follows_word (accepts_byte.run rfl) fun stream h => run_word_short (by simpa using h)

theorem follows_short (v : Int16) : Follows max short [.word (Bytes.ofShort v)] v :=
  follows_word (accepts_short.run rfl) fun stream h => run_word_short (by simpa using h)

theorem follows_int (v : Int32) : Follows max int [.word (Bytes.ofInt v)] v :=
  follows_word (accepts_int.run rfl) fun stream h => run_word_short (by simpa using h)

theorem follows_long (v : Int64) : Follows max long [.word (Bytes.ofLong v)] v :=
  follows_word (accepts_long.run rfl) fun stream h => run_word_short (by simpa using h)

/-! ## Strings and rows -/

/-- What a reader of a counted part has to do: tell a length from its beginning, refuse one that
is beyond the limit, and tell a payload from its beginning. -/
theorem follows_counted {t : Reader α} {a : α} {part : WirePart} {field : String} {payload : Bytes}
    (counted : part.counted? = some (field, payload))
    (short : ∀ stream : Bytes, stream.length < 4 → t.run stream = (.error (.io .exhausted), []))
    (refuses : max < payload.length → ∀ tail,
      t.run (Bytes.ofInt (Int32.ofNat payload.length) ++ tail) =
        (.error (.limitExceeded field payload.length max), tail))
    (cut : payload.length ≤ max → ∀ k, k < payload.length →
      t.run (Bytes.ofInt (Int32.ofNat payload.length) ++ payload.take k) =
        (.error (part.cutError (4 + k)), []))
    (accepts : payload.length ≤ max → ∀ tail,
      t.run (Bytes.counted payload ++ tail) = (.ok a, tail)) : Follows max t [part] a := by
  have whole : allBytes [part] = Bytes.counted payload := by
    rw [allBytes_cons, bytes_of_counted? counted, allBytes_nil, List.append_nil]
  have prefix_length : (Bytes.ofInt (Int32.ofNat payload.length)).length = 4 :=
    Bytes.length_ofInt _
  constructor
  · intro within tail
    rw [whole]
    exact accepts ((within_singleton counted).mp within) tail
  · intro within k hk
    rw [cutErrorOf_singleton hk, whole]
    rw [whole, Bytes.counted, List.length_append, prefix_length] at hk
    by_cases hlength : k < 4
    · rw [cutError_of_lt hlength]
      exact short _ (by rw [List.length_take]; omega)
    -- the length is there, so it is judged before the payload is missed
    · obtain ⟨k, rfl⟩ := Nat.exists_eq_add_of_le (Nat.not_lt.mp hlength)
      rw [Bytes.counted, List.take_append, prefix_length, Nat.add_sub_cancel_left,
        List.take_of_length_le (by omega)]
      exact cut ((within_singleton counted).mp within) k (by omega)
  · intro before after name bytes beyond tail
    obtain ⟨-, rfl, hcounted, long⟩ := firstBeyond_singleton.mp beyond
    obtain ⟨rfl, rfl⟩ := Prod.mk.inj (Option.some.inj (counted.symm.trans hcounted))
    rw [whole, Bytes.counted, List.append_assoc, allBytes_nil, List.append_nil]
    exact refuses long _

/-- Behind a length that is a count, the text is read unless it is beyond the limit. -/
theorem run_string_of_toInt {v : Int32} {count : Nat} (hv : v.toInt = count) (rest : Bytes) :
    (string max).run (Bytes.ofInt v ++ rest) =
      if max < count then (.error (.limitExceeded "string" count max), rest)
      else (raw count >>= fun bytes => Transfer.lift (text bytes)).run rest := by
  have run := run_nullable_of_toInt hv "string" max text rest
  rw [string, nullableString_eq]
  split
  · rename_i hlong
    rw [if_pos hlong] at run
    exact Transfer.run_bind_error run _
  · rename_i hle
    rw [if_neg hle] at run
    rw [Transfer.run_bind, run, ← Transfer.run_bind]
    simp only [bind_assoc, pure_bind, Option.getD_some, bind_pure]

theorem run_string_short {stream : Bytes} (h : stream.length < 4) :
    (string max).run stream = (.error (.io .exhausted), []) := by
  rw [string, nullableString, length]
  simp only [bind_assoc]
  exact run_int_short h

theorem follows_text (s : String) (fits : (Utf8.ofString s).length ≤ Writer.maxCount) :
    Follows max (string max) [.text s fits] s := by
  have announced := Writer.toInt_ofNat_of_le_maxCount fits
  refine follows_counted rfl (fun stream => run_string_short) ?_ ?_ ?_
  · intro long tail
    rw [run_string_of_toInt announced, if_pos long]
  · intro hle k hk
    rw [run_string_of_toInt announced, if_neg (Nat.not_lt.mpr hle)]
    exact Transfer.run_bind_error (run_raw_short (by rw [List.length_take]; omega)) _
  · intro hle tail
    exact (accepts_string max).run (Or.inl ⟨_, announced, hle, rfl⟩) tail

theorem follows_null_text : Follows max (string max) [.word (Bytes.ofInt (-1))] "" :=
  follows_word ((accepts_string max).run (Or.inr ⟨rfl, rfl⟩))
    fun stream h => run_string_short (by simpa using h)

/-- Behind a length that is a count, the row is read unless it is beyond the limit. -/
theorem run_readRow_of_toInt {limits : Limits} {v : Int32} {count : Nat} (hv : v.toInt = count)
    (rest : Bytes) : (Table.readRow limits).run (Bytes.ofInt v ++ rest) =
      if limits.fieldLength < count then
        (.error (.limitExceeded "row" count limits.fieldLength), rest)
      else (Table.readPayload count).run rest := by
  obtain ⟨hneg, hcount⟩ := of_toInt_eq hv
  rw [Table.readRow, accepts_int.run_bind rfl, if_neg hneg, hcount]
  split <;> rfl

theorem follows_row (limits : Limits) (row : Bytes) (fits : row.length ≤ Writer.maxCount) :
    Follows limits.fieldLength (Table.readRow limits) [.row row fits] row := by
  have announced := Writer.toInt_ofNat_of_le_maxCount fits
  refine follows_counted rfl (fun stream => run_int_short) ?_ ?_ ?_
  · intro long tail
    rw [run_readRow_of_toInt announced, if_pos long]
  · intro hle k hk
    rw [run_readRow_of_toInt announced, if_neg (Nat.not_lt.mpr hle), cutError,
      if_neg (Nat.not_lt.mpr (Nat.le_add_right 4 k)), Nat.add_sub_cancel_left]
    have there : (row.take k).length = k := List.length_take_of_le (Nat.le_of_lt hk)
    rw [Table.run_readPayload_short (by rwa [there]), there]
  · intro hle tail
    exact (Table.accepts_readRow limits).run ⟨_, announced, hle, rfl⟩ tail

/-! ## Repetition -/

/-- The last step of a sequence, if it only makes a value of what has been read. -/
theorem Follows.bind_pure {t : Reader α} {next : α → Reader β} {parts : List WirePart} {a : α}
    {b : β} (first : Follows max t parts a) (last : next a = pure b) :
    Follows max (t >>= next) parts b := by
  rw [← List.append_nil parts]
  refine first.bind ?_
  rw [last]
  exact follows_pure b

theorem follows_times {t : Reader α} {list : List α} {groups : List (List WirePart)}
    (each : List.Forall₂ (fun a parts => Follows max t parts a) list groups) :
    Follows max (Transfer.times list.length t) groups.flatten list := by
  induction each with
  | nil => exact follows_pure []
  | cons head _ ih =>
    rw [List.length_cons, Transfer.times_succ, List.flatten_cons]
    exact head.bind (ih.bind_pure rfl)

end Reader

end ProcWire

import Reindex.Uuid
import Mathlib.Algebra.GroupWithZero.Nat
import Mathlib.Algebra.BigOperators.Group.List.Basic

/-!
# The spellings of UUIDs

A UUID is written in one way and read in four. Whatever the spelling, the digits can be
told from what stands between and around them: a hyphen is no digit, so taking the hyphens
out of a text that has them in their places and setting them again changes nothing. Every
spelling is the written one but for the case of the letters, the hyphens and what encloses
it.
-/

namespace Reindex

/-- A list is read element by element, so if an element is read as what it looks like, a
list is. -/
theorem mapM_eq_some_iff {α β γ : Type} {read? : α → Option β} {looks : α → γ} {shown : β → γ}
    (reads : ∀ a b, read? a = some b ↔ looks a = shown b) {as : List α} {bs : List β} :
    as.mapM read? = some bs ↔ as.map looks = bs.map shown := by
  induction as generalizing bs with
  | nil => cases bs <;> simp
  | cons a as inductionHypothesis =>
    cases bs with
    | nil => simp [List.mapM_cons, Option.bind_eq_some_iff]
    | cons b bs =>
      rw [List.map_cons, List.map_cons, List.cons.injEq, ← reads, ← inductionHypothesis]
      simp [List.mapM_cons, Option.bind_eq_some_iff]

/-- Characters beyond the first 128 come after these. -/
theorem not_le_of_beyond {c d : Char} (beyond : 128 ≤ c.toNat) (ascii : d.toNat < 128) :
    ¬ c ≤ d := by
  rw [Char.le_def, UInt32.le_iff_toNat_le]
  exact Nat.not_le.2 (Nat.lt_of_lt_of_le ascii beyond)

/-- A character is one of the first 128, which can all be looked at, or is its own lower
case. -/
theorem toLower_cases {holds : Char → Prop} (ascii : ∀ code : Fin 128, holds (Char.ofNat code))
    (wide : ∀ c : Char, 128 ≤ c.toNat → c.toLower = c → holds c) (c : Char) : holds c := by
  by_cases narrow : c.toNat < 128
  · have known := ascii ⟨c.toNat, narrow⟩
    rwa [Char.ofNat_toNat] at known
  · have beyond := Nat.le_of_not_lt narrow
    have upper : ¬ ('A' ≤ c ∧ c ≤ 'Z') := fun upper => not_le_of_beyond beyond (by decide) upper.2
    exact wide c beyond (dif_neg upper)

namespace Uuid

/-- Every hexadecimal digit has a spelling of its own. -/
theorem digitChar_injective : Function.Injective digitChar := by
  unfold Function.Injective
  decide

/-- Digits are spelled without hyphens and colons. -/
theorem digitChar_ne (digit : Fin 16) : digitChar digit ≠ '-' ∧ digitChar digit ≠ ':' := by
  revert digit
  decide

/-- A digit is read from its spelling, in either case. -/
theorem digit?_eq_some_iff (c : Char) (digit : Fin 16) :
    digit? c = some digit ↔ c.toLower = digitChar digit := by
  induction c using toLower_cases with
  | ascii code =>
    revert code digit
    decide +kernel
  | wide c beyond lower =>
    have spelled : (digitChar digit).toNat < 128 := by
      revert digit
      decide
    refine iff_of_false (by simp [digit?, not_le_of_beyond beyond]) ?_
    rw [lower]
    rintro rfl
    exact absurd beyond (Nat.not_le.2 spelled)

/-- Only a hyphen is a hyphen in lower case. -/
theorem toLower_eq_hyphen_iff (c : Char) : c.toLower = '-' ↔ c = '-' := by
  induction c using toLower_cases with
  | ascii code =>
    revert code
    decide
  | wide c _ lower => rw [lower]

/-- A grouped text has no characters but its own and hyphens. -/
theorem mem_hyphenate {counts : List Nat} {cs : List Char} {c : Char}
    (listed : c ∈ hyphenate counts cs) : c = '-' ∨ c ∈ cs := by
  fun_induction hyphenate counts cs with
  | case1 => cases listed
  | case2 count cs => exact .inr (List.mem_of_mem_take listed)
  | case3 count counts cs _ inductionHypothesis =>
    rcases List.mem_append.1 listed with taken | listed
    · exact .inr (List.mem_of_mem_take taken)
    · rcases List.mem_cons.1 listed with hyphen | listed
      · exact .inl hyphen
      · exact (inductionHypothesis listed).imp id List.mem_of_mem_drop

/-- A text without hyphens has none to take out. -/
theorem filter_unhyphenated {cs : List Char} (absent : '-' ∉ cs) :
    cs.filter (· ≠ '-') = cs := by
  rw [List.filter_eq_self]
  intro c listed
  have apart : c ≠ '-' := by
    rintro rfl
    exact absent listed
  simpa using apart

/-- Nor has its beginning. -/
theorem filter_take {cs : List Char} (absent : '-' ∉ cs) (count : Nat) :
    (cs.take count).filter (· ≠ '-') = cs.take count :=
  filter_unhyphenated fun listed => absent (List.mem_of_mem_take listed)

/-- Without the hyphens a grouped text is what was grouped. -/
theorem filter_hyphenate {counts : List Nat} {cs : List Char} (absent : '-' ∉ cs) :
    (hyphenate counts cs).filter (· ≠ '-') = cs.take counts.sum := by
  fun_induction hyphenate counts cs with
  | case1 => simp
  | case2 count cs => rw [filter_take absent, List.sum_singleton]
  | case3 count counts cs _ inductionHypothesis =>
    have rest := inductionHypothesis (fun listed => absent (List.mem_of_mem_drop listed))
    have hyphen : ('-' :: hyphenate counts (cs.drop count)).filter (· ≠ '-') =
        (hyphenate counts (cs.drop count)).filter (· ≠ '-') := by
      simp
    rw [List.filter_append, filter_take absent, hyphen, rest, List.sum_cons, List.take_add]

/-- In lower case the groups are the same. -/
theorem map_toLower_hyphenate (counts : List Nat) (cs : List Char) :
    (hyphenate counts cs).map Char.toLower = hyphenate counts (cs.map Char.toLower) := by
  fun_induction hyphenate counts cs with
  | case1 => rfl
  | case2 count cs => exact List.map_take
  | case3 count counts cs more inductionHypothesis =>
    rw [List.map_append, List.map_cons, inductionHypothesis, List.map_take, List.map_drop]
    cases counts with
    | nil => exact absurd rfl more
    | cons => rfl

/-- In lower case the same characters are hyphens. -/
theorem map_toLower_filter (cs : List Char) :
    (cs.filter (· ≠ '-')).map Char.toLower = (cs.map Char.toLower).filter (· ≠ '-') := by
  rw [List.filter_map]
  congr 2
  funext c
  simp [toLower_eq_hyphen_iff]

/-- What is a group in lower case has as many characters and no hyphens to take out. -/
theorem filter_group {count : Nat} {ds group : List Char} (absent : '-' ∉ ds)
    (enough : count ≤ ds.length) (placed : group.map Char.toLower = ds.take count) :
    group.filter (· ≠ '-') = group ∧ group.length = count := by
  constructor
  · refine filter_unhyphenated fun listed => ?_
    have lower : '-' ∈ group.map Char.toLower :=
      List.mem_map.2 ⟨'-', listed, (toLower_eq_hyphen_iff '-').2 rfl⟩
    rw [placed] at lower
    exact absent (List.mem_of_mem_take lower)
  · rw [← List.length_map, placed, List.length_take, Nat.min_eq_left enough]

/-- A text with its hyphens in their places is the same again when they are taken out and
set anew. The induction is on the groups. -/
theorem hyphenate_filter {counts : List Nat} {ds cs : List Char} (absent : '-' ∉ ds)
    (enough : counts.sum ≤ ds.length) (placed : cs.map Char.toLower = hyphenate counts ds) :
    hyphenate counts (cs.filter (· ≠ '-')) = cs := by
  fun_induction hyphenate counts ds generalizing cs with
  | case1 =>
    obtain rfl := List.map_eq_nil_iff.1 placed
    rfl
  | case2 count ds =>
    rw [List.sum_singleton] at enough
    obtain ⟨plain, length⟩ := filter_group absent enough placed
    rw [plain, hyphenate, List.take_of_length_le (Nat.le_of_eq length)]
  | case3 count counts ds more inductionHypothesis =>
    obtain ⟨group, back, rfl, group_placed, back_placed⟩ := List.map_eq_append_iff.1 placed
    obtain ⟨hyphen, rest, rfl, hyphen_placed, rest_placed⟩ := List.map_eq_cons_iff.1 back_placed
    obtain rfl := (toLower_eq_hyphen_iff hyphen).1 hyphen_placed
    rw [List.sum_cons] at enough
    obtain ⟨plain, length⟩ := filter_group absent (by omega) group_placed
    have again := inductionHypothesis (fun listed => absent (List.mem_of_mem_drop listed))
      (by rw [List.length_drop]; omega) rest_placed
    have taken_out : (group ++ '-' :: rest).filter (· ≠ '-') =
        group ++ rest.filter (· ≠ '-') := by
      rw [List.filter_append, plain]
      simp
    rw [taken_out, hyphenate, List.take_left' length, List.drop_left' length, again]
    exact more

/-- The digits of a UUID are spelled without hyphens. -/
theorem hyphen_notMem_digits (uuid : Uuid) : '-' ∉ uuid.digits.map digitChar := by
  intro listed
  obtain ⟨digit, _, hyphen⟩ := List.mem_map.1 listed
  exact (digitChar_ne digit).1 hyphen

/-- Without the hyphens, the text of a UUID is its digits. -/
theorem filter_toChars (uuid : Uuid) :
    uuid.toChars.filter (· ≠ '-') = uuid.digits.map digitChar := by
  rw [toChars, filter_hyphenate uuid.hyphen_notMem_digits]
  exact List.take_of_length_le (by simp [groups, uuid.length_digits])

/-- Every UUID has a text of its own. -/
theorem toChars_injective : Function.Injective toChars := by
  intro a b same
  have digits : a.digits.map digitChar = b.digits.map digitChar := by
    rw [← filter_toChars a, same, filter_toChars b]
  cases a
  cases b
  rw [Uuid.mk.injEq]
  exact List.map_injective_iff.2 digitChar_injective digits

/-- No UUID has a colon in its text. -/
theorem colon_notMem_toChars (uuid : Uuid) : ':' ∉ uuid.toChars := by
  intro listed
  rcases mem_hyphenate listed with hyphen | listed
  · exact absurd hyphen (by decide)
  · obtain ⟨digit, _, colon⟩ := List.mem_map.1 listed
    exact (digitChar_ne digit).2 colon

/-- Thirty-two digits in any case are read as what they spell. -/
theorem ofDigitChars?_eq_some_iff {cs : List Char} {uuid : Uuid} :
    ofDigitChars? cs = some uuid ↔ cs.map Char.toLower = uuid.digits.map digitChar := by
  rw [← mapM_eq_some_iff digit?_eq_some_iff, ofDigitChars?]
  obtain ⟨digits, complete⟩ := uuid
  split
  · rename_i unread
    simp [unread]
  · rename_i found read
    rw [read, Option.some.injEq]
    constructor
    · intro settled
      split at settled
      · simpa using settled
      · cases settled
    · rintro rfl
      rw [dif_pos complete]

/-- So are they with hyphens in their places. -/
theorem ofHyphenated?_eq_some_iff {cs : List Char} {uuid : Uuid} :
    ofHyphenated? cs = some uuid ↔ cs.map Char.toLower = uuid.toChars := by
  rw [ofHyphenated?, Option.ite_none_right_eq_some, ofDigitChars?_eq_some_iff]
  constructor
  · rintro ⟨placed, digits⟩
    rw [← placed, map_toLower_hyphenate, digits, toChars]
  · intro placed
    refine ⟨hyphenate_filter uuid.hyphen_notMem_digits ?_ placed, ?_⟩
    · simp [groups, uuid.length_digits]
    · rw [map_toLower_filter, placed, filter_toChars]

/-- The texts that spell a UUID, its digits in any case: -/
inductive SpelledBy (uuid : Uuid) : List Char → Prop
  /-- the digits by themselves, -/
  | bare {cs : List Char} (digits : cs.map Char.toLower = uuid.digits.map digitChar) :
      SpelledBy uuid cs
  /-- the written form, -/
  | hyphenated {cs : List Char} (written : cs.map Char.toLower = uuid.toChars) :
      SpelledBy uuid cs
  /-- the written form between braces, -/
  | braced {cs : List Char} (written : cs.map Char.toLower = uuid.toChars) :
      SpelledBy uuid ('\x7b' :: cs ++ ['\x7d'])
  /-- and the written form as a resource name. -/
  | named {cs : List Char} (written : cs.map Char.toLower = uuid.toChars) :
      SpelledBy uuid ("urn:uuid:".toList ++ cs)

/-- The written form has thirty-six characters. -/
theorem length_toChars (uuid : Uuid) : uuid.toChars.length = 36 := by
  simp [toChars, hyphenate, groups, uuid.length_digits]

/-- What stands between the first character and the last one. -/
theorem eq_enclosed {cs : List Char} {first last : Char} (length : cs.length = 38)
    (head : cs.head? = some first) (getLast : cs.getLast? = some last) :
    cs = first :: (cs.drop 1).take 36 ++ [last] := by
  obtain ⟨front, rfl⟩ := List.getLast?_eq_some_iff.1 getLast
  cases front with
  | nil => cases length
  | cons c inner =>
    obtain rfl : c = first := by simpa using head
    have inside : inner.length = 36 := by simpa using length
    simp [List.take_left' inside]

/-- Read is what spells a UUID, and as the one it spells. The forms have lengths of their
own, so the length decides which one to look for. -/
theorem read?_eq_some_iff {text : String} {uuid : Uuid} :
    read? text = some uuid ↔ uuid.SpelledBy text.toList := by
  rw [read?]
  generalize text.toList = cs
  constructor
  · intro read
    unfold ofChars? at read
    split at read
    · exact .bare (ofDigitChars?_eq_some_iff.1 read)
    split at read
    · exact .hyphenated (ofHyphenated?_eq_some_iff.1 read)
    split at read
    · rename_i braces
      rw [eq_enclosed braces.1 braces.2.1 braces.2.2]
      exact .braced (ofHyphenated?_eq_some_iff.1 read)
    split at read
    · rename_i urn
      rw [← List.take_append_drop 9 cs, urn.2]
      exact .named (ofHyphenated?_eq_some_iff.1 read)
    · cases read
  · intro spelled
    have length {cs : List Char} (written : cs.map Char.toLower = uuid.toChars) :
        cs.length = 36 := by
      rw [← List.length_map, written, length_toChars]
    cases spelled with
    | bare digits =>
      have whole : cs.length = 32 := by
        rw [← List.length_map, digits, List.length_map, uuid.length_digits]
      rw [ofChars?, if_pos whole, ofDigitChars?_eq_some_iff.2 digits]
    | hyphenated written =>
      have whole := length written
      rw [ofChars?, if_neg (by omega), if_pos whole, ofHyphenated?_eq_some_iff.2 written]
    | @braced cs written =>
      have whole : ('\x7b' :: cs ++ ['\x7d']).length = 38 := by simp [length written]
      have inside : (('\x7b' :: cs ++ ['\x7d']).drop 1).take 36 = cs :=
        List.take_left' (length written)
      rw [ofChars?, if_neg (by omega), if_neg (by omega),
        if_pos ⟨whole, rfl, List.getLast?_concat⟩, inside, ofHyphenated?_eq_some_iff.2 written]
    | @named cs written =>
      have whole : ("urn:uuid:".toList ++ cs).length = 45 := by simp [length written]
      rw [ofChars?, if_neg (by omega), if_neg (by omega), if_neg (by omega), if_pos ⟨whole, rfl⟩]
      exact ofHyphenated?_eq_some_iff.2 written

/-- The written form is one of the spellings. -/
theorem spelledBy_toChars (uuid : Uuid) : uuid.SpelledBy uuid.toChars := by
  refine .hyphenated ?_
  have lower (digit : Fin 16) : (digitChar digit).toLower = digitChar digit := by
    revert digit
    decide
  rw [toChars, map_toLower_hyphenate, List.map_map]
  exact congrArg (hyphenate groups) (List.map_congr_left fun digit _ => lower digit)

end Uuid

end Reindex

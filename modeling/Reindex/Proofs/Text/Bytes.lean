import Mathlib.Data.String.Basic

/-!
# Texts in the order of their bytes

Texts are compared character by character, and stored as bytes. Both give one order. The
first byte of a character tells how many follow, six bits in each of these, and holds the
leading bits: of a greater character it is greater, or else as many bytes follow and they
decide. So the first byte that differs decides as the first character that differs does.
-/

namespace Reindex.Text

/-- A text as it is stored. -/
def bytes (text : String) : List UInt8 := text.toByteArray.data.toList

/-- What is stored are the bytes of the characters. -/
theorem bytes_eq_flatMap (text : String) :
    bytes text = text.toList.flatMap String.utf8EncodeChar := by
  rw [bytes, ← String.utf8Encode_toList, List.utf8Encode, List.data_toByteArray]

/-! ## The bytes of a character -/

/-- How many bytes follow the first one. -/
def following (code : Nat) : Nat :=
  if code ≤ 0x7f then 0 else if code ≤ 0x7ff then 1 else if code ≤ 0xffff then 2 else 3

/-- What the first byte has besides the leading bits, by the number of bytes that follow. -/
def mark : Nat → Nat
  | 0 => 0x00
  | 1 => 0xc0
  | 2 => 0xe0
  | _ => 0xf0

/-- The first byte. -/
def lead (code : Nat) : Nat := mark (following code) + code / 64 ^ following code

/-- So many bytes with the last bits, six in each. -/
def sextets : Nat → Nat → List UInt8
  | 0, _ => []
  | count + 1, code => sextets count (code / 64) ++ [UInt8.ofNat (code % 64 + 128)]

/-- Numbers that fit into a byte are in order there. -/
theorem ofNat_lt {code other : Nat} (below : code < other) (fits : other < 256) :
    UInt8.ofNat code < UInt8.ofNat other := by
  rwa [UInt8.lt_iff_toNat_lt, UInt8.toNat_ofNat_of_lt' (Nat.lt_trans below fits),
    UInt8.toNat_ofNat_of_lt' fits]

/-- The first byte is one. -/
theorem lead_lt {code : Nat} (bounded : code < 0x110000) : lead code < 256 := by
  unfold lead following
  split_ifs <;> simp only [mark, Nat.reducePow] <;> omega

/-- No character is beyond the last code point. -/
theorem toNat_lt (c : Char) : c.toNat < 0x110000 := by
  rcases c.valid with low | high
  · exact Nat.lt_trans low (by decide)
  · exact high.2

/-- A character is stored as its first byte and those that follow. -/
theorem utf8EncodeChar_eq (c : Char) :
    String.utf8EncodeChar c =
      UInt8.ofNat (lead c.toNat) :: sextets (following c.toNat) c.toNat := by
  have bounded : c.val.toNat < 0x110000 := toNat_lt c
  change _ = UInt8.ofNat (lead c.val.toNat) :: sextets (following c.val.toNat) c.val.toNat
  unfold String.utf8EncodeChar lead following
  dsimp only
  generalize c.val.toNat = code at bounded ⊢
  have same {code other : Nat} (equal : code = other) : UInt8.ofNat code = UInt8.ofNat other :=
    congrArg UInt8.ofNat equal
  split_ifs with one two three
  · rw [same (show code = mark 0 + code / 64 ^ 0 by simp [mark])]
    rfl
  · rw [same (show code / 64 % 32 + 192 = mark 1 + code / 64 ^ 1 by simp only [mark]; omega)]
    rfl
  · rw [same (show code / 4096 % 16 + 224 = mark 2 + code / 64 ^ 2 by simp only [mark]; omega)]
    rfl
  · rw [same (show code / 262144 % 8 + 240 = mark 3 + code / 64 ^ 3 by simp only [mark]; omega),
      same (show code / 4096 % 64 + 128 = code / 64 / 64 % 64 + 128 by omega)]
    rfl

/-- The first byte of a greater character is greater, or else as many bytes follow and
these decide. -/
theorem lead_lt_or {code other : Nat} (below : code < other) :
    lead code < lead other ∨
      following code = following other ∧
        code / 64 ^ following code = other / 64 ^ following other := by
  unfold lead following
  split_ifs <;> simp only [mark, Nat.reducePow, true_and] <;> omega

/-- The bytes of the last bits are in order when the bits in front of them agree. -/
theorem sextets_lt {count code other : Nat} (below : code < other)
    (leading : code / 64 ^ count = other / 64 ^ count) (rest others : List UInt8) :
    sextets count code ++ rest < sextets count other ++ others := by
  induction count generalizing code other rest others with
  | zero =>
    rw [pow_zero, Nat.div_one, Nat.div_one] at leading
    exact absurd leading (Nat.ne_of_lt below)
  | succ count inductionHypothesis =>
    rw [sextets, sextets, List.append_assoc, List.append_assoc]
    rcases Nat.lt_or_eq_of_le (Nat.div_le_div_right (Nat.le_of_lt below)) with front | front
    · rw [pow_succ', ← Nat.div_div_eq_div_mul, ← Nat.div_div_eq_div_mul] at leading
      exact inductionHypothesis front leading _ _
    · -- all but the last six bits agree
      rw [front]
      exact List.append_left_lt (List.cons_lt_cons_iff.2 (.inl (ofNat_lt (by omega) (by omega))))

/-- The bytes of a smaller character come before those of a greater one, whatever follows. -/
theorem utf8EncodeChar_lt {c d : Char} (below : c < d) (rest others : List UInt8) :
    String.utf8EncodeChar c ++ rest < String.utf8EncodeChar d ++ others := by
  have codes : c.toNat < d.toNat := below
  rw [utf8EncodeChar_eq, utf8EncodeChar_eq, List.cons_append, List.cons_append,
    List.cons_lt_cons_iff]
  rcases lead_lt_or codes with first | ⟨many, leading⟩
  · exact .inl (ofNat_lt first (lead_lt (toNat_lt d)))
  · refine .inr ⟨?_, ?_⟩
    · rw [lead, lead, leading, many]
    · rw [many] at leading ⊢
      exact sextets_lt codes leading rest others

/-! ## The bytes of a text -/

/-- The bytes of a smaller text come first. -/
theorem flatMap_lt {a b : List Char} (below : a < b) :
    a.flatMap String.utf8EncodeChar < b.flatMap String.utf8EncodeChar := by
  induction below with
  | @nil c rest =>
    rw [List.flatMap_nil, List.flatMap_cons, utf8EncodeChar_eq]
    exact List.nil_lt_cons _ _
  | rel first =>
    rw [List.flatMap_cons, List.flatMap_cons]
    exact utf8EncodeChar_lt first _ _
  | cons _ inductionHypothesis =>
    rw [List.flatMap_cons, List.flatMap_cons]
    exact List.append_left_lt inductionHypothesis

/-- Texts are in the order of their bytes. -/
theorem bytes_lt_iff {a b : String} : bytes a < bytes b ↔ a < b := by
  rw [bytes_eq_flatMap, bytes_eq_flatMap, String.lt_iff_toList_lt]
  constructor
  · intro below
    rcases lt_trichotomy a.toList b.toList with before | same | after
    · exact before
    · rw [same] at below
      exact absurd below (List.lt_irrefl _)
    · exact absurd (flatMap_lt after) (List.lt_asymm below)
  · exact flatMap_lt

end Reindex.Text

/-
Module: DashletBoard.Proofs.ByteOrder
Purpose: Texts are ordered as their UTF-8 bytes are, so the first key of a dictionary is the one whose bytes
  come first.
Main exports: Text.utf8EncodeChar_append_lt, Text.utf8Bytes_lt, Text.utf8Bytes_le_iff,
  Dictionary.leastByBytes?, Dictionary.leastByBytes?_eq_firstKey?
-/
import DashletBoard.Text.Dictionary
import DashletBoard.Text.Utf8
import Mathlib.Algebra.Group.Nat.Defs

namespace DashletBoard

namespace Text

/-!
### Bytes of a character

The first byte of a character tells how many bytes follow it, and it is greater the more there are.  Each of
these holds six bits of the code point, the highest ones first, and the first byte holds what is above them.
-/

/-- How many bytes follow the first byte of a code point. -/
def following (code : Nat) : Nat :=
  if code ≤ 0x7f then 0 else if code ≤ 0x7ff then 1 else if code ≤ 0xffff then 2 else 3

/-- The first byte that is followed by some more, when it holds no bits of a code point. -/
def firstMark : Nat → Nat
  | 0 => 0
  | 1 => 0xc0
  | 2 => 0xe0
  | _ => 0xf0

/-- The first byte of a code point. -/
def firstByte (code : Nat) : Nat := firstMark (following code) + code / 64 ^ following code

/-- The last bytes of a code point, as many as are asked for. -/
def lastBytes (code : Nat) : Nat → List UInt8
  | 0 => []
  | more + 1 => UInt8.ofNat (code / 64 ^ more % 64 + 0x80) :: lastBytes code more

theorem code_lt (c : Char) : c.val.toNat < 0x110000 := by
  rcases c.valid with low | ⟨-, high⟩
  · exact Nat.lt_trans low (by decide)
  · exact high

theorem utf8EncodeChar_eq (c : Char) : String.utf8EncodeChar c =
    UInt8.ofNat (firstByte c.val.toNat) :: lastBytes c.val.toNat (following c.val.toNat) := by
  have bound := code_lt c
  generalize code : c.val.toNat = n at bound
  simp only [String.utf8EncodeChar, code, firstByte, following]
  split
  next => simp [firstMark, lastBytes]
  next =>
    split
    next low =>
      have first : n / 64 % 32 + 192 = 192 + n / 64 := by omega
      simp [firstMark, lastBytes, first]
    next =>
      split
      next low =>
        have first : n / 4096 % 16 + 224 = 224 + n / 4096 := by omega
        simp [firstMark, lastBytes, first]
      next =>
        have first : n / 262144 % 8 + 240 = 240 + n / 262144 := by omega
        simp [firstMark, lastBytes, first]

/-!
### The order of bytes
-/

theorem ofNat_lt_ofNat {m n : Nat} (less : m < n) (bound : n < 256) :
    UInt8.ofNat m < UInt8.ofNat n := by
  rw [UInt8.lt_iff_toNat_lt, UInt8.toNat_ofNat', UInt8.toNat_ofNat']
  omega

theorem lastBytes_append_lt {m n : Nat} (less : m < n) {count : Nat}
    (above : m / 64 ^ count = n / 64 ^ count) (rest others : List UInt8) :
    lastBytes m count ++ rest < lastBytes n count ++ others := by
  induction count with
  | zero =>
      simp only [Nat.pow_zero, Nat.div_one] at above
      exact absurd above (Nat.ne_of_lt less)
  | succ more ih =>
      have split (k : Nat) : k / 64 ^ (more + 1) = k / 64 ^ more / 64 := by
        rw [Nat.pow_succ, Nat.div_div_eq_div_mul]
      rw [split m, split n] at above
      have weak : m / 64 ^ more ≤ n / 64 ^ more := Nat.div_le_div_right (Nat.le_of_lt less)
      rw [lastBytes, lastBytes, List.cons_append, List.cons_append, List.cons_lt_cons_iff]
      rcases Nat.lt_or_eq_of_le weak with digit | same
      · exact .inl (ofNat_lt_ofNat (by omega) (by omega))
      · exact .inr ⟨by rw [same], ih same⟩

theorem firstByte_lt {n : Nat} (bound : n < 0x110000) : firstByte n < 256 := by
  simp only [firstByte, following]
  split
  next => simp [firstMark]; omega
  next =>
    split
    next => simp [firstMark]; omega
    next =>
      split
      next => simp [firstMark]; omega
      next => simp [firstMark]; omega

theorem firstByte_lt_or_eq {m n : Nat} (less : m < n) (bound : n < 0x110000) :
    firstByte m < firstByte n ∨
      following m = following n ∧ m / 64 ^ following m = n / 64 ^ following m := by
  simp only [firstByte, following]
  repeat' split
  all_goals simp [firstMark]
  all_goals omega

/-- The bytes of a character come before those of a greater one, whatever follows them. -/
theorem utf8EncodeChar_append_lt {c d : Char} (less : c < d) (rest others : List UInt8) :
    String.utf8EncodeChar c ++ rest < String.utf8EncodeChar d ++ others := by
  have codes : c.val.toNat < d.val.toNat := less
  rw [utf8EncodeChar_eq, utf8EncodeChar_eq, List.cons_append, List.cons_append,
    List.cons_lt_cons_iff]
  rcases firstByte_lt_or_eq codes (code_lt d) with first | ⟨count, above⟩
  · exact .inl (ofNat_lt_ofNat first (firstByte_lt (code_lt d)))
  · refine .inr ⟨?_, ?_⟩
    · rw [firstByte, firstByte, ← count, above]
    · rw [← count]
      exact lastBytes_append_lt codes above rest others

/-!
### The order of texts
-/

theorem utf8Bytes_lt {text other : List Char} (less : text < other) :
    utf8Bytes text < utf8Bytes other := by
  induction less with
  | @nil c rest =>
      rw [utf8Bytes, utf8Bytes, List.flatMap_nil, List.flatMap_cons, utf8EncodeChar_eq]
      exact List.nil_lt_cons _ _
  | rel smaller =>
      rw [utf8Bytes, utf8Bytes, List.flatMap_cons, List.flatMap_cons]
      exact utf8EncodeChar_append_lt smaller _ _
  | cons _ ih =>
      rw [utf8Bytes, utf8Bytes, List.flatMap_cons, List.flatMap_cons]
      exact List.append_left_lt ih

/-- Texts are in the order of their bytes. -/
theorem utf8Bytes_le_iff {text other : String} :
    utf8Bytes text.toList ≤ utf8Bytes other.toList ↔ text ≤ other := by
  constructor
  · intro bytes greater
    exact bytes (utf8Bytes_lt greater)
  · intro texts
    by_cases less : text < other
    · exact List.le_of_lt (utf8Bytes_lt less)
    · rw [String.le_antisymm texts (String.not_lt.mp less)]
      exact List.le_refl _

end Text

namespace Dictionary

variable {α : Type}

/-- The key of a dictionary whose bytes come before those of all others. -/
def leastByBytes? (map : Dictionary α) : Option String :=
  map.keys.find? fun key =>
    map.keys.all fun other => Text.utf8Bytes key.toList ≤ Text.utf8Bytes other.toList

/-- The entries of a dictionary begin with the key whose bytes come first. -/
theorem leastByBytes?_eq_firstKey? (map : Dictionary α) : map.leastByBytes? = map.firstKey? := by
  have ascending : map.keys.Pairwise (· < ·) := List.pairwise_map.mpr map.ascending
  rw [leastByBytes?, firstKey?]
  cases listed : map.keys with
  | nil => rfl
  | cons key rest =>
      rw [listed] at ascending
      apply List.find?_cons_of_pos
      simp only [List.all_eq_true, decide_eq_true_eq, Text.utf8Bytes_le_iff]
      intro other member
      rcases List.mem_cons.mp member with rfl | later
      · exact String.le_refl other
      · exact Std.le_of_lt ((List.pairwise_cons.mp ascending).1 other later)

end Dictionary

end DashletBoard

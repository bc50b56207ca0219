/-
Module: DashletBoard.Proofs.JsonSpelling
Purpose: All ways to write the strings and numbers of JSON, and that the reader understands each of them.
Main exports: Json.SpelledChar, Json.SpelledString, Draft.readString_spelled, Numeral.Spelled,
  Draft.readNumber_spelled, Numeral.spelled_ofNat, Numeral.word?_ofNat
-/
import DashletBoard.Json.Draft
import DashletBoard.Json.Number
import Mathlib.Data.List.TakeDrop

namespace DashletBoard

/-!
### Characters of a string

A character can be written as it is, by a letter after a backslash, or by the hexadecimal digits of the
units that are its UTF-16: one unit, or a pair of surrogates beyond the first 65536 characters.
-/

namespace Json

/-- The ways to write a character inside a string. -/
inductive SpelledChar (c : Char) : List Char → Prop where
  | plain (visible : 32 ≤ c.toNat) (unquoted : c ≠ '"') (straight : c ≠ '\\') : SpelledChar c [c]
  | letter {l : Char} (stands : Draft.escaped? l = some c) : SpelledChar c ['\\', l]
  | unit {h i j k : Char} (digits : Draft.unit? h i j k = some c.toNat) :
      SpelledChar c ['\\', 'u', h, i, j, k]
  | pair {h i j k l m n o : Char} (beyond : 0x10000 ≤ c.toNat)
      (high : Draft.unit? h i j k = some (0xD800 + (c.toNat - 0x10000) / 0x400))
      (low : Draft.unit? l m n o = some (0xDC00 + (c.toNat - 0x10000) % 0x400)) :
      SpelledChar c ['\\', 'u', h, i, j, k, '\\', 'u', l, m, n, o]

/-- The ways to write the characters of a string between its quotes. -/
inductive SpelledString : List Char → List Char → Prop where
  | nil : SpelledString [] []
  | cons {c : Char} {cs front back : List Char} (first : SpelledChar c front)
      (rest : SpelledString cs back) : SpelledString (c :: cs) (front ++ back)

end Json

namespace Draft

open Json

/-- Characters leave out the units of surrogates. -/
theorem toNat_range (c : Char) :
    c.toNat < 0xD800 ∨ 0xDFFF < c.toNat ∧ c.toNat < 0x110000 := c.valid

/-- The unit of a character stands alone. -/
theorem characters?_unit (c : Char) (elements : List Element) :
    characters? (.unit c.toNat :: elements) = (characters? elements).map (c :: ·) := by
  have range := toNat_range c
  have front : isHigh c.toNat = false := by
    simp only [isHigh, Bool.and_eq_false_iff, decide_eq_false_iff_not]
    omega
  have back : isLow c.toNat = false := by
    simp only [isLow, Bool.and_eq_false_iff, decide_eq_false_iff_not]
    omega
  cases elements with
  | nil => simp [characters?, front, back]
  | cons element rest => cases element <;> simp [characters?, front, back]

/-- The two surrogates of a character stand for it. -/
theorem characters?_pair {c : Char} (beyond : 0x10000 ≤ c.toNat) (elements : List Element) :
    characters? (.unit (0xD800 + (c.toNat - 0x10000) / 0x400) ::
        .unit (0xDC00 + (c.toNat - 0x10000) % 0x400) :: elements) =
      (characters? elements).map (c :: ·) := by
  have range := toNat_range c
  have front : isHigh (0xD800 + (c.toNat - 0x10000) / 0x400) = true := by
    simp only [isHigh, Bool.and_eq_true, decide_eq_true_eq]
    omega
  have back : isLow (0xDC00 + (c.toNat - 0x10000) % 0x400) = true := by
    simp only [isLow, Bool.and_eq_true, decide_eq_true_eq]
    omega
  have whole : 0x10000 + (0xD800 + (c.toNat - 0x10000) / 0x400 - 0xD800) * 0x400 +
      (0xDC00 + (c.toNat - 0x10000) % 0x400 - 0xDC00) = c.toNat := by omega
  rw [characters?, if_pos front, if_pos back, whole, Char.ofNat_toNat]

/-- Reading one more character in front. -/
theorem readElements_spelledChar {c : Char} {front text rest cs : List Char} {elements : List Element}
    (spelled : SpelledChar c front) (reads : readElements text = some (elements, rest))
    (means : characters? elements = some cs) :
    ∃ more, readElements (front ++ text) = some (more, rest) ∧
      characters? more = some (c :: cs) := by
  cases spelled with
  | plain visible unquoted straight =>
      refine ⟨.character c :: elements, ?_, by simp [characters?, means]⟩
      simp [readElements, straight, Nat.not_lt.mpr visible, reads]
  | @letter l stands =>
      refine ⟨.character c :: elements, ?_, by simp [characters?, means]⟩
      have other : l ≠ 'u' := by
        rintro rfl
        cases stands
      simp [readElements, other, stands, reads]
  | unit digits =>
      refine ⟨.unit c.toNat :: elements, ?_, by rw [characters?_unit, means, Option.map_some]⟩
      simp [readElements, digits, reads]
  | pair beyond high low =>
      refine ⟨_ :: _ :: elements, ?_, by rw [characters?_pair beyond, means, Option.map_some]⟩
      simp [readElements, high, low, reads]

/-- Every way to write a string is read as this string, up to its closing quote. -/
theorem readString_spelled {cs text : List Char} (spelled : SpelledString cs text) (rest : List Char) :
    readString (text ++ '"' :: rest) = some (some (String.ofList cs), rest) := by
  have whole : ∃ elements, readElements (text ++ '"' :: rest) = some (elements, rest) ∧
      characters? elements = some cs := by
    induction spelled with
    | nil => exact ⟨[], rfl, rfl⟩
    | cons first _ ih =>
        obtain ⟨elements, reads, means⟩ := ih
        rw [List.append_assoc]
        exact readElements_spelledChar first reads means
  obtain ⟨elements, reads, means⟩ := whole
  simp only [readString, reads, means, Option.map_some]

end Draft

/-!
### Numbers
-/

/-- One or more decimal digits. -/
structure IsDigits (digits : List Char) : Prop where
  some : digits ≠ []
  decimal : ∀ c ∈ digits, c.isDigit

namespace Numeral

/-- The ways to write a fraction, if there is one. -/
inductive SpelledFraction : Option (List Char) → List Char → Prop where
  | absent : SpelledFraction none []
  | point {digits : List Char} (decimal : IsDigits digits) :
      SpelledFraction (some digits) ('.' :: digits)

/-- The ways to write an exponent, if there is one. -/
inductive SpelledExponent : Option (Bool × List Char) → List Char → Prop where
  | absent : SpelledExponent none []
  | unsigned {e : Char} {digits : List Char} (letter : e = 'e' ∨ e = 'E')
      (decimal : IsDigits digits) : SpelledExponent (some (false, digits)) (e :: digits)
  | plus {e : Char} {digits : List Char} (letter : e = 'e' ∨ e = 'E')
      (decimal : IsDigits digits) : SpelledExponent (some (false, digits)) (e :: '+' :: digits)
  | minus {e : Char} {digits : List Char} (letter : e = 'e' ∨ e = 'E')
      (decimal : IsDigits digits) : SpelledExponent (some (true, digits)) (e :: '-' :: digits)

/-- The ways to write a number.  No zero is written in front of other digits. -/
inductive Spelled : Numeral → List Char → Prop where
  | unsigned {whole front back : List Char} {fraction : Option (List Char)}
      {exponent : Option (Bool × List Char)} (decimal : IsDigits whole)
      (leading : whole.head? = some '0' → whole = ['0'])
      (fractional : SpelledFraction fraction front) (scaled : SpelledExponent exponent back) :
      Spelled ⟨false, whole, fraction, exponent⟩ (whole ++ (front ++ back))
  | negative {whole text : List Char} {fraction : Option (List Char)}
      {exponent : Option (Bool × List Char)}
      (positive : Spelled ⟨false, whole, fraction, exponent⟩ text) :
      Spelled ⟨true, whole, fraction, exponent⟩ ('-' :: text)

/-- A text that does not continue a number before it. -/
def Ends (text : List Char) : Prop :=
  ∀ c ∈ text.head?, ¬ c.isDigit ∧ c ≠ '.' ∧ c ≠ 'e' ∧ c ≠ 'E'

end Numeral

namespace Draft

open Numeral

/-- Digits are read up to a character that is none. -/
theorem span_isDigit {digits rest : List Char} (decimal : ∀ c ∈ digits, c.isDigit)
    (ends : ∀ c ∈ rest.head?, ¬ c.isDigit) : (digits ++ rest).span Char.isDigit = (digits, rest) := by
  rw [List.span_eq_takeWhile_dropWhile, List.takeWhile_append_of_pos decimal,
    List.dropWhile_append_of_pos decimal]
  cases rest with
  | nil => simp
  | cons c rest => simp [ends c rfl]

theorem readExponentDigits_spelled {digits rest : List Char} (decimal : IsDigits digits)
    (ends : Ends rest) (negative : Bool) :
    readExponentDigits negative (digits ++ rest) = some (some (negative, digits), rest) := by
  have kept := span_isDigit decimal.decimal fun c first => (ends c first).1
  simp only [readExponentDigits, kept, List.isEmpty_eq_false_iff.mpr decimal.some]
  rfl

/-- A digit is no other character that a number is made of. -/
theorem ne_of_isDigit {c d : Char} (digit : c.isDigit) (other : d.isDigit = false) : c ≠ d := by
  rintro rfl
  rw [digit] at other
  cases other

theorem readExponent_spelled {exponent : Option (Bool × List Char)} {text rest : List Char}
    (spelled : SpelledExponent exponent text) (ends : Ends rest) :
    readExponent (text ++ rest) = some (exponent, rest) := by
  cases spelled with
  | absent =>
      cases rest with
      | nil => rfl
      | cons c rest =>
          obtain ⟨-, -, lower, upper⟩ := ends c rfl
          simp [readExponent, lower, upper]
  | @unsigned e digits letter decimal =>
      obtain ⟨c, others, rfl⟩ := List.exists_cons_of_ne_nil decimal.some
      have digit : c.isDigit := decimal.decimal c List.mem_cons_self
      have noPlus : c ≠ '+' := ne_of_isDigit digit rfl
      have noMinus : c ≠ '-' := ne_of_isDigit digit rfl
      have reads := readExponentDigits_spelled decimal ends false
      rw [List.cons_append] at reads
      simp [readExponent, letter, noPlus, noMinus, reads]
  | plus letter decimal =>
      simp [readExponent, letter, readExponentDigits_spelled decimal ends]
  | minus letter decimal =>
      simp [readExponent, letter, readExponentDigits_spelled decimal ends]

/-- An exponent, or what follows a number without one, is no digit and no point. -/
theorem head?_exponent {exponent : Option (Bool × List Char)} {text rest : List Char}
    (spelled : SpelledExponent exponent text) (ends : Ends rest) :
    ∀ c ∈ (text ++ rest).head?, ¬ c.isDigit ∧ c ≠ '.' := by
  cases spelled with
  | absent => exact fun c first => ⟨(ends c first).1, (ends c first).2.1⟩
  | unsigned letter | plus letter | minus letter =>
      rintro c ⟨⟩
      rcases letter with rfl | rfl <;> decide

theorem readFraction_spelled {fraction : Option (List Char)} {text rest : List Char}
    (spelled : SpelledFraction fraction text)
    (ends : ∀ c ∈ rest.head?, ¬ c.isDigit ∧ c ≠ '.') :
    readFraction (text ++ rest) = some (fraction, rest) := by
  cases spelled with
  | absent =>
      cases rest with
      | nil => rfl
      | cons c rest => simp [readFraction, (ends c rfl).2]
  | point decimal =>
      have kept := span_isDigit decimal.decimal fun c first => (ends c first).1
      simp only [List.cons_append, readFraction, kept, List.isEmpty_eq_false_iff.mpr decimal.some]
      rfl

/-- A fraction, or what follows a number without one, is no digit. -/
theorem head?_fraction {fraction : Option (List Char)} {text rest : List Char}
    (spelled : SpelledFraction fraction text)
    (ends : ∀ c ∈ rest.head?, ¬ c.isDigit ∧ c ≠ '.') :
    ∀ c ∈ (text ++ rest).head?, ¬ c.isDigit := by
  cases spelled with
  | absent => exact fun c first => (ends c first).1
  | point =>
      rintro c ⟨⟩
      decide

/-- The first character of a number is its sign or a digit. -/
theorem exists_cons_of_spelled {n : Numeral} {text : List Char} (spelled : Numeral.Spelled n text) :
    ∃ c rest, text = c :: rest ∧ (c = '-' ∨ c.isDigit) := by
  cases spelled with
  | unsigned decimal =>
      obtain ⟨c, others, rfl⟩ := List.exists_cons_of_ne_nil decimal.some
      exact ⟨c, _, rfl, .inr (decimal.decimal c List.mem_cons_self)⟩
  | negative => exact ⟨'-', _, rfl, .inl rfl⟩

/-- Every way to write a number is read as this number, up to a text that does not continue it. -/
theorem readUnsigned_spelled {whole text rest : List Char} {fraction : Option (List Char)}
    {exponent : Option (Bool × List Char)}
    (spelled : Numeral.Spelled ⟨false, whole, fraction, exponent⟩ text) (ends : Ends rest)
    (negative : Bool) :
    readUnsigned negative (text ++ rest) = some (⟨negative, whole, fraction, exponent⟩, rest) := by
  cases spelled with
  | @unsigned _ front back _ _ decimal leading fractional scaled =>
      have noPoint := head?_exponent scaled ends
      have kept := span_isDigit decimal.decimal (head?_fraction fractional noPoint)
      have alone : (whole.head? == some '0' && decide (1 < whole.length)) = false := by
        cases zero : whole.head? == some '0' with
        | false => rfl
        | true => rw [leading (beq_iff_eq.mp zero)]; rfl
      rw [List.append_assoc, List.append_assoc]
      simp only [readUnsigned, kept]
      rw [readFraction_spelled fractional noPoint]
      simp [decimal.some, alone, readExponent_spelled scaled ends]

theorem readNumber_of_unsigned {c : Char} {text rest : List Char} {n : Numeral} (signless : c ≠ '-')
    (reads : readUnsigned false (c :: text) = some (n, rest)) :
    readNumber (c :: text) = (.number n, some rest) := by
  simp [readNumber, signless, reads]

theorem readNumber_spelled {n : Numeral} {text rest : List Char} (spelled : Numeral.Spelled n text)
    (ends : Ends rest) : readNumber (text ++ rest) = (.number n, some rest) := by
  cases spelled with
  | unsigned decimal leading fractional scaled =>
      have reads := readUnsigned_spelled (.unsigned decimal leading fractional scaled) ends false
      obtain ⟨c, others, rfl⟩ := List.exists_cons_of_ne_nil decimal.some
      have signless : c ≠ '-' := ne_of_isDigit (decimal.decimal c List.mem_cons_self) rfl
      rw [List.cons_append, List.cons_append] at reads ⊢
      exact readNumber_of_unsigned signless reads
  | negative positive => simp [readNumber, readUnsigned_spelled positive ends]

end Draft

/-!
### Natural numbers
-/

namespace Numeral

theorem isDigits_toDigits (n : Nat) : IsDigits (Nat.toDigits 10 n) where
  some := Nat.toDigits_ne_nil
  decimal _ member := Nat.isDigit_of_mem_toDigits (by decide) (by decide) member

theorem head?_toDigits {n : Nat} (positive : 0 < n) : (Nat.toDigits 10 n).head? ≠ some '0' := by
  induction n using Nat.strongRecOn with
  | ind n ih =>
      by_cases small : n < 10
      · have digit : ∀ d < 10, 0 < d → [Nat.digitChar d].head? ≠ some '0' := by decide
        rw [Nat.toDigits_of_lt_base small]
        exact digit n small positive
      · have front := ih (n / 10) (by omega) (by omega)
        obtain ⟨c, rest, digits⟩ :=
          List.exists_cons_of_ne_nil (isDigits_toDigits (n / 10)).some
        rw [Nat.toDigits_of_base_le (by decide) (by omega), digits]
        rwa [digits] at front

/-- The decimal digits of a natural number write it. -/
theorem spelled_ofNat (n : Nat) : Spelled (ofNat n) (ofNat n).render := by
  have leading : (Nat.toDigits 10 n).head? = some '0' → Nat.toDigits 10 n = ['0'] := by
    intro zero
    rcases Nat.eq_zero_or_pos n with rfl | positive
    · rfl
    · exact absurd zero (head?_toDigits positive)
  have spelled := Spelled.unsigned (isDigits_toDigits n) leading .absent .absent
  simpa [ofNat, render] using spelled

theorem continueNatural_digits {digits : List Char} (decimal : ∀ c ∈ digits, c.isDigit) (value : Nat) :
    Text.continueNatural value digits = some (Nat.ofDigitChars 10 digits value) := by
  induction digits generalizing value with
  | nil => simp [Text.continueNatural]
  | cons c rest ih =>
      obtain ⟨digit, others⟩ := List.forall_mem_cons.mp decimal
      simp [Text.continueNatural, Text.digitValue?, digit, ih others, Nat.ofDigitChars_cons]

theorem natural?_toDigits (n : Nat) : Text.natural? (Nat.toDigits 10 n) = some n := by
  obtain ⟨c, rest, digits⟩ := List.exists_cons_of_ne_nil (isDigits_toDigits n).some
  have reads := continueNatural_digits (isDigits_toDigits n).decimal 0
  rw [Nat.ofDigitChars_ten_toDigits, digits] at reads
  rw [digits, Text.natural?, reads]
  exact List.cons_ne_nil c rest

/-- A word is read back from its digits. -/
theorem word?_ofNat (n : UInt32) : (ofNat n.toNat).word? = some n := by
  simp [word?, ofNat, natural?_toDigits, n.toNat_lt]

end Numeral

end DashletBoard

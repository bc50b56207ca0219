/-
Module: DashletBoard.Proofs.EscapedTexts
Purpose: Texts with escapes and texts that are joined by separators: what is written is read back, and which
  characters it can hold.
Main exports: Text.pieces_joinPieces, Text.mem_joinPieces, Text.splitAtFirst_append_cons,
  Text.mapM_map_eq_some, Text.Percent.decode?_encode, Text.Percent.mem_encode,
  Text.Percent.not_mem_encode, Text.Form.decodePart?_encodePart, Text.Form.decode_encode
-/
import DashletBoard.Text.Form

namespace DashletBoard.Text

section Pieces

variable {separator c : Char} {front : List Char}

/-!
### Pieces and separators

Cutting a text into pieces and joining them is what the library does with lists of any kind.
-/

theorem pieces_eq_splitOn (separator : Char) (text : List Char) :
    pieces separator text = text.splitOn separator := by
  induction text with
  | nil => rfl
  | cons c rest ih =>
      obtain ⟨first, others, parts⟩ := List.exists_cons_of_ne_nil (pieces_ne_nil separator rest)
      rw [pieces, List.splitOn_cons_eq_if_modifyHead, ← ih, parts, growFirst, List.modifyHead_cons]
      simp only [beq_iff_eq]

theorem joinPieces_eq_intercalate (separator : Char) (parts : List (List Char)) :
    joinPieces separator parts = [separator].intercalate parts := by
  fun_induction joinPieces separator parts with
  | case1 => rfl
  | case2 piece => rw [List.intercalate_singleton]
  | case3 piece next others ih =>
      rw [ih, List.intercalate_cons_cons, List.append_assoc, List.singleton_append]

/-- Pieces without a separator in them are found again after they were joined. -/
theorem pieces_joinPieces {parts : List (List Char)} (nonempty : parts ≠ [])
    (free : ∀ piece ∈ parts, separator ∉ piece) :
    pieces separator (joinPieces separator parts) = parts := by
  rw [pieces_eq_splitOn, joinPieces_eq_intercalate, List.splitOn_intercalate separator free nonempty]

theorem mem_joinPieces {parts : List (List Char)} (member : c ∈ joinPieces separator parts) :
    c = separator ∨ ∃ part ∈ parts, c ∈ part := by
  fun_induction joinPieces separator parts with
  | case1 => cases member
  | case2 piece => exact .inr ⟨piece, List.mem_singleton_self _, member⟩
  | case3 piece next others ih =>
      rcases List.mem_append.mp member with here | later
      · exact .inr ⟨piece, List.mem_cons_self, here⟩
      · rcases List.mem_cons.mp later with rfl | later
        · exact .inl rfl
        · rcases ih later with same | ⟨part, among, here⟩
          · exact .inl same
          · exact .inr ⟨part, List.mem_cons_of_mem _ among, here⟩

theorem splitAtFirst_of_not_mem (free : separator ∉ front) :
    splitAtFirst separator front = (front, none) := by
  induction front with
  | nil => rfl
  | cons c rest ih =>
      rw [List.mem_cons, not_or] at free
      obtain ⟨other, later⟩ := free
      rw [splitAtFirst, if_neg (Ne.symm other), ih later]

theorem splitAtFirst_append_cons (free : separator ∉ front) (back : List Char) :
    splitAtFirst separator (front ++ separator :: back) = (front, some back) := by
  induction front with
  | nil => rw [List.nil_append, splitAtFirst, if_pos rfl]
  | cons c rest ih =>
      rw [List.mem_cons, not_or] at free
      obtain ⟨other, later⟩ := free
      rw [List.cons_append, splitAtFirst, if_neg (Ne.symm other), ih later]

end Pieces

/-- Texts that are read back each for itself are read back together. -/
theorem mapM_map_eq_some {α β : Type} {write : α → β} {read? : β → Option α} {items : List α}
    (reads : ∀ item ∈ items, read? (write item) = some item) :
    (items.map write).mapM read? = some items := by
  induction items with
  | nil => rfl
  | cons item rest ih =>
      obtain ⟨first, others⟩ := List.forall_mem_cons.mp reads
      simp [first, ih others]

namespace Percent

/-!
### Escapes

Whatever characters are kept, as long as the percent sign is not one of them, the bytes of a text are read
back from its escapes.
-/

theorem hexValue?_hexDigit : ∀ n < 16, hexValue? (hexDigit n) = some n := by decide

theorem isAlphanumeric_hexDigit : ∀ n < 16, isAlphanumeric (hexDigit n) = true := by decide

theorem decodeBytes_escape (byte : UInt8) (rest : List Char) :
    decodeBytes (escape byte ++ rest) = byte :: decodeBytes rest := by
  have bound : byte.toNat < 256 := byte.toNat_lt
  have high : byte.toNat / 16 < 16 := by omega
  have low : byte.toNat % 16 < 16 := by omega
  have whole : 16 * (byte.toNat / 16) + byte.toNat % 16 = byte.toNat := Nat.div_add_mod _ 16
  simp only [escape, List.cons_append, List.nil_append, decodeBytes, hexValue?_hexDigit _ high,
    hexValue?_hexDigit _ low, whole, UInt8.ofNat_toNat]

theorem decodeBytes_escapes (bytes : List UInt8) (rest : List Char) :
    decodeBytes (bytes.flatMap escape ++ rest) = bytes ++ decodeBytes rest := by
  induction bytes with
  | nil => rfl
  | cons byte others ih =>
      rw [List.flatMap_cons, List.append_assoc, decodeBytes_escape, ih, List.cons_append]

theorem decodeBytes_cons_of_ne {c : Char} (other : c ≠ '%') (rest : List Char) :
    decodeBytes (c :: rest) = String.utf8EncodeChar c ++ decodeBytes rest := by
  rw [decodeBytes.eq_def]
  split
  next nothing => cases nothing
  next same =>
    obtain ⟨rfl, -⟩ := List.cons.inj same
    exact absurd rfl other
  next same =>
    obtain ⟨rfl, rfl⟩ := List.cons.inj same
    rfl

variable {kept : Char → Bool}

theorem decodeBytes_encode (escaped : kept '%' = false) (text rest : List Char) :
    decodeBytes (encode kept text ++ rest) = utf8Bytes text ++ decodeBytes rest := by
  induction text with
  | nil => rfl
  | cons c others ih =>
      rw [encode, List.flatMap_cons, List.append_assoc, ← encode, utf8Bytes, List.flatMap_cons,
        List.append_assoc, ← utf8Bytes]
      split
      next plain =>
        have other : c ≠ '%' := by
          rintro rfl
          rw [escaped] at plain
          cases plain
        rw [List.singleton_append, decodeBytes_cons_of_ne other, ih]
      next => rw [decodeBytes_escapes, ih]

/-- What is written with escapes is read back. -/
theorem decode?_encode (escaped : kept '%' = false) (text : List Char) :
    decode? (encode kept text) = some (String.ofList text) := by
  have bytes := decodeBytes_encode escaped text []
  rw [List.append_nil, decodeBytes, List.append_nil] at bytes
  rw [decode?, bytes, ofUtf8?_utf8Bytes]

/-- A text of kept characters is written as it is. -/
theorem encode_of_plain {text : List Char} (plain : ∀ c ∈ text, kept c = true) :
    encode kept text = text := by
  induction text with
  | nil => rfl
  | cons c rest ih =>
      obtain ⟨first, others⟩ := List.forall_mem_cons.mp plain
      rw [encode, List.flatMap_cons, if_pos first, ← encode, ih others, List.singleton_append]

theorem mem_escape {byte : UInt8} {c : Char} (member : c ∈ escape byte) :
    c = '%' ∨ isAlphanumeric c = true := by
  have bound : byte.toNat < 256 := byte.toNat_lt
  simp only [escape, List.mem_cons, List.not_mem_nil, or_false] at member
  rcases member with rfl | rfl | rfl
  · exact .inl rfl
  · exact .inr (isAlphanumeric_hexDigit _ (by omega))
  · exact .inr (isAlphanumeric_hexDigit _ (by omega))

/-- Beside the kept characters there are only those of escapes. -/
theorem mem_encode {text : List Char} {c : Char} (member : c ∈ encode kept text) :
    kept c = true ∨ c = '%' ∨ isAlphanumeric c = true := by
  obtain ⟨original, -, here⟩ := List.mem_flatMap.mp member
  split at here
  next plain =>
    rw [List.mem_singleton.mp here]
    exact .inl plain
  next =>
    obtain ⟨byte, -, within⟩ := List.mem_flatMap.mp here
    exact .inr (mem_escape within)

/-- A character that is neither kept nor part of an escape does not occur. -/
theorem not_mem_encode {c : Char} (escaped : kept c = false) (percent : c ≠ '%')
    (sign : isAlphanumeric c = false) (text : List Char) : c ∉ encode kept text := by
  intro member
  rcases mem_encode member with plain | same | alphanumeric
  · rw [escaped] at plain
    cases plain
  · exact percent same
  · rw [sign] at alphanumeric
    cases alphanumeric

end Percent

namespace Form

/-!
### Names and values

Reading turns each plus sign into a space before it looks at escapes.  A plus sign of the text itself is
always escaped, so this gives the text with escapes for everything else.
-/

theorem encodePart_eq (part : String) :
    (encodePart part).map (fun c => if c == '+' then ' ' else c) =
      Percent.encode (fun c => c == ' ' || isKept c) part.toList := by
  have unsigned {c : Char} (sign : c ≠ '+') : (if c == '+' then ' ' else c) = c :=
    if_neg (mt eq_of_beq sign)
  rw [encodePart, Percent.encode, List.map_flatMap]
  congr 1
  funext c
  by_cases space : c = ' '
  · subst space
    rfl
  · rw [if_neg (mt eq_of_beq space), beq_false_of_ne space, Bool.false_or]
    split
    next plain =>
      have sign : c ≠ '+' := by
        rintro rfl
        cases plain
      rw [List.map_singleton, unsigned sign]
    next =>
      refine (List.map_congr_left fun escaped member => ?_).trans (List.map_id _)
      obtain ⟨byte, -, within⟩ := List.mem_flatMap.mp member
      apply unsigned
      rintro rfl
      rcases Percent.mem_escape within with percent | alphanumeric
      · cases percent
      · cases alphanumeric

/-- A name or a value is read back, whatever characters are in it. -/
theorem decodePart?_encodePart (part : String) : decodePart? (encodePart part) = some part := by
  rw [decodePart?, encodePart_eq, Percent.decode?_encode rfl, String.ofList_toList]

theorem mem_encodePart {part : String} {c : Char} (member : c ∈ encodePart part) :
    c = '+' ∨ c = '%' ∨ isKept c = true := by
  obtain ⟨original, -, here⟩ := List.mem_flatMap.mp member
  split at here
  next => exact .inl (List.mem_singleton.mp here)
  next =>
    split at here
    next plain =>
      rw [List.mem_singleton.mp here]
      exact .inr (.inr plain)
    next =>
      obtain ⟨byte, -, within⟩ := List.mem_flatMap.mp here
      rcases Percent.mem_escape within with percent | alphanumeric
      · exact .inr (.inl percent)
      · simp [isKept, alphanumeric]

/-- What separates names, values and pairs occurs in none of them. -/
theorem not_mem_encodePart {separator : Char} (separates : separator = '&' ∨ separator = '=')
    (part : String) : separator ∉ encodePart part := by
  intro member
  have among := mem_encodePart member
  rcases separates with rfl | rfl
  · revert among
    decide
  · revert among
    decide

/-!
### Lists of pairs
-/

theorem decodePair_encodePair (pair : String × String) :
    decodePair (encodePair pair) = (some pair.1, some pair.2) := by
  rw [decodePair, encodePair, splitAtFirst_append_cons (not_mem_encodePart (.inr rfl) pair.1)]
  simp only [Option.getD_some, decodePart?_encodePart]

theorem not_mem_encodePair (pair : String × String) : '&' ∉ encodePair pair := by
  intro member
  rcases List.mem_append.mp member with name | value
  · exact not_mem_encodePart (.inl rfl) pair.1 name
  · rcases List.mem_cons.mp value with equals | value
    · cases equals
    · exact not_mem_encodePart (.inl rfl) pair.2 value

/-- A list of pairs is read back, in its order and with the exact texts. -/
theorem decode_encode (pairs : List (String × String)) :
    decode (encode pairs) = pairs.map fun pair => (some pair.1, some pair.2) := by
  have cut : (pieces '&' (encode pairs)).filter (fun piece => !piece.isEmpty) = pairs.map encodePair := by
    cases pairs with
    | nil => rfl
    | cons first rest =>
        have free : ∀ piece ∈ (first :: rest).map encodePair, '&' ∉ piece :=
          List.forall_mem_map.mpr fun pair _ => not_mem_encodePair pair
        rw [encode, pieces_joinPieces (by simp) free, List.filter_eq_self]
        exact List.forall_mem_map.mpr fun pair _ => by simp [encodePair]
  rw [decode, cut, List.map_map]
  exact List.map_congr_left fun pair _ => decodePair_encodePair pair

end Form

end DashletBoard.Text

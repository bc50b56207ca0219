/-
Module: DashletBoard.Proofs.JsonReading
Purpose: The reader of JSON understands all texts of every value.
Main exports: Json.toDraft, Json.isWhole_toDraft, Draft.readValue_spelled, Draft.parse_of_isWrittenAs,
  Draft.parseFront_of_isWrittenAs
-/
import DashletBoard.Json.Record
import DashletBoard.Proofs.JsonGrammar
import Mathlib.Data.List.DropRight

namespace DashletBoard

/-!
### Drafts of values
-/

namespace Json

mutual

/-- The draft of a value: what a reader finds in a text of it. -/
def toDraft : Json → Draft
  | .null => .null
  | .bool value => .bool value
  | .number n => .number n
  | .string s => .string s
  | .array items => .array (toDrafts items) true
  | .object members => .object (toNamedDrafts members) true

/-- The drafts of the items of an array. -/
def toDrafts : List Json → List Draft
  | [] => []
  | item :: rest => toDraft item :: toDrafts rest

/-- The drafts of the members of an object. -/
def toNamedDrafts : List (String × Json) → List (Option String × Draft)
  | [] => []
  | (name, value) :: rest => (some name, toDraft value) :: toNamedDrafts rest

end

mutual

/-- The draft of a value has no fault. -/
theorem isWhole_toDraft : ∀ value : Json, value.toDraft.isWhole
  | .null | .bool _ | .number _ | .string _ => rfl
  | .array items => by simp [toDraft, Draft.isWhole, areWhole_toDrafts items]
  | .object members => by simp [toDraft, Draft.isWhole, haveWhole_toNamedDrafts members]

theorem areWhole_toDrafts : ∀ items : List Json, Draft.areWhole (toDrafts items)
  | [] => rfl
  | item :: rest => by
      simp [toDrafts, Draft.areWhole, isWhole_toDraft item, areWhole_toDrafts rest]

theorem haveWhole_toNamedDrafts :
    ∀ members : List (String × Json), Draft.haveWhole (toNamedDrafts members)
  | [] => rfl
  | (_, value) :: rest => by
      simp [toNamedDrafts, Draft.haveWhole, isWhole_toDraft value, haveWhole_toNamedDrafts rest]

end

end Json

namespace Draft

open Json Numeral

variable {fuel : Nat} {text rest after final : List Char} {draft : Draft} {name : String}
  {label : List Char}

/-!
### Blanks
-/

theorem skipBlanks_append {blanks : List Char} (blank : IsBlank blanks) (text : List Char) :
    skipBlanks (blanks ++ text) = skipBlanks text := List.dropWhile_append_of_pos blank

theorem skipBlanks_cons {c : Char} (solid : isBlank c = false) (text : List Char) :
    skipBlanks (c :: text) = c :: text := by
  rw [skipBlanks, List.dropWhile_cons, if_neg (by simp [solid])]

theorem skipBlanks_skipBlanks (text : List Char) : skipBlanks (skipBlanks text) = skipBlanks text :=
  List.dropWhile_idempotent ..

theorem readValue_skipBlanks (fuel : Nat) (text : List Char) :
    readValue fuel (skipBlanks text) = readValue fuel text := by
  cases fuel with
  | zero => rfl
  | succ fuel => rw [readValue, readValue, skipBlanks_skipBlanks]

theorem readItems_skipBlanks (fuel : Nat) (text : List Char) :
    readItems fuel (skipBlanks text) = readItems fuel text := by
  cases fuel with
  | zero => rfl
  | succ fuel => rw [readItems, readItems, readValue_skipBlanks]

theorem readMembers_skipBlanks (fuel : Nat) (text : List Char) :
    readMembers fuel (skipBlanks text) = readMembers fuel text := by
  cases fuel with
  | zero => rfl
  | succ fuel => rw [readMembers, readMembers, skipBlanks_skipBlanks]

/-!
### Items and members

An item or member is read up to the sign behind it, which ends the array or object or asks for more.
-/

/-- No value begins with a bracket that closes. -/
theorem readValue_bracket (closes : skipBlanks text = ']' :: rest) :
    readValue fuel text = stop := by
  cases fuel with
  | zero => rfl
  | succ fuel =>
      rw [readValue, closes]
      rfl

theorem readItems_bracket (closes : skipBlanks text = ']' :: rest) :
    (readItems fuel text).2 = none := by
  cases fuel with
  | zero => rfl
  | succ fuel =>
      rw [readItems, readValue_bracket closes]
      rfl

theorem readMembers_brace (closes : skipBlanks text = '\x7d' :: rest) :
    (readMembers fuel text).2 = none := by
  cases fuel with
  | zero => rfl
  | succ fuel =>
      rw [readMembers, closes]
      rfl

theorem readItems_last (reads : readValue fuel text = (draft, some rest))
    (closes : skipBlanks rest = ']' :: after) :
    readItems (fuel + 1) text = ([draft], some after) := by
  simp only [readItems, reads, closes]

theorem readItems_more {drafts : List Draft} (reads : readValue fuel text = (draft, some rest))
    (continues : skipBlanks rest = ',' :: after)
    (others : readItems fuel after = (drafts, some final)) :
    readItems (fuel + 1) text = (draft :: drafts, some final) := by
  simp only [readItems, reads, continues, others]

/-- A name is read up to its colon. -/
theorem exists_readString (named : SpelledName name label)
    (text : List Char) :
    ∃ quoted rest, skipBlanks (label ++ text) = '"' :: quoted ∧
      readString quoted = some (some name, rest) ∧ skipBlanks rest = ':' :: text := by
  cases named with
  | @mk front label between before quoted after =>
      refine ⟨label ++ '"' :: (between ++ ':' :: text), between ++ ':' :: text, ?_, ?_, ?_⟩
      · rw [List.append_assoc, skipBlanks_append before, List.cons_append, skipBlanks_cons rfl]
        simp
      · rw [readString_spelled quoted, String.ofList_toList]
      · rw [skipBlanks_append after, skipBlanks_cons rfl]

theorem readMembers_last (named : SpelledName name label)
    (reads : readValue fuel text = (draft, some rest)) (closes : skipBlanks rest = '\x7d' :: after) :
    readMembers (fuel + 1) (label ++ text) = ([(some name, draft)], some after) := by
  obtain ⟨quoted, more, opens, label, colon⟩ := exists_readString named text
  simp only [readMembers, opens, label, colon, reads, closes]

theorem readMembers_more {members : List (Option String × Draft)} (named : SpelledName name label)
    (reads : readValue fuel text = (draft, some rest)) (continues : skipBlanks rest = ',' :: after)
    (others : readMembers fuel after = (members, some final)) :
    readMembers (fuel + 1) (label ++ text) = ((some name, draft) :: members, some final) := by
  obtain ⟨quoted, more, opens, label, colon⟩ := exists_readString named text
  simp only [readMembers, opens, label, colon, reads, continues, others]

/-!
### Values
-/

theorem readValue_array {drafts : List Draft} (reads : readItems fuel text = (drafts, some rest)) :
    readValue (fuel + 1) ('[' :: text) = (.array drafts true, some rest) := by
  have opens : skipBlanks ('[' :: text) = '[' :: text := skipBlanks_cons rfl text
  simp only [readValue, opens]
  split
  next closes =>
    have unread : (readItems fuel text).2 = none := readItems_bracket closes
    rw [reads] at unread
    cases unread
  next =>
    rw [readItems_skipBlanks, reads]
    rfl

theorem readValue_object {members : List (Option String × Draft)}
    (reads : readMembers fuel text = (members, some rest)) :
    readValue (fuel + 1) ('\x7b' :: text) = (.object members true, some rest) := by
  have opens : skipBlanks ('\x7b' :: text) = '\x7b' :: text := skipBlanks_cons rfl text
  simp only [readValue, opens]
  split
  next closes =>
    have unread : (readMembers fuel text).2 = none := readMembers_brace closes
    rw [reads] at unread
    cases unread
  next =>
    rw [readMembers_skipBlanks, reads]
    rfl

theorem readValue_string {s : String} (quoted : SpelledString s.toList text)
    (fuel : Nat) (rest : List Char) :
    readValue (fuel + 1) ('"' :: (text ++ '"' :: rest)) = (.string s, some rest) := by
  have opens := skipBlanks_cons (c := '"') rfl (text ++ '"' :: rest)
  simp only [readValue, opens, readString_spelled quoted, String.ofList_toList]

theorem readValue_emptyArray {blanks : List Char} (inside : IsBlank blanks) (fuel : Nat)
    (rest : List Char) :
    readValue (fuel + 1) ('[' :: (blanks ++ ']' :: rest)) = (.array [] true, some rest) := by
  have opens := skipBlanks_cons (c := '[') rfl (blanks ++ ']' :: rest)
  have closes := skipBlanks_cons (c := ']') rfl rest
  simp only [readValue, opens, skipBlanks_append inside, closes, Option.isSome_some]

theorem readValue_emptyObject {blanks : List Char} (inside : IsBlank blanks) (fuel : Nat)
    (rest : List Char) :
    readValue (fuel + 1) ('\x7b' :: (blanks ++ '\x7d' :: rest)) = (.object [] true, some rest) := by
  have opens := skipBlanks_cons (c := '\x7b') rfl (blanks ++ '\x7d' :: rest)
  have closes := skipBlanks_cons (c := '\x7d') rfl rest
  simp only [readValue, opens, skipBlanks_append inside, closes, Option.isSome_some]

/-- What begins like no other value is read as a number. -/
theorem readValue_other {c : Char} (solid : isBlank c = false)
    (other : c ∉ ['n', 't', 'f', '"', '[', '\x7b']) (fuel : Nat) (text : List Char) :
    readValue (fuel + 1) (c :: text) = readNumber (c :: text) := by
  rw [readValue, skipBlanks_cons solid]
  split <;> simp_all

theorem readValue_number {n : Numeral} (spelled : n.Spelled text) (ends : Ends rest) (fuel : Nat) :
    readValue (fuel + 1) (text ++ rest) = (.number n, some rest) := by
  have reads := readNumber_spelled spelled ends
  obtain ⟨c, others, rfl, start⟩ := exists_cons_of_spelled spelled
  have differs (d : Char) (other : d ≠ '-' ∧ d.isDigit = false) : c ≠ d := by
    rcases start with rfl | digit
    · exact other.1.symm
    · exact ne_of_isDigit digit other.2
  have solid : isBlank c = false := by
    simp [isBlank, differs ' ' (by decide), differs '\n' (by decide), differs '\t' (by decide),
      differs '\r' (by decide)]
  have other : c ∉ ['n', 't', 'f', '"', '[', '\x7b'] := by
    simp [differs 'n' (by decide), differs 't' (by decide), differs 'f' (by decide),
      differs '"' (by decide), differs '[' (by decide), differs '\x7b' (by decide)]
  rw [List.cons_append] at reads ⊢
  rw [readValue_other solid other, reads]

/-- No blank and no sign of the grammar continues a number. -/
theorem ends_cons {c : Char} (other : isBlank c ∨ c ∈ [',', ']', '\x7d']) (rest : List Char) :
    Ends (c :: rest) := by
  rintro d ⟨⟩
  rcases other with blank | sign
  · simp only [isBlank, Bool.or_eq_true, beq_iff_eq] at blank
    rcases blank with ((rfl | rfl) | rfl) | rfl <;> decide
  · simp only [List.mem_cons, List.not_mem_nil, or_false] at sign
    rcases sign with rfl | rfl | rfl <;> decide

theorem ends_of_isBlank {blanks : List Char} (blank : IsBlank blanks) : Ends blanks := by
  cases blanks with
  | nil => rintro d ⟨⟩
  | cons b rest => exact ends_cons (.inl (blank b List.mem_cons_self)) rest

/-- After a value there may be blanks and a sign. -/
theorem ends_blanks {blanks : List Char} (blank : IsBlank blanks) {c : Char}
    (sign : c ∈ [',', ']', '\x7d']) (rest : List Char) : Ends (blanks ++ c :: rest) := by
  cases blanks with
  | nil => exact ends_cons (.inr sign) rest
  | cons b others => exact ends_cons (.inl (blank b List.mem_cons_self)) (others ++ c :: rest)

theorem exists_fuel (enough : 2 * text.length ≤ fuel) (written : text ≠ []) :
    ∃ less, fuel = less + 1 := by
  have counted := List.length_pos_iff.mpr written
  exact ⟨fuel - 1, by omega⟩

/-!
### Whole derivations

The induction is on the derivation of the text.  An item or member leaves at least its sign behind, so half
of what the text needs of the fuel is left for each part of it.
-/

mutual

/-- Every way to write a value is read as this value, up to what follows it. -/
theorem readValue_spelled {value : Json} {text : List Char} (spelled : Spelled value text) {fuel : Nat}
    {rest : List Char} (enough : 2 * text.length ≤ fuel) (ends : Ends rest) :
    readValue fuel (text ++ rest) = (value.toDraft, some rest) := by
  cases spelled with
  | @blank c _ text skipped spelled =>
      have passes : skipBlanks (c :: (text ++ rest)) = skipBlanks (text ++ rest) :=
        List.dropWhile_cons_of_pos skipped
      rw [List.length_cons] at enough
      rw [List.cons_append, ← readValue_skipBlanks, passes, readValue_skipBlanks]
      exact readValue_spelled spelled (by omega) ends
  | null | true | false =>
      obtain ⟨fuel, rfl⟩ := exists_fuel enough (by simp)
      rfl
  | number spelled =>
      obtain ⟨c, others, rfl, -⟩ := exists_cons_of_spelled spelled
      obtain ⟨fuel, rfl⟩ := exists_fuel enough (by simp)
      exact readValue_number spelled ends fuel
  | string quoted =>
      obtain ⟨fuel, rfl⟩ := exists_fuel enough (by simp)
      rw [List.cons_append, List.append_assoc, List.singleton_append]
      exact readValue_string quoted fuel rest
  | emptyArray inside =>
      obtain ⟨fuel, rfl⟩ := exists_fuel enough (by simp)
      rw [List.cons_append, List.append_assoc, List.singleton_append]
      exact readValue_emptyArray inside fuel rest
  | array spelled =>
      obtain ⟨fuel, rfl⟩ := exists_fuel enough (by simp)
      rw [List.length_cons] at enough
      exact readValue_array (readItems_spelled spelled (by omega) rest)
  | emptyObject inside =>
      obtain ⟨fuel, rfl⟩ := exists_fuel enough (by simp)
      rw [List.cons_append, List.append_assoc, List.singleton_append]
      exact readValue_emptyObject inside fuel rest
  | object spelled =>
      obtain ⟨fuel, rfl⟩ := exists_fuel enough (by simp)
      rw [List.length_cons] at enough
      exact readValue_object (readMembers_spelled spelled (by omega) rest)

theorem readItems_spelled {items : List Json} {text : List Char} (spelled : SpelledItems items text)
    {fuel : Nat} (enough : 2 * text.length ≤ fuel) (rest : List Char) :
    readItems fuel (text ++ rest) = (toDrafts items, some rest) := by
  cases spelled with
  | last spelled after =>
      obtain ⟨fuel, rfl⟩ := exists_fuel enough (by simp)
      simp only [List.length_append, List.length_singleton] at enough
      rw [List.append_assoc, List.append_assoc, List.singleton_append]
      apply readItems_last (readValue_spelled spelled (by omega) (ends_blanks after (by simp) rest))
      rw [skipBlanks_append after, skipBlanks_cons rfl]
  | @more _ _ _ _ separated spelled after others =>
      obtain ⟨fuel, rfl⟩ := exists_fuel enough (by simp)
      simp only [List.length_append, List.length_cons] at enough
      rw [List.append_assoc, List.append_assoc, List.cons_append]
      have reads := readValue_spelled spelled (by omega : _ ≤ fuel)
        (ends_blanks after (c := ',') (by simp) (separated ++ rest))
      apply readItems_more reads ?_ (readItems_spelled others (by omega) rest)
      rw [skipBlanks_append after, skipBlanks_cons rfl]

theorem readMembers_spelled {members : List (String × Json)} {text : List Char}
    (spelled : SpelledMembers members text) {fuel : Nat} (enough : 2 * text.length ≤ fuel)
    (rest : List Char) :
    readMembers fuel (text ++ rest) = (toNamedDrafts members, some rest) := by
  cases spelled with
  | last named spelled after =>
      obtain ⟨fuel, rfl⟩ := exists_fuel enough (by simp)
      simp only [List.length_append, List.length_singleton] at enough
      rw [List.append_assoc, List.append_assoc, List.append_assoc, List.singleton_append]
      apply readMembers_last named
        (readValue_spelled spelled (by omega) (ends_blanks after (by simp) rest))
      rw [skipBlanks_append after, skipBlanks_cons rfl]
  | @more _ _ _ _ _ _ separated named spelled after others =>
      obtain ⟨fuel, rfl⟩ := exists_fuel enough (by simp)
      simp only [List.length_append, List.length_cons] at enough
      rw [List.append_assoc, List.append_assoc, List.append_assoc, List.cons_append]
      have reads := readValue_spelled spelled (by omega : _ ≤ fuel)
        (ends_blanks after (c := ',') (by simp) (separated ++ rest))
      apply readMembers_more named reads ?_ (readMembers_spelled others (by omega) rest)
      rw [skipBlanks_append after, skipBlanks_cons rfl]

end

/-- A text is a value with blanks around it. -/
theorem read_of_isWrittenAs {value : Json} {text : String} (written : value.IsWrittenAs text) :
    ∃ blanks, IsBlank blanks ∧ read text.toList = (value.toDraft, some blanks) := by
  obtain ⟨front, blanks, whole, spelled, after⟩ := written
  refine ⟨blanks, after, ?_⟩
  rw [read, whole]
  exact readValue_spelled spelled (by simp; omega) (ends_of_isBlank after)

theorem readWhole_of_isWrittenAs {value : Json} {text : String} (written : value.IsWrittenAs text) :
    readWhole text = (value.toDraft, true) := by
  obtain ⟨blanks, after, reads⟩ := read_of_isWrittenAs written
  have nothing : skipBlanks blanks = [] := by
    rw [← List.append_nil blanks, skipBlanks_append after]
    rfl
  simp [readWhole, reads, nothing]

/-- What a reader makes of the draft of a value, it makes of every text of the value. -/
theorem parse_of_isWrittenAs {α : Type} (reader : Draft → Except Fault α) {value : Json} {text : String}
    (written : value.IsWrittenAs text) : parse reader text = reader value.toDraft := by
  simp only [parse, readWhole_of_isWrittenAs written]

theorem parseFront_of_isWrittenAs {α : Type} (reader : Draft → Except Fault α) {value : Json}
    {text : String} (written : value.IsWrittenAs text) :
    parseFront reader text = reader value.toDraft := by
  obtain ⟨blanks, -, reads⟩ := read_of_isWrittenAs written
  rw [parseFront, reads]

end Draft

end DashletBoard

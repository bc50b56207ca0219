/-
Module: DashletBoard.Proofs.FirstOccurrences
Purpose: The first occurrence of a pattern in a text, and what replacing it does in a text of two parts.
Main exports: Text.dropInfix?_eq_none_iff, Text.not_infix_of_dropInfix?_eq_some,
  Text.replaceFirst_append_of_later, Text.replaceFirst_append_of_sooner, Text.replaceFirst_append_of_infix,
  Text.replaceFirst_of_dropInfix?_eq_none, Text.replaceFirst_of_dropInfix?_eq_some,
  Text.pair_infix_append_iff
-/
import DashletBoard.Text.Pieces
import Mathlib.Data.List.Infix

namespace DashletBoard.Text

variable {c d e : Char} {pattern rest others front back text before after : List Char}

/-!
### First occurrences

The library finds the first occurrence of a pattern with `List.dropInfix?`, which gives what stands before and
behind it.
-/

theorem dropInfix?_go_eq_none_iff {seen : List Char} :
    List.dropInfix?.go pattern text seen = none ↔ ¬ pattern <:+: text := by
  induction text generalizing seen with
  | nil =>
      rw [List.dropInfix?.go, List.infix_nil]
      cases pattern with
      | nil => simp
      | cons => simp
  | cons c text ih =>
      rw [List.dropInfix?.go, List.infix_cons_iff, not_or]
      cases found : (c :: text).dropPrefix? pattern with
      | none =>
          have elsewhere : ¬ pattern <+: c :: text := by
            rintro ⟨rest, whole⟩
            rw [← whole, List.dropPrefix?_append_of_beq rest (beq_self_eq_true pattern)] at found
            cases found
          simp only [ih, elsewhere, not_false_eq_true, true_and]
      | some rest =>
          obtain ⟨_, whole, equal⟩ := List.dropPrefix?_eq_some_iff.mp found
          obtain rfl := eq_of_beq equal
          have here := whole ▸ List.prefix_append _ rest
          simp only [here, not_true_eq_false, false_and, reduceCtorEq]

/-- A text has no first occurrence of a pattern exactly if it has no occurrence at all. -/
theorem dropInfix?_eq_none_iff : text.dropInfix? pattern = none ↔ ¬ pattern <:+: text :=
  dropInfix?_go_eq_none_iff

/-- What stands before the first occurrence has no occurrence, not even together with all but the last character
of the first one. -/
theorem not_infix_of_dropInfix?_eq_some
    (found : text.dropInfix? (c :: rest) = some (before, after)) :
    text = before ++ (c :: rest) ++ after ∧ ¬ c :: rest <:+: before ++ (c :: rest).take rest.length := by
  obtain ⟨⟨_, whole, equal⟩, least⟩ := List.dropInfix?_eq_some_iff.mp found
  obtain rfl := eq_of_beq equal
  refine ⟨whole, ?_⟩
  rintro ⟨sooner, between, occurs⟩
  have again : text = sooner ++ (c :: rest) ++ (between ++ (c :: rest).drop rest.length ++ after) := by
    rw [← List.append_assoc, ← List.append_assoc, occurs, List.append_assoc before,
      List.take_append_drop, whole]
  have far := least sooner _ _ again (beq_self_eq_true _)
  have lengths := congrArg List.length occurs
  simp only [List.length_append, List.length_take, List.length_cons] at lengths
  omega

/-!
### Replacing in a text of two parts
-/

/-- Whether a text begins with a pattern shows in as many characters as the pattern has. -/
theorem begins_iff :
    c :: rest <+: e :: front ++ back.take rest.length ↔ c :: rest <+: e :: front ++ back := by
  rw [← List.take_length_add_append, List.prefix_take_iff]
  refine and_iff_left ?_
  simp only [List.length_cons]
  omega

/-- A pattern that does not begin in the front part of a text is replaced in the rest of it. -/
theorem replaceFirst_append_of_later (replacement : List Char)
    (later : ¬ c :: rest <:+: front ++ back.take rest.length) :
    replaceFirst (c :: rest) replacement (front ++ back) =
      front ++ replaceFirst (c :: rest) replacement back := by
  induction front with
  | nil => rfl
  | cons e front ih =>
      rw [List.cons_append, List.infix_cons_iff, not_or, ← List.cons_append, begins_iff] at later
      have elsewhere := mt List.isPrefixOf_iff_prefix.mp later.1
      rw [List.cons_append] at elsewhere ⊢
      rw [replaceFirst, if_neg elsewhere, ih later.2, List.cons_append]

/-- A pattern that begins in the front part of a text is replaced there, which shows if the replacement begins
with another character. -/
theorem replaceFirst_append_of_sooner (other : d ≠ c)
    (sooner : c :: rest <:+: front ++ back.take rest.length) :
    replaceFirst (c :: rest) (d :: others) (front ++ back) ≠
      front ++ replaceFirst (c :: rest) (d :: others) back := by
  induction front with
  | nil =>
      have short := sooner.length_le
      simp only [List.nil_append, List.length_cons, List.length_take] at short
      omega
  | cons e front ih =>
      rw [List.cons_append, List.infix_cons_iff, ← List.cons_append, begins_iff] at sooner
      rw [List.cons_append, List.cons_append, replaceFirst]
      intro same
      split at same
      case isTrue here =>
        obtain ⟨between, whole⟩ := List.isPrefixOf_iff_prefix.mp here
        exact other ((List.cons.inj same).1.trans (List.cons.inj whole).1.symm)
      case isFalse elsewhere =>
        rcases sooner with here | sooner
        · exact elsewhere (List.isPrefixOf_iff_prefix.mpr here)
        · exact ih sooner (List.cons.inj same).2

/-- A text without the pattern stays as it is. -/
theorem replaceFirst_of_dropInfix?_eq_none (replacement : List Char)
    (absent : text.dropInfix? (c :: rest) = none) :
    replaceFirst (c :: rest) replacement text = text := by
  have later : ¬ c :: rest <:+: text ++ ([] : List Char).take rest.length := by
    rw [List.take_nil, List.append_nil]
    exact dropInfix?_eq_none_iff.mp absent
  have kept := replaceFirst_append_of_later replacement later
  rwa [List.append_nil, replaceFirst, List.isEmpty_cons, if_neg Bool.false_ne_true,
    List.append_nil] at kept

theorem replaceFirst_prefix (replacement : List Char) :
    replaceFirst (c :: rest) replacement (c :: rest ++ back) = replacement ++ back := by
  have here := List.isPrefixOf_iff_prefix.mpr (List.prefix_append (c :: rest) back)
  rw [List.cons_append] at here ⊢
  rw [replaceFirst, if_pos here, ← List.cons_append, List.drop_left]

/-- The first occurrence of the pattern is replaced. -/
theorem replaceFirst_of_dropInfix?_eq_some (replacement : List Char)
    (found : text.dropInfix? (c :: rest) = some (before, after)) :
    replaceFirst (c :: rest) replacement text = before ++ replacement ++ after := by
  obtain ⟨whole, first⟩ := not_infix_of_dropInfix?_eq_some found
  have part : (c :: rest ++ after).take rest.length = (c :: rest).take rest.length :=
    List.take_append_of_le_length (Nat.le_succ _)
  rw [← part] at first
  rw [whole, List.append_assoc, replaceFirst_append_of_later replacement first, replaceFirst_prefix,
    List.append_assoc]

/-- A pattern that occurs in the front part of a text is replaced there, and the rest stays as it is. -/
theorem replaceFirst_append_of_infix (replacement : List Char) (inside : c :: rest <:+: front) :
    replaceFirst (c :: rest) replacement (front ++ back) =
      replaceFirst (c :: rest) replacement front ++ back := by
  induction front with
  | nil => exact absurd (List.infix_nil.mp inside) (List.cons_ne_nil _ _)
  | cons e front ih =>
      have short := inside.length_le
      rw [List.cons_append, replaceFirst, replaceFirst]
      by_cases here : c :: rest <+: e :: front
      · have still : c :: rest <+: e :: (front ++ back) := here.trans (List.prefix_append _ _)
        rw [if_pos (List.isPrefixOf_iff_prefix.mpr still), if_pos (List.isPrefixOf_iff_prefix.mpr here),
          ← List.cons_append, List.drop_append_of_le_length short, List.append_assoc]
      · -- The pattern fits into the front part, so it does not begin here and end in the rest either.
        have elsewhere : ¬ c :: rest <+: e :: (front ++ back) := fun still =>
          here (List.prefix_of_prefix_length_le still (List.prefix_append (e :: front) back) short)
        have behind := (List.infix_cons_iff.mp inside).resolve_left here
        rw [if_neg (mt List.isPrefixOf_iff_prefix.mp elsewhere),
          if_neg (mt List.isPrefixOf_iff_prefix.mp here), ih behind, List.cons_append]

/-- A pattern that is replaced by itself stays. -/
theorem replaceFirst_self : replaceFirst (c :: rest) (c :: rest) text = text := by
  cases found : text.dropInfix? (c :: rest) with
  | none => exact replaceFirst_of_dropInfix?_eq_none _ found
  | some cut =>
      rcases cut with ⟨before, after⟩
      rw [replaceFirst_of_dropInfix?_eq_some _ found, (not_infix_of_dropInfix?_eq_some found).1]

theorem pair_prefix_iff : [c, d] <+: e :: back ↔ e = c ∧ back.head? = some d := by
  cases back with
  | nil => simp
  | cons f back => simp [List.cons_prefix_cons, eq_comm]

/-- Two characters stand next to each other in one of two texts, or they meet where the texts do. -/
theorem pair_infix_append_iff : [c, d] <:+: front ++ back ↔
    [c, d] <:+: front ∨ [c, d] <:+: back ∨ front.getLast? = some c ∧ back.head? = some d := by
  induction front with
  | nil => simp
  | cons e front ih =>
      rw [List.cons_append, List.infix_cons_iff, ih, List.infix_cons_iff, pair_prefix_iff,
        pair_prefix_iff]
      cases front with
      | nil =>
          simp only [List.nil_append, List.infix_nil, List.getLast?_nil, List.head?_nil,
            List.getLast?_singleton, Option.some.injEq, reduceCtorEq, false_and, and_false, or_false,
            false_or]
          exact or_comm
      | cons f front =>
          rw [List.getLast?_cons_cons, List.cons_append, List.head?_cons, List.head?_cons, or_assoc]

end DashletBoard.Text

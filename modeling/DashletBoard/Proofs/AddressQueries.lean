/-
Module: DashletBoard.Proofs.AddressQueries
Purpose: The queries of addresses: where the query begins in an address that is sent, and which addresses have
  none.
Main exports: Http.Address.beforeQuery, Http.Address.splitAtFirst_sent, Http.Address.not_mem_beforeQuery,
  Http.Address.query_parse?
-/
import DashletBoard.Http.Address
import DashletBoard.Proofs.EscapedTexts

namespace DashletBoard

namespace Text

variable {separator : Char} {text front : List Char} {back : Option (List Char)}

/-!
### Where addresses are cut
-/

/-- A cut adds no character. -/
theorem mem_of_splitAtFirst (cut : splitAtFirst separator text = (front, back)) :
    (∀ c ∈ front, c ∈ text) ∧ ∀ after, back = some after → ∀ c ∈ after, c ∈ text := by
  induction text generalizing front with
  | nil =>
      cases cut
      exact ⟨List.forall_mem_nil _, fun after none => nomatch none⟩
  | cons c rest ih =>
      rw [splitAtFirst] at cut
      split at cut
      next =>
        cases cut
        refine ⟨List.forall_mem_nil _, fun after same d member => ?_⟩
        cases same
        exact List.mem_cons_of_mem _ member
      next =>
        cases cut
        obtain ⟨before, behind⟩ := ih rfl
        refine ⟨List.forall_mem_cons.mpr ⟨List.mem_cons_self, fun d member => ?_⟩, ?_⟩
        · exact List.mem_cons_of_mem _ (before d member)
        · exact fun after same d member => List.mem_cons_of_mem _ (behind after same d member)

end Text

namespace Http.Address

open Text

variable {hosts : HostReader} {text : List Char} {address : Address}

/-- What is sent of an address before its query. -/
def beforeQuery (address : Address) : String :=
  address.scheme.name ++ "://" ++ String.ofList address.host ++ address.portText ++
    String.ofList address.path

theorem toList_sent (address : Address) :
    address.sent.toList = address.beforeQuery.toList ++ address.query.elim [] ('?' :: ·) := by
  simp only [sent, beforeQuery, String.toList_append, String.toList_ofList]
  cases address.query with
  | none => exact (List.append_assoc _ _ _).symm
  | some query => exact (List.append_assoc _ _ _).symm

/-- The query of an address is what follows its first question mark. -/
theorem splitAtFirst_sent (plain : '?' ∉ address.beforeQuery.toList) :
    splitAtFirst '?' address.sent.toList = (address.beforeQuery.toList, address.query) := by
  rw [toList_sent]
  cases address.query with
  | none => rw [Option.elim_none, List.append_nil, splitAtFirst_of_not_mem plain]
  | some query => exact splitAtFirst_append_cons plain query

/-!
### Question marks in addresses

A question mark in a path is escaped, and none can be in the name of a host.
-/

theorem mem_resolve {before segments : List (List Char)} {segment : List Char}
    (member : segment ∈ resolve before segments) :
    segment = [] ∨ segment ∈ before ∨ segment ∈ segments := by
  fun_induction resolve before segments with
  | case1 before => exact .inr (.inl (List.mem_reverse.mp member))
  | case2 before last two =>
      rw [List.mem_reverse, List.mem_cons] at member
      exact member.imp_right fun earlier => .inl (List.mem_of_mem_tail earlier)
  | case3 before last =>
      rw [List.mem_reverse, List.mem_cons] at member
      exact member.imp_right .inl
  | case4 before last =>
      rw [List.mem_reverse, List.mem_cons] at member
      rcases member with rfl | earlier
      · exact .inr (.inr (List.mem_singleton_self _))
      · exact .inr (.inl earlier)
  | case5 before next rest _ two ih =>
      rcases ih member with empty | earlier | later
      · exact .inl empty
      · exact .inr (.inl (List.mem_of_mem_tail earlier))
      · exact .inr (.inr (List.mem_cons_of_mem _ later))
  | case6 before next rest _ _ one ih =>
      rcases ih member with empty | earlier | later
      · exact .inl empty
      · exact .inr (.inl earlier)
      · exact .inr (.inr (List.mem_cons_of_mem _ later))
  | case7 before next rest _ _ _ ih =>
      rcases ih member with empty | earlier | later
      · exact .inl empty
      · rcases List.mem_cons.mp earlier with rfl | earlier
        · exact .inr (.inr List.mem_cons_self)
        · exact .inr (.inl earlier)
      · exact .inr (.inr (List.mem_cons_of_mem _ later))

theorem not_mem_normalPath (path : List Char) : '?' ∉ normalPath path := by
  intro member
  rcases List.mem_cons.mp member with slash | member
  · cases slash
  · rcases mem_joinPieces member with slash | ⟨segment, among, here⟩
    · cases slash
    · rcases mem_resolve among with rfl | none | among
      · cases here
      · cases none
      · obtain ⟨piece, -, rfl⟩ := List.mem_map.mp among
        exact Percent.not_mem_encode rfl (by decide) rfl piece here

theorem not_mem_read? {hosts : HostReader} {name host : List Char} (read : hosts.read? name = some host) :
    '?' ∉ host := by
  intro member
  exact nomatch hosts.isHostChar_of_read? read '?' member

theorem not_mem_portText (address : Address) : '?' ∉ address.portText.toList := by
  rw [portText]
  split
  · exact List.not_mem_nil
  · intro member
    rw [String.toList_append] at member
    rcases List.mem_append.mp member with colon | digit
    · revert colon
      decide
    · have digits : toString address.port = String.ofList (Nat.toDigits 10 address.port) := rfl
      rw [digits, String.toList_ofList] at digit
      have decimal : '?'.isDigit = true :=
        Nat.isDigit_of_mem_toDigits (by decide) (by decide) digit
      cases decimal

/-- What an address is made of. -/
theorem parts_of_parse? (parsed : parse? hosts text = some address) :
    ∃ scheme rest target server, afterScheme? (withoutBlanks text) = some (scheme, rest) ∧
      hosts.read? server = some address.host ∧ (∀ c ∈ target, c ∈ rest) ∧
      address.path = normalPath (splitAtFirst '?' target).1 ∧
      address.query = (splitAtFirst '?' target).2.map (Percent.encode keptInQuery) := by
  rw [parse?] at parsed
  split at parsed
  next => cases parsed
  next scheme rest schemed =>
    dsimp only at parsed
    split at parsed
    next named _ =>
      obtain rfl := Option.some.inj parsed
      refine ⟨scheme, rest, _, _, schemed, named, fun c member => ?_, rfl, rfl⟩
      have behind := (mem_of_splitAtFirst rfl).1 c member
      exact (List.dropWhile_sublist _).subset ((List.dropWhile_sublist _).subset behind)
    next => cases parsed

/-- Before the query of an address there is no question mark. -/
theorem not_mem_beforeQuery (parsed : parse? hosts text = some address) :
    '?' ∉ address.beforeQuery.toList := by
  obtain ⟨_, _, _, _, -, named, -, path, -⟩ := parts_of_parse? parsed
  have scheme : '?' ∉ address.scheme.name.toList := by
    cases address.scheme <;> decide
  simp only [beforeQuery, String.toList_append, String.toList_ofList, List.mem_append, not_or, path]
  exact ⟨⟨⟨⟨scheme, by decide⟩, not_mem_read? named⟩, not_mem_portText address⟩, not_mem_normalPath _⟩

theorem mem_of_mem_withoutBlanks {c : Char} (member : c ∈ withoutBlanks text) : c ∈ text := by
  have inner := (List.mem_filter.mp member).1
  have front := (List.dropWhile_sublist _).subset (List.mem_reverse.mp inner)
  exact (List.dropWhile_sublist _).subset (List.mem_reverse.mp front)

theorem mem_of_afterScheme? {c : Char} {scheme : Scheme} {rest : List Char}
    (schemed : afterScheme? text = some (scheme, rest)) (member : c ∈ rest) : c ∈ text := by
  rw [afterScheme?] at schemed
  split at schemed
  next name after cut =>
    obtain ⟨known, -, same⟩ := Option.map_eq_some_iff.mp schemed
    obtain ⟨-, rfl⟩ := Prod.mk.inj same
    exact (mem_of_splitAtFirst cut).2 after rfl c member
  next => cases schemed

/-- A text without a question mark is an address without a query. -/
theorem query_parse? (unmarked : '?' ∉ text) (parsed : parse? hosts text = some address) :
    address.query = none := by
  obtain ⟨_, rest, target, _, schemed, -, within, -, query⟩ := parts_of_parse? parsed
  have plain : '?' ∉ target := fun member =>
    unmarked (mem_of_mem_withoutBlanks (mem_of_afterScheme? schemed (within _ member)))
  rw [query, splitAtFirst_of_not_mem plain, Option.map_none]

end Http.Address

end DashletBoard

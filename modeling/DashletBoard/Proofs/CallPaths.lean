/-
Module: DashletBoard.Proofs.CallPaths
Purpose: The paths of calls: each of them leads to its own call, with exactly the parameters that were written
  into it.
Main exports: Service.Call.filled, Service.Call.segments?_path, Service.Call.IsAddressable,
  Service.Call.find?_path, Service.Call.call?_path, Service.Call.path_of_target_append,
  Service.Call.asked_of_path
-/
import DashletBoard.Proofs.EscapedTexts
import DashletBoard.Proofs.JsonSpelling
import DashletBoard.Proofs.ServiceRequests
import Mathlib.Data.List.TakeWhile

namespace DashletBoard.Service

open Http Text

/-!
### Segments

In no segment of a path is a character that ends a segment, a path or a target: the words of patterns have
none, and in parameters they are escaped.
-/

/-- A character that ends a segment, a path or a target. -/
def separates (c : Char) : Bool := c == '/' || c == '?' || c == '#'

/-- A segment of a pattern whose word, if it is one, is a single segment of a path. -/
def Segment.isPlain : Segment → Bool
  | .word text => text.toList.all fun c => !separates c
  | .parameter => true

theorem eq_of_separates {c : Char} (ends : separates c = true) : c = '/' ∨ c = '?' ∨ c = '#' := by
  simpa [separates, or_assoc] using ends

theorem Endpoint.isPlain_pattern (endpoint : Endpoint) : endpoint.pattern.all Segment.isPlain = true := by
  cases endpoint <;> rfl

theorem Endpoint.mem_all (endpoint : Endpoint) : endpoint ∈ all := by
  cases endpoint <;> decide

theorem Endpoint.pattern_ne_nil (endpoint : Endpoint) : endpoint.pattern ≠ [] := by
  cases endpoint <;> decide

theorem Endpoint.method_ne_head (endpoint : Endpoint) : endpoint.method ≠ "HEAD" := by
  cases endpoint <;> decide

theorem Endpoint.allows_method (endpoint : Endpoint) : endpoint.allows endpoint.method = true := by
  rw [allows, beq_self_eq_true, Bool.true_or]

namespace Call

variable {pattern : List Segment} {parameters : List String} {call : Call} {c : Char}

/-- A parameter as it is sent. -/
def sentParameter (parameter : String) : List Char :=
  Percent.encode Percent.isUnreserved parameter.toList

/-- The segments of a pattern into which parameters are filled. -/
def filled : List Segment → List String → List (List Char)
  | [], _ => []
  | .word text :: others, parameters => text.toList :: filled others parameters
  | .parameter :: others, [] => [] :: filled others []
  | .parameter :: others, parameter :: rest => sentParameter parameter :: filled others rest

theorem filled_ne_nil (nonempty : pattern ≠ []) (parameters : List String) :
    filled pattern parameters ≠ [] := by
  fun_cases filled pattern parameters with
  | case1 => exact absurd rfl nonempty
  | _ => exact List.cons_ne_nil _ _

theorem append_fillIn (pattern : List Segment) (parameters : List String) (first : List Char) :
    first ++ fillIn pattern parameters = joinPieces '/' (first :: filled pattern parameters) := by
  fun_induction fillIn pattern parameters generalizing first with
  | case1 => exact List.append_nil first
  | case2 parameters text others ih => rw [filled, joinPieces, ← ih, List.cons_append]
  | case3 others ih => rw [filled, joinPieces, ← ih, List.nil_append]
  | case4 others parameter rest ih => rw [filled, joinPieces, ← ih, List.cons_append, sentParameter]

/-- A path has a slash before each of its segments. -/
theorem fillIn_eq (nonempty : pattern ≠ []) (parameters : List String) :
    fillIn pattern parameters = '/' :: joinPieces '/' (filled pattern parameters) := by
  have whole := append_fillIn pattern parameters []
  rw [List.nil_append, joinPieces_nil_cons _ (filled_ne_nil nonempty parameters)] at whole
  exact whole

theorem not_mem_sentParameter (ends : separates c = true) (parameter : String) :
    c ∉ sentParameter parameter := by
  rcases eq_of_separates ends with rfl | rfl | rfl
  · exact Percent.not_mem_encode rfl (by decide) rfl _
  · exact Percent.not_mem_encode rfl (by decide) rfl _
  · exact Percent.not_mem_encode rfl (by decide) rfl _

theorem not_mem_filled (ends : separates c = true) (plain : pattern.all Segment.isPlain = true)
    (parameters : List String) : ∀ segment ∈ filled pattern parameters, c ∉ segment := by
  fun_induction filled pattern parameters with
  | case1 => exact List.forall_mem_nil _
  | case2 parameters text others ih =>
      rw [List.all_cons, Bool.and_eq_true] at plain
      refine List.forall_mem_cons.mpr ⟨fun member => ?_, ih plain.2⟩
      have inside := List.all_eq_true.mp plain.1 c member
      rw [ends] at inside
      cases inside
  | case3 others ih => exact List.forall_mem_cons.mpr ⟨List.not_mem_nil, ih plain⟩
  | case4 others parameter rest ih =>
      exact List.forall_mem_cons.mpr ⟨not_mem_sentParameter ends parameter, ih plain⟩

/-- The segments of a path are those of its pattern. -/
theorem segments?_path (call : Call) :
    Endpoint.segments? call.path = some (filled call.endpoint.pattern call.parameters) := by
  have free := not_mem_filled (c := '/') rfl call.endpoint.isPlain_pattern call.parameters
  have nonempty := call.endpoint.pattern_ne_nil
  rw [path, fillIn_eq nonempty, Endpoint.segments?, pieces_joinPieces (filled_ne_nil nonempty _) free]

/-!
### Reading a path

No two patterns fit one path, so it does not matter in which order the endpoints are tried.
-/

/-- Parameters fill a pattern: there is one for each place, and the one at the end, if any, is not empty. -/
def Fills : List Segment → List String → Prop
  | [], [] => True
  | .word _ :: others, parameters => Fills others parameters
  | .parameter :: others, parameter :: rest => (parameter = "" → others ≠ []) ∧ Fills others rest
  | _, _ => False

/-- Two patterns differ in a word or in their lengths. -/
def clash : List Segment → List Segment → Bool
  | [], [] => false
  | .word first :: rest, .word second :: others => first != second || clash rest others
  | _ :: rest, _ :: others => clash rest others
  | _, _ => true

theorem decode?_sentParameter (parameter : String) :
    Percent.decode? (sentParameter parameter) = some parameter := by
  rw [sentParameter, Percent.decode?_encode rfl, String.ofList_toList]

theorem sentParameter_eq_nil_iff {parameter : String} : sentParameter parameter = [] ↔ parameter = "" := by
  constructor
  · intro empty
    have reads := decode?_sentParameter parameter
    rw [empty] at reads
    exact Option.some.inj (reads.symm.trans (by decide))
  · rintro rfl
    rfl

theorem fit?_filled (fills : Fills pattern parameters) :
    Endpoint.fit? pattern (filled pattern parameters) = some (parameters.map sentParameter) := by
  fun_induction Fills pattern parameters with
  | case1 => rfl
  | case2 parameters text others ih => rw [filled, Endpoint.fit?, if_pos rfl, ih fills]
  | case3 others parameter rest ih =>
      have last : ((sentParameter parameter).isEmpty && others.isEmpty) = false := by
        rw [Bool.and_eq_false_iff, List.isEmpty_eq_false_iff, List.isEmpty_eq_false_iff]
        by_cases empty : parameter = ""
        · exact .inr (fills.1 empty)
        · exact .inl (mt sentParameter_eq_nil_iff.mp empty)
      rw [filled, Endpoint.fit?, last, ih fills.2]
      rfl
  | case4 => cases fills

theorem exists_filled_cons (segment : Segment) (rest : List Segment) (parameters : List String) :
    ∃ first remaining, filled (segment :: rest) parameters = first :: filled rest remaining := by
  cases segment with
  | word text => exact ⟨text.toList, parameters, rfl⟩
  | parameter =>
      cases parameters with
      | nil => exact ⟨[], [], rfl⟩
      | cons parameter others => exact ⟨sentParameter parameter, others, rfl⟩

theorem fit?_cons_eq_none {others : List Segment} {behind : List (List Char)}
    (unfit : Endpoint.fit? others behind = none) (segment : Segment) (first : List Char) :
    Endpoint.fit? (segment :: others) (first :: behind) = none := by
  cases segment with
  | word text =>
      rw [Endpoint.fit?, unfit]
      exact ite_self none
  | parameter =>
      rw [Endpoint.fit?, unfit]
      exact ite_self none

/-- What is filled into a pattern does not fit another one that clashes with it. -/
theorem fit?_of_clash {other : List Segment} (clashes : clash pattern other = true)
    (parameters : List String) : Endpoint.fit? other (filled pattern parameters) = none := by
  fun_induction clash pattern other generalizing parameters with
  | case1 => cases clashes
  | case2 first rest second others ih =>
      rw [filled]
      rcases Bool.or_eq_true_iff.mp clashes with distinct | later
      · have apart : first.toList ≠ second.toList := mt String.toList_inj.mp (bne_iff_ne.mp distinct)
        rw [Endpoint.fit?, if_neg apart]
      · exact fit?_cons_eq_none (ih later parameters) _ _
  | case3 segment rest other others _ ih =>
      obtain ⟨first, remaining, fills⟩ := exists_filled_cons segment rest parameters
      rw [fills]
      exact fit?_cons_eq_none (ih clashes remaining) _ _
  | case4 pattern other unequal _ shorter =>
      cases pattern with
      | nil =>
          cases other with
          | nil => exact absurd rfl (unequal rfl)
          | cons segment others => cases segment <;> rfl
      | cons segment rest =>
          cases other with
          | nil =>
              obtain ⟨first, remaining, fills⟩ := exists_filled_cons segment rest parameters
              rw [fills]
              rfl
          | cons segment others => exact (shorter _ _ _ _ rfl rfl).elim

theorem clash_pattern (first second : Endpoint) (distinct : first ≠ second) :
    clash first.pattern second.pattern = true := by
  revert distinct
  cases first <;> cases second <;> decide

/-- A parameter at the end of a path must not be empty. -/
def IsAddressable : Call → Prop
  | .showTab text | .overview text => text ≠ ""
  | _ => True

theorem toList_toString (n : Nat) : (toString n).toList = Nat.toDigits 10 n := String.toList_ofList

theorem toString_ne_empty (n : Nat) : toString n ≠ "" := by
  intro empty
  have digits := toList_toString n
  rw [empty] at digits
  exact Nat.toDigits_ne_nil digits.symm

theorem IsAddressable.fills (addressable : call.IsAddressable) :
    Fills call.endpoint.pattern call.parameters := by
  cases call with
  | showTab text | overview text => exact ⟨fun empty => absurd empty addressable, trivial⟩
  | selectTab | enterEdit | cancelEdit | save | updateForm | addWidget =>
      exact ⟨fun _ => List.cons_ne_nil _ _, trivial⟩
  | removeWidget tab position =>
      exact ⟨fun _ => List.cons_ne_nil _ _, fun _ => List.cons_ne_nil _ _,
        fun empty => absurd empty (toString_ne_empty _), trivial⟩
  | moveWidget | setShown =>
      exact ⟨fun _ => List.cons_ne_nil _ _, fun _ => List.cons_ne_nil _ _,
        fun _ => List.cons_ne_nil _ _, trivial⟩
  | health | listTabs => trivial

theorem findSome?_eq_of_unique {α β : Type} {f : α → Option β} {candidates : List α} {a : α} {b : β}
    (member : a ∈ candidates) (here : f a = some b) (elsewhere : ∀ other, a ≠ other → f other = none) :
    candidates.findSome? f = some b := by
  induction candidates with
  | nil => cases member
  | cons first rest ih =>
      rw [List.findSome?_cons]
      by_cases same : a = first
      · rw [← same, here]
      · rw [elsewhere first same]
        exact ih ((List.mem_cons.mp member).resolve_left same)

/-- The path of a call leads to the call's own endpoint. -/
theorem find?_path (addressable : call.IsAddressable) :
    Endpoint.find? call.path = some (call.endpoint, call.parameters.map sentParameter) := by
  rw [Endpoint.find?, segments?_path]
  refine findSome?_eq_of_unique call.endpoint.mem_all ?_ fun other distinct => ?_
  · rw [fit?_filled addressable.fills, Option.map_some]
  · rw [fit?_of_clash (clash_pattern _ _ distinct), Option.map_none]

/-- A word is read back from the digits that it is written with. -/
theorem word?_toString (n : UInt32) : Text.word? (toString n.toNat).toList = some n := by
  have unsigned (rest : List Char) : Nat.toDigits 10 n.toNat ≠ '+' :: rest := by
    intro same
    have digit : '+'.isDigit = true :=
      (Numeral.isDigits_toDigits n.toNat).decimal '+' (same ▸ List.mem_cons_self)
    cases digit
  rw [toList_toString, Text.word?, Numeral.natural?_toDigits]
  · simp only [if_pos n.toNat_lt, UInt32.ofNat_toNat]
  · exact unsigned

theorem ofTexts?_parameters (call : Call) : call.endpoint.ofTexts? call.parameters = some call := by
  cases call with
  | removeWidget tab position | moveWidget tab position | setShown tab position =>
      simp only [endpoint, parameters, Endpoint.ofTexts?, Endpoint.position?, word?_toString]
      rfl
  | _ => rfl

/-- The parameters of a path are read back. -/
theorem call?_path (call : Call) :
    call.endpoint.call? (call.parameters.map sentParameter) = some call := by
  rw [Endpoint.call?, mapM_map_eq_some fun parameter _ => decode?_sentParameter parameter]
  exact ofTexts?_parameters call

/-!
### Requests for a path
-/

theorem not_mem_path (ends : separates c = true) (other : c ≠ '/') (call : Call) : c ∉ call.path := by
  rw [path, fillIn_eq call.endpoint.pattern_ne_nil]
  intro member
  rcases List.mem_cons.mp member with slash | member
  · exact other slash
  · rcases mem_joinPieces member with slash | ⟨segment, among, here⟩
    · exact other slash
    · exact not_mem_filled ends call.endpoint.isPlain_pattern call.parameters segment among here

theorem ne_of_mem_path (ends : separates c = true) (other : c ≠ '/') (call : Call) :
    ∀ d ∈ call.path, (d != c) = true := fun _ member =>
  bne_iff_ne.mpr fun same => not_mem_path ends other call (same ▸ member)

/-- A target that begins with a path is no absolute address. -/
theorem localTarget_of_target {request : Request} {behind : List Char}
    (target : request.target = String.ofList (call.path ++ behind)) :
    request.localTarget = call.path ++ behind := by
  rw [Request.localTarget, target, String.toList_ofList, path, fillIn_eq call.endpoint.pattern_ne_nil]
  rfl

/-- What is behind a path and begins with a question mark or a number sign is no part of it. -/
theorem path_of_target_append {request : Request} {behind : List Char}
    (target : request.target = String.ofList (call.path ++ behind))
    (ends : ∀ c ∈ behind.head?, c = '?' ∨ c = '#') : request.path = call.path := by
  rw [Request.path, Request.plainTarget, localTarget_of_target target,
    List.takeWhile_append_of_pos (ne_of_mem_path rfl (by decide) call),
    List.takeWhile_append_of_pos (ne_of_mem_path rfl (by decide) call)]
  cases behind with
  | nil => exact List.append_nil _
  | cons c rest => rcases ends c rfl with rfl | rfl <;> exact List.append_nil _

/-- A target that is the path of a call has this path and no query. -/
theorem path_of_target {request : Request} (target : request.target = String.ofList call.path) :
    request.path = call.path ∧ request.query = [] := by
  rw [← List.append_nil call.path] at target
  refine ⟨path_of_target_append target (fun _ first => nomatch first), ?_⟩
  have plainTarget : request.plainTarget = call.path := by
    rw [Request.plainTarget, localTarget_of_target target, List.append_nil, List.takeWhile_eq_self_iff]
    exact ne_of_mem_path rfl (by decide) call
  rw [Request.query, plainTarget, List.dropWhile_eq_nil_iff.mpr (ne_of_mem_path rfl (by decide) call),
    List.drop_nil]

/-- A request with the path of a call asks for this call. -/
theorem asked_of_path_eq (addressable : call.IsAddressable) {request : Request}
    (path : request.path = call.path) (allowed : call.endpoint.allows request.method = true) :
    Service.asked request = call.asked request := by
  rw [Service.asked, path, find?_path addressable]
  simp only [allowed, if_true, call?_path]

theorem asked_of_path (addressable : call.IsAddressable) {request : Request}
    (target : request.target = String.ofList call.path)
    (allowed : call.endpoint.allows request.method = true) : Service.asked request = call.asked request :=
  asked_of_path_eq addressable (path_of_target target).1 allowed

end Call

end DashletBoard.Service

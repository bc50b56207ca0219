/-
Module: DashletBoard.Proofs.SeparateParts
Purpose: Requests to separate parts of one state: whatever the order among the parts, each part is as if
  only its own requests had been made.
Main exports: addressedTo, answerAt?, answerAll?_addressedTo, SeparateParts, SeparateParts.answers_own,
  SeparateParts.ends_of_own, SeparateParts.alone, SeparateParts.ends_iff
-/
import DashletBoard.Proofs.Sequences

namespace DashletBoard

section Addresses

variable {κ β : Type} [DecidableEq κ] {part other : κ}

/-- Of things that have an address, those at one address, in their order. -/
def addressedTo (part : κ) (things : List (κ × β)) : List (κ × β) :=
  things.filter fun thing => thing.1 = part

theorem addressedTo_cons_of_eq {thing : κ × β} (here : thing.1 = part) (rest : List (κ × β)) :
    addressedTo part (thing :: rest) = thing :: addressedTo part rest :=
  List.filter_cons_of_pos (decide_eq_true here)

theorem addressedTo_cons_of_ne {thing : κ × β} (elsewhere : thing.1 ≠ part) (rest : List (κ × β)) :
    addressedTo part (thing :: rest) = addressedTo part rest :=
  List.filter_cons_of_neg (by simpa using elsewhere)

theorem addressedTo_eq_self {things : List (κ × β)} (here : ∀ thing ∈ things, thing.1 = part) :
    addressedTo part things = things :=
  List.filter_eq_self.mpr fun thing member => decide_eq_true (here thing member)

theorem address_of_mem {thing : κ × β} {things : List (κ × β)}
    (member : thing ∈ addressedTo part things) : thing.1 = part :=
  of_decide_eq_true (List.mem_filter.mp member).2

@[simp] theorem addressedTo_addressedTo_self (things : List (κ × β)) :
    addressedTo part (addressedTo part things) = addressedTo part things :=
  addressedTo_eq_self fun _ member => address_of_mem member

theorem addressedTo_addressedTo_of_ne (distinct : other ≠ part) (things : List (κ × β)) :
    addressedTo other (addressedTo part things) = [] := by
  apply List.filter_eq_nil_iff.mpr
  intro thing member
  rw [address_of_mem member]
  simpa using distinct.symm

/-!
### Requests that leave no trace
-/

variable {α ι ω : Type} {answer? : α → ι → Option (ω × α)}

/-- Answers a request that has an address, with the address beside the answer. -/
def answerAt? (answer? : α → ι → Option (ω × α)) (state : α) (request : κ × ι) :
    Option ((κ × ω) × α) :=
  (answer? state request.2).map fun (response, next) => ((request.1, response), next)

/-- If all requests from elsewhere come to an end and leave the state as it is, those from one address are
answered as if there were no others. -/
theorem answerAll?_addressedTo {requests : List (κ × ι)} (state : α)
    (quiet : ∀ request ∈ requests, request.1 ≠ part → ∀ state,
      ∃ response, answer? state request.2 = some (response, state)) :
    (answerAll? (answerAt? answer?) state requests).map (Prod.map (addressedTo part) id) =
      answerAll? (answerAt? answer?) state (addressedTo part requests) := by
  induction requests generalizing state with
  | nil => rfl
  | cons request rest ih =>
      have restQuiet := fun request member => quiet request (List.mem_cons_of_mem _ member)
      by_cases here : request.1 = part
      · rw [addressedTo_cons_of_eq here, answerAll?, answerAll?, answerAt?]
        cases answer? state request.2 with
        | none => rfl
        | some answered =>
            rcases answered with ⟨response, next⟩
            have address : (request.1, response).1 = part := here
            simp only [Option.map_some, Option.bind_some, ← ih next restQuiet, Option.map_map]
            congr 1
            funext others
            exact Prod.ext (addressedTo_cons_of_eq address _) rfl
      · obtain ⟨response, answered⟩ := quiet request List.mem_cons_self here state
        have address : (request.1, response).1 ≠ part := here
        rw [addressedTo_cons_of_ne here, ← ih state restQuiet, answerAll?, answerAt?, answered]
        simp only [Option.map_some, Option.bind_some, Option.map_map]
        congr 1
        funext others
        exact Prod.ext (addressedTo_cons_of_ne address _) rfl

end Addresses

/-!
### Separate parts

A part of a state is again a state, in which everything else is left out.  Parts are separate if an answer
for one part depends on this part only and changes no other part.
-/

section Parts

variable {α κ ι ω : Type}

/-- Answers to requests, each of them addressed to a part, in which the parts are separate.  The function
`only` leaves out what is not of a part, and the states that occur are those that are `kept`. -/
structure SeparateParts (answer? : α → κ × ι → Option ((κ × ω) × α)) (only : κ → α → α)
    (kept : α → Prop) : Prop where
  keeps : ∀ {state request response next}, kept state →
    answer? state request = some (response, next) → kept next
  addressed : ∀ {state request response next},
    answer? state request = some (response, next) → response.1 = request.1
  own : ∀ {state} request, kept state →
    (answer? state request).map (Prod.map id (only request.1)) =
      answer? (only request.1 state) request
  others : ∀ {state request response next part}, kept state →
    answer? state request = some (response, next) → part ≠ request.1 →
    only part next = only part state

namespace SeparateParts

variable {answer? : α → κ × ι → Option ((κ × ω) × α)} {only : κ → α → α} {kept : α → Prop}
  {state last : α} {requests : List (κ × ι)} {responses : List (κ × ω)}
variable (separate : SeparateParts answer? only kept)
include separate

theorem own_answered {request : κ × ι} {response : κ × ω} {next : α} (start : kept state)
    (answered : answer? state request = some (response, next)) :
    answer? (only request.1 state) request = some (response, only request.1 next) := by
  rw [← separate.own request start, answered]
  rfl

/-- An answer that a part gives by itself is the answer that it gives among the others. -/
theorem answered_of_own {request : κ × ι} {response : κ × ω} {alone : α} (start : kept state)
    (answered : answer? (only request.1 state) request = some (response, alone)) :
    ∃ next, answer? state request = some (response, next) ∧ only request.1 next = alone := by
  rw [← separate.own request start, Option.map_eq_some_iff] at answered
  obtain ⟨⟨_, next⟩, whole, same⟩ := answered
  obtain ⟨rfl, rfl⟩ := Prod.mk.inj same
  exact ⟨next, whole, rfl⟩

theorem addresses (answered : answerAll? answer? state requests = some (responses, last)) :
    responses.map Prod.fst = requests.map Prod.fst := by
  induction requests generalizing state responses with
  | nil =>
      obtain ⟨rfl, -⟩ := Prod.mk.inj (Option.some.inj answered)
      rfl
  | cons request rest ih =>
      obtain ⟨response, next, others, first, restAnswered, rfl⟩ :=
        answerAll?_cons_eq_some.mp answered
      rw [List.map_cons, List.map_cons, separate.addressed first, ih restAnswered]

variable [DecidableEq κ]

/-- What a sequence of requests to all parts does in one of them, the requests to this part do by
themselves. -/
theorem answers_own (start : kept state)
    (answered : answerAll? answer? state requests = some (responses, last)) (part : κ) :
    answerAll? answer? (only part state) (addressedTo part requests) =
      some (addressedTo part responses, only part last) := by
  induction requests generalizing state responses with
  | nil =>
      obtain ⟨rfl, rfl⟩ := Prod.mk.inj (Option.some.inj answered)
      rfl
  | cons request rest ih =>
      obtain ⟨response, next, others, first, restAnswered, rfl⟩ :=
        answerAll?_cons_eq_some.mp answered
      have restOwn := ih (separate.keeps start first) restAnswered
      have address := separate.addressed first
      by_cases here : request.1 = part
      · subst here
        rw [addressedTo_cons_of_eq rfl, addressedTo_cons_of_eq address]
        exact answerAll?_cons_eq_some.mpr
          ⟨response, _, _, separate.own_answered start first, restOwn, rfl⟩
      · have elsewhere : response.1 ≠ part := by
          rw [address]
          exact here
        rw [addressedTo_cons_of_ne here, addressedTo_cons_of_ne elsewhere,
          ← separate.others start first (Ne.symm here)]
        exact restOwn

/-- If the requests to each part come to an end by themselves, they do so in any order. -/
theorem ends_of_own (start : kept state)
    (ends : ∀ part, (answerAll? answer? (only part state) (addressedTo part requests)).isSome) :
    (answerAll? answer? state requests).isSome := by
  induction requests generalizing state with
  | nil => rfl
  | cons request rest ih =>
      have here := ends request.1
      rw [addressedTo_cons_of_eq rfl, Option.isSome_iff_exists] at here
      obtain ⟨⟨responses, last⟩, answered⟩ := here
      obtain ⟨response, alone, others, first, restAnswered, -⟩ :=
        answerAll?_cons_eq_some.mp answered
      obtain ⟨next, whole, rfl⟩ := separate.answered_of_own start first
      have restEnds : (answerAll? answer? next rest).isSome := by
        apply ih (separate.keeps start whole)
        intro part
        by_cases same : part = request.1
        · rw [same, restAnswered]
          rfl
        · rw [separate.others start whole same, ← addressedTo_cons_of_ne (Ne.symm same)]
          exact ends part
      obtain ⟨⟨others, last⟩, restAnswered⟩ := Option.isSome_iff_exists.mp restEnds
      rw [answerAll?_cons_eq_some.mpr ⟨response, next, others, whole, restAnswered, rfl⟩]
      rfl

/-- In any order among the parts, the requests to one part get the answers that they get without the
requests to all other parts, and they leave the part in the same state. -/
theorem alone (start : kept state)
    (answered : answerAll? answer? state requests = some (responses, last)) (part : κ) :
    ∃ lastAlone,
      answerAll? answer? state (addressedTo part requests) =
        some (addressedTo part responses, lastAlone) ∧
      only part lastAlone = only part last := by
  have own := separate.answers_own start answered part
  have ends : (answerAll? answer? state (addressedTo part requests)).isSome := by
    apply separate.ends_of_own start
    intro other
    by_cases same : other = part
    · rw [same, addressedTo_addressedTo_self, own]
      rfl
    · rw [addressedTo_addressedTo_of_ne same]
      rfl
  obtain ⟨⟨aloneResponses, lastAlone⟩, answeredAlone⟩ := Option.isSome_iff_exists.mp ends
  have ownAlone := separate.answers_own start answeredAlone part
  rw [addressedTo_addressedTo_self, own] at ownAlone
  obtain ⟨responsesSame, lastSame⟩ := Prod.mk.inj (Option.some.inj ownAlone)
  have here : ∀ response ∈ aloneResponses, response.1 = part := by
    intro response member
    have address : response.1 ∈ (addressedTo part requests).map Prod.fst :=
      separate.addresses answeredAlone ▸ List.mem_map_of_mem member
    obtain ⟨request, asked, same⟩ := List.mem_map.mp address
    rw [← same]
    exact address_of_mem asked
  rw [addressedTo_eq_self here] at responsesSame
  rw [responsesSame]
  exact ⟨lastAlone, answeredAlone, lastSame.symm⟩

/-- Requests in any order among the parts come to an end exactly if those to each part do. -/
theorem ends_iff (start : kept state) :
    (answerAll? answer? state requests).isSome ↔
      ∀ part, (answerAll? answer? state (addressedTo part requests)).isSome := by
  constructor
  · intro ends part
    obtain ⟨⟨responses, last⟩, answered⟩ := Option.isSome_iff_exists.mp ends
    obtain ⟨lastAlone, answeredAlone, -⟩ := separate.alone start answered part
    rw [answeredAlone]
    rfl
  · intro ends
    apply separate.ends_of_own start
    intro part
    obtain ⟨⟨responses, last⟩, answered⟩ := Option.isSome_iff_exists.mp (ends part)
    have own := separate.answers_own start answered part
    rw [addressedTo_addressedTo_self] at own
    rw [own]
    rfl

end SeparateParts

end Parts

end DashletBoard

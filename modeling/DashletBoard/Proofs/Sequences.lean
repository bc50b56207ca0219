/-
Module: DashletBoard.Proofs.Sequences
Purpose: Sequences of requests to something that has a state, and what a whole sequence keeps.
Main exports: answerAll?, answerAll?_keeps_among, answerAll?_keeps, answerAll?_keeps_history,
  answerAll?_agrees, answerAll?_detailed, answerAll?_simulates
-/
import Mathlib.Data.List.Forall2

namespace DashletBoard

section Sequences

variable {α β ι ω : Type}

/-- Answers requests one after the other, each in the state that the one before it left behind.  None
as soon as one of them has no end. -/
def answerAll? (answer? : α → ι → Option (ω × α)) : α → List ι → Option (List ω × α)
  | state, [] => some ([], state)
  | state, request :: rest =>
      (answer? state request).bind fun first =>
        (answerAll? answer? first.2 rest).map fun others => (first.1 :: others.1, others.2)

variable {answer? : α → ι → Option (ω × α)}

theorem answerAll?_cons_eq_some {state last : α} {request : ι} {rest : List ι}
    {responses : List ω} :
    answerAll? answer? state (request :: rest) = some (responses, last) ↔
      ∃ response next others, answer? state request = some (response, next) ∧
        answerAll? answer? next rest = some (others, last) ∧ responses = response :: others := by
  simp only [answerAll?, Option.bind_eq_some_iff, Option.map_eq_some_iff, Prod.mk.injEq]
  constructor
  · rintro ⟨⟨response, next⟩, answered, ⟨others, _⟩, restAnswered, rfl, rfl⟩
    exact ⟨response, next, others, answered, restAnswered, rfl⟩
  · intro parts
    rcases parts with ⟨response, next, others, answered, restAnswered, rfl⟩
    exact ⟨(response, next), answered, (others, last), restAnswered, rfl, rfl⟩

/-- What every single answer to requests of some kind keeps, a sequence of such requests keeps. -/
theorem answerAll?_keeps_among (kept : α → Prop) {among : ι → Prop}
    (step : ∀ {state request response next}, among request → kept state →
      answer? state request = some (response, next) → kept next)
    {state last : α} {requests : List ι} {responses : List ω}
    (all : ∀ request ∈ requests, among request) (start : kept state)
    (answered : answerAll? answer? state requests = some (responses, last)) : kept last := by
  induction requests generalizing state responses with
  | nil =>
      obtain ⟨rfl, rfl⟩ := Prod.mk.inj (Option.some.inj answered)
      exact start
  | cons request rest ih =>
      obtain ⟨response, next, others, first, restAnswered, rfl⟩ :=
        answerAll?_cons_eq_some.mp answered
      obtain ⟨here, later⟩ := List.forall_mem_cons.mp all
      exact ih later (step here start first) restAnswered

/-- What every single answer keeps, a sequence keeps. -/
theorem answerAll?_keeps (kept : α → Prop)
    (step : ∀ {state request response next}, kept state →
      answer? state request = some (response, next) → kept next)
    {state last : α} {requests : List ι} {responses : List ω} (start : kept state)
    (answered : answerAll? answer? state requests = some (responses, last)) : kept last :=
  answerAll?_keeps_among kept (fun (_ : True) => step) (fun _ _ => trivial) start answered

/-- What every single answer keeps between the state and all responses so far, a sequence keeps. -/
theorem answerAll?_keeps_history (kept : List ω → α → Prop)
    (step : ∀ {past state request response next}, kept past state →
      answer? state request = some (response, next) → kept (past ++ [response]) next)
    (past : List ω) {state last : α} {requests : List ι} {responses : List ω}
    (start : kept past state)
    (answered : answerAll? answer? state requests = some (responses, last)) :
    kept (past ++ responses) last := by
  induction requests generalizing past state responses with
  | nil =>
      obtain ⟨rfl, rfl⟩ := Prod.mk.inj (Option.some.inj answered)
      rw [List.append_nil]
      exact start
  | cons request rest ih =>
      obtain ⟨response, next, others, first, restAnswered, rfl⟩ :=
        answerAll?_cons_eq_some.mp answered
      have whole : past ++ response :: others = past ++ [response] ++ others := by
        rw [List.append_assoc, List.singleton_append]
      rw [whole]
      exact ih _ (step start first) restAnswered

/-- A system that tells more about each answer, but answers the same, goes through a sequence in the same
way. -/
theorem answerAll?_detailed {δ : Type} {detailed? : α → ι → Option (δ × α)} (request : δ → ι)
    (response : δ → ω)
    (tells : ∀ {state asked detail next}, detailed? state asked = some (detail, next) →
      request detail = asked)
    (same : ∀ state asked, (detailed? state asked).map (Prod.map response id) = answer? state asked)
    {state last : α} {requests : List ι} {responses : List ω}
    (answered : answerAll? answer? state requests = some (responses, last)) :
    ∃ details, answerAll? detailed? state requests = some (details, last) ∧
      details.map request = requests ∧ details.map response = responses := by
  induction requests generalizing state responses with
  | nil =>
      obtain ⟨rfl, rfl⟩ := Prod.mk.inj (Option.some.inj answered)
      exact ⟨[], rfl, rfl, rfl⟩
  | cons asked rest ih =>
      obtain ⟨_, next, others, first, restAnswered, rfl⟩ := answerAll?_cons_eq_some.mp answered
      rw [← same, Option.map_eq_some_iff] at first
      obtain ⟨⟨detail, middle⟩, told, equal⟩ := first
      obtain ⟨rfl, rfl⟩ := Prod.mk.inj equal
      obtain ⟨details, restTold, requests, responses⟩ := ih restAnswered
      refine ⟨detail :: details, ?_, ?_, ?_⟩
      · exact answerAll?_cons_eq_some.mpr ⟨detail, _, details, told, restTold, rfl⟩
      · rw [List.map_cons, tells told, requests]
      · rw [List.map_cons, responses]

/-- Two systems that give the same answer to every single request, as far as one of them can be seen
through a view of the other, give the same answers to every sequence. -/
theorem answerAll?_agrees {other? : β → ι → Option (ω × β)} (view : α → β) {kept : α → Prop}
    (step : ∀ {state request response next}, kept state →
      answer? state request = some (response, next) → kept next)
    (same : ∀ {state} request, kept state →
      (answer? state request).map (Prod.map id view) = other? (view state) request)
    {state : α} (requests : List ι) (start : kept state) :
    (answerAll? answer? state requests).map (Prod.map id view) =
      answerAll? other? (view state) requests := by
  induction requests generalizing state with
  | nil => rfl
  | cons request rest ih =>
      rw [answerAll?, answerAll?, ← same request start]
      cases answered : answer? state request with
      | none => rfl
      | some first =>
          rcases first with ⟨response, next⟩
          simp only [Option.map_some, Option.bind_some, Prod.map_apply, id_eq,
            ← ih (step start answered), Option.map_map]
          rfl

/-- If two systems, whenever their states are related and they are asked matching things, both come to an
end or none of them, with matching responses and related states, then they do so for sequences. -/
theorem answerAll?_simulates {κ δ : Type} {other? : β → κ → Option (δ × β)} {related : α → β → Prop}
    {asks : ι → κ → Prop} {tells : ω → δ → Prop}
    (step : ∀ {state other request question}, related state other → asks request question →
      Option.Rel (fun answered told => tells answered.1 told.1 ∧ related answered.2 told.2)
        (answer? state request) (other? other question))
    {state : α} {other : β} {requests : List ι} {questions : List κ} (start : related state other)
    (all : List.Forall₂ asks requests questions) :
    Option.Rel
      (fun answered told => List.Forall₂ tells answered.1 told.1 ∧ related answered.2 told.2)
      (answerAll? answer? state requests) (answerAll? other? other questions) := by
  induction all generalizing state other with
  | nil => exact .some ⟨.nil, start⟩
  | cons asked _ ih =>
      have first := step start asked
      rw [answerAll?, answerAll?]
      generalize answer? state _ = answered at first ⊢
      generalize other? other _ = told at first ⊢
      cases first with
      | none => exact .none
      | some matching =>
          have rest := ih matching.2
          rw [Option.bind_some, Option.bind_some]
          generalize answerAll? answer? _ _ = answered at rest ⊢
          generalize answerAll? other? _ _ = told at rest ⊢
          cases rest with
          | none => exact .none
          | some others => exact .some ⟨.cons matching.1 others.1, others.2⟩

end Sequences

end DashletBoard

/-
Module: DashletBoard.Proofs.TransparentRequests
Purpose: Requests that are safe or refused leave no trace: all other requests are answered as if they had
  not been made.
Main exports: Service.Harmless, Service.Harmless.leaves_no_trace,
  Service.harmless_requests_leave_no_trace
-/
import DashletBoard.Proofs.ServiceRequests

namespace DashletBoard

open Http

namespace Service

section Transparent

variable {σ κ : Type} [DecidableEq κ] {backend overview : Backend σ} {request : Request}

/-- A request that is made with GET or HEAD, or that is refused for its path, its method, its parameters,
its query or its body. -/
def Harmless (request : Request) : Prop :=
  request.method = "GET" ∨ request.method = "HEAD" ∨ ∃ status, RefusedFor request status

/-- Whatever the state of the service, a harmless request is answered and leaves it as it is. -/
theorem Harmless.leaves_no_trace (harmless : Harmless request)
    (quiet : ∀ name world, (overview.load name world).2 = world) (place : Service × σ) :
    ∃ exchange, exchange? backend overview place request = some (exchange, place) := by
  apply exchange?_of_reads _ quiet
  rcases harmless with get | head | ⟨status, refused⟩
  · exact reads_of_safe (.inl get)
  · exact reads_of_safe (.inr head)
  · rw [asked_eq_refused_iff.mpr refused]
    rfl

/-- Many senders make requests of the service, in any order, over a build server that loads do not change.
If all senders but one only make harmless requests, this one gets the responses, and causes the calls to
the build server, that it would without the others, and the service and the world are left as they would
be.  Requests that are refused are answered by a bare status, and no calls are made for them, whatever the
state of the service. -/
theorem harmless_requests_leave_no_trace (backend overview : Backend σ) (sender : κ)
    {requests : List (κ × Request)}
    (quiet : ∀ name world, (overview.load name world).2 = world)
    (harmless : ∀ request ∈ requests, request.1 ≠ sender → Harmless request.2)
    (place : Service × σ) :
    (answerAll? (answerAt? (exchange? backend overview)) place requests).map
        (Prod.map (addressedTo sender) id) =
      answerAll? (answerAt? (exchange? backend overview)) place (addressedTo sender requests) ∧
    ∀ request status, RefusedFor request status → status ∈ [400, 404, 405, 415, 422] ∧
      ∀ place, exchange? backend overview place request = some (⟨.bare status, []⟩, place) := by
  constructor
  · apply answerAll?_addressedTo
    intro request member other place
    exact (harmless request member other).leaves_no_trace quiet place
  · intro request status refused
    exact ⟨refused.status_mem, fun _ => exchange?_refused (asked_eq_refused_iff.mpr refused)⟩

end Transparent

/-- A page edits a tab, while a probe asks for an overview, sends a form that is no JSON, and deletes what
cannot be deleted. -/
def probed : List (String × Request) :=
  [("page", { method := "POST", target := "/tabs/t1/edit" }),
    ("probe", { method := "GET", target := "/overview/t1" }),
    ("probe", { method := "PUT", target := "/tabs/t9/form", body := "cpu" }),
    ("page", { method := "POST", target := "/tabs/t1/widgets" }),
    ("probe", { method := "DELETE", target := "/tabs/t1" })]

/-- The page is answered as if it were alone. -/
theorem harmless_requests_leave_no_trace_probed :
    ∃ place exchanges last,
      initialize? Tables.rejecting.backend {} ["t1"] none Memory.crowded.records = some place ∧
        answerAll? (answerAt? (exchange? Tables.rejecting.backend Tables.rejecting.backend)) place
          probed = some (exchanges, last) ∧
        answerAll? (answerAt? (exchange? Tables.rejecting.backend Tables.rejecting.backend)) place
            [("page", { method := "POST", target := "/tabs/t1/edit" }),
              ("page", { method := "POST", target := "/tabs/t1/widgets" })] =
          some (addressedTo "page" exchanges, last) := by
  have observed : ((initialize? Tables.rejecting.backend {} ["t1"] none Memory.crowded.records).bind
      fun place =>
        (answerAll? (answerAt? (exchange? Tables.rejecting.backend Tables.rejecting.backend)) place
          probed).map fun _ => ()) = some () := by rfl
  obtain ⟨place, started, observed⟩ := Option.bind_eq_some_iff.mp observed
  obtain ⟨⟨exchanges, last⟩, mixed, -⟩ := Option.map_eq_some_iff.mp observed
  have harmless : ∀ request ∈ probed, request.1 ≠ "page" → Harmless request.2 := by
    intro request member other
    simp only [probed, List.mem_cons, List.not_mem_nil, or_false] at member
    rcases member with rfl | rfl | rfl | rfl | rfl
    · exact absurd rfl other
    · exact .inl rfl
    · exact .inr (.inr ⟨415, asked_eq_refused_iff.mp (by rfl)⟩)
    · exact absurd rfl other
    · exact .inr (.inr ⟨405, asked_eq_refused_iff.mp (by rfl)⟩)
  have alone := (harmless_requests_leave_no_trace Tables.rejecting.backend Tables.rejecting.backend
    "page" (fun _ _ => rfl) harmless place).1
  rw [mixed] at alone
  exact ⟨place, exchanges, last, started, mixed, alone.symm⟩

end Service

end DashletBoard

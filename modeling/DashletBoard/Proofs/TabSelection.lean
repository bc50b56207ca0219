/-
Module: DashletBoard.Proofs.TabSelection
Purpose: What requests that select tabs make of the navigator.  The active tab follows those that are
  accepted, and the scroll offset all that can be read.
Main exports: lastOf, Service.Selects, Service.chosen?, Service.sentOffset?, Navigator.selectAll,
  Service.select_eq, Service.answerAll?_selections, Service.accepted, Service.report?,
  Service.selections_are_as_accepted_iff, Service.refused_selection_moves_the_page
-/
import DashletBoard.Proofs.JsonSpelling
import DashletBoard.Proofs.ServiceRequests

namespace DashletBoard

open Http

/-!
### Values that are overwritten
-/

/-- The last of the values that are written one after the other, and the one before them if there are
none. -/
def lastOf {α : Type} (start : α) (values : List α) : α := values.getLast?.getD start

theorem lastOf_cons {α : Type} (start value : α) (rest : List α) :
    lastOf start (value :: rest) = lastOf value rest := by
  rw [lastOf, List.getLast?_cons, Option.getD_some, lastOf]

/-- What writes nothing can be left out. -/
theorem lastOf_filterMap_cons {α ι : Type} (writes : ι → Option α) (start : α) (first : ι)
    (rest : List ι) : lastOf start ((first :: rest).filterMap writes) =
      lastOf ((writes first).getD start) (rest.filterMap writes) := by
  rw [List.filterMap_cons]
  cases writes first with
  | none => rfl
  | some value => exact lastOf_cons start value _

namespace Service

/-!
### Selections
-/

/-- A request to select a tab, of which the parameter and the query may still be refused. -/
structure Selects (request : Request) : Prop where
  method : request.method = "POST"
  path : ∃ sent, Endpoint.find? request.path = some (.selectTab, sent)

/-- The index of the tab that a request selects, if there is such a tab. -/
def chosen? (tabs : List String) (request : Request) : Option Nat :=
  match asked request with
  | .select tab _ => Navigator.index? tabs tab
  | _ => none

/-- The scroll offset that a request to select a tab sends, if it sends one that can be read. -/
def sentOffset? (request : Request) : Option UInt32 :=
  match asked request with
  | .select _ scrollTop => scrollTop
  | _ => none

theorem Selects.asked_eq {request : Request} (selects : Selects request) :
    (∃ tab scrollTop, asked request = .select tab scrollTop) ∨
      ∃ status, asked request = .refused status := by
  obtain ⟨sent, found⟩ := selects.path
  have allowed : Endpoint.selectTab.allows request.method = true := by
    rw [selects.method]
    rfl
  simp only [asked, found, allowed, if_true]
  cases decoded : Endpoint.selectTab.call? sent with
  | none => exact .inr ⟨400, rfl⟩
  | some call =>
      have kind := endpoint_of_call? decoded
      cases call with
      | selectTab tab =>
          simp only [Call.asked]
          cases scrollTop? request.query with
          | ok scrollTop => exact .inl ⟨tab, scrollTop, rfl⟩
          | error status => exact .inr ⟨status, rfl⟩
      | _ => cases kind

end Service

namespace Navigator

variable {navigator : Navigator}

/-- The navigator after requests to select tabs. -/
def selectAll (navigator : Navigator) (requests : List Request) : Navigator where
  tabs := navigator.tabs
  activeIndex := lastOf navigator.activeIndex (requests.filterMap (Service.chosen? navigator.tabs))
  scrollTop := lastOf navigator.scrollTop (requests.filterMap Service.sentOffset?)

theorem selectAll_singleton (request : Request) :
    navigator.selectAll [request] =
      { navigator with
        activeIndex := (Service.chosen? navigator.tabs request).getD navigator.activeIndex
        scrollTop := (Service.sentOffset? request).getD navigator.scrollTop } := by
  simp only [selectAll, lastOf_filterMap_cons]
  rfl

theorem selectAll_cons (request : Request) (rest : List Request) :
    navigator.selectAll (request :: rest) = (navigator.selectAll [request]).selectAll rest := by
  simp only [selectAll, lastOf_filterMap_cons]
  rfl

end Navigator

namespace Service

section Selections

variable {σ : Type} (backend overview : Backend σ)

/-- The scroll offset is set first, and it stays set if there is no such tab. -/
theorem select_eq (service : Service) (tab : String) (scrollTop : Option UInt32) :
    service.select tab scrollTop =
      let navigator : Navigator :=
        { service.navigator with
          activeIndex := (Navigator.index? service.navigator.tabs tab).getD
            service.navigator.activeIndex
          scrollTop := scrollTop.getD service.navigator.scrollTop }
      (if (Navigator.index? service.navigator.tabs tab).isSome then .ok navigator.toJson
        else errorResponse (.unknownTab tab), { service with navigator }) := by
  cases known : Navigator.index? service.navigator.tabs tab with
  | none =>
      cases scrollTop with
      | none => simp [select, Navigator.select, known]
      | some offset => simp [select, Navigator.select, Navigator.rememberScroll, known]
  | some index =>
      cases scrollTop with
      | none => simp [select, Navigator.select, known]
      | some offset => simp [select, Navigator.select, Navigator.rememberScroll, known]

theorem status_select (service : Service) (tab : String) (scrollTop : Option UInt32) :
    (service.select tab scrollTop).1.status = 200 ↔
      (Navigator.index? service.navigator.tabs tab).isSome := by
  rw [select_eq]
  dsimp only
  split
  next known => simp [Response.ok, known]
  next unknown => simp [errorResponse, Response.error, LayoutError.status, unknown]

/-- How an exchange answers a request to select one of some tabs: without a call, and with 200 exactly if
there is a tab to be chosen. -/
structure Selected (tabs : List String) (request : Request) (exchange : Exchange) : Prop where
  quiet : exchange.calls = []
  accepted_iff : exchange.response.status = 200 ↔ (chosen? tabs request).isSome

/-- A request to select a tab always gets its answer, and changes the navigator alone. -/
theorem Selects.exchange?_eq {request : Request} (selects : Selects request) (service : Service)
    (world : σ) :
    ∃ exchange, exchange? backend overview (service, world) request =
        some (exchange, { service with navigator := service.navigator.selectAll [request] }, world) ∧
      Selected service.navigator.tabs request exchange := by
  rw [Navigator.selectAll_singleton]
  rcases selects.asked_eq with ⟨tab, scrollTop, asks⟩ | ⟨status, refused⟩
  · have whole : request.method ≠ "HEAD" := by
      rw [selects.method]
      decide
    have chosen : chosen? service.navigator.tabs request =
        Navigator.index? service.navigator.tabs tab := by rw [chosen?, asks]
    have sent : sentOffset? request = scrollTop := by rw [sentOffset?, asks]
    refine ⟨⟨(service.select tab scrollTop).1, []⟩, ?_, rfl, ?_⟩
    · rw [exchange?_of_whole whole, asks, chosen, sent, replyTo?, select_eq]
      rfl
    · rw [chosen]
      exact status_select service tab scrollTop
  · have chosen : chosen? service.navigator.tabs request = none := by rw [chosen?, refused]
    have sent : sentOffset? request = none := by rw [sentOffset?, refused]
    refine ⟨⟨.bare status, []⟩, ?_, rfl, ?_⟩
    · rw [exchange?_refused refused, chosen, sent]
      rfl
    · have among := (asked_eq_refused_iff.mp refused).status_mem
      simp only [List.mem_cons, List.not_mem_nil, or_false] at among
      rw [chosen, Response.bare]
      simp only [Option.isSome_none, Bool.false_eq_true, iff_false]
      omega

/-- Requests to select tabs always get their answers.  The induction is on the requests, with the navigator
that is left after the first one. -/
theorem answerAll?_selections {requests : List Request}
    (all : ∀ request ∈ requests, Selects request) (service : Service) (world : σ) :
    ∃ exchanges, answerAll? (exchange? backend overview) (service, world) requests =
        some (exchanges, { service with navigator := service.navigator.selectAll requests }, world) ∧
      List.Forall₂ (Selected service.navigator.tabs) requests exchanges := by
  induction requests generalizing service with
  | nil => exact ⟨[], rfl, .nil⟩
  | cons request rest ih =>
      obtain ⟨exchange, first, selected⟩ :=
        (all request List.mem_cons_self).exchange?_eq backend overview service world
      obtain ⟨others, restAnswered, restSelected⟩ :=
        ih (fun later member => all later (List.mem_cons_of_mem _ member))
          { service with navigator := service.navigator.selectAll [request] }
      refine ⟨exchange :: others, ?_, .cons selected restSelected⟩
      rw [Navigator.selectAll_cons]
      exact answerAll?_cons_eq_some.mpr ⟨exchange, _, others, first, restAnswered, rfl⟩

/-!
### Accepted requests
-/

/-- The requests that were answered with 200. -/
def accepted (requests : List Request) (exchanges : List Exchange) : List Request :=
  (requests.zip exchanges).filterMap fun (request, exchange) =>
    if exchange.response.status = 200 then some request else none

theorem accepted_eq_filter {tabs : List String} {requests : List Request} {exchanges : List Exchange}
    (selected : List.Forall₂ (Selected tabs) requests exchanges) :
    accepted requests exchanges = requests.filter fun request => (chosen? tabs request).isSome := by
  induction selected with
  | nil => rfl
  | @cons request exchange _ _ first _ ih =>
      rw [accepted] at ih
      simp only [accepted, List.zip_cons_cons, List.filterMap_cons, List.filter_cons, ih,
        ← first.accepted_iff]
      by_cases taken : exchange.response.status = 200
      · simp [taken]
      · simp [taken]

theorem calls_of_selected {tabs : List String} {requests : List Request} {exchanges : List Exchange}
    (selected : List.Forall₂ (Selected tabs) requests exchanges) :
    ∀ exchange ∈ exchanges, exchange.calls = [] := by
  induction selected with
  | nil => exact List.forall_mem_nil _
  | cons first _ ih => exact List.forall_mem_cons.mpr ⟨first.quiet, ih⟩

/-- The accepted requests choose the same tabs as all requests. -/
theorem filterMap_chosen?_filter (tabs : List String) (requests : List Request) :
    (requests.filter fun request => (chosen? tabs request).isSome).filterMap (chosen? tabs) =
      requests.filterMap (chosen? tabs) := by
  rw [List.filterMap_filter]
  congr 1
  funext request
  cases chosen? tabs request with
  | none => rfl
  | some index => rfl

end Selections

end Service

/-!
### The report of the navigator
-/

theorem Json.word_injective : Function.Injective Json.word := by
  intro first second same
  have numerals := congrArg Numeral.word? (Json.number.inj same)
  rw [Numeral.word?_ofNat, Numeral.word?_ofNat] at numerals
  exact Option.some.inj numerals

theorem Navigator.scrollTop_of_toJson {first second : Navigator} (same : first.toJson = second.toJson) :
    first.scrollTop = second.scrollTop := by
  simp only [toJson, Json.object.injEq, List.cons.injEq, Prod.mk.injEq] at same
  obtain ⟨-, -, -, ⟨-, offsets⟩, -⟩ := same
  exact Json.word_injective offsets

namespace Service

section Reports

variable {σ : Type} (backend overview : Backend σ)

/-- A request for the report of the navigator, which is not cut short. -/
structure ListsTabs (request : Request) : Prop where
  asks : asked request = .tabs
  whole : request.method ≠ "HEAD"

/-- What is seen of the service by a request. -/
def report? (place : Service × σ) (request : Request) : Option Response :=
  (exchange? backend overview place request).map fun (exchange, _) => exchange.response

theorem ListsTabs.report?_eq {request : Request} (lists : ListsTabs request) (place : Service × σ) :
    report? backend overview place request = some ⟨200, .json place.1.navigator.toJson⟩ := by
  rw [report?, exchange?_of_whole lists.whole, lists.asks]
  rfl

/-- Requests to select tabs, on any service in any world, always get their answers, without a call to the
build server.  They leave the service as the ones among them do that are answered with 200, apart from the
scroll offset.  This is the last one that any of them sends, also for a tab that is not known.  So the
navigator is reported as after the accepted requests alone exactly if the last offset of all requests is the
last one of those. -/
theorem selections_are_as_accepted_iff {requests : List Request}
    (all : ∀ request ∈ requests, Selects request) (service : Service) (world : σ) :
    ∃ exchanges last calmExchanges calm,
      answerAll? (exchange? backend overview) (service, world) requests =
          some (exchanges, last, world) ∧
        answerAll? (exchange? backend overview) (service, world) (accepted requests exchanges) =
          some (calmExchanges, calm, world) ∧
        (∀ exchange ∈ exchanges, exchange.calls = []) ∧
        calm.navigator.scrollTop = lastOf service.navigator.scrollTop
          ((accepted requests exchanges).filterMap sentOffset?) ∧
        last = { calm with
          navigator := { calm.navigator with
            scrollTop := lastOf service.navigator.scrollTop (requests.filterMap sentOffset?) } } ∧
        ∀ request, ListsTabs request →
          (report? backend overview (last, world) request =
              report? backend overview (calm, world) request ↔
            lastOf service.navigator.scrollTop (requests.filterMap sentOffset?) =
              lastOf service.navigator.scrollTop
                ((accepted requests exchanges).filterMap sentOffset?)) := by
  obtain ⟨exchanges, answered, selected⟩ :=
    answerAll?_selections backend overview all service world
  have among : ∀ request ∈ accepted requests exchanges, Selects request := by
    intro request member
    rw [accepted_eq_filter selected] at member
    exact all request (List.mem_of_mem_filter member)
  obtain ⟨calmExchanges, calmAnswered, -⟩ :=
    answerAll?_selections backend overview among service world
  have same : service.navigator.selectAll requests =
      { service.navigator.selectAll (accepted requests exchanges) with
        scrollTop := lastOf service.navigator.scrollTop (requests.filterMap sentOffset?) } := by
    simp only [Navigator.selectAll, accepted_eq_filter selected, filterMap_chosen?_filter]
  refine ⟨exchanges, _, calmExchanges, _, answered, calmAnswered, calls_of_selected selected, rfl,
    congrArg (Service.mk service.board) same, ?_⟩
  intro request lists
  rw [lists.report?_eq, lists.report?_eq, same]
  simp only [Option.some.injEq, Response.mk.injEq, Body.json.injEq, true_and]
  constructor
  · exact Navigator.scrollTop_of_toJson
  · intro offsets
    rw [offsets]
    rfl

end Reports

/-- A tab that is known is selected with an offset, and then a tab that is not known without one. -/
def astray : List Request :=
  [{ method := "POST", target := "/tabs/t2/select?scrollTop=40" },
    { method := "POST", target := "/tabs/t9/select" }]

theorem selections_are_as_accepted_iff_astray :
    ∃ place exchanges last calmExchanges calm,
      initialize? Memory.backend {} ["t1", "t2"] none { records := [] } = some place ∧
        answerAll? (exchange? Memory.backend Memory.backend) place astray =
          some (exchanges, last, place.2) ∧
        exchanges.map (·.response.status) = [200, 404] ∧
        answerAll? (exchange? Memory.backend Memory.backend) place (accepted astray exchanges) =
          some (calmExchanges, calm, place.2) ∧
        report? Memory.backend Memory.backend (last, place.2) { method := "GET", target := "/tabs" } =
          report? Memory.backend Memory.backend (calm, place.2) { method := "GET", target := "/tabs" } := by
  have observed : ((initialize? Memory.backend {} ["t1", "t2"] none { records := [] }).bind fun place =>
      (answerAll? (exchange? Memory.backend Memory.backend) place astray).map fun found =>
        found.1.map (·.response.status)) = some [200, 404] := by rfl
  obtain ⟨place, started, observed⟩ := Option.bind_eq_some_iff.mp observed
  obtain ⟨⟨exchanges, finish⟩, answered, statuses⟩ := Option.map_eq_some_iff.mp observed
  have all : ∀ request ∈ astray, Selects request := by
    intro request member
    simp only [astray, List.mem_cons, List.not_mem_nil, or_false] at member
    rcases member with rfl | rfl
    · exact ⟨rfl, _, by rfl⟩
    · exact ⟨rfl, _, by rfl⟩
  obtain ⟨same, last, calmExchanges, calm, whole, calmAnswered, -, -, -, reports⟩ :=
    selections_are_as_accepted_iff Memory.backend Memory.backend all place.1 place.2
  obtain ⟨rfl, -⟩ := Prod.mk.inj (Option.some.inj (answered.symm.trans whole))
  refine ⟨place, exchanges, last, calmExchanges, calm, started, whole, statuses, calmAnswered, ?_⟩
  rw [reports _ ⟨by rfl, by decide⟩]
  obtain ⟨first, others, rfl, one, rest⟩ := List.map_eq_cons_iff.mp statuses
  obtain ⟨second, none, rfl, two, -⟩ := List.map_eq_cons_iff.mp rest
  simp [accepted, astray, one, two]
  rfl

/-- A tab that is not known is selected with an offset.  This is refused, and yet another offset is reported
afterwards. -/
theorem refused_selection_moves_the_page :
    ∃ place exchanges last,
      initialize? Memory.backend {} ["t1", "t2"] none { records := [] } = some place ∧
        answerAll? (exchange? Memory.backend Memory.backend) place
            [{ method := "POST", target := "/tabs/t9/select?scrollTop=300" }] =
          some (exchanges, last) ∧
        exchanges.map (·.response.status) = [404] ∧
        place.1.navigator.scrollTop = 0 ∧ last.1.navigator.scrollTop = 300 ∧
        report? Memory.backend Memory.backend last { method := "GET", target := "/tabs" } ≠
          report? Memory.backend Memory.backend place { method := "GET", target := "/tabs" } := by
  have observed : ((initialize? Memory.backend {} ["t1", "t2"] none { records := [] }).bind
      fun place => (answerAll? (exchange? Memory.backend Memory.backend) place
        [{ method := "POST", target := "/tabs/t9/select?scrollTop=300" }]).map fun found =>
          (found.1.map (·.response.status), place.1.navigator.scrollTop,
            found.2.1.navigator.scrollTop)) = some ([404], 0, 300) := by rfl
  obtain ⟨place, started, observed⟩ := Option.bind_eq_some_iff.mp observed
  obtain ⟨⟨exchanges, last⟩, answered, seen⟩ := Option.map_eq_some_iff.mp observed
  simp only [Prod.mk.injEq] at seen
  rcases seen with ⟨statuses, before, after⟩
  refine ⟨place, exchanges, last, started, answered, statuses, before, after, ?_⟩
  have lists : ListsTabs { method := "GET", target := "/tabs" } := ⟨by rfl, by decide⟩
  rw [lists.report?_eq, lists.report?_eq]
  intro same
  simp only [Option.some.injEq, Response.mk.injEq, Body.json.injEq, true_and] at same
  have offsets := Navigator.scrollTop_of_toJson same
  rw [before, after] at offsets
  cases offsets

end Service

end DashletBoard

/-
Module: DashletBoard.Proofs.KnownTabs
Purpose: The tabs of a service that has been started: board and navigator know the same ones, whatever is
  asked of it.
Main exports: Service.Knows, Service.knows_of_initialize?, Service.Knows.exchanged, Service.status?,
  Service.started_services_know_their_tabs
-/
import DashletBoard.Proofs.CallPaths
import DashletBoard.Proofs.DeepLinks
import DashletBoard.Proofs.TabCalls
import DashletBoard.Proofs.TabSelection

namespace DashletBoard

open Http

variable {σ : Type} {backend overview : Backend σ} {geometry : Geometry} {tabs : List String}

/-!
### Tabs that are known
-/

/-- An operation makes no tab known and none unknown. -/
theorem Board.isSome_tab?_of_act? {board changed : Board} {name : String} {action : Action}
    {reply : BoardReply} {world after : σ}
    (acted : board.act? backend name action world = some (reply, changed, after)) (other : String) :
    (changed.tab? other).isSome = (board.tab? other).isSome := by
  have visited : visit? backend (board, world) (name, .act action) =
      some ((name, .did reply), changed, after) := by
    rw [visit?, acted]
    rfl
  exact isSome_tab?_of_visit? visited other

/-- A navigator that is restored has an active tab, unless there are no tabs. -/
theorem Navigator.activeIndex_restore (tabs : List String) (fragment : Option String) :
    (restore tabs fragment).activeIndex < tabs.length ∨ tabs = [] := by
  rw [restore]
  cases found : (fragment.map tabOfFragment).bind (index? tabs) with
  | none =>
      cases tabs with
      | nil => exact .inr rfl
      | cons first rest => exact .inl (Nat.zero_lt_succ _)
  | some index =>
      obtain ⟨tab, -, indexed⟩ := Option.bind_eq_some_iff.mp found
      exact .inl (lt_length_of_index? indexed)

namespace Service

variable {place next last : Service × σ} {request : Request} {exchange : Exchange}

/-- Board and navigator know the same tabs, and one of them is active unless there are none. -/
structure Knows (tabs : List String) (service : Service) : Prop where
  board : ∀ name, (service.board.tab? name).isSome ↔ name ∈ tabs
  navigator : service.navigator.tabs = tabs
  active : service.navigator.activeIndex < tabs.length ∨ tabs = []

/-- A service knows the tabs with which it was started. -/
theorem knows_of_initialize? {fragment : Option String} {start : σ}
    (started : initialize? backend geometry tabs fragment start = some place) : place.1.Knows tabs := by
  obtain ⟨⟨board, world⟩, loaded, rfl⟩ := Option.map_eq_some_iff.mp started
  obtain ⟨among, outside⟩ := Board.tab?_of_initialize? loaded
  refine ⟨fun name => ?_, rfl, ?_⟩
  · constructor
    · intro known
      by_contra absent
      rw [outside name absent] at known
      cases known
    · intro member
      obtain ⟨state, known, -⟩ := among name member
      exact Option.isSome_iff_exists.mpr ⟨state, known⟩
  · exact Navigator.activeIndex_restore tabs fragment

/-- Whatever is asked, a service knows the same tabs afterwards. -/
theorem Knows.exchanged (knows : place.1.Knows tabs)
    (answered : exchange? backend overview place request = some (exchange, next)) :
    next.1.Knows tabs := by
  have done := exchanged_of_exchange? answered
  generalize asked request = what, exchange.calls = calls at done
  cases done with
  | acted acted =>
      refine ⟨fun name => ?_, knows.navigator, knows.active⟩
      rw [Board.isSome_tab?_of_act? acted]
      exact knows.board name
  | @selected tab scrollTop =>
      rw [select_eq]
      refine ⟨knows.board, knows.navigator, ?_⟩
      rw [knows.navigator]
      cases found : Navigator.index? tabs tab with
      | none => exact knows.active
      | some index => exact .inl (Navigator.lt_length_of_index? found)
  | read => exact knows

theorem Knows.answered {requests : List Request} {exchanges : List Exchange} (knows : place.1.Knows tabs)
    (answered : answerAll? (exchange? backend overview) place requests = some (exchanges, last)) :
    last.1.Knows tabs :=
  answerAll?_keeps (fun place : Service × σ => place.1.Knows tabs)
    (fun knows answered => knows.exchanged answered) knows answered

/-- There is no active tab only if there are no tabs. -/
theorem Knows.active?_eq_none_iff {service : Service} (knows : service.Knows tabs) :
    service.navigator.active? = none ↔ tabs = [] := by
  rw [Navigator.active?, knows.navigator, List.getElem?_eq_none_iff]
  constructor
  · intro beyond
    exact knows.active.resolve_left (Nat.not_lt.mpr beyond)
  · rintro rfl
    exact Nat.zero_le _

theorem Knows.mem_of_active? {service : Service} (knows : service.Knows tabs) {tab : String}
    (active : service.navigator.active? = some tab) : tab ∈ tabs := by
  rw [Navigator.active?, knows.navigator] at active
  exact List.mem_of_getElem? active

/-!
### What shows of the tabs
-/

/-- The status of the answer to a request, if it gets one. -/
def status? (backend overview : Backend σ) (place : Service × σ) (request : Request) : Option Nat :=
  (report? backend overview place request).map (·.status)

/-- The method of a request does not show in the status. -/
theorem status?_eq : status? backend overview place request =
    (place.1.replyTo? backend.recorded overview.recorded (place.2, []) (asked request)).map
      fun answered => answered.1.status := by
  have status (response : Response) : (forMethod request.method response).status = response.status := by
    rw [forMethod]
    split
    · rfl
    · rfl
  rw [status?, report?, exchange?, handle?_eq]
  simp only [Option.map_map, Function.comp_def, status]

theorem status_tabResponse (board : Board) (tab : String) :
    (tabResponse board tab).status = if (board.tab? tab).isSome then 200 else 404 := by
  rw [tabResponse, Board.view]
  cases board.tab? tab with
  | none => rfl
  | some state => rfl

theorem Knows.status?_show (knows : place.1.Knows tabs) {id : String}
    (shows : asked request = .visit id .view) :
    status? backend overview place request = some (if id ∈ tabs then 200 else 404) := by
  rw [status?_eq, shows, replyTo?, Option.map_some, status_tabResponse]
  simp only [knows.board]

theorem Knows.status?_select (knows : place.1.Knows tabs) {id : String} {scrollTop : Option UInt32}
    (selects : asked request = .select id scrollTop) :
    status? backend overview place request = some (if id ∈ tabs then 200 else 404) := by
  rw [status?_eq, selects, replyTo?, Option.map_some, select_eq, knows.navigator]
  simp only [Navigator.index?_isSome_iff]
  split
  · rfl
  · rfl

/-- The request that shows a tab. -/
def showRequest (id : String) : Request :=
  { method := "GET", target := String.ofList (Call.showTab id).path }

/-- The request that selects a tab, without a query. -/
def selectRequest (id : String) : Request :=
  { method := "POST", target := String.ofList (Call.selectTab id).path }

theorem asked_showRequest {id : String} (nonempty : id ≠ "") :
    asked (showRequest id) = .visit id .view := by
  have addressable : (Call.showTab id).IsAddressable := nonempty
  exact Call.asked_of_path addressable rfl rfl

theorem asked_selectRequest (id : String) : asked (selectRequest id) = .select id none := by
  have addressable : (Call.selectTab id).IsAddressable := trivial
  have target : (selectRequest id).target = String.ofList (Call.selectTab id).path := rfl
  rw [Call.asked_of_path addressable target rfl, Call.asked, (Call.path_of_target target).2]
  rfl

/-- A service is started with any list of tabs and any fragment, and any requests are answered, over any
build server.  Then the list is reported as at the start.  One of its tabs is active, unless it is empty, and
the fragment is a number sign before this tab.  Exactly the tabs of the list are known.  Requests that show a
tab and requests that select it get the status 200 exactly for the tabs of the list, and for each name that is
not empty there are such requests. -/
theorem started_services_know_their_tabs {fragment : Option String} {start : σ}
    {requests : List Request} {exchanges : List Exchange}
    (started : initialize? backend geometry tabs fragment start = some place)
    (answered : answerAll? (exchange? backend overview) place requests = some (exchanges, last)) :
    (∃ (active : Option String) (offset : UInt32),
      (active = none ↔ tabs = []) ∧ (∀ tab, active = some tab → tab ∈ tabs) ∧
        ∀ request, ListsTabs request → report? backend overview last request =
          some ⟨200, .json (.object [("tabs", .array (tabs.map .string)), ("active", .optional active),
            ("fragment", .optional (active.map fun tab => "#" ++ tab)),
            ("scrollTop", .word offset)])⟩) ∧
    (∀ name, (last.1.board.tab? name).isSome ↔ name ∈ tabs) ∧
    (∀ id request, asked request = .visit id .view ∨ asked request = .select id none →
      status? backend overview last request = some (if id ∈ tabs then 200 else 404)) ∧
    ∀ id, id ≠ "" →
      asked (showRequest id) = .visit id .view ∧ asked (selectRequest id) = .select id none := by
  have knows := (knows_of_initialize? started).answered answered
  refine ⟨⟨last.1.navigator.active?, last.1.navigator.scrollTop, knows.active?_eq_none_iff,
    fun tab => knows.mem_of_active?, fun request lists => ?_⟩, knows.board, fun id request => ?_,
    fun id nonempty => ?_⟩
  · rw [lists.report?_eq, Navigator.toJson, knows.navigator, Navigator.fragment?]
  · rintro (shows | selects)
    · exact knows.status?_show shows
    · exact knows.status?_select selects
  · exact ⟨asked_showRequest nonempty, asked_selectRequest id⟩

/-- A tab is listed twice, one has a slash and a number sign in its name, and one has no name.  A tab that is
not listed can neither be left nor selected. -/
theorem started_services_know_their_tabs_slash :
    ∃ place exchanges last,
      initialize? Memory.backend {} ["t1", "a/#", "t1", ""] (some "#t1") { records := [] } = some place ∧
        answerAll? (exchange? Memory.backend Memory.backend) place
            [{ method := "POST", target := "/tabs/t1/edit" },
              { method := "POST", target := "/tabs/t9/cancel" },
              { method := "POST", target := "/tabs/a%2f%23/select?scrollTop=7" }] =
          some (exchanges, last) ∧
        exchanges.map (·.response.status) = [200, 404, 200] ∧
        (last.1.board.tab? "").isSome ∧
        status? Memory.backend Memory.backend last (showRequest "a/#") = some 200 ∧
        status? Memory.backend Memory.backend last (selectRequest "t9") = some 404 := by
  have observed : ((initialize? Memory.backend {} ["t1", "a/#", "t1", ""] (some "#t1")
      { records := [] }).bind fun place => (answerAll? (exchange? Memory.backend Memory.backend) place
        [{ method := "POST", target := "/tabs/t1/edit" }, { method := "POST", target := "/tabs/t9/cancel" },
          { method := "POST", target := "/tabs/a%2f%23/select?scrollTop=7" }]).map fun found =>
            found.1.map (·.response.status)) = some [200, 404, 200] := by decide +kernel
  obtain ⟨place, started, observed⟩ := Option.bind_eq_some_iff.mp observed
  obtain ⟨⟨exchanges, last⟩, answered, statuses⟩ := Option.map_eq_some_iff.mp observed
  obtain ⟨-, known, status, asks⟩ := started_services_know_their_tabs started answered
  refine ⟨place, exchanges, last, started, answered, statuses, (known "").mpr (by decide), ?_, ?_⟩
  · exact status "a/#" _ (.inl (asks "a/#" (by decide)).1)
  · exact status "t9" _ (.inr (asks "t9" (by decide)).2)

end Service

end DashletBoard

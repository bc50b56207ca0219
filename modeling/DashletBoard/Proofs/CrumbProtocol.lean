/-
Module: DashletBoard.Proofs.CrumbProtocol
Purpose: What a client sends to the build server over many calls: when it asks for a crumb, which requests
  carry one, and by which headers it names itself.
Main exports: Transport.recorded, Client.consultAll, Exchange.IsServed, Crumb.Knowledge.After,
  Consultation.Follows, Client.follows_consult, Client.crumbs_are_asked_for_until_settled
-/
import DashletBoard.Proofs.Endpoints
import DashletBoard.Proofs.ServerAddresses

namespace DashletBoard.BuildServer

variable {τ σ : Type}

/-!
### Calls and what is sent for them

Every call to the build server asks one question.  A transport that keeps a record tells all requests that
were sent on the way.
-/

/-- A request that was sent, and the reply to it. -/
structure Exchange where
  request : Request
  reply : Option Reply

/-- The transport that keeps a record of all requests, the latest one last. -/
def Transport.recorded (transport : Transport τ) : Transport (τ × List Exchange) :=
  fun request world =>
    let (reply, after) := transport request world.1
    (reply, after, world.2 ++ [⟨request, reply⟩])

/-- The world after the call that asks a question. -/
def Question.call (backend : Backend σ) (question : Question) (world : σ) : σ :=
  match question with
  | .configuration tab => (backend.load tab world).2
  | .store tab records => (backend.save tab records world).2
  | .measures tab group => (backend.measures tab group world).2
  | .aggregation tab group measure => (backend.aggregation tab group measure world).2

theorem session_answered {α : Type} (read : Reply → Except Failure α)
    (outcome : Except Failure Reply × Session τ) : (answered read outcome).2 = outcome.2 := by
  rcases outcome with ⟨failure | reply, session⟩
  · rfl
  · rfl

theorem Question.call_backend (client : Client) (transport : Transport τ) (question : Question)
    (session : Session τ) :
    question.call (client.backend transport) session =
      (client.ask transport question session).2 := by
  cases question with
  | configuration | store | measures | aggregation => exact session_answered _ _

namespace Client

/-- Makes a call and tells what was sent for it. -/
def consult (client : Client) (transport : Transport τ) (session : Session τ) (question : Question) :
    List Exchange × Session τ :=
  let after := question.call (client.backend transport.recorded)
    ⟨session.known, session.world, []⟩
  (after.world.2, ⟨after.known, after.world.1⟩)

/-- Makes calls one after the other and tells for each what was sent for it. -/
def consultAll (client : Client) (transport : Transport τ) :
    Session τ → List Question → List (List Exchange) × Session τ
  | session, [] => ([], session)
  | session, question :: rest =>
      let (exchanges, next) := client.consult transport session question
      let (others, last) := client.consultAll transport next rest
      (exchanges :: others, last)

theorem learnCrumb_recorded (client : Client) (transport : Transport τ) (session : Session τ) :
    ∃ sent, client.learnCrumb transport.recorded ⟨session.known, session.world, []⟩ =
      ⟨(client.learnCrumb transport session).known, (client.learnCrumb transport session).world,
        sent⟩ := by
  obtain ⟨known, world⟩ := session
  simp only [learnCrumb]
  split
  next issuer _ => exact ⟨[⟨issuer, (transport issuer world).1⟩], rfl⟩
  next => exact ⟨[], rfl⟩

/-- Keeping a record does not change the call. -/
theorem session_consult (client : Client) (transport : Transport τ) (session : Session τ)
    (question : Question) :
    (client.consult transport session question).2 =
      question.call (client.backend transport) session := by
  obtain ⟨sent, learns⟩ := client.learnCrumb_recorded transport session
  rw [consult, Question.call_backend, Question.call_backend]
  simp only [ask, learns]
  generalize client.learnCrumb transport session = learned
  cases client.request? learned.known question with
  | none => rfl
  | some request =>
      simp only [Transport.recorded]
      rcases transport request learned.world with ⟨_ | reply, world⟩
      · rfl
      · rfl

theorem session_consultAll (client : Client) (transport : Transport τ) (session : Session τ)
    (questions : List Question) :
    (client.consultAll transport session questions).2 =
      questions.foldl (fun session question => question.call (client.backend transport) session)
        session := by
  induction questions generalizing session with
  | nil => rfl
  | cons question rest ih =>
      rw [List.foldl_cons, ← client.session_consult transport session question, ← ih, consultAll]

end Client

/-!
### Replies to requests for a crumb
-/

namespace Reply

/-- The crumb that a reply issues. -/
def crumb? (reply : Reply) : Option Crumb :=
  if reply.isSuccess then (Crumb.parse reply.body).toOption else none

/-- A reply settles whether there are crumbs: there is no issuer, or a crumb was issued. -/
def Settles (reply : Reply) : Prop := reply.status = 404 ∨ reply.crumb?.isSome

/-- A header can carry the crumb that a reply issues, if it issues one. -/
def IsUsable (reply : Reply) : Prop := ∀ crumb, reply.crumb? = some crumb → crumb.header?.isSome

end Reply

instance (reply : Reply) : Decidable reply.IsUsable :=
  decidable_of_iff (reply.crumb?.all (·.header?.isSome)) (by simp [Reply.IsUsable, Option.all_eq_true])

/-- A request was answered, and if it asked for a crumb, a header can carry the crumb that it got. -/
structure Exchange.IsServed (issuer : Request) (exchange : Exchange) : Prop where
  answered : exchange.reply.isSome
  usable : exchange.request = issuer → ∀ reply, exchange.reply = some reply → reply.IsUsable

instance (issuer : Request) (exchange : Exchange) : Decidable (exchange.IsServed issuer) :=
  decidable_of_iff (exchange.reply.isSome ∧
      (exchange.request = issuer → ∀ reply ∈ exchange.reply, reply.IsUsable))
    ⟨fun served => ⟨served.1, served.2⟩, fun served => ⟨served.answered, served.usable⟩⟩

theorem Exchange.IsServed.exists_reply {issuer request : Request} {reply : Option Reply}
    (served : Exchange.IsServed issuer ⟨request, reply⟩) :
    ∃ answer, reply = some answer ∧ (request = issuer → answer.IsUsable) := by
  obtain ⟨answer, replied⟩ := Option.isSome_iff_exists.mp served.answered
  exact ⟨answer, replied, fun same => served.usable same answer replied⟩

namespace Crumb.Knowledge

variable {reply : Reply} {crumb : Crumb}

theorem ofReply_of_missing (missing : reply.status = 404) :
    ofReply (some reply) = .notIssued := if_pos missing

theorem ofReply_of_crumb (issued : reply.crumb? = some crumb) :
    ofReply (some reply) = .issued crumb := by
  rw [Reply.crumb?] at issued
  split at issued
  next success =>
    have found : reply.status ≠ 404 := by
      intro missing
      rw [Reply.isSuccess, missing] at success
      cases success
    rw [ofReply, if_neg found, if_pos success]
    cases parsed : Crumb.parse reply.body with
    | ok made =>
        rw [parsed] at issued
        cases issued
        rfl
    | error fault =>
        rw [parsed] at issued
        cases issued
  next => cases issued

theorem ofReply_of_unsettled (unsettled : ¬ reply.Settles) : ofReply (some reply) = .open := by
  obtain ⟨found, silent⟩ := not_or.mp unsettled
  rw [ofReply, if_neg found]
  split
  next success =>
    split
    next crumb parsed => simp [Reply.crumb?, success, parsed, Except.toOption] at silent
    next => rfl
  next => rfl

theorem ofReply_eq_open_iff : ofReply (some reply) = .open ↔ ¬ reply.Settles := by
  constructor
  · intro unknown settles
    rcases settles with missing | issued
    · rw [ofReply_of_missing missing] at unknown
      cases unknown
    · obtain ⟨crumb, issued⟩ := Option.isSome_iff_exists.mp issued
      rw [ofReply_of_crumb issued] at unknown
      cases unknown
  · exact ofReply_of_unsettled

/-- What is known after some replies with usable crumbs: everything is open exactly if none of them settled
it, and one that did is what is known. -/
structure After (known : Knowledge) (replies : List Reply) : Prop where
  open_iff : known = .open ↔ ∀ reply ∈ replies, ¬ reply.Settles
  settled : ∀ reply ∈ replies, reply.Settles → known = ofReply (some reply)
  usable : ∀ reply ∈ replies, reply.IsUsable

theorem After.nothing : After .open [] where
  open_iff := by simp
  settled _ member := nomatch member
  usable _ member := nomatch member

/-- While everything is open, the next reply is what is known. -/
theorem After.asked {replies : List Reply} (sofar : After .open replies) (usable : reply.IsUsable) :
    (ofReply (some reply)).After (replies ++ [reply]) := by
  have unsettled := sofar.open_iff.mp rfl
  constructor
  · rw [ofReply_eq_open_iff, List.forall_mem_append, List.forall_mem_singleton]
    exact ⟨fun last => ⟨unsettled, last⟩, And.right⟩
  · intro other member settles
    rcases List.mem_append.mp member with old | last
    · exact absurd settles (unsettled other old)
    · rw [List.mem_singleton.mp last]
  · rw [List.forall_mem_append, List.forall_mem_singleton]
    exact ⟨sofar.usable, usable⟩

end Crumb.Knowledge

/-!
### Headers that carry a crumb
-/

/-- The headers by which a request carries the crumb, after some replies to requests for one. -/
structure CarriesCrumb (replies : List Reply) (headers : List (String × String)) : Prop where
  /-- A crumb that was issued is carried. -/
  issued : ∀ reply ∈ replies, ∀ crumb, reply.crumb? = some crumb →
    ∃ header, crumb.header? = some header ∧ headers = [header]
  /-- Where there is no issuer, no crumb is carried. -/
  missing : ∀ reply ∈ replies, reply.status = 404 → headers = []
  /-- As long as nothing is settled, no crumb is carried. -/
  unsettled : (∀ reply ∈ replies, ¬ reply.Settles) → headers = []

theorem Crumb.Knowledge.After.carriesCrumb {replies : List Reply} {known : Crumb.Knowledge}
    (after : known.After replies) :
    ∃ headers, Client.crumbHeaders? known = some headers ∧ CarriesCrumb replies headers := by
  have known_of_crumb (reply : Reply) (member : reply ∈ replies) (crumb : Crumb)
      (issued : reply.crumb? = some crumb) : known = .issued crumb := by
    have settles : reply.Settles := .inr (by rw [issued, Option.isSome_some])
    rw [after.settled reply member settles, ofReply_of_crumb issued]
  have known_of_missing (reply : Reply) (member : reply ∈ replies) (missing : reply.status = 404) :
      known = .notIssued := by
    rw [after.settled reply member (.inl missing), ofReply_of_missing missing]
  cases known with
  | «open» =>
      refine ⟨[], rfl, ?_, fun _ _ _ => rfl, fun _ => rfl⟩
      intro reply member crumb issued
      cases known_of_crumb reply member crumb issued
  | notIssued =>
      refine ⟨[], rfl, ?_, fun _ _ _ => rfl, fun _ => rfl⟩
      intro reply member crumb issued
      cases known_of_crumb reply member crumb issued
  | issued crumb =>
      -- Something settled the matter, and it can only have been a reply with this crumb.
      have settled : ¬ ∀ reply ∈ replies, ¬ reply.Settles := fun unsettled =>
        nomatch after.open_iff.mpr unsettled
      simp only [Classical.not_forall, Classical.not_not] at settled
      obtain ⟨reply, member, missing | issued⟩ := settled
      · cases known_of_missing reply member missing
      · obtain ⟨same, issued⟩ := Option.isSome_iff_exists.mp issued
        cases known_of_crumb reply member same issued
        obtain ⟨header, carries⟩ := Option.isSome_iff_exists.mp (after.usable reply member crumb issued)
        refine ⟨[header], ?_, ?_, ?_, fun unsettled => nomatch after.open_iff.mpr unsettled⟩
        · simp [Client.crumbHeaders?, crumb?, carries]
        · intro other otherMember otherCrumb otherIssued
          cases known_of_crumb other otherMember otherCrumb otherIssued
          exact ⟨header, carries, rfl⟩
        · intro other otherMember otherMissing
          cases known_of_missing other otherMember otherMissing

/-!
### One call
-/

/-- A call as it is seen from the build server: the reply to the request for a crumb, if there was one,
the headers by which the request of the question carries a crumb, and this request with its reply. -/
structure Consultation where
  question : Question
  crumbReply : Option Reply
  crumbHeaders : List (String × String)
  request : Request
  reply : Reply

/-- All that is sent for a call. -/
def Consultation.exchanges (issuer : Request) (call : Consultation) : List Exchange :=
  call.crumbReply.toList.map (fun reply => ⟨issuer, some reply⟩) ++
    [⟨call.request, some call.reply⟩]

/-- The replies to requests for a crumb. -/
def crumbReplies (calls : List Consultation) : List Reply := calls.filterMap (·.crumbReply)

theorem crumbReplies_append (calls : List Consultation) (call : Consultation) :
    crumbReplies (calls ++ [call]) = crumbReplies calls ++ call.crumbReply.toList := by
  cases asked : call.crumbReply <;> simp [crumbReplies, asked]

/-- What a call sends after the calls before it.  A client names itself by the same headers in each request. -/
structure Consultation.Follows (hosts : Http.HostReader) (settings : BuildServerSettings)
    (named : List (String × String)) (past : List Consultation) (now : Consultation) : Prop where
  /-- A crumb is asked for exactly if no reply to such a request has settled the matter so far. -/
  asks : now.crumbReply.isSome ↔ ∀ reply ∈ crumbReplies past, ¬ reply.Settles
  /-- The request of the question carries the crumb that was issued by then, now or before. -/
  carries : CarriesCrumb (crumbReplies (past ++ [now])) now.crumbHeaders
  /-- It goes to the endpoint of the question. -/
  sent : now.question.SentTo hosts settings now.request
  /-- It has these headers and no others, apart from the type of a form. -/
  headers : now.request.headers =
    (if now.request.method = "POST" then [("content-type", "application/x-www-form-urlencoded")] else []) ++
      named ++ now.crumbHeaders

namespace Client

variable {client : Client} {transport : Transport τ} {issuer : Request} {question : Question}
  {hosts : Http.HostReader} {settings : BuildServerSettings} {scope : Scope}

theorem headers_requestAt (address : Http.Address) (headers : List (String × String)) :
    (client.requestAt address headers question).headers =
      (if (client.requestAt address headers question).method = "POST" then
        [("content-type", "application/x-www-form-urlencoded")] else []) ++
          client.authorizations address ++ headers := by
  rw [requestAt]
  cases question.isPosted with
  | true => rfl
  | false => rfl

theorem learnCrumb_of_ne_open {session : Session τ} (settled : session.known ≠ .open) :
    client.learnCrumb transport session = session := by
  rw [learnCrumb]
  split
  next unknown _ => exact absurd unknown settled
  next => rfl

theorem learnCrumb_of_open (transport : Transport τ) (world : τ)
    (issues : client.crumbRequest? = some issuer) :
    client.learnCrumb transport ⟨.open, world⟩ =
      ⟨.ofReply (transport issuer world).1, (transport issuer world).2⟩ := by
  simp only [learnCrumb, issues]

/-- The request of a question is sent after everything else. -/
theorem ask_recorded {session learned : Session (τ × List Exchange)} {request : Request}
    (learns : client.learnCrumb transport.recorded session = learned)
    (makes : client.request? learned.known question = some request) :
    (client.ask transport.recorded question session).2 =
      ⟨learned.known, (transport request learned.world.1).2,
        learned.world.2 ++ [⟨request, (transport request learned.world.1).1⟩]⟩ := by
  simp only [ask, learns, makes, Transport.recorded]
  cases (transport request learned.world.1).1 with
  | none => rfl
  | some reply => rfl

/-- While everything is open, a call asks for a crumb. -/
theorem mem_consult_of_open (issues : client.crumbRequest? = some issuer) (world : τ) :
    ⟨issuer, (transport issuer world).1⟩ ∈ (client.consult transport ⟨.open, world⟩ question).1 := by
  rw [consult, Question.call_backend]
  have learns := learnCrumb_of_open transport.recorded (world, []) issues
  cases makes : client.request? (.ofReply (transport issuer world).1) question with
  | none =>
      simp only [ask, learns, Transport.recorded, makes]
      exact List.mem_singleton_self _
  | some request =>
      rw [ask_recorded learns makes]
      exact List.mem_append_left _ (List.mem_singleton_self _)

/-- Learning the crumb sends the request for it exactly if everything is open, and keeps what is known in
line with the replies. -/
theorem exists_learnCrumb (issues : client.crumbRequest? = some issuer) {replies : List Reply}
    {known : Crumb.Knowledge} (after : known.After replies) {world : τ}
    (served : known = .open → Exchange.IsServed issuer ⟨issuer, (transport issuer world).1⟩) :
    ∃ (crumbReply : Option Reply) (learned : Crumb.Knowledge) (next : τ),
      client.learnCrumb transport.recorded ⟨known, world, []⟩ =
          ⟨learned, next, crumbReply.toList.map fun reply => ⟨issuer, some reply⟩⟩ ∧
        (crumbReply.isSome ↔ ∀ reply ∈ replies, ¬ reply.Settles) ∧
        learned.After (replies ++ crumbReply.toList) := by
  by_cases unknown : known = .open
  · subst unknown
    obtain ⟨reply, replied, usable⟩ := (served rfl).exists_reply
    refine ⟨some reply, .ofReply (some reply), (transport issuer world).2, ?_, ?_, ?_⟩
    · rw [learnCrumb_of_open _ _ issues]
      simp [Transport.recorded, replied]
    · simpa using after.open_iff.mp rfl
    · exact after.asked (usable rfl)
  · refine ⟨none, known, world, learnCrumb_of_ne_open unknown, ?_, by simpa using after⟩
    simpa using fun unsettled => unknown (after.open_iff.mpr unsettled)

/-- What one call sends if its requests are served, and that it keeps what is known in line with the
replies. -/
theorem follows_consult (issues : (ofSettings hosts settings scope).crumbRequest? = some issuer)
    {address : Http.Address} (leads : (ofSettings hosts settings scope).address? question = some address)
    (named : (ofSettings hosts settings scope).authorizations address = issuer.headers)
    {past : List Consultation} {session : Session τ} (after : session.known.After (crumbReplies past))
    (served : ∀ exchange ∈ ((ofSettings hosts settings scope).consult transport session question).1,
      exchange.IsServed issuer) :
    ∃ now, ((ofSettings hosts settings scope).consult transport session question).1 =
        now.exchanges issuer ∧
      now.question = question ∧ now.Follows hosts settings issuer.headers past ∧
      ((ofSettings hosts settings scope).consult transport session question).2.known.After
        (crumbReplies (past ++ [now])) := by
  obtain ⟨known, world⟩ := session
  obtain ⟨crumbReply, learned, next, learns, asks, later⟩ := exists_learnCrumb issues after fun unknown => by
    subst unknown
    exact served _ (mem_consult_of_open issues world)
  obtain ⟨headers, carried, carries⟩ := later.carriesCrumb
  let request := (ofSettings hosts settings scope).requestAt address headers question
  have makes : (ofSettings hosts settings scope).request? learned question = some request := by
    simp only [request?, leads, carried, request]
  have sends := ask_recorded learns makes
  rw [← Question.call_backend] at sends
  rw [consult, sends] at served ⊢
  obtain ⟨reply, replied, -⟩ :=
    (served _ (List.mem_append_right _ (List.mem_singleton_self _))).exists_reply
  let now : Consultation := ⟨question, crumbReply, headers, request, reply⟩
  have replies : crumbReplies (past ++ [now]) = crumbReplies past ++ crumbReply.toList :=
    crumbReplies_append past now
  refine ⟨now, ?_, rfl, ⟨asks, replies ▸ carries, sentTo_requestAt leads headers, ?_⟩, replies ▸ later⟩
  · simp only [replied]
    rfl
  · exact named ▸ headers_requestAt address headers

/-!
### Many calls
-/

/-- Each of many calls follows the ones before it, if all requests are served. -/
theorem follows_consultAll (issues : (ofSettings hosts settings scope).crumbRequest? = some issuer)
    (leads : ∀ question, ∃ address,
      (ofSettings hosts settings scope).address? question = some address ∧
        (ofSettings hosts settings scope).authorizations address = issuer.headers)
    (questions : List Question) {past : List Consultation} {session : Session τ}
    (after : session.known.After (crumbReplies past))
    (served : ∀ sent ∈ ((ofSettings hosts settings scope).consultAll transport session questions).1,
      ∀ exchange ∈ sent, exchange.IsServed issuer) :
    ∃ calls : List Consultation,
      ((ofSettings hosts settings scope).consultAll transport session questions).1 =
          calls.map (·.exchanges issuer) ∧
        calls.map (·.question) = questions ∧
        ∀ before now later, calls = before ++ now :: later →
          now.Follows hosts settings issuer.headers (past ++ before) := by
  induction questions generalizing past session with
  | nil =>
      refine ⟨[], rfl, rfl, fun before now later empty => ?_⟩
      simp at empty
  | cons question rest ih =>
      obtain ⟨address, led, named⟩ := leads question
      rw [consultAll] at served
      obtain ⟨here, others⟩ := List.forall_mem_cons.mp served
      obtain ⟨first, sent, asked, follows, next⟩ := follows_consult issues led named after here
      obtain ⟨calls, sentLater, questioned, each⟩ := ih next others
      refine ⟨first :: calls, ?_, ?_, ?_⟩
      · simp only [consultAll, List.map_cons, sent, sentLater]
      · rw [List.map_cons, asked, questioned]
      · intro before now later parts
        cases before with
        | nil =>
            obtain ⟨rfl, -⟩ := List.cons.inj parts
            rw [List.append_nil]
            exact follows
        | cons other between =>
            obtain ⟨rfl, rest⟩ := List.cons.inj parts
            have behind := each between now later rest
            rwa [List.append_assoc, List.singleton_append] at behind

/-!
### The client of settings
-/

theorem authorizations_of_server {address base : Http.Address} (same : address.server = base.server) :
    client.authorizations address = client.authorizations base := by
  have login := (Prod.mk.inj (Prod.mk.inj same).2).1
  rw [authorizations, authorizations, login]

/-- The issuer of crumbs and all endpoints are below the root of the server, so that the client names itself
to all of them by the same headers. -/
theorem exists_below (scope : Scope) {base : Http.Address}
    (root : Http.Address.parse? hosts (settings.root ++ ['/']) = some base) (rest : List Char) :
    ∃ address, Http.Address.parse? hosts (settings.root ++ '/' :: rest) = some address ∧
      (ofSettings hosts settings scope).authorizations address =
        (base.login.toList ++ settings.credentials.toList).map basicAuthorization := by
  obtain ⟨address, parsed, same⟩ := Option.map_eq_some_iff.mp (Http.Address.map_server_below root rest)
  exact ⟨address, parsed, (authorizations_of_server same).trans authorizations_ofSettings⟩

theorem exists_endpoint (scope : Scope) {base : Http.Address}
    (root : Http.Address.parse? hosts (settings.root ++ ['/']) = some base) (question : Question) :
    ∃ address, (ofSettings hosts settings scope).address? question = some address ∧
      (ofSettings hosts settings scope).authorizations address =
        (base.login.toList ++ settings.credentials.toList).map basicAuthorization := by
  obtain ⟨address, parsed, named⟩ := exists_below scope root
    ((settings.actionPath.toList.dropWhile (· == '/')).rdropWhile (· == '/') ++
      '/' :: question.action.toList)
  refine ⟨address, ?_, named⟩
  rw [address?_ofSettings, BuildServerSettings.endpoint, List.append_assoc]
  exact parsed

/-- The root of the settings is an address, by either scheme.  Then every request, also to the issuer of
crumbs, names first the login that the root holds itself, if any, and then name and token exactly if both are
set.  Over any calls whose requests are served, the client asks for a crumb until a reply settles whether
there are crumbs, and each call sends one request to the endpoint of its question, which carries what was
learned. -/
theorem crumbs_are_asked_for_until_settled (scope : Scope) (transport : Transport τ)
    {base : Http.Address} (root : Http.Address.parse? hosts (settings.root ++ ['/']) = some base) :
    ∃ address, Http.Address.parse? hosts settings.crumbIssuer = some address ∧
      ∀ questions world,
        let named := (base.login.toList ++ settings.credentials.toList).map basicAuthorization
        let issuer : Request := { method := "GET", address, headers := named }
        let client := ofSettings hosts settings scope
        let run := client.consultAll transport ⟨.open, world⟩ questions
        run.2 = questions.foldl (fun session question =>
            question.call (client.backend transport) session) ⟨.open, world⟩ ∧
          ((∀ sent ∈ run.1, ∀ exchange ∈ sent, exchange.IsServed issuer) →
            ∃ calls : List Consultation, run.1 = calls.map (·.exchanges issuer) ∧
              calls.map (·.question) = questions ∧
              ∀ past now later, calls = past ++ now :: later →
                now.Follows hosts settings named past) := by
  obtain ⟨address, parsed, named⟩ := exists_below scope root "crumbIssuer/api/json".toList
  refine ⟨address, parsed, fun questions world => ⟨?_, fun served => ?_⟩⟩
  · exact session_consultAll _ transport _ questions
  · have issues := crumbRequest?_ofSettings scope parsed
    have start : (⟨.open, world⟩ : Session τ).known.After (crumbReplies []) := .nothing
    rw [named] at issues
    exact follows_consultAll issues (exists_endpoint scope root) questions start served

/-- A build server that fails the first request and issues a crumb later. -/
def outage : Transport Nat := fun request count =>
  if count = 0 then (some ⟨503, "down"⟩, 1)
  else if request.address.path = "/ci/crumbIssuer/api/json".toList then
    (some ⟨200, "\x7b\"crumb\":\"abc123\",\"crumbRequestField\":\"Jenkins-Crumb\"\x7d"⟩, count + 1)
  else (some ⟨200, "[]"⟩, count + 1)

/-- Two loads and a save: the first call asks for a crumb during an outage, the second one learns it, and
the third one carries it without asking again.  The name is `admin` with the token `token`. -/
theorem crumbs_are_asked_for_until_settled_outage :
    let settings : BuildServerSettings := ⟨"https://ci.test/ci/", "/job/shop/", some "admin", some "token"⟩
    let questions : List Question := [.configuration "t1", .configuration "t1", .store "t1" []]
    let name := ("authorization", "Basic YWRtaW46dG9rZW4=")
    let crumb := ("jenkins-crumb", "abc123")
    let form := ("content-type", "application/x-www-form-urlencoded")
    let base : Http.Address := ⟨.https, none, "ci.test".toList, 443, "/ci/".toList, none, none⟩
    let address := { base with path := "/ci/crumbIssuer/api/json".toList }
    let issuer : Request := { method := "GET", address, headers := [name] }
    let issuing := ("GET", "https://ci.test/ci/crumbIssuer/api/json", [name])
    let loadUrl := "https://ci.test/ci/job/shop/getDashboardConfiguration?dashboard=t1"
    let storeUrl := "https://ci.test/ci/job/shop/setDashboardConfiguration"
    ∃ calls, calls.map (·.question) = questions ∧
      (calls.map fun call : Consultation => (call.exchanges issuer).map fun exchange =>
          (exchange.request.method, exchange.request.address.sent, exchange.request.headers)) =
        [[issuing, ("GET", loadUrl, [name])], [issuing, ("GET", loadUrl, [name, crumb])],
          [("POST", storeUrl, [form, name, crumb])]] ∧
      ∀ past now later, calls = past ++ now :: later → now.Follows .ascii settings [name] past := by
  intro settings questions name crumb form base address issuer issuing loadUrl storeUrl
  have root : Http.Address.parse? .ascii (settings.root ++ ['/']) = some base := by decide +kernel
  have issues : Http.Address.parse? .ascii settings.crumbIssuer = some address := by decide +kernel
  have named : (base.login.toList ++ settings.credentials.toList).map basicAuthorization = [name] := by
    decide +kernel
  let client := ofSettings .ascii settings .dashboard
  have observed : (client.consultAll outage ⟨.open, 0⟩ questions).1.map (·.map fun exchange =>
      (exchange.request.method, exchange.request.address.sent, exchange.request.headers)) =
        [[issuing, ("GET", loadUrl, [name])], [issuing, ("GET", loadUrl, [name, crumb])],
          [("POST", storeUrl, [form, name, crumb])]] := by decide +kernel
  have served : ∀ sent ∈ (client.consultAll outage ⟨.open, 0⟩ questions).1, ∀ exchange ∈ sent,
      exchange.IsServed issuer := by decide +kernel
  obtain ⟨found, parsed, runs⟩ := crumbs_are_asked_for_until_settled .dashboard outage root
  obtain rfl := Option.some.inj (parsed.symm.trans issues)
  obtain ⟨-, follows⟩ := runs questions 0
  rw [named] at follows
  obtain ⟨calls, sent, asked, each⟩ := follows served
  refine ⟨calls, asked, ?_, each⟩
  rw [← observed, sent, List.map_map]
  rfl

/-- A root with a login in it: every request names this login, though neither name nor token is set. -/
theorem login_of_root_is_sent :
    let settings : BuildServerSettings := ⟨"http://user:pw@ci.test/ci/", "/job/shop/", none, none⟩
    let client := ofSettings .ascii settings .dashboard
    settings.username = none ∧ settings.apiToken = none ∧
      (client.consultAll outage ⟨.open, 0⟩ [.configuration "t1"]).1.map (·.map fun exchange =>
          (exchange.request.address.sent, exchange.request.headers)) =
        [[("http://ci.test/ci/crumbIssuer/api/json", [("authorization", "Basic dXNlcjpwdw==")]),
          ("http://ci.test/ci/job/shop/getDashboardConfiguration?dashboard=t1",
            [("authorization", "Basic dXNlcjpwdw==")])]] := by
  intro settings client
  refine ⟨rfl, rfl, ?_⟩
  decide +kernel

end Client

end DashletBoard.BuildServer

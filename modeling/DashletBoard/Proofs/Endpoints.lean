/-
Module: DashletBoard.Proofs.Endpoints
Purpose: The endpoints of the build server: which of them a question goes to, by which method and at which
  address, and the header by which a client names itself there.
Main exports: Text.Base64.decode?_encode, BuildServerSettings.endpoint, BuildServer.Request.IsTo,
  BuildServer.Question.SentTo, BuildServer.basicAuthorization, BuildServer.Client.sentTo_requestAt,
  BuildServer.Client.authorizations_ofSettings
-/
import DashletBoard.BuildServer.Client
import Mathlib.Data.List.DropRight

namespace DashletBoard

/-!
### Base64 as it is read

Four digits hold three bytes, of which an equals sign at the end of the group leaves out one.
-/

namespace Text.Base64

/-- The number that a digit stands for. -/
def value? (c : Char) : Option Nat :=
  if 'A' ≤ c ∧ c ≤ 'Z' then some (c.toNat - 'A'.toNat)
  else if 'a' ≤ c ∧ c ≤ 'z' then some (c.toNat - 'a'.toNat + 26)
  else if '0' ≤ c ∧ c ≤ '9' then some (c.toNat - '0'.toNat + 52)
  else if c = '+' then some 62
  else if c = '/' then some 63
  else none

/-- The bytes of a group of digits. -/
def groupBytes? (a b c d : Char) : Option (List UInt8) :=
  match value? a, value? b, value? c, value? d with
  | some x, some y, some z, some w =>
      some [.ofNat (x * 4 + y / 16), .ofNat (y * 16 + z / 4), .ofNat (z * 64 + w)]
  | some x, some y, some z, none =>
      if d = '=' then some [.ofNat (x * 4 + y / 16), .ofNat (y * 16 + z / 4)] else none
  | some x, some y, none, none =>
      if c = '=' ∧ d = '=' then some [.ofNat (x * 4 + y / 16)] else none
  | _, _, _, _ => none

/-- The bytes that a text stands for. -/
def decode? : List Char → Option (List UInt8)
  | [] => some []
  | a :: b :: c :: d :: rest =>
      match groupBytes? a b c d, decode? rest with
      | some bytes, some others => some (bytes ++ others)
      | _, _ => none
  | _ => none

theorem value?_digit (n : Nat) : value? (digit n) = some (n % 64) := by
  have each : ∀ m < 64, value? (digits.getD m 'A') = some m := by decide +kernel
  exact each _ (Nat.mod_lt n (by decide))

theorem ofNat_eq {n : Nat} (byte : UInt8) (same : n % 256 = byte.toNat) : UInt8.ofNat n = byte := by
  rw [← UInt8.toNat_inj, UInt8.toNat_ofNat']
  exact same

/-- What is written is read back. -/
theorem decode?_encode (bytes : List UInt8) : decode? (encode bytes) = some bytes := by
  have padding : value? '=' = none := by decide
  fun_induction encode bytes with
  | case1 => rfl
  | case2 a =>
      have := a.toNat_lt
      simp only [decode?, groupBytes?, value?_digit, padding, and_self, if_true]
      rw [ofNat_eq a (by omega), List.append_nil]
  | case3 a b =>
      have := a.toNat_lt
      have := b.toNat_lt
      simp only [decode?, groupBytes?, value?_digit, padding, if_true]
      rw [ofNat_eq a (by omega), ofNat_eq b (by omega), List.append_nil]
  | case4 a b c rest _ ih =>
      have := a.toNat_lt
      have := b.toNat_lt
      have := c.toNat_lt
      simp only [decode?, groupBytes?, value?_digit, ih]
      rw [ofNat_eq a (by omega), ofNat_eq b (by omega), ofNat_eq c (by omega)]
      rfl

end Text.Base64

/-!
### Addresses of endpoints
-/

namespace BuildServerSettings

/-- The address of the server, without slashes at its end. -/
def root (settings : BuildServerSettings) : List Char := settings.rootUrl.toList.rdropWhile (· == '/')

/-- The address of the issuer of crumbs. -/
def crumbIssuer (settings : BuildServerSettings) : List Char :=
  settings.root ++ "/crumbIssuer/api/json".toList

/-- The address of an endpoint: the server, the path of the actions without slashes around it, and the name
of the endpoint. -/
def endpoint (settings : BuildServerSettings) (name : String) : List Char :=
  settings.root ++ '/' :: (settings.actionPath.toList.dropWhile (· == '/')).rdropWhile (· == '/') ++
    '/' :: name.toList

/-- The name with the token, if both are set. -/
def credentials (settings : BuildServerSettings) : Option (String × String) :=
  settings.username.bind fun name => settings.apiToken.map fun token => (name, token)

end BuildServerSettings

namespace BuildServer

/-- A request is sent by a method to an address, perhaps with a query of its own. -/
structure Request.IsTo (hosts : Http.HostReader) (method : String) (text : List Char)
    (request : Request) : Prop where
  method_eq : request.method = method
  address : ∃ address, Http.Address.parse? hosts text = some address ∧
    request.address = { address with query := request.address.query }

/-- A request goes to the endpoint of a question. -/
inductive Question.SentTo (hosts : Http.HostReader) (settings : BuildServerSettings) (request : Request) :
    Question → Prop where
  | configuration {tab : String}
      (sent : request.IsTo hosts "GET" (settings.endpoint "getDashboardConfiguration")) :
      SentTo hosts settings request (.configuration tab)
  | store {tab : String} {records : List Dashlet}
      (sent : request.IsTo hosts "POST" (settings.endpoint "setDashboardConfiguration")) :
      SentTo hosts settings request (.store tab records)
  | measures {tab group : String}
      (sent : request.IsTo hosts "GET" (settings.endpoint "getAvailableMeasures")) :
      SentTo hosts settings request (.measures tab group)
  | aggregation {tab group measure : String}
      (sent : request.IsTo hosts "GET" (settings.endpoint "getAggregationFromMeasure")) :
      SentTo hosts settings request (.aggregation tab group measure)

/-- The header by which basic authentication names a user with a token: in base64, with a colon between. -/
def basicAuthorization (login : String × String) : String × String :=
  let bytes := Text.utf8Bytes (login.1 ++ ":" ++ login.2).toList
  ("authorization", "Basic " ++ String.ofList (Text.Base64.encode bytes))

/-- The server reads name and token in the header. -/
theorem exists_digits_basicAuthorization (login : String × String) :
    ∃ digits, basicAuthorization login = ("authorization", "Basic " ++ String.ofList digits) ∧
      (Text.Base64.decode? digits).map (fun bytes => Text.ofUtf8? bytes) =
        some (some (login.1 ++ ":" ++ login.2)) := by
  refine ⟨_, rfl, ?_⟩
  rw [Text.Base64.decode?_encode, Option.map_some, Text.ofUtf8?_utf8Bytes, String.ofList_toList]

namespace Client

variable {hosts : Http.HostReader} {settings : BuildServerSettings} {scope : Scope}
  {address : Http.Address} {question : Question}

theorem authorization_eq (login : String × String) : authorization login = basicAuthorization login := by
  rw [basicAuthorization, String.toList_append, String.toList_append, List.append_assoc]
  rfl

theorem login_ofSettings : (ofSettings hosts settings scope).login = settings.credentials := by
  obtain ⟨_, _, username, apiToken⟩ := settings
  cases username with
  | none => rfl
  | some name => cases apiToken <;> rfl

/-- The client names itself by the login of an address, and then by name and token if both are set. -/
theorem authorizations_ofSettings : (ofSettings hosts settings scope).authorizations address =
    (address.login.toList ++ settings.credentials.toList).map basicAuthorization := by
  rw [authorizations, login_ofSettings]
  exact List.map_congr_left fun login _ => authorization_eq login

theorem address?_ofSettings : (ofSettings hosts settings scope).address? question =
    Http.Address.parse? hosts (settings.endpoint question.action) := rfl

theorem crumbRequest?_ofSettings (scope : Scope)
    (parsed : Http.Address.parse? hosts settings.crumbIssuer = some address) :
    (ofSettings hosts settings scope).crumbRequest? = some
      { method := "GET", address
        headers := (ofSettings hosts settings scope).authorizations address } :=
  congrArg (Option.map _) parsed

theorem isTo_requestAt (client : Client) (question : Question) {text : List Char}
    (parsed : Http.Address.parse? hosts text = some address) (headers : List (String × String)) :
    (client.requestAt address headers question).IsTo hosts
      (if question.isPosted then "POST" else "GET") text := by
  rw [requestAt]
  split
  next => exact ⟨rfl, address, parsed, rfl⟩
  next => exact ⟨rfl, address, parsed, rfl⟩

/-- Every question goes to its own endpoint. -/
theorem sentTo_requestAt (leads : (ofSettings hosts settings scope).address? question = some address)
    (headers : List (String × String)) :
    question.SentTo hosts settings
      ((ofSettings hosts settings scope).requestAt address headers question) := by
  have sent := isTo_requestAt (ofSettings hosts settings scope) question leads headers
  cases question with
  | configuration => exact .configuration sent
  | store => exact .store sent
  | measures => exact .measures sent
  | aggregation => exact .aggregation sent

end Client

end BuildServer

end DashletBoard

/-
Module: DashletBoard.Proofs.TabAddresses
Purpose: Every tab and every position can be addressed: a path that is written for them leads to the right
  operation, whatever characters the name of the tab has, and no other tab or position has this path.
Main exports: Text.Percent.writeByte, Text.Percent.encode_eq_flatMap_writeByte, Service.Call.WrittenFor,
  Service.BringsTarget, Service.addressed?, Service.Call.WrittenFor.path_eq,
  Service.readBody_of_brings, Service.tabs_and_positions_are_addressed
-/
import DashletBoard.Proofs.ByteOrder
import DashletBoard.Proofs.CallPaths
import DashletBoard.Proofs.RecordReading
import DashletBoard.Proofs.RecordStores

namespace DashletBoard

/-!
### Escapes byte by byte

Whoever writes a URL looks at bytes.  Bytes of other characters than those of ASCII are never unreserved, so
escaping bytes is the same as escaping characters.
-/

namespace Text.Percent

/-- A byte in a URL: an unreserved character as it is, and every other byte as an escape. -/
def writeByte (byte : UInt8) : List Char :=
  if isUnreserved (Char.ofNat byte.toNat) then [Char.ofNat byte.toNat] else escape byte

/-- A text in a URL, written byte by byte. -/
def writeText (text : String) : String := String.ofList ((utf8Bytes text.toList).flatMap writeByte)

variable {c : Char} {byte : UInt8}

theorem toNat_lt_of_isUnreserved (plain : isUnreserved c = true) : c.toNat < 128 := by
  simp only [isUnreserved, isAlphanumeric, Bool.or_eq_true, beq_iff_eq] at plain
  rcases plain with ((((letter | digit) | rfl) | rfl) | rfl) | rfl
  · rcases Bool.or_eq_true_iff.mp letter with upper | lower
    · have bounds : 'A'.val ≤ c.val ∧ c.val ≤ 'Z'.val := of_decide_eq_true upper
      exact lt_of_le_of_lt bounds.2 (by decide)
    · have bound : c.val ≤ 'z'.val := of_decide_eq_true (Bool.and_eq_true_iff.mp lower).2
      exact lt_of_le_of_lt bound (by decide)
  · exact lt_of_le_of_lt (Char.isDigit_iff_toNat.mp digit).2 (by decide)
  · decide
  · decide
  · decide
  · decide

theorem utf8EncodeChar_of_ascii (ascii : c.toNat < 128) :
    String.utf8EncodeChar c = [UInt8.ofNat c.toNat] := by
  have single : following c.val.toNat = 0 := if_pos (Nat.le_of_lt_succ ascii)
  rw [utf8EncodeChar_eq, firstByte, single, lastBytes, firstMark, Nat.pow_zero, Nat.div_one,
    Nat.zero_add]
  rfl

theorem le_of_mem_lastBytes {code count : Nat} (member : byte ∈ lastBytes code count) :
    128 ≤ byte.toNat := by
  induction count with
  | zero => exact absurd member List.not_mem_nil
  | succ more ih =>
      rcases List.mem_cons.mp member with rfl | later
      · rw [UInt8.toNat_ofNat']
        omega
      · exact ih later

theorem le_of_mem_utf8EncodeChar (beyond : 128 ≤ c.toNat) (member : byte ∈ String.utf8EncodeChar c) :
    128 ≤ byte.toNat := by
  have bound := firstByte_lt (code_lt c)
  have high : 128 ≤ firstByte c.val.toNat := by
    have code : c.toNat = c.val.toNat := rfl
    rw [firstByte, following, if_neg (by omega)]
    split
    next => simp [firstMark]; omega
    next =>
      split
      next => simp [firstMark]; omega
      next => simp [firstMark]; omega
  rw [utf8EncodeChar_eq] at member
  rcases List.mem_cons.mp member with rfl | later
  · rw [UInt8.toNat_ofNat']
    omega
  · exact le_of_mem_lastBytes later

theorem writeByte_of_high (high : 128 ≤ byte.toNat) : writeByte byte = escape byte := by
  have valid : byte.toNat.isValidChar := .inl (Nat.lt_trans byte.toNat_lt (by decide))
  have code : (Char.ofNat byte.toNat).toNat = byte.toNat := by
    have same : Char.ofNat byte.toNat = Char.ofNatAux byte.toNat valid := dif_pos valid
    rw [same]
    rfl
  apply if_neg
  intro plain
  have ascii := toNat_lt_of_isUnreserved plain
  omega

theorem flatMap_writeByte_utf8EncodeChar (c : Char) : (String.utf8EncodeChar c).flatMap writeByte =
    if isUnreserved c then [c] else (String.utf8EncodeChar c).flatMap escape := by
  by_cases ascii : c.toNat < 128
  · have same : Char.ofNat (UInt8.ofNat c.toNat).toNat = c := by
      rw [UInt8.toNat_ofNat', Nat.mod_eq_of_lt (by omega), Char.ofNat_toNat]
    rw [utf8EncodeChar_of_ascii ascii, List.flatMap_singleton, List.flatMap_singleton, writeByte, same]
  · have escaped : ¬ isUnreserved c = true := fun plain => ascii (toNat_lt_of_isUnreserved plain)
    rw [if_neg escaped]
    apply List.flatMap_congr
    intro byte member
    exact writeByte_of_high (le_of_mem_utf8EncodeChar (Nat.not_lt.mp ascii) member)

/-- Escaping the bytes of a text escapes its characters. -/
theorem encode_eq_flatMap_writeByte (text : List Char) :
    encode isUnreserved text = (utf8Bytes text).flatMap writeByte := by
  rw [encode, utf8Bytes, List.flatMap_assoc]
  congr 1
  funext c
  exact (flatMap_writeByte_utf8EncodeChar c).symm

end Text.Percent

namespace Service

open Http Text

/-!
### Paths that are written by hand
-/

namespace Call

/-- The tab that a call is about. -/
def tab? : Call → Option String
  | .showTab tab | .selectTab tab | .enterEdit tab | .cancelEdit tab | .save tab | .updateForm tab
  | .addWidget tab | .removeWidget tab _ | .moveWidget tab _ | .setShown tab _ => some tab
  | .health | .listTabs | .overview _ => none

/-- The position that a call is about. -/
def position? : Call → Option Position
  | .removeWidget _ p | .moveWidget _ p | .setShown _ p => some p
  | _ => none

/-- The part of a path that names a widget of a tab, with column and row in decimal. -/
def widgetPath (p : Position) : String :=
  "/widgets/" ++ toString p.col.toNat ++ "/" ++ toString p.row.toNat

/-- What is written in a path behind the name of the tab. -/
def behindTab : Call → String
  | .selectTab _ => "/select"
  | .enterEdit _ => "/edit"
  | .cancelEdit _ => "/cancel"
  | .save _ => "/save"
  | .updateForm _ => "/form"
  | .addWidget _ => "/widgets"
  | .removeWidget _ p => widgetPath p
  | .moveWidget _ p => widgetPath p ++ "/move"
  | .setShown _ p => widgetPath p ++ "/visibility"
  | _ => ""

/-- A request is written for a call on a tab: with the bytes of the tab's name escaped, perhaps with a query or
a fragment behind the path, and with the method of the call. -/
structure WrittenFor (call : Call) (tab : String) (request : Request) : Prop where
  about : call.tab? = some tab
  named : tab ≠ ""
  target : ∃ behind : List Char, (∀ c ∈ behind.head?, c = '?' ∨ c = '#') ∧
    request.target =
      "/tabs/" ++ Percent.writeText tab ++ call.behindTab ++ String.ofList behind
  method : request.method = call.endpoint.method

variable {call : Call} {tab : String} {request : Request}

theorem encode_toDigits (n : Nat) :
    Percent.encode Percent.isUnreserved (Nat.toDigits 10 n) = Nat.toDigits 10 n := by
  apply Percent.encode_of_plain
  intro c member
  have digit : c.isDigit = true := (Numeral.isDigits_toDigits n).decimal c member
  simp [Percent.isUnreserved, Percent.isAlphanumeric, digit]

theorem toList_writeText (tab : String) : (Percent.writeText tab).toList = sentParameter tab := by
  rw [Percent.writeText, String.toList_ofList, sentParameter, Percent.encode_eq_flatMap_writeByte]

/-- The path of a call is the one that is written for it. -/
theorem path_eq_written (about : call.tab? = some tab) :
    call.path = ("/tabs/" ++ Percent.writeText tab ++ call.behindTab).toList := by
  rw [String.toList_append, String.toList_append, toList_writeText]
  cases call with
  | health | listTabs | overview => cases about
  | showTab | selectTab | enterEdit | cancelEdit | save | updateForm | addWidget =>
      obtain rfl := Option.some.inj about
      simp [path, endpoint, parameters, Endpoint.pattern, fillIn, behindTab, sentParameter]
  | removeWidget | moveWidget | setShown =>
      obtain rfl := Option.some.inj about
      simp [path, endpoint, parameters, Endpoint.pattern, fillIn, behindTab, widgetPath, sentParameter,
        encode_toDigits]

theorem WrittenFor.path_eq (written : call.WrittenFor tab request) : request.path = call.path := by
  obtain ⟨behind, ends, target⟩ := written.target
  refine path_of_target_append ?_ ends
  rw [target, path_eq_written written.about, String.ofList_append, String.ofList_toList]

theorem WrittenFor.addressable (written : call.WrittenFor tab request) : call.IsAddressable := by
  have about := written.about
  cases call with
  | showTab name =>
      obtain rfl := Option.some.inj about
      exact written.named
  | overview => cases about
  | _ => trivial

end Call

/-!
### Targets of moves
-/

/-- The fields of the target of a move. -/
def targetFields (target : Position) : Fields := [("col", .word target.col), ("row", .word target.row)]

/-- A request brings the target of a move: its content type announces JSON, and its body is any text of any
value that carries a column and a row. -/
structure BringsTarget (target : Position) (request : Request) : Prop where
  announced : request.contentType.any announcesJson = true
  body : ∃ value, moveShape.IsRecord (targetFields target) [] value ∧ value.IsWrittenAs request.body

section Targets

variable {target : Position} {request : Request}

theorem fits_targetFields (target : Position) : moveShape.Fits (targetFields target) [] where
  kinds := .cons ⟨rfl, .word _⟩ <| .cons ⟨rfl, .word _⟩ .nil
  distinct := by
    simp only [targetFields, List.map_cons, List.map_nil]
    decide
  optional _ _ _ among := nomatch among

/-- The target of a move is read from every body that brings it. -/
theorem readBody_of_brings (brings : BringsTarget target request) :
    readBody readMoveTarget request = .ok target := by
  obtain ⟨value, record, written⟩ := brings.body
  obtain ⟨found, reads, restores⟩ := Shape.exists_read (fits_targetFields target) record
  have col : found.word "col" 0 = target.col :=
    restores.word (by simp [targetFields]) (fun among => nomatch among)
  have row : found.word "row" 0 = target.row :=
    restores.word (by simp [targetFields]) (fun among => nomatch among)
  have whole : readMoveTarget value.toDraft = .ok target := by
    rw [readMoveTarget, reads, Except.map, col, row]
  rw [readBody, if_pos brings.announced, Draft.parseFront_of_isWrittenAs _ written, whole]

/-- The compact text of column and row brings a target. -/
theorem bringsTarget_text (announced : request.contentType.any announcesJson = true)
    (body : request.body =
      (Json.object [("col", .word target.col), ("row", .word target.row)]).text) :
    BringsTarget target request := by
  let kept : String × Scalar → Bool := fun _ => true
  have none : ∀ pair ∈ targetFields target, kept pair = false → pair ∈ ([] : Fields) :=
    fun _ _ left => nomatch left
  have record := (fits_targetFields target).carries_filter none
  have spelled : ∀ member ∈ [("col", Json.word target.col), ("row", Json.word target.row)],
      member.2.Spelled member.2.render := by
    simp only [List.forall_mem_cons]
    exact ⟨Json.spelled_nat _, Json.spelled_nat _, List.forall_mem_nil _⟩
  exact ⟨announced, _, .object record, body ▸ Json.isWrittenAs_text (Json.spelled_object spelled)⟩

end Targets

/-!
### What a request addresses
-/

/-- The tab that the path of a request addresses, and the position if it addresses one. -/
def addressed? (request : Request) : Option (String × Option Position) :=
  match Endpoint.find? request.path with
  | some (endpoint, sent) =>
    (endpoint.call? sent).bind fun call => call.tab?.map fun tab => (tab, call.position?)
  | none => none

theorem addressed?_of_written {call : Call} {tab : String} {request : Request}
    (written : call.WrittenFor tab request) : addressed? request = some (tab, call.position?) := by
  rw [addressed?, written.path_eq, Call.find?_path written.addressable]
  simp only [Call.call?_path, Option.bind_some, written.about, Option.map_some]

theorem asked_of_written {call : Call} {tab : String} {request : Request}
    (written : call.WrittenFor tab request) : asked request = call.asked request := by
  apply Call.asked_of_path_eq written.addressable written.path_eq
  rw [written.method]
  exact call.endpoint.allows_method

section Answers

variable {σ : Type} {backend overview : Backend σ} {service : Service} {world : σ} {call : Call}
  {tab : String} {request : Request}

/-- A request that is written for a call on a tab is answered as this call. -/
theorem handle?_of_written (written : call.WrittenFor tab request) :
    service.handle? backend overview request world =
      service.answer? backend overview call request world := by
  have other : request.method ≠ "HEAD" := by
    rw [written.method]
    exact call.endpoint.method_ne_head
  have whole (response : Response) : forMethod request.method response = response :=
    if_neg (mt eq_of_beq other)
  rw [handle?_eq, asked_of_written written, answer?_eq]
  simp only [whole, Prod.mk.eta, Option.map_id']

/-- Whatever name a tab has, unless it is empty, and whatever position is meant: a request that is written for
them, with escapes for all bytes of the name that are not unreserved and with decimal numbers, is answered by
the call that it was written for, on this tab and this position.  A move gets the target that is written in
the body.  Requests that are written for another tab or another position address something else. -/
theorem tabs_and_positions_are_addressed (written : call.WrittenFor tab request) :
    service.handle? backend overview request world =
        service.answer? backend overview call request world ∧
      addressed? request = some (tab, call.position?) ∧
      (∀ source target, call = .moveWidget tab source → BringsTarget target request →
        service.handle? backend overview request world =
          service.perform? backend tab (.moveWidget source target) world) ∧
      ∀ other otherTab otherRequest, Call.WrittenFor other otherTab otherRequest →
        otherTab ≠ tab ∨ other.position? ≠ call.position? →
          addressed? otherRequest ≠ addressed? request ∧ otherRequest.path ≠ request.path := by
  have addresses := addressed?_of_written written
  refine ⟨handle?_of_written written, addresses, ?_, ?_⟩
  · rintro source target rfl brings
    rw [handle?_of_written written, answer?, readBody_of_brings brings]
  · intro other otherTab otherRequest otherWritten different
    have apart : addressed? otherRequest ≠ addressed? request := by
      rw [addresses, addressed?_of_written otherWritten]
      intro same
      obtain ⟨sameTab, samePosition⟩ := Prod.mk.inj (Option.some.inj same)
      rcases different with tabs | positions
      · exact tabs sameTab
      · exact positions samePosition
    refine ⟨apart, fun samePath => apart ?_⟩
    rw [addressed?, addressed?, samePath]

end Answers

/-- A widget is moved to the last row on a tab whose name is made of signs that mean something in a URL, and
another tab is named like the end of a path. -/
theorem tabs_and_positions_are_addressed_signs :
    let enter : Request := { method := "POST", target := "/tabs/50%25%2F%C3%BC%2B%3F%23/edit" }
    let move : Request :=
      { method := "POST", target := "/tabs/50%25%2F%C3%BC%2B%3F%23/widgets/4/0/move?x=1#y",
        contentType := some "application/json", body := "\x7b\"col\":2,\"row\":4294967295\x7d" }
    let edit : Request := { method := "POST", target := "/tabs/edit/edit" }
    ∃ start place last : Service × Memory, ∃ view response : Response,
      initialize? Memory.backend {} ["50%/ü+?#", "edit"] none
          { records := [{ Dashlet.overview "50%/ü+?#" with position := ⟨4, 0⟩ }] } = some start ∧
        start.1.handle? Memory.backend Memory.backend enter start.2 = some (view, place) ∧
        place.1.handle? Memory.backend Memory.backend move place.2 = some (response, last) ∧
        place.1.perform? Memory.backend "50%/ü+?#" (.moveWidget ⟨4, 0⟩ ⟨2, 4294967295⟩) place.2 =
          some (response, last) ∧
        response.status = 200 ∧ addressed? move = some ("50%/ü+?#", some ⟨4, 0⟩) ∧
        addressed? edit = some ("edit", none) ∧ addressed? edit ≠ addressed? move := by
  intro enter move edit
  have moves : (Call.moveWidget "50%/ü+?#" ⟨4, 0⟩).WrittenFor "50%/ü+?#" move :=
    ⟨rfl, by decide, ⟨"?x=1#y".toList, by simp, by decide +kernel⟩, rfl⟩
  have edits : (Call.enterEdit "edit").WrittenFor "edit" edit :=
    ⟨rfl, by decide, ⟨[], by simp, by decide +kernel⟩, rfl⟩
  have brings : BringsTarget ⟨2, 4294967295⟩ move :=
    bringsTarget_text (by decide +kernel) (by decide +kernel)
  have observed : ((initialize? Memory.backend {} ["50%/ü+?#", "edit"] none
      { records := [{ Dashlet.overview "50%/ü+?#" with position := ⟨4, 0⟩ }] }).bind fun start =>
        (start.1.handle? Memory.backend Memory.backend enter start.2).bind fun entered =>
          (entered.2.1.handle? Memory.backend Memory.backend move entered.2.2).map fun moved =>
            moved.1.status) = some 200 := by
    decide +kernel
  obtain ⟨start, started, observed⟩ := Option.bind_eq_some_iff.mp observed
  obtain ⟨⟨view, place⟩, entered, observed⟩ := Option.bind_eq_some_iff.mp observed
  obtain ⟨⟨response, last⟩, moved, succeeded⟩ := Option.map_eq_some_iff.mp observed
  obtain ⟨-, addresses, performed, apart⟩ :=
    @tabs_and_positions_are_addressed _ Memory.backend Memory.backend place.1 place.2 _ _ _ moves
  have performs := performed _ _ rfl brings
  rw [moved] at performs
  exact ⟨start, place, last, view, response, started, entered, moved, performs.symm, succeeded, addresses,
    addressed?_of_written edits, (apart _ _ _ edits (.inl (by decide))).1⟩

end Service

end DashletBoard

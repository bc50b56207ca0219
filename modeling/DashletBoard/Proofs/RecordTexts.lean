/-
Module: DashletBoard.Proofs.RecordTexts
Purpose: The texts of widgets and of lists of widgets: what is written is read back, and so is every other
  text that carries the same fields.
Main exports: Dashlet.fields, Dashlet.defaults, Dashlet.IsRecord, Dashlet.parse_of_isRecord,
  Dashlet.parseList_of_records, Dashlet.records_are_read_back
-/
import DashletBoard.BuildServer.Client
import DashletBoard.Proofs.RecordReading

namespace DashletBoard.Dashlet

/-!
### The fields of a widget
-/

/-- The fields of a widget in the order of their declaration. -/
def fields (d : Dashlet) : Fields :=
  [("dashboard", .text d.dashboard), ("id", .text d.id), ("col", .word d.position.col),
    ("row", .word d.position.row), ("show", .flag d.shown), ("chartDashlet", .text d.chartDashlet),
    ("measure", .text d.measure), ("customName", .text d.customName),
    ("customBuildCount", .text d.customBuildCount), ("aggregation", .text d.aggregation),
    ("description", Scalar.optional d.description), ("html", Scalar.optional d.html)]

/-- The fields that may be left out, with the values that they have then. -/
def defaults : Fields :=
  [("show", .flag true), ("chartDashlet", .text ""), ("measure", .text ""), ("customName", .text ""),
    ("customBuildCount", .text ""), ("aggregation", .text ""), ("description", .absent),
    ("html", .absent)]

/-- A JSON value carries the fields of a widget. -/
abbrev IsRecord (d : Dashlet) : Json → Prop := shape.IsRecord d.fields defaults

variable {d : Dashlet}

theorem fits (d : Dashlet) : shape.Fits d.fields defaults where
  kinds :=
    .cons ⟨rfl, .text _⟩ <| .cons ⟨rfl, .text _⟩ <| .cons ⟨rfl, .word _⟩ <| .cons ⟨rfl, .word _⟩ <|
    .cons ⟨rfl, .flag _⟩ <| .cons ⟨rfl, .text _⟩ <| .cons ⟨rfl, .text _⟩ <| .cons ⟨rfl, .text _⟩ <|
    .cons ⟨rfl, .text _⟩ <| .cons ⟨rfl, .text _⟩ <| .cons ⟨rfl, FieldKind.holds_optional _⟩ <|
    .cons ⟨rfl, FieldKind.holds_optional _⟩ .nil
  distinct := by
    simp only [fields, List.map_cons, List.map_nil]
    decide
  optional := by decide

/-- A widget is restored from the fields that were found. -/
theorem ofFields_of_restores {found : Fields} (restores : found.Restores d.fields defaults) :
    ofFields found = d := by
  have dashboard : found.text "dashboard" "" = d.dashboard :=
    restores.text (by simp [fields]) (by simp [defaults])
  have id : found.text "id" "" = d.id := restores.text (by simp [fields]) (by simp [defaults])
  have col : found.word "col" 0 = d.position.col :=
    restores.word (by simp [fields]) (by simp [defaults])
  have row : found.word "row" 0 = d.position.row :=
    restores.word (by simp [fields]) (by simp [defaults])
  have shown : found.flag "show" true = d.shown :=
    restores.flag (by simp [fields]) (by simp [defaults])
  have chartDashlet : found.text "chartDashlet" "" = d.chartDashlet :=
    restores.text (by simp [fields]) (by simp [defaults])
  have measure : found.text "measure" "" = d.measure :=
    restores.text (by simp [fields]) (by simp [defaults])
  have customName : found.text "customName" "" = d.customName :=
    restores.text (by simp [fields]) (by simp [defaults])
  have customBuildCount : found.text "customBuildCount" "" = d.customBuildCount :=
    restores.text (by simp [fields]) (by simp [defaults])
  have aggregation : found.text "aggregation" "" = d.aggregation :=
    restores.text (by simp [fields]) (by simp [defaults])
  have description : found.text? "description" = d.description :=
    restores.text? (by simp [fields]) (by simp [defaults])
  have html : found.text? "html" = d.html :=
    restores.text? (by simp [fields]) (by simp [defaults])
  rw [ofFields, dashboard, id, col, row, shown, chartDashlet, measure, customName, customBuildCount,
    aggregation, description, html]

/-!
### Reading
-/

theorem ofDraft_of_isRecord {value : Json} (record : d.IsRecord value) :
    ofDraft value.toDraft = .ok d := by
  obtain ⟨found, reads, restores⟩ := Shape.exists_read d.fits record
  rw [ofDraft, reads, Except.map, ofFields_of_restores restores]

theorem readEach_of_records {ds : List Dashlet} {values : List Json}
    (records : List.Forall₂ IsRecord ds values) :
    Draft.readEach ofDraft (Json.toDrafts values) true = .ok ds := by
  induction records with
  | nil => rfl
  | cons record _ ih =>
      simp only [Json.toDrafts, Draft.readEach, ofDraft_of_isRecord record, ih]

/-- Every text of a value that carries a widget is read as this widget. -/
theorem parse_of_isRecord {value : Json} {text : String} (record : d.IsRecord value)
    (written : value.IsWrittenAs text) : parse text = .ok d := by
  rw [parse, Draft.parse_of_isWrittenAs ofDraft written, ofDraft_of_isRecord record]

/-- Every text of a list of values that carry widgets is read as these widgets in their order. -/
theorem parseList_of_records {ds : List Dashlet} {values : List Json} {text : String}
    (records : List.Forall₂ IsRecord ds values) (written : (Json.array values).IsWrittenAs text) :
    parseList text = .ok ds := by
  rw [parseList, Draft.parse_of_isWrittenAs _ written, Json.toDraft, Draft.readList,
    readEach_of_records records]

/-!
### What is written
-/

/-- All fields are written but an optional text that is missing. -/
theorem toJson_eq (d : Dashlet) :
    d.toJson = .object ((d.fields.filter fun pair => pair.2 != .absent).map fun pair =>
      (pair.1, pair.2.toJson)) := by
  cases description : d.description <;> cases html : d.html <;>
    simp [toJson, fields, optionalMember, Scalar.optional, Scalar.toJson, description, html]

theorem isRecord_toJson (d : Dashlet) : d.IsRecord d.toJson := by
  have left : ∀ pair ∈ d.fields, (pair.2 != .absent) = false → pair ∈ defaults := by
    simp [fields, defaults]
  rw [toJson_eq]
  exact .object (d.fits.carries_filter left)

theorem spelled_toJson (d : Dashlet) : d.toJson.Spelled d.toJson.render := by
  rw [toJson_eq]
  apply Json.spelled_object
  intro member among
  obtain ⟨pair, -, rfl⟩ := List.mem_map.mp among
  exact pair.2.spelled_toJson

theorem spelled_records (ds : List Dashlet) :
    (Json.array (ds.map toJson)).Spelled (Json.array (ds.map toJson)).render := by
  apply Json.spelled_array
  intro item among
  obtain ⟨d, -, rfl⟩ := List.mem_map.mp among
  exact d.spelled_toJson

/-- What is written for a widget, and for a list of widgets, is read back.  So is every other text of a
value that carries a widget: of an object with members for its fields in any order, each at most once, where
fields with their default values may be left out and members of other names may be added, and of a list of
its fields in their order, where an end of defaults may be cut off. -/
theorem records_are_read_back :
    (∀ d : Dashlet, parse d.toJson.text = .ok d) ∧
      (∀ ds, parseList (BuildServer.Question.recordsText ds) = .ok ds) ∧
      (∀ d value text, IsRecord d value → value.IsWrittenAs text → parse text = .ok d) ∧
      ∀ ds values text, List.Forall₂ IsRecord ds values → (Json.array values).IsWrittenAs text →
        parseList text = .ok ds := by
  refine ⟨fun d => ?_, fun ds => ?_, ?_, ?_⟩
  · exact parse_of_isRecord d.isRecord_toJson (Json.isWrittenAs_text d.spelled_toJson)
  · have records : List.Forall₂ IsRecord ds (ds.map toJson) := by
      rw [List.forall₂_map_right_iff, List.forall₂_same]
      exact fun d _ => d.isRecord_toJson
    exact parseList_of_records records (Json.isWrittenAs_text (spelled_records ds))
  · exact fun d value text => parse_of_isRecord
  · exact fun ds values text => parseList_of_records

/-- A record in another order with a member of an unknown name, and a list that ends after the row. -/
theorem records_are_read_back_scrambled :
    let d : Dashlet := { dashboard := "t1", id := "cpu", position := ⟨1, 2⟩ }
    parse " \x7b\"row\":2,\"x\":[],\"id\":\"cpu\",\"col\":1,\"html\":null,\"dashboard\":\"t1\"\x7d\n" =
        .ok d ∧
      parseList "[[\"t1\",\"cpu\",1,2]]" = .ok [d] := by
  intro d
  obtain ⟨-, -, single, list⟩ := records_are_read_back
  constructor
  · let members : List (String × Json) :=
      [("row", .word 2), ("x", .array []), ("id", .string "cpu"), ("col", .word 1), ("html", .null),
        ("dashboard", .string "t1")]
    have carries : shape.Carries d.fields defaults members := by
      refine ⟨by decide, ?_, ?_⟩
      · simp [members, fields, Shape.knows, Shape.field?, shape, Scalar.toJson, d, Scalar.optional]
      · simp [members, fields, defaults, d, Scalar.optional]
    have spelled : (Json.object members).Spelled (Json.object members).render := by
      apply Json.spelled_object
      simp only [members, List.forall_mem_cons]
      exact ⟨Json.spelled_nat _, Json.spelled_array (List.forall_mem_nil _), Json.spelled_string _,
        Json.spelled_nat _, .null, Json.spelled_string _, List.forall_mem_nil _⟩
    apply single d (.object members) _ (.object carries)
    refine ⟨' ' :: (Json.object members).render, ['\n'], by decide +kernel, .blank rfl spelled, ?_⟩
    exact List.forall_mem_singleton.mpr rfl
  · let value : Json := .array [.string "t1", .string "cpu", .word 1, .word 2]
    have record : d.IsRecord value := .list 4 (by decide)
    have spelled : (Json.array [value]).Spelled (Json.array [value]).render := by
      apply Json.spelled_array
      rw [List.forall_mem_singleton]
      apply Json.spelled_array
      simp only [List.forall_mem_cons]
      exact ⟨Json.spelled_string _, Json.spelled_string _, Json.spelled_nat _, Json.spelled_nat _,
        List.forall_mem_nil _⟩
    have text : (Json.array [value]).text = "[[\"t1\",\"cpu\",1,2]]" := by decide +kernel
    exact list [d] [value] _ (.cons record .nil) (text ▸ Json.isWrittenAs_text spelled)

end DashletBoard.Dashlet

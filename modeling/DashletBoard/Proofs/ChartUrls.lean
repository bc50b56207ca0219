/-
Module: DashletBoard.Proofs.ChartUrls
Purpose: The URL of a chart tells its parameters, whatever characters are in them, so that two widgets share
  a chart only if they agree on all of them.
Main exports: Text.Percent.IsEscaped, Text.Percent.isEscaped_encode, Text.Percent.readUrl?,
  Dashlet.chartParameters_eq, Dashlet.readUrl?_chartUrl, Dashlet.chart_urls_tell_their_parameters
-/
import DashletBoard.Chart
import DashletBoard.Proofs.EscapedTexts

namespace DashletBoard

namespace Text

/-!
### Escaped texts
-/

namespace Percent

/-- Unreserved characters and escapes, and nothing else. -/
inductive IsEscaped : List Char → Prop where
  | nil : IsEscaped []
  | unreserved {c : Char} {rest : List Char} (plain : isUnreserved c = true) (escaped : IsEscaped rest) :
      IsEscaped (c :: rest)
  | escape {high low : Char} {rest : List Char} (first : high ∈ "0123456789ABCDEF".toList)
      (second : low ∈ "0123456789ABCDEF".toList) (escaped : IsEscaped rest) :
      IsEscaped ('%' :: high :: low :: rest)

theorem hexDigit_mem : ∀ n < 16, hexDigit n ∈ "0123456789ABCDEF".toList := by decide

variable {text rest : List Char}

theorem IsEscaped.escapes_append (bytes : List UInt8) (escaped : IsEscaped rest) :
    IsEscaped (bytes.flatMap Percent.escape ++ rest) := by
  induction bytes with
  | nil => exact escaped
  | cons byte others ih =>
      have bound : byte.toNat < 256 := byte.toNat_lt
      exact .escape (hexDigit_mem _ (by omega)) (hexDigit_mem _ (by omega)) ih

theorem isEscaped_encode (text : List Char) : IsEscaped (encode isUnreserved text) := by
  induction text with
  | nil => exact .nil
  | cons c rest ih =>
      rw [encode, List.flatMap_cons, ← encode]
      split
      next plain => exact .unreserved plain ih
      next => exact ih.escapes_append _

theorem IsEscaped.of_plain (plain : ∀ c ∈ text, isUnreserved c = true) : IsEscaped text := by
  rw [← encode_of_plain plain]
  exact isEscaped_encode text

/-!
### Reading a URL

What is before the first question mark is the path.  What is after it is a list of pairs, each of them cut
at its first equals sign.
-/

/-- A name and a value, both read from their escapes. -/
def readPair? (piece : List Char) : Option (String × String) :=
  match splitAtFirst '=' piece with
  | (_, none) => none
  | (name, some value) =>
    match decode? name, decode? value with
    | some name, some value => some (name, value)
    | _, _ => none

/-- The path and the pairs of a URL. -/
def readUrl? (url : String) : Option (String × List (String × String)) :=
  match splitAtFirst '?' url.toList with
  | (_, none) => none
  | (path, some query) =>
    ((pieces '&' query).mapM readPair?).map fun pairs => (String.ofList path, pairs)

end Percent

end Text

namespace Dashlet

open Text

variable {d other : Dashlet} {size otherSize : ChartSize} {parameter : String × String}

/-!
### Parameters
-/

/-- A parameter that is left out if it is empty. -/
def optionalParameter (name value : String) : List (String × String) :=
  if value = "" then [] else [(name, value)]

theorem filter_cons_optional (name value : String) (rest : List (String × String)) :
    (((name, value) :: rest).filter fun parameter => !parameter.2.isEmpty) =
      optionalParameter name value ++ rest.filter fun parameter => !parameter.2.isEmpty := by
  rw [List.filter_cons, optionalParameter]
  by_cases empty : value = "" <;> simp [empty]

theorem chartParameters_eq (d : Dashlet) (size : ChartSize) :
    d.chartParameters size =
      [("width", toString size.width.toNat), ("height", toString size.height.toNat), ("id", d.id)] ++
        optionalParameter "customName" d.customName ++
        optionalParameter "customBuildCount" d.customBuildCount ++
        optionalParameter "aggregation" d.aggregation := by
  rw [chartParameters, filter_cons_optional, filter_cons_optional, filter_cons_optional, List.filter_nil,
    List.append_nil, List.append_assoc, List.append_assoc]

theorem mem_optionalParameter {name value : String} :
    parameter ∈ optionalParameter name value ↔ value ≠ "" ∧ parameter = (name, value) := by
  rw [optionalParameter]
  split
  next empty => simp [empty]
  next filled => simp [filled]

theorem mem_chartParameters : parameter ∈ d.chartParameters size ↔
    parameter = ("width", toString size.width.toNat) ∨
      parameter = ("height", toString size.height.toNat) ∨ parameter = ("id", d.id) ∨
      (d.customName ≠ "" ∧ parameter = ("customName", d.customName)) ∨
      (d.customBuildCount ≠ "" ∧ parameter = ("customBuildCount", d.customBuildCount)) ∨
      (d.aggregation ≠ "" ∧ parameter = ("aggregation", d.aggregation)) := by
  simp [chartParameters_eq, mem_optionalParameter]

/-- The names of parameters need no escapes. -/
theorem plain_of_mem (member : parameter ∈ d.chartParameters size) :
    ∀ c ∈ parameter.1.toList, Percent.isUnreserved c = true := by
  have plain : ∀ name ∈ ["width", "height", "id", "customName", "customBuildCount", "aggregation"],
      name.toList.all Percent.isUnreserved = true := by decide
  apply List.all_eq_true.mp
  apply plain
  rw [mem_chartParameters] at member
  rcases member with rfl | rfl | rfl | ⟨-, rfl⟩ | ⟨-, rfl⟩ | ⟨-, rfl⟩ <;> simp

theorem chartParameterText_eq (member : parameter ∈ d.chartParameters size) :
    chartParameterText parameter =
      Percent.encode Percent.isUnreserved parameter.1.toList ++
        '=' :: Percent.encode Percent.isUnreserved parameter.2.toList := by
  rw [chartParameterText, Percent.encode_of_plain (plain_of_mem member)]

/-!
### Reading a chart's URL

Neither an equals sign nor an ampersand is left in a name or a value, so that the cuts are where pairs and
values end.
-/

theorem readPair?_chartParameterText (member : parameter ∈ d.chartParameters size) :
    Percent.readPair? (chartParameterText parameter) = some parameter := by
  have decoded (text : String) : Percent.decode? (Percent.encode Percent.isUnreserved text.toList) =
      some text := by
    rw [Percent.decode?_encode rfl, String.ofList_toList]
  rw [chartParameterText_eq member, Percent.readPair?,
    splitAtFirst_append_cons (Percent.not_mem_encode rfl (by decide) rfl _)]
  simp only [decoded]

theorem not_mem_chartParameterText (member : parameter ∈ d.chartParameters size) :
    '&' ∉ chartParameterText parameter := by
  have free (text : List Char) : '&' ∉ Percent.encode Percent.isUnreserved text :=
    Percent.not_mem_encode rfl (by decide) rfl text
  rw [chartParameterText_eq member]
  simp [free]

/-- The part of a chart's URL after the question mark. -/
def chartQuery (d : Dashlet) (size : ChartSize) : List Char :=
  List.intercalate ['&'] ((d.chartParameters size).map chartParameterText)

theorem toList_chartUrl (d : Dashlet) (size : ChartSize) :
    (d.chartUrl size).toList = d.kind.chartPath.toList ++ '?' :: d.chartQuery size :=
  String.toList_ofList

theorem pieces_chartQuery (d : Dashlet) (size : ChartSize) :
    pieces '&' (d.chartQuery size) = (d.chartParameters size).map chartParameterText := by
  rw [chartQuery, ← joinPieces_eq_intercalate]
  apply pieces_joinPieces
  · simp [chartParameters]
  · exact List.forall_mem_map.mpr fun parameter => not_mem_chartParameterText

/-- The parameters are read back from the URL. -/
theorem readUrl?_chartUrl (d : Dashlet) (size : ChartSize) :
    Percent.readUrl? (d.chartUrl size) = some (d.kind.chartPath, d.chartParameters size) := by
  have free : '?' ∉ d.kind.chartPath.toList := by
    cases d.kind <;> decide
  rw [Percent.readUrl?, toList_chartUrl, splitAtFirst_append_cons free]
  simp only [pieces_chartQuery, mapM_map_eq_some fun _ => readPair?_chartParameterText,
    Option.map_some, String.ofList_toList]

/-!
### Agreement
-/

/-- A parameter that is left out is empty, so that it is told as well. -/
theorem eq_of_optional {value otherValue : String}
    (same : ∀ text, value ≠ "" ∧ text = value ↔ otherValue ≠ "" ∧ text = otherValue) :
    value = otherValue := by
  by_cases empty : value = ""
  · by_cases blank : otherValue = ""
    · rw [empty, blank]
    · exact absurd empty ((same otherValue).mpr ⟨blank, rfl⟩).1
  · exact ((same value).mp ⟨empty, rfl⟩).2

/-- A word is told by its digits. -/
theorem eq_of_toString_eq {n m : UInt32} (same : toString n.toNat = toString m.toNat) : n = m := by
  have digits : Nat.toDigits 10 n.toNat = Nat.toDigits 10 m.toNat := String.ofList_injective same
  apply UInt32.toNat_inj.mp
  rw [← Nat.ofDigitChars_ten_toDigits (n := n.toNat), digits, Nat.ofDigitChars_ten_toDigits]

/-- Every parameter has a name of its own, so that the parameters with a name tell one value. -/
theorem eq_of_chartParameters_eq
    (same : d.chartParameters size = other.chartParameters otherSize) :
    size = otherSize ∧ d.id = other.id ∧ d.customName = other.customName ∧
      d.customBuildCount = other.customBuildCount ∧ d.aggregation = other.aggregation := by
  have told (name text : String) :
      (name, text) ∈ d.chartParameters size ↔ (name, text) ∈ other.chartParameters otherSize := by
    rw [same]
  simp only [mem_chartParameters, Prod.mk.injEq] at told
  have width : size.width = otherSize.width := by
    apply eq_of_toString_eq
    simpa using told "width" (toString size.width.toNat)
  have height : size.height = otherSize.height := by
    apply eq_of_toString_eq
    simpa using told "height" (toString size.height.toNat)
  have id : d.id = other.id := by simpa using told "id" d.id
  have name : d.customName = other.customName :=
    eq_of_optional fun text => by simpa using told "customName" text
  have count : d.customBuildCount = other.customBuildCount :=
    eq_of_optional fun text => by simpa using told "customBuildCount" text
  have aggregation : d.aggregation = other.aggregation :=
    eq_of_optional fun text => by simpa using told "aggregation" text
  cases size
  cases otherSize
  exact ⟨by simp_all, id, name, count, aggregation⟩

/-- The path of a chart is told by the kind of the widget, which is told by its id. -/
theorem chartPath_kind (d : Dashlet) :
    d.kind.chartPath = if d.id = "unittest_overview" then "./testRunGraph" else "./summarizerGraph" := by
  rw [kind, overviewId]
  exact apply_ite WidgetKind.chartPath _ _ _

/-- The URL of a chart is the path for the kind of the widget, which is one for the overview of unit tests and
another one for all measurements, a question mark, and pairs of names and values, with an equals sign in each
pair and ampersands between them.  Names and values have nothing in them but unreserved characters and
escapes.  Reading the URL gives width, height and id, then those of the other three parameters that are not
empty, all with their exact texts.  So URLs are equal exactly if the sizes are, and the widgets agree on id,
name, build count and aggregation. -/
theorem chart_urls_tell_their_parameters (d : Dashlet) (size : ChartSize) :
    let path := if d.id = "unittest_overview" then "./testRunGraph" else "./summarizerGraph"
    (∃ pairs : List (List Char × List Char),
      (d.chartUrl size).toList = path.toList ++
          '?' :: ['&'].intercalate (pairs.map fun pair => pair.1 ++ '=' :: pair.2) ∧
        ∀ pair ∈ pairs, Percent.IsEscaped pair.1 ∧ Percent.IsEscaped pair.2) ∧
      Percent.readUrl? (d.chartUrl size) =
        some (path,
          [("width", toString size.width.toNat), ("height", toString size.height.toNat),
              ("id", d.id)] ++
            (if d.customName = "" then [] else [("customName", d.customName)]) ++
            (if d.customBuildCount = "" then [] else [("customBuildCount", d.customBuildCount)]) ++
            (if d.aggregation = "" then [] else [("aggregation", d.aggregation)])) ∧
      ∀ (other : Dashlet) (otherSize : ChartSize),
        d.chartUrl size = other.chartUrl otherSize ↔
          size = otherSize ∧ d.id = other.id ∧ d.customName = other.customName ∧
            d.customBuildCount = other.customBuildCount ∧ d.aggregation = other.aggregation := by
  intro path
  have kindPath : d.kind.chartPath = path := d.chartPath_kind
  refine ⟨?_, ?_, fun other otherSize => ⟨fun same => ?_, ?_⟩⟩
  · refine ⟨(d.chartParameters size).map fun parameter => (parameter.1.toList,
      Percent.encode Percent.isUnreserved parameter.2.toList), ?_,
      List.forall_mem_map.mpr fun parameter member => ?_⟩
    · rw [toList_chartUrl, kindPath, List.map_map]
      rfl
    · exact ⟨.of_plain (plain_of_mem member), Percent.isEscaped_encode _⟩
  · rw [readUrl?_chartUrl, kindPath, chartParameters_eq]
    rfl
  · have read := congrArg Percent.readUrl? same
    rw [readUrl?_chartUrl, readUrl?_chartUrl] at read
    exact eq_of_chartParameters_eq (Prod.mk.inj (Option.some.inj read)).2
  · rintro ⟨rfl, id, name, count, aggregation⟩
    simp only [chartUrl, kind, chartParameters, id, name, count, aggregation]

/-- The overview, and a measurement whose id and name hold all that separates or escapes. -/
theorem chart_urls_tell_their_parameters_escaped :
    let overview : Dashlet := { dashboard := "t1", id := "unittest_overview" }
    let measurement : Dashlet := { dashboard := "t1", id := "a&b=c", customName := "50% é" }
    overview.chartUrl .thumbnail = "./testRunGraph?width=410&height=300&id=unittest_overview" ∧
      measurement.chartUrl .lightbox =
        "./summarizerGraph?width=800&height=585&id=a%26b%3Dc&customName=50%25%20%C3%A9" ∧
      Percent.readUrl? (measurement.chartUrl .lightbox) = some ("./summarizerGraph",
        [("width", "800"), ("height", "585"), ("id", "a&b=c"), ("customName", "50% é")]) := by
  intro overview measurement
  refine ⟨by decide +kernel, by decide +kernel, ?_⟩
  exact (chart_urls_tell_their_parameters measurement .lightbox).2.1.trans (by decide +kernel)

end Dashlet

end DashletBoard

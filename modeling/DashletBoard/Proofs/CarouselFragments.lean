/-
Module: DashletBoard.Proofs.CarouselFragments
Purpose: What the carousel makes of the stored fragments.  A fragment has a place for the test case and a
  place for the link to the page, and both are filled as they are stored, unless the name of the test case
  brings a link of its own before the stored one.
Main exports: FragmentPart, fragmentParts, filledFragment, testCaseTakesLink, filledText_testCase,
  filledText_link, resolveFragment_eq_filledFragment_iff, resolveFragment_of_taken,
  testCaseTakesLink_of_plain, Service.stored_placeholders_are_filled_iff, Service.test_case_takes_the_link
-/
import DashletBoard.Overview
import DashletBoard.Proofs.FirstOccurrences
import DashletBoard.Proofs.RecordStores
import DashletBoard.Proofs.ServiceRequests
import Mathlib.Data.List.Forall2

namespace DashletBoard

/-!
### The places of a stored fragment
-/

/-- Stands for the test case in a stored fragment. -/
def testCaseMark : List Char := ['#', '#', '#']

/-- Begins a link in a stored fragment. -/
def linkMark : List Char := ['.', '/']

/-- Begins a link below the page of a project. -/
def pagePrefix : List Char := "performance-signature/".toList

/-- A part of a stored fragment: characters that stay as they are, or one of the two places to fill. -/
inductive FragmentPart where
  | stays (characters : List Char)
  | testCase
  | link
deriving Repr, DecidableEq

/-- What a part becomes. -/
def FragmentPart.fill (testCase link : List Char) : FragmentPart → List Char
  | .stays characters => characters
  | .testCase => testCase
  | .link => link

/-- The text of parts whose places are filled. -/
def filledText (testCase link : List Char) (parts : List FragmentPart) : List Char :=
  parts.flatMap (FragmentPart.fill testCase link)

/-- The parts of a text whose first link is to be filled. -/
def linkParts (text : List Char) : List FragmentPart :=
  match text.dropInfix? linkMark with
  | none => [.stays text]
  | some (before, after) => [.stays before, .link, .stays after]

/-- The parts of a stored fragment: the place of the test case is its own first `###`, and the place of the link
its own first `./`, which stands before or behind. -/
def fragmentParts (html : List Char) : List FragmentPart :=
  match html.dropInfix? testCaseMark with
  | none => linkParts html
  | some (before, after) =>
    if linkMark <:+: before then linkParts before ++ [.testCase, .stays after]
    else .stays before :: .testCase :: linkParts after

/-- A stored fragment with the name of the test case and the link to the page at their places. -/
def filledFragment (html testCase : String) : String :=
  String.ofList (filledText testCase.toList pagePrefix (fragmentParts html.toList))

/-- Whether a link begins in the name of the test case, or where it meets its neighbours, before the stored
fragment has one. -/
def testCaseTakesLink (html testCase : String) : Bool :=
  (html.toList.dropInfix? testCaseMark).any fun (before, after) =>
    ¬ linkMark <:+: before ∧ linkMark <:+: before ++ testCase.toList ++ after.take 1

section Parts

variable {html before after : List Char}

theorem filledText_linkParts (testCase link text : List Char) :
    filledText testCase link (linkParts text) = Text.replaceFirst linkMark link text := by
  rw [linkParts, linkMark]
  cases found : text.dropInfix? ['.', '/'] with
  | none =>
      rw [Text.replaceFirst_of_dropInfix?_eq_none link found]
      simp [filledText, FragmentPart.fill]
  | some cut =>
      rw [Text.replaceFirst_of_dropInfix?_eq_some link found]
      simp [filledText, FragmentPart.fill]

/-- No link begins in a text without points and slashes, nor where it meets its neighbours. -/
theorem not_linkMark_infix_of_plain {middle : List Char} (named : middle ≠ [])
    (plain : ∀ c ∈ middle, c ≠ '.' ∧ c ≠ '/') (outside : ¬ linkMark <:+: before) :
    ¬ linkMark <:+: before ++ middle ++ after.take 1 := by
  rw [linkMark, Text.pair_infix_append_iff, Text.pair_infix_append_iff]
  rintro ((inside | inside | ⟨-, starts⟩) | short | ⟨ends, -⟩)
  · exact outside inside
  · exact (plain '.' (inside.subset List.mem_cons_self)).1 rfl
  · exact (plain '/' (List.mem_of_mem_head? starts)).2 rfl
  · have length := short.length_le
    simp only [List.length_cons, List.length_take] at length
    omega
  · rw [List.getLast?_append_of_ne_nil _ named] at ends
    exact (plain '.' (List.mem_of_getLast? ends)).1 rfl

/-- A fragment with a place for the test case is filled in one of two ways. -/
theorem filledText_of_found (testCase link : List Char)
    (found : html.dropInfix? testCaseMark = some (before, after)) :
    filledText testCase link (fragmentParts html) =
      if linkMark <:+: before then Text.replaceFirst linkMark link before ++ testCase ++ after
      else before ++ testCase ++ Text.replaceFirst linkMark link after := by
  simp only [fragmentParts, found, ← filledText_linkParts testCase link]
  split
  · simp [filledText, FragmentPart.fill]
  · simp [filledText, FragmentPart.fill]

/-- The place of the test case is the first `###` of the stored fragment. -/
theorem filledText_testCase (testCase html : List Char) :
    filledText testCase linkMark (fragmentParts html) =
      Text.replaceFirst testCaseMark testCase html := by
  cases found : html.dropInfix? testCaseMark with
  | none =>
      rw [testCaseMark, Text.replaceFirst_of_dropInfix?_eq_none testCase found, fragmentParts, found]
      exact (filledText_linkParts _ _ _).trans Text.replaceFirst_self
  | some cut =>
      rw [testCaseMark, Text.replaceFirst_of_dropInfix?_eq_some testCase found,
        filledText_of_found testCase linkMark found, linkMark, Text.replaceFirst_self,
        Text.replaceFirst_self, ite_self]

/-- The place of the link is the first `./` of the stored fragment. -/
theorem filledText_link (link html : List Char) :
    filledText testCaseMark link (fragmentParts html) = Text.replaceFirst linkMark link html := by
  cases found : html.dropInfix? testCaseMark with
  | none => rw [fragmentParts, found, filledText_linkParts]
  | some cut =>
      rcases cut with ⟨before, after⟩
      rw [filledText_of_found testCaseMark link found, (Text.not_infix_of_dropInfix?_eq_some found).1]
      split
      case isTrue inside =>
        rw [List.append_assoc, List.append_assoc, linkMark, Text.replaceFirst_append_of_infix link inside]
        rfl
      case isFalse outside =>
        have later : ¬ linkMark <:+: before ++ testCaseMark ++ after.take 1 :=
          not_linkMark_infix_of_plain (by decide) (by simp [testCaseMark]) outside
        exact (Text.replaceFirst_append_of_later link later).symm

end Parts

/-!
### Fragments on the carousel
-/

section Fragments

variable {html testCase : String} {before after : List Char}

theorem resolveFragment_of_found
    (found : html.toList.dropInfix? testCaseMark = some (before, after)) :
    resolveFragment html testCase =
      String.ofList (Text.replaceFirst linkMark pagePrefix (before ++ testCase.toList ++ after)) := by
  have filled := Text.replaceFirst_of_dropInfix?_eq_some testCase.toList found
  rw [resolveFragment, ← filled]
  rfl

/-- Fragments are resolved as they are stored, unless the name of the test case takes the link. -/
theorem resolveFragment_eq_filledFragment_iff :
    resolveFragment html testCase = filledFragment html testCase ↔
      testCaseTakesLink html testCase = false := by
  rw [testCaseTakesLink]
  cases found : html.toList.dropInfix? testCaseMark with
  | none =>
      have kept := Text.replaceFirst_of_dropInfix?_eq_none testCase.toList found
      refine iff_of_true ?_ rfl
      rw [filledFragment, fragmentParts, found, filledText_linkParts, ← kept]
      rfl
  | some cut =>
      rcases cut with ⟨before, after⟩
      rw [resolveFragment_of_found found, filledFragment, filledText_of_found _ _ found, Option.any_some,
        decide_eq_false_iff_not, String.ofList_inj]
      split
      case isTrue inside =>
        rw [List.append_assoc, List.append_assoc, linkMark, Text.replaceFirst_append_of_infix _ inside]
        exact iff_of_true rfl fun both => both.1 inside
      case isFalse outside =>
        refine ⟨fun same both => ?_, fun free => ?_⟩
        · have begins : pagePrefix = 'p' :: "erformance-signature/".toList := rfl
          rw [begins] at same
          exact Text.replaceFirst_append_of_sooner (by decide) both.2 same
        · exact Text.replaceFirst_append_of_later pagePrefix fun inside => free ⟨outside, inside⟩

/-- Where the name of the test case takes the link, the rest of the stored fragment stays as it is. -/
theorem resolveFragment_of_taken
    (found : html.toList.dropInfix? testCaseMark = some (before, after))
    (taken : testCaseTakesLink html testCase = true) :
    resolveFragment html testCase =
      String.ofList (Text.replaceFirst linkMark pagePrefix (before ++ testCase.toList ++ after.take 1) ++
        after.drop 1) := by
  rw [testCaseTakesLink, found, Option.any_some, decide_eq_true_eq] at taken
  have whole : before ++ testCase.toList ++ after =
      before ++ testCase.toList ++ after.take 1 ++ after.drop 1 := by
    rw [List.append_assoc _ _ (after.drop 1), List.take_append_drop]
  rw [resolveFragment_of_found found, whole, linkMark, Text.replaceFirst_append_of_infix _ taken.2]

/-- A name without points and slashes takes no link. -/
theorem testCaseTakesLink_of_plain (named : testCase ≠ "")
    (plain : ∀ c ∈ testCase.toList, c ≠ '.' ∧ c ≠ '/') : testCaseTakesLink html testCase = false := by
  rw [testCaseTakesLink]
  cases html.toList.dropInfix? testCaseMark with
  | none => rfl
  | some cut =>
      rw [Option.any_some, decide_eq_false_iff_not]
      exact fun both => not_linkMark_infix_of_plain (mt String.toList_eq_nil_iff.mp named) plain both.1 both.2

/-- Whether a record has an item on the carousel: it is shown, and a fragment is stored for it. -/
def Dashlet.isOnCarousel (d : Dashlet) : Bool := d.shown && d.html.any fun html => !html.isEmpty

/-- The fragments on the carousel are those of the records that have an item there, in this order. -/
theorem forall₂_carouselFragments (records : List Dashlet) :
    List.Forall₂ (fun d html => d.html = some html) (records.filter (·.isOnCarousel))
      (carouselFragments records) := by
  induction records with
  | nil => exact .nil
  | cons d records ih =>
      cases shown : d.shown with
      | false => simpa [carouselFragments, Dashlet.isOnCarousel, shown] using ih
      | true =>
          cases stored : d.html with
          | none => simpa [carouselFragments, Dashlet.isOnCarousel, shown, stored] using ih
          | some html =>
              cases empty : html.isEmpty with
              | true => simpa [carouselFragments, Dashlet.isOnCarousel, shown, stored, empty] using ih
              | false => simpa [carouselFragments, Dashlet.isOnCarousel, shown, stored, empty] using ih

/-- What is made of each item of one list corresponds to the other list as the items do. -/
theorem forall₂_mapIdx {α β γ : Type} {pairs : α → β → Prop} {makes : α → γ → Prop} {make : Nat → β → γ}
    {first : List α} {second : List β} (each : ∀ index a b, pairs a b → makes a (make index b))
    (paired : List.Forall₂ pairs first second) : List.Forall₂ makes first (second.mapIdx make) := by
  induction paired generalizing make with
  | nil => exact .nil
  | cons pair _ ih =>
      rw [List.mapIdx_cons]
      exact .cons (each 0 _ _ pair) (ih fun index => each (index + 1))

/-- Exactly the first item is active. -/
theorem active_carouselItems_iff {records : List Dashlet} {index : Nat} {item : CarouselItem}
    (found : (carouselItems records testCase)[index]? = some item) : item.active = true ↔ index = 0 := by
  rw [carouselItems, List.getElem?_mapIdx, Option.map_eq_some_iff] at found
  obtain ⟨html, -, rfl⟩ := found
  exact beq_iff_eq

end Fragments

namespace Service

open Http

variable {σ : Type} {request : Request} {testCase : String}

/-- Who asks for the carousel of a test case gets the failure of the build server, or an item for each record
that is shown and has a fragment, in the order of the records, the first of them active.  The item is the
stored fragment with the name of the test case at its own first `###` and the link to the page at its own first
`./`, exactly if the name does not take the link. -/
theorem stored_placeholders_are_filled_iff (backend overview : Backend σ) (service : Service) (world : σ)
    (asks : asked request = .overview testCase) :
    (∀ failure after, overview.load testCase world = (.error failure, after) →
      service.handle? backend overview request world =
        some (forMethod request.method (.error 502 failure.text), service, after)) ∧
    ∀ records after, overview.load testCase world = (.ok records, after) → ∃ items,
      service.handle? backend overview request world =
          some (forMethod request.method (.ok (.array (items.map CarouselItem.toJson))), service, after) ∧
        (∀ index item, items[index]? = some item → (item.active = true ↔ index = 0)) ∧
        List.Forall₂ (fun d item => ∃ html, d.html = some html ∧
            (item.html = filledFragment html testCase ↔ testCaseTakesLink html testCase = false))
          (records.filter (·.isOnCarousel)) items := by
  refine ⟨fun failure after failed => ?_, fun records after loaded => ?_⟩
  · rw [handle?_eq, asks, replyTo?, carousel, failed, Option.map_some]
  · refine ⟨carouselItems records testCase, ?_, fun _ _ found => active_carouselItems_iff found, ?_⟩
    · rw [handle?_eq, asks, replyTo?, carousel, loaded, Option.map_some]
    · refine forall₂_mapIdx (fun _ _ html stored => ?_) (forall₂_carouselFragments records)
      exact ⟨html, stored, resolveFragment_eq_filledFragment_iff⟩

/-- Of three records one is hidden.  The name of the test case, which begins with a link, takes the link of one
of the other two fragments, and is behind the link of the other one. -/
theorem stored_placeholders_are_filled_iff_smoke :
    let hidden : Dashlet := { Dashlet.overview "smoke" with shown := false, html := some "<p>###</p>" }
    let behind : Dashlet :=
      { Dashlet.overview "smoke" with html := some "<img src=\"./testRunGraph?testCase=###\">" }
    let before : Dashlet :=
      { Dashlet.overview "smoke" with html := some "<h1>###</h1><img src=\"./testRunGraph\">" }
    let service : Service := ⟨{ geometry := {} }, ⟨["smoke"], 0, 0⟩⟩
    let memory : Memory := { records := [hidden, behind, before] }
    ∃ first second,
      service.handle? Memory.backend Memory.backend
          { method := "GET", target := "/overview/..%2Fsmoke" } memory =
        some (.ok (.array [CarouselItem.toJson first, CarouselItem.toJson second]), service, memory) ∧
      first.active = true ∧ second.active = false ∧
      first.html = filledFragment "<img src=\"./testRunGraph?testCase=###\">" "../smoke" ∧
      second.html ≠ filledFragment "<h1>###</h1><img src=\"./testRunGraph\">" "../smoke" := by
  intro hidden behind before service memory
  have asks : asked { method := "GET", target := "/overview/..%2Fsmoke" } = .overview "../smoke" := by
    decide +kernel
  obtain ⟨-, answers⟩ :=
    stored_placeholders_are_filled_iff Memory.backend Memory.backend service memory asks
  obtain ⟨items, answered, active, paired⟩ := answers memory.records memory rfl
  have shown : memory.records.filter (·.isOnCarousel) = [behind, before] := by decide +kernel
  rw [shown] at paired
  obtain ⟨first, _, ⟨_, firstStored, ofFirst⟩, others, rfl⟩ := List.forall₂_cons_left_iff.mp paired
  obtain ⟨second, _, ⟨_, secondStored, ofSecond⟩, none, rfl⟩ := List.forall₂_cons_left_iff.mp others
  obtain rfl := List.forall₂_nil_left_iff.mp none
  obtain rfl := Option.some.inj firstStored
  obtain rfl := Option.some.inj secondStored
  refine ⟨first, second, answered, (active 0 first rfl).mpr rfl, ?_, ofFirst.mpr (by decide +kernel), ?_⟩
  · exact Bool.eq_false_iff.mpr fun also => absurd ((active 1 second rfl).mp also) (by decide)
  · exact fun same => absurd (ofSecond.mp same) (by decide +kernel)

/-- The name of a test case brings a link, which becomes the link to the page, and the link to the chart stays
as it is. -/
theorem test_case_takes_the_link :
    let service : Service := ⟨{ geometry := {} }, ⟨["smoke"], 0, 0⟩⟩
    let memory : Memory :=
      { records :=
          [{ Dashlet.overview "smoke" with html := some "<h1>###</h1><img src=\"./testRunGraph\">" }] }
    service.handle? Memory.backend Memory.backend
        { method := "GET", target := "/overview/..%2Fsmoke" } memory =
      some (.ok (.array [CarouselItem.toJson
        ⟨"<h1>.performance-signature/smoke</h1><img src=\"./testRunGraph\">", true⟩]), service, memory) ∧
    filledFragment "<h1>###</h1><img src=\"./testRunGraph\">" "../smoke" =
      "<h1>../smoke</h1><img src=\"performance-signature/testRunGraph\">" :=
  ⟨rfl, by decide +kernel⟩

end Service

end DashletBoard

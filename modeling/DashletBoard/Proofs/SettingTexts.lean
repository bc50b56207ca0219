/-
Module: DashletBoard.Proofs.SettingTexts
Purpose: Texts that variables give: which of them arrive as they are written, and as what the others arrive,
  which say a truth value or a number.
Main exports: Settings.spelling?, Settings.spelling?_of_mem, Settings.spelling?_toString,
  Settings.map_field_load?, Settings.map_field_load?_of_mem, Settings.text_arrives_as_written_iff
-/
import DashletBoard.Proofs.EscapedTexts
import DashletBoard.Proofs.JsonSpelling
import DashletBoard.Proofs.SettingLayers

namespace DashletBoard

open Setting

namespace Settings

variable {leaf : Leaf} {key name text : String} {before after : List (String × String)}
  {file : List (String × Setting)} {source : Option (FileFormat × String)}

/-!
### Truth values and numbers in texts

A variable's text that says a truth value or a number is read as that, whatever setting it is for.  A
setting that wants a text then gets the standard spelling of the value.
-/

/-- The standard spelling of the truth value or number that a text says, if it says any. -/
def spelling? (text : String) : Option String := (scalar? text).bind asText?

/-- The parts of a text between its commas. -/
def commaParts (text : String) : List String := (text.toList.splitOn ',').map String.ofList

theorem asText?_variableValue (elsewhere : key ≠ tabsKey) (text : String) :
    (variableValue key text).asText? = some ((spelling? text).getD text) := by
  rw [variableValue_eq, wording, if_neg elsewhere, spelling?]
  cases found : scalar? text with
  | none => rfl
  | some value => cases isScalar_of_scalar? found <;> rfl

theorem asOptionalText?_variableValue (elsewhere : key ≠ tabsKey) (text : String) :
    (variableValue key text).asOptionalText? = some (some ((spelling? text).getD text)) := by
  have read := asText?_variableValue elsewhere text
  cases value : variableValue key text with
  | nothing => rw [value] at read; cases read
  | _ =>
      rw [asOptionalText?, ← value, read, Option.map_some]
      intro absent
      cases absent

theorem asTexts?_texts (parts : List String) : (Setting.list (parts.map .text)).asTexts? = some parts := by
  rw [asTexts?]
  exact Text.mapM_map_eq_some fun _ _ => rfl

theorem asTexts?_variableValue (text : String) :
    (variableValue tabsKey text).asTexts? =
      match spelling? text with
      | none => some (commaParts text)
      | some _ => none := by
  rw [variableValue_eq, wording, if_pos rfl, spelling?]
  cases found : scalar? text with
  | none =>
      rw [Option.getD_none, Option.bind_none, commaParts, ← Text.pieces_eq_splitOn, ← asTexts?_texts,
        List.map_map]
      rfl
  | some value => cases isScalar_of_scalar? found <;> rfl

/-!
### Which texts say something else
-/

/-- The characters of truth values and numbers. -/
def isScalarChar (c : Char) : Bool := c.isAlphanum || c == '+' || c == '-' || c == '.'

theorem isScalarChar_of_isDigit {c : Char} (digit : c.isDigit) : isScalarChar c := by
  simp [isScalarChar, Char.isAlphanum, digit]

/-- A text that has a word as its lower case has letters only. -/
theorem isScalarChar_of_word {chars : List Char} {word : String} {c : Char}
    (same : String.ofList (chars.map Char.toLower) = word) (letters : word.toList.all Char.isAlphanum)
    (member : c ∈ chars) : isScalarChar c := by
  have lower : c.toLower.isAlphanum :=
    List.all_eq_true.mp letters _
      (by rw [← same, String.toList_ofList]; exact List.mem_map_of_mem member)
  suffices letter : c.isAlphanum by simp [isScalarChar, letter]
  unfold Char.toLower at lower
  split at lower
  next upper =>
    have upper : c.isUpper := by simpa [Char.isUpper] using upper
    simp [Char.isAlphanum, Char.isAlpha, upper]
  next => exact lower

theorem isDigit_of_continueNatural {chars : List Char} {value n : Nat}
    (read : Text.continueNatural value chars = some n) : ∀ c ∈ chars, c.isDigit := by
  induction chars generalizing value with
  | nil => exact List.forall_mem_nil _
  | cons first rest ih =>
      rw [Text.continueNatural, Text.digitValue?] at read
      split at read
      next digit found =>
        split at found
        next decimal => exact List.forall_mem_cons.mpr ⟨decimal, ih read⟩
        next => cases found
      next => cases read

theorem isDigit_of_natural? {chars : List Char} {n : Nat} (read : Text.natural? chars = some n) :
    ∀ c ∈ chars, c.isDigit := by
  cases chars with
  | nil => exact nomatch read
  | cons first rest => exact isDigit_of_continueNatural read

theorem isScalarChar_of_map_natural? {chars : List Char} {f : Nat → Int} {n : Int}
    (read : (Text.natural? chars).map f = some n) : ∀ c ∈ chars, isScalarChar c := by
  obtain ⟨value, found, -⟩ := Option.map_eq_some_iff.mp read
  exact fun c member => isScalarChar_of_isDigit (isDigit_of_natural? found c member)

theorem isScalarChar_of_signed64? {chars : List Char} {n : Int} (read : Text.signed64? chars = some n) :
    ∀ c ∈ chars, isScalarChar c := by
  unfold Text.signed64? at read
  have found := (Option.filter_eq_some_iff.mp read).1
  split at found
  next => exact List.forall_mem_cons.mpr ⟨rfl, isScalarChar_of_map_natural? found⟩
  next => exact List.forall_mem_cons.mpr ⟨rfl, isScalarChar_of_map_natural? found⟩
  next => exact isScalarChar_of_map_natural? found

theorem isScalarChar_of_exponent? {chars : List Char} {n : Int} (read : Binary64.exponent? chars = some n) :
    ∀ c ∈ chars, isScalarChar c := by
  unfold Binary64.exponent? at read
  split at read
  next => exact List.forall_mem_cons.mpr ⟨rfl, isScalarChar_of_map_natural? read⟩
  next => exact List.forall_mem_cons.mpr ⟨rfl, isScalarChar_of_map_natural? read⟩
  next => exact isScalarChar_of_map_natural? read

theorem isScalarChar_of_spanDigits {chars : List Char}
    (later : ∀ c ∈ (Binary64.spanDigits chars).2, isScalarChar c) : ∀ c ∈ chars, isScalarChar c := by
  rw [Binary64.spanDigits, List.span_eq_takeWhile_dropWhile] at later
  rw [← List.takeWhile_append_dropWhile (p := Char.isDigit) (l := chars), List.forall_mem_append]
  exact ⟨fun c member => isScalarChar_of_isDigit (List.mem_takeWhile_imp member), later⟩

/-- The exponent behind the digits of a number, which is zero if nothing stands there. -/
def ending? : List Char → Option Int
  | [] => some 0
  | c :: after => if c = 'e' ∨ c = 'E' then Binary64.exponent? after else none

theorem isScalarChar_of_ending? {chars : List Char} {n : Int} (read : ending? chars = some n) :
    ∀ c ∈ chars, isScalarChar c := by
  unfold ending? at read
  split at read
  next => exact List.forall_mem_nil _
  next c after =>
    split at read
    next letter =>
      refine List.forall_mem_cons.mpr ⟨?_, isScalarChar_of_exponent? read⟩
      rcases letter with rfl | rfl <;> rfl
    next => cases read

theorem isScalarChar_of_unsigned? {chars : List Char} {negative : Bool} {x : Binary64}
    (read : Binary64.unsigned? negative chars = some x) : ∀ c ∈ chars, isScalarChar c := by
  refine isScalarChar_of_spanDigits ?_
  unfold Binary64.unsigned? at read
  simp only at read
  split at read
  next digits exponent _ found =>
    generalize (Binary64.spanDigits chars).2 = rest at found
    -- behind the digits of the fraction the exponent is read as `ending?` reads it
    have tail := isScalarChar_of_ending? found
    split at tail
    next => exact List.forall_mem_cons.mpr ⟨rfl, isScalarChar_of_spanDigits tail⟩
    next => exact tail
  next => cases read

theorem isScalarChar_of_ofText? {chars : List Char} {x : Binary64}
    (read : Binary64.ofText? chars = some x) : ∀ c ∈ chars, isScalarChar c := by
  have body {negative : Bool} {rest : List Char} (found :
      (if String.ofList (rest.map Char.toLower) = "inf" ∨
          String.ofList (rest.map Char.toLower) = "infinity" then some (.infinite negative)
      else if String.ofList (rest.map Char.toLower) = "nan" then some .undefined
      else Binary64.unsigned? negative rest) = some x) : ∀ c ∈ rest, isScalarChar c := by
    intro c member
    split at found
    next named =>
      rcases named with same | same
      · exact isScalarChar_of_word same (by decide) member
      · exact isScalarChar_of_word same (by decide) member
    next =>
      split at found
      next same => exact isScalarChar_of_word same (by decide) member
      next => exact isScalarChar_of_unsigned? found c member
  unfold Binary64.ofText? at read
  split at read
  next negative rest sign =>
    have later := body read
    split at sign
    next =>
      obtain ⟨-, rfl⟩ := Prod.mk.inj sign
      exact List.forall_mem_cons.mpr ⟨rfl, later⟩
    next =>
      obtain ⟨-, rfl⟩ := Prod.mk.inj sign
      exact List.forall_mem_cons.mpr ⟨rfl, later⟩
    next =>
      obtain ⟨-, rfl⟩ := Prod.mk.inj sign
      exact later

/-- A text with a character of another kind says no truth value and no number. -/
theorem spelling?_of_mem {c : Char} (member : c ∈ text.toList) (other : ¬ isScalarChar c) :
    spelling? text = none := by
  have silent : scalar? text = none := by
    simp only [scalar?]
    split
    next same => exact absurd (isScalarChar_of_word same (by decide) member) other
    next =>
      split
      next same => exact absurd (isScalarChar_of_word same (by decide) member) other
      next =>
        split
        next n _ read => exact absurd (isScalarChar_of_signed64? read c member) other
        next x _ read => exact absurd (isScalarChar_of_ofText? read c member) other
        next => rfl
  rw [spelling?, silent, Option.bind_none]

/-!
### Whole numbers as they are written
-/

theorem signed64?_toDigits {n : Nat} (small : n < Text.signedBound) :
    Text.signed64? (Nat.toDigits 10 n) = some (n : Int) := by
  have unsigned {c : Char} {rest : List Char} (same : Nat.toDigits 10 n = c :: rest) : c.isDigit :=
    (Numeral.isDigits_toDigits n).decimal c (same ▸ List.mem_cons_self)
  have bounds : (-(Text.signedBound : Int) ≤ n && (n : Int) < Text.signedBound) = true := by
    simp only [Bool.and_eq_true, decide_eq_true_eq]
    omega
  unfold Text.signed64?
  split
  next same => exact absurd (unsigned same) (by decide)
  next same => exact absurd (unsigned same) (by decide)
  next =>
    rw [Numeral.natural?_toDigits, Option.map_some]
    exact Option.filter_eq_some_iff.mpr ⟨rfl, bounds⟩

theorem signed64?_neg_toDigits {n : Nat} (small : n ≤ Text.signedBound) :
    Text.signed64? ('-' :: Nat.toDigits 10 n) = some (-(n : Int)) := by
  have bounds : (-(Text.signedBound : Int) ≤ -(n : Int) && -(n : Int) < Text.signedBound) = true := by
    have positive : 0 < Text.signedBound := by decide
    simp only [Bool.and_eq_true, decide_eq_true_eq]
    omega
  rw [Text.signed64?, Numeral.natural?_toDigits, Option.map_some]
  exact Option.filter_eq_some_iff.mpr ⟨rfl, bounds⟩

/-- A word with a digit in its lower case has it. -/
theorem any_isDigit_of_word {chars : List Char} {word : String} {c : Char}
    (same : String.ofList (chars.map Char.toLower) = word) (member : c ∈ chars) (digit : c.isDigit) :
    word.toList.any Char.isDigit := by
  have lower : c.toLower = c := by
    unfold Char.toLower
    refine dif_neg fun upper => ?_
    have small : c.val ≤ '9'.val := by simp_all [Char.isDigit]
    exact absurd (UInt32.le_trans upper.1 small) (by decide)
  refine List.any_eq_true.mpr ⟨c, ?_, digit⟩
  rw [← same, String.toList_ofList]
  exact lower ▸ List.mem_map_of_mem member

theorem scalar?_of_signed64? {n : Int} {c : Char} (member : c ∈ text.toList) (digit : c.isDigit)
    (read : Text.signed64? text.toList = some n) : scalar? text = some (.whole n) := by
  simp only [scalar?, read]
  split
  next same => exact absurd (any_isDigit_of_word same member digit) (by decide)
  next =>
    split
    next same => exact absurd (any_isDigit_of_word same member digit) (by decide)
    next => rfl

/-- A whole number that is written as usual keeps its spelling. -/
theorem spelling?_toString {n : Int} (low : -(Text.signedBound : Int) ≤ n) (high : n < Text.signedBound) :
    spelling? (toString n) = some (toString n) := by
  suffices whole : scalar? (toString n) = some (.whole n) by
    rw [spelling?, whole]
    rfl
  have hasDigit (m : Nat) : ∃ c ∈ Nat.toDigits 10 m, c.isDigit := by
    obtain ⟨c, rest, digits⟩ := List.exists_cons_of_ne_nil (Numeral.isDigits_toDigits m).some
    exact ⟨c, digits ▸ List.mem_cons_self,
      (Numeral.isDigits_toDigits m).decimal c (digits ▸ List.mem_cons_self)⟩
  cases n with
  | ofNat m =>
      have chars : (toString (Int.ofNat m)).toList = Nat.toDigits 10 m := String.toList_ofList
      obtain ⟨c, member, digit⟩ := hasDigit m
      refine scalar?_of_signed64? (chars ▸ member) digit ?_
      rw [chars]
      exact signed64?_toDigits (Int.ofNat_lt.mp high)
  | negSucc m =>
      have chars : (toString (Int.negSucc m)).toList = '-' :: Nat.toDigits 10 (m + 1) := by
        change ("-" ++ toString (m + 1)).toList = _
        rw [String.toList_append]
        exact congrArg (List.cons '-') String.toList_ofList
      obtain ⟨c, member, digit⟩ := hasDigit (m + 1)
      refine scalar?_of_signed64? (chars ▸ List.mem_cons_of_mem _ member) digit ?_
      rw [chars]
      exact signed64?_neg_toDigits (by omega)

/-!
### The setting that a variable is for
-/

/-- If settings are loaded with some text for a setting, they are loaded with all texts that the setting
can be read from. -/
theorem isSome_ofLayers?_of_isSome_read? (means : variableKey? name = some leaf.key)
    (spared : leaf.IsSparedBy after) {other : String}
    (valid : (ofLayers? file (before ++ (name, other) :: after)).isSome)
    (readable : (leaf.read? (variableValue leaf.key text)).isSome) :
    (ofLayers? file (before ++ (name, text) :: after)).isSome := by
  have set (text : String) : leaf.IsSetBy (name, text) := means
  refine isSome_ofLayers?_iff.mpr fun each => ?_
  change ((each.inForce? (laidOver (filed file) (before ++ (name, text) :: after))).bind each.read?).isSome
  by_cases same : each = leaf
  · subst same
    rwa [(set text).inForce?_laidOver _ _ spared, Option.bind_some]
  · have agree (text : String) := (set text).agreeElsewhere_laidOver (filed file) before spared.isHandledBy
    have byName (text : String) :=
      ((set text).inTable_laidOver (filed file) before spared.isHandledBy).isByName
    rw [((agree text).symm.trans (agree other)).inForce?_eq same (byName text) (byName other)]
    exact isSome_ofLayers?_iff.mp valid each

/-- The setting is read from the text then. -/
theorem map_field_ofLayers? (means : variableKey? name = some leaf.key) (spared : leaf.IsSparedBy after)
    {other : String} (valid : (ofLayers? file (before ++ (name, other) :: after)).isSome) (text : String) :
    (ofLayers? file (before ++ (name, text) :: after)).map leaf.field =
      leaf.read? (variableValue leaf.key text) := by
  have set : leaf.IsSetBy (name, text) := means
  have found {settings : Settings}
      (loads : ofLayers? file (before ++ (name, text) :: after) = some settings) :
      leaf.read? (variableValue leaf.key text) = some (leaf.field settings) := by
    have read := ofLayers?_eq_some_iff_inForce.mp loads leaf
    rwa [set.inForce?_laidOver _ _ spared, Option.bind_some] at read
  cases loads : ofLayers? file (before ++ (name, text) :: after) with
  | some settings => exact (found loads).symm
  | none =>
      refine (Option.not_isSome_iff_eq_none.mp fun readable => ?_).symm
      have loaded := isSome_ofLayers?_of_isSome_read? means spared valid readable
      rw [loads] at loaded
      exact nomatch loaded

/-- The value that a text is for a setting that takes any text. -/
def Leaf.ofText? : (leaf : Leaf) → Option (String → leaf.Value)
  | .listen | .rootUrl | .actionPath => some id
  | .username | .apiToken | .fragment => some some
  | .columns | .origin | .scope | .tabs => none

theorem read?_variableValue {ofText : String → leaf.Value} (takes : leaf.ofText? = some ofText)
    (text : String) :
    leaf.read? (variableValue leaf.key text) = some (ofText ((spelling? text).getD text)) := by
  cases leaf with
  | listen | rootUrl | actionPath =>
      obtain rfl := Option.some.inj takes
      exact asText?_variableValue (by decide) text
  | username | apiToken | fragment =>
      obtain rfl := Option.some.inj takes
      exact asOptionalText?_variableValue (by decide) text
  | columns | origin | scope | tabs => exact nomatch takes

theorem ofText_injective {ofText : String → leaf.Value} (takes : leaf.ofText? = some ofText) :
    Function.Injective ofText := by
  cases leaf with
  | listen | rootUrl | actionPath =>
      obtain rfl := Option.some.inj takes
      exact Function.injective_id
  | username | apiToken | fragment =>
      obtain rfl := Option.some.inj takes
      exact fun _ _ => Option.some.inj
  | columns | origin | scope | tabs => exact nomatch takes

section

variable {ofText : String → leaf.Value} (means : variableKey? name = some leaf.key)
  (spared : leaf.IsSparedBy after)
  (valid : ∃ other, (load? source (before ++ (name, other) :: after)).isSome)

include means spared valid

theorem map_field_load? (text : String) :
    (load? source (before ++ (name, text) :: after)).map leaf.field =
      leaf.read? (variableValue leaf.key text) := by
  obtain ⟨other, valid⟩ := valid
  rw [load?_eq_bind] at valid ⊢
  cases read : fileEntries? source with
  | none => rw [read] at valid; exact nomatch valid
  | some file =>
      rw [read] at valid
      exact map_field_ofLayers? means spared valid text

/-- A text with a character of another kind arrives as it is written. -/
theorem map_field_load?_of_mem (takes : leaf.ofText? = some ofText) {c : Char} (member : c ∈ text.toList)
    (other : ¬ isScalarChar c) :
    (load? source (before ++ (name, text) :: after)).map leaf.field = some (ofText text) := by
  rw [map_field_load? means spared valid, read?_variableValue takes, spelling?_of_mem member other,
    Option.getD_none]

/-- A whole number that is written as usual arrives as it is written. -/
theorem map_field_load?_toString (takes : leaf.ofText? = some ofText) {n : Int}
    (low : -(Text.signedBound : Int) ≤ n) (high : n < Text.signedBound) :
    (load? source (before ++ (name, toString n) :: after)).map leaf.field = some (ofText (toString n)) := by
  rw [map_field_load? means spared valid, read?_variableValue takes, spelling?_toString low high,
    Option.getD_some]

end

/-- Tabs with a comma between them arrive one by one. -/
theorem map_tabs_load?_of_comma (means : variableKey? name = some Leaf.tabs.key)
    (spared : Leaf.tabs.IsSparedBy after)
    (valid : ∃ other, (load? source (before ++ (name, other) :: after)).isSome) (comma : ',' ∈ text.toList) :
    (load? source (before ++ (name, text) :: after)).map Settings.tabs = some (commaParts text) := by
  have parts := asTexts?_variableValue text
  rw [spelling?_of_mem comma (by decide)] at parts
  exact (map_field_load? means spared valid text).trans parts

/-- A variable for a setting, in an environment with which settings can be loaded.  A setting that takes any
text is loaded from every text of the variable.  It has the text as it is written exactly if the text says no
truth value and no number, or is the standard spelling of what it says; otherwise it has that spelling.  The
tabs are the parts of the text between its commas exactly if the text says no truth value and no number;
otherwise nothing is loaded. -/
theorem text_arrives_as_written_iff (means : variableKey? name = some leaf.key)
    (spared : leaf.IsSparedBy after)
    (valid : ∃ other, (load? source (before ++ (name, other) :: after)).isSome) (text : String) :
    (∀ ofText, leaf.ofText? = some ofText → ∃ settings,
      load? source (before ++ (name, text) :: after) = some settings ∧
      (leaf.field settings = ofText text ↔ ∀ spelling, spelling? text = some spelling → spelling = text) ∧
      ∀ spelling, spelling? text = some spelling → leaf.field settings = ofText spelling) ∧
    (leaf = .tabs →
      (spelling? text = none → ∃ settings,
        load? source (before ++ (name, text) :: after) = some settings ∧ settings.tabs = commaParts text) ∧
      (spelling? text ≠ none → load? source (before ++ (name, text) :: after) = none)) := by
  have loaded := map_field_load? means spared valid text
  refine ⟨fun ofText takes => ?_, fun same => ?_⟩
  · rw [read?_variableValue takes] at loaded
    obtain ⟨settings, loads, value⟩ := Option.map_eq_some_iff.mp loaded
    refine ⟨settings, loads, ?_, fun spelling found => ?_⟩
    · rw [value, (ofText_injective takes).eq_iff]
      cases spelling? text with
      | none => exact ⟨nofun, fun _ => rfl⟩
      | some spelling =>
          exact ⟨fun same _ found => Option.some.inj found ▸ same, fun all => all spelling rfl⟩
    · rw [value, found, Option.getD_some]
  · subst same
    have read : Leaf.tabs.read? (variableValue Leaf.tabs.key text) = _ := asTexts?_variableValue text
    rw [read] at loaded
    refine ⟨fun silent => ?_, fun found => ?_⟩
    · rw [silent] at loaded
      exact Option.map_eq_some_iff.mp loaded
    · obtain ⟨spelling, found⟩ := Option.ne_none_iff_exists'.mp found
      rw [found] at loaded
      exact Option.map_eq_none_iff.mp loaded

/-- A token that is no number arrives as it is written before another variable for the build server, and so
do the tabs between commas. -/
theorem text_arrives_as_written_iff_secret :
    let user := ("PERFSIG__JENKINS__USERNAME", "ci")
    (∃ settings, load? none [("PERFSIG__JENKINS__API_TOKEN", "1f-secret"), user] = some settings ∧
      settings.buildServer.apiToken = some "1f-secret") ∧
    ∃ settings, load? none [("PERFSIG__DASHBOARD__TABS", "smoke,2024,"), user] = some settings ∧
      settings.tabs = ["smoke", "2024", ""] := by
  intro user
  have userKey : variableKey? user.1 = some Leaf.username.key := by decide +kernel
  have spares (leaf : Leaf) (other : Leaf.username ≠ leaf) : leaf.IsSparedBy [user] := by
    intro named member key means
    rw [List.mem_singleton.mp member] at means
    exact Option.some.inj (means.symm.trans userKey) ▸ Leaf.isApart_key other
  have tokenKey : variableKey? "PERFSIG__JENKINS__API_TOKEN" = some Leaf.apiToken.key := by decide +kernel
  have tabsKey : variableKey? "PERFSIG__DASHBOARD__TABS" = some Leaf.tabs.key := by decide +kernel
  have token : (load? none ([] ++ ("PERFSIG__JENKINS__API_TOKEN", "") :: [user])).isSome := by decide +kernel
  have tabs : (load? none ([] ++ ("PERFSIG__DASHBOARD__TABS", "") :: [user])).isSome := by decide +kernel
  have silent : spelling? "1f-secret" = none ∧ spelling? "smoke,2024," = none := by decide +kernel
  constructor
  · obtain ⟨settings, loads, written, -⟩ := (text_arrives_as_written_iff tokenKey
      (spares .apiToken (by decide)) ⟨"", token⟩ "1f-secret").1 some rfl
    exact ⟨settings, loads, written.mpr fun _ found => nomatch silent.1.symm.trans found⟩
  · exact ((text_arrives_as_written_iff tabsKey (spares .tabs (by decide)) ⟨"", tabs⟩ "smoke,2024,").2 rfl).1
      silent.2

/-- A token with a leading zero arrives without it, and a tab whose name is a number stops the loading. -/
theorem numeric_texts_do_not_arrive :
    (∃ settings, load? none [("PERFSIG__JENKINS__API_TOKEN", "0123")] = some settings ∧
      settings.buildServer.apiToken ≠ some "0123" ∧ settings.buildServer.apiToken = some "123") ∧
    load? none [("PERFSIG__DASHBOARD__TABS", "2024")] = none ∧ commaParts "2024" = ["2024"] := by
  have loads : load? none [("PERFSIG__JENKINS__API_TOKEN", "0123")] =
      some { builtIn with buildServer := { builtIn.buildServer with apiToken := some "123" } } := by
    decide +kernel
  exact ⟨⟨_, loads, by decide, rfl⟩, by decide +kernel, by decide +kernel⟩

end Settings

end DashletBoard

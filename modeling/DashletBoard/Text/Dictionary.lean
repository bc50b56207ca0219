/-
Module: DashletBoard.Text.Dictionary
Purpose: Finite maps from texts, held as a list of entries in ascending order of their keys.
Main exports: Dictionary, Dictionary.get?, Dictionary.insert, Dictionary.ofList, Dictionary.ext_get?
-/

namespace DashletBoard

/-- A finite map from texts.  The entries are in strictly ascending order of their keys, so a map has
one form only: maps with the same values are equal. -/
structure Dictionary (α : Type) where
  entries : List (String × α)
  ascending : entries.Pairwise fun first second => first.1 < second.1
deriving DecidableEq

namespace Dictionary

variable {α : Type}

instance : Inhabited (Dictionary α) := ⟨⟨[], List.Pairwise.nil⟩⟩

/-- The map without entries. -/
def empty : Dictionary α := ⟨[], List.Pairwise.nil⟩

/-- The value of a key. -/
def get? (map : Dictionary α) (key : String) : Option α := map.entries.lookup key

/-- The keys in ascending order. -/
def keys (map : Dictionary α) : List String := map.entries.map Prod.fst

/-- The least key. -/
def firstKey? (map : Dictionary α) : Option String := map.keys.head?

/-- The first entry does not answer for another key. -/
theorem lookup_cons_of_ne {key other : String} (value : α) (rest : List (String × α))
    (h : key ≠ other) : ((other, value) :: rest).lookup key = rest.lookup key := by
  rw [List.lookup_cons, beq_false_of_ne h]

/-- Puts an entry at its place among entries in ascending order, in the place of an entry with the same
key. -/
def place (key : String) (value : α) : List (String × α) → List (String × α)
  | [] => [(key, value)]
  | (other, held) :: rest =>
    if key < other then (key, value) :: (other, held) :: rest
    else if other < key then (other, held) :: place key value rest
    else (key, value) :: rest

/-- A key of the entries after `place` is the new key or was there before. -/
theorem mem_place {key : String} {value : α} {entries : List (String × α)} {entry : String × α}
    (h : entry ∈ place key value entries) : entry.1 = key ∨ entry ∈ entries := by
  induction entries with
  | nil => simp only [place, List.mem_singleton] at h; exact .inl (by rw [h])
  | cons head rest ih =>
    obtain ⟨other, held⟩ := head
    unfold place at h
    split at h
    · rcases List.mem_cons.1 h with rfl | h
      · exact .inl rfl
      · exact .inr h
    · split at h
      · rcases List.mem_cons.1 h with rfl | h
        · exact .inr (List.mem_cons_self ..)
        · exact (ih h).imp_right (List.mem_cons_of_mem _)
      · rcases List.mem_cons.1 h with rfl | h
        · exact .inl rfl
        · exact .inr (List.mem_cons_of_mem _ h)

/-- Placing an entry keeps the ascending order. -/
theorem place_ascending {key : String} {value : α} {entries : List (String × α)}
    (h : entries.Pairwise fun first second => first.1 < second.1) :
    (place key value entries).Pairwise fun first second => first.1 < second.1 := by
  induction entries with
  | nil => simp [place]
  | cons head rest ih =>
    obtain ⟨other, held⟩ := head
    have hrest := (List.pairwise_cons.1 h).2
    have hhead := (List.pairwise_cons.1 h).1
    unfold place
    split
    next hlt =>
      refine List.pairwise_cons.2 ⟨fun entry hentry => ?_, h⟩
      rcases List.mem_cons.1 hentry with rfl | hentry
      · exact hlt
      · exact String.lt_trans hlt (hhead entry hentry)
    next hnlt =>
      split
      next hgt =>
        refine List.pairwise_cons.2 ⟨fun entry hentry => ?_, ih hrest⟩
        rcases mem_place hentry with hkey | hentry
        · rw [hkey]; exact hgt
        · exact hhead entry hentry
      next hngt =>
        have heq : key = other :=
          String.le_antisymm (String.not_lt.1 hngt) (String.not_lt.1 hnlt)
        refine List.pairwise_cons.2 ⟨fun entry hentry => ?_, hrest⟩
        rw [heq]; exact hhead entry hentry

/-- Sets the value of a key. -/
def insert (map : Dictionary α) (key : String) (value : α) : Dictionary α :=
  ⟨place key value map.entries, place_ascending map.ascending⟩

/-- The map of a list of entries; of several entries with one key the last counts. -/
def ofList (entries : List (String × α)) : Dictionary α :=
  entries.foldl (fun map entry => map.insert entry.1 entry.2) empty

/-- The value of a key that was just placed. -/
theorem lookup_place_self (key : String) (value : α) (entries : List (String × α)) :
    (place key value entries).lookup key = some value := by
  induction entries with
  | nil => simp [place]
  | cons head rest ih =>
    obtain ⟨other, held⟩ := head
    unfold place
    split
    · simp
    next hnlt =>
      split
      next hgt =>
        have hne : key ≠ other := fun h => String.lt_irrefl other (by rw [h] at hgt; exact hgt)
        rw [lookup_cons_of_ne _ _ hne, ih]
      · simp

/-- Placing an entry leaves the values of other keys as they are. -/
theorem lookup_place_of_ne {key other : String} (value : α) (entries : List (String × α))
    (h : other ≠ key) : (place key value entries).lookup other = entries.lookup other := by
  induction entries with
  | nil => rw [place, lookup_cons_of_ne _ _ h]
  | cons head rest ih =>
    obtain ⟨name, held⟩ := head
    unfold place
    split
    · rw [lookup_cons_of_ne _ _ h]
    next hnlt =>
      split
      · rw [List.lookup_cons, List.lookup_cons, ih]
      next hngt =>
        have heq : key = name :=
          String.le_antisymm (String.not_lt.1 hngt) (String.not_lt.1 hnlt)
        rw [lookup_cons_of_ne _ _ h, lookup_cons_of_ne _ _ (heq ▸ h)]

/-- A key that was just set has its new value. -/
@[simp] theorem get?_insert_self (map : Dictionary α) (key : String) (value : α) :
    (map.insert key value).get? key = some value :=
  lookup_place_self key value map.entries

/-- Setting a key leaves the other keys as they are. -/
theorem get?_insert_of_ne (map : Dictionary α) {key other : String} (value : α) (h : other ≠ key) :
    (map.insert key value).get? other = map.get? other :=
  lookup_place_of_ne value map.entries h

/-- The empty map has no values. -/
@[simp] theorem get?_empty (key : String) : (empty : Dictionary α).get? key = none := rfl

/-- In ascending entries every key is above the first one, so the first key is not found after it. -/
theorem lookup_eq_none_of_lt {key : String} {entries : List (String × α)}
    (h : ∀ entry ∈ entries, key < entry.1) : entries.lookup key = none := by
  induction entries with
  | nil => rfl
  | cons head rest ih =>
    have hne : key ≠ head.1 := fun heq =>
      String.lt_irrefl key (by have := h head (List.mem_cons_self ..); rwa [← heq] at this)
    rw [lookup_cons_of_ne _ _ hne]
    exact ih fun entry hentry => h entry (List.mem_cons_of_mem _ hentry)

/-- Of ascending entries the first key is not above that of others with the same values. -/
theorem head_not_lt_of_lookup_eq {key otherKey : String} {value otherValue : α}
    {rest others : List (String × α)}
    (ascending : ((otherKey, otherValue) :: others).Pairwise fun a b => a.1 < b.1)
    (h : ((key, value) :: rest).lookup key = ((otherKey, otherValue) :: others).lookup key) :
    ¬ key < otherKey := by
  intro hlt
  have hnone : ((otherKey, otherValue) :: others).lookup key = none :=
    lookup_eq_none_of_lt <| List.forall_mem_cons.2
      ⟨hlt, fun entry hentry => String.lt_trans hlt ((List.pairwise_cons.1 ascending).1 entry hentry)⟩
  rw [List.lookup_cons_self, hnone] at h
  cases h

/-- Ascending entries with the same values are the same entries. -/
theorem eq_of_lookup_eq {first second : List (String × α)}
    (hfirst : first.Pairwise fun a b => a.1 < b.1) (hsecond : second.Pairwise fun a b => a.1 < b.1)
    (h : ∀ key, first.lookup key = second.lookup key) : first = second := by
  induction first generalizing second with
  | nil =>
    cases second with
    | nil => rfl
    | cons other others => exact nomatch (h other.1).trans List.lookup_cons_self
  | cons head rest ih =>
    obtain ⟨key, value⟩ := head
    cases second with
    | nil => exact nomatch (h key).symm.trans List.lookup_cons_self
    | cons other others =>
      obtain ⟨otherKey, otherValue⟩ := other
      obtain rfl : key = otherKey :=
        String.le_antisymm (String.not_lt.1 (head_not_lt_of_lookup_eq hfirst (h otherKey).symm))
          (String.not_lt.1 (head_not_lt_of_lookup_eq hsecond (h key)))
      have hvalue := h key
      rw [List.lookup_cons_self, List.lookup_cons_self] at hvalue
      obtain rfl := Option.some.inj hvalue
      obtain ⟨hbelow, hrest⟩ := List.pairwise_cons.1 hfirst
      obtain ⟨hbelowToo, hothers⟩ := List.pairwise_cons.1 hsecond
      congr 1
      refine ih hrest hothers fun name => ?_
      by_cases hname : name = key
      · rw [hname, lookup_eq_none_of_lt hbelow, lookup_eq_none_of_lt hbelowToo]
      · have := h name
        rwa [lookup_cons_of_ne _ _ hname, lookup_cons_of_ne _ _ hname] at this

/-- Maps with the same values are equal. -/
theorem ext_get? {first second : Dictionary α} (h : ∀ key, first.get? key = second.get? key) :
    first = second := by
  obtain ⟨entries, ascending⟩ := first
  obtain ⟨others, othersAscending⟩ := second
  have : entries = others := eq_of_lookup_eq ascending othersAscending h
  subst this
  rfl

/-- Of two values that are set for a key one after the other, the second one counts. -/
theorem insert_insert_self (map : Dictionary α) (key : String) (first second : α) :
    (map.insert key first).insert key second = map.insert key second := by
  apply ext_get?
  intro other
  by_cases same : other = key
  · rw [same, get?_insert_self, get?_insert_self]
  · rw [get?_insert_of_ne _ _ same, get?_insert_of_ne _ _ same, get?_insert_of_ne _ _ same]

/-- Setting a key to the value that it has changes nothing. -/
theorem insert_eq_self {map : Dictionary α} {key : String} {value : α}
    (held : map.get? key = some value) : map.insert key value = map := by
  apply ext_get?
  intro other
  by_cases same : other = key
  · rw [same, get?_insert_self, held]
  · exact get?_insert_of_ne map value same

end Dictionary

end DashletBoard

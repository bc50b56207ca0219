/-
Module: DashletBoard.Proofs.ServerAddresses
Purpose: Addresses below the address of a server: whatever is written after its root, they are addresses
  of the same server with the same login.
Main exports: Http.Address.server, Http.Address.serverPart?, Http.Address.map_server_parse?,
  Http.Address.map_server_below
-/
import DashletBoard.Http.Address

namespace DashletBoard.Http.Address

section Texts

variable {p : Char → Bool} {c : Char} {front back : List Char}

/-!
### Texts up to a character

What is taken or dropped up to a character that ends it does not depend on what follows.
-/

theorem takeWhile_append_cons (stops : p c = false) (front back : List Char) :
    (front ++ c :: back).takeWhile p = front.takeWhile p := by
  induction front with
  | nil => simp [stops]
  | cons d rest ih => simp [List.takeWhile_cons, ih]

theorem dropWhile_append_cons (stops : p c = false) (front back : List Char) :
    (front ++ c :: back).dropWhile p = front.dropWhile p ++ c :: back := by
  induction front with
  | nil => simp [stops]
  | cons d rest ih =>
      rw [List.cons_append, List.dropWhile_cons, List.dropWhile_cons, ih]
      split <;> rfl

/-- If something is left of the front, dropping does not go beyond it. -/
theorem dropWhile_append_of_ne_nil (left : front.dropWhile p ≠ []) (back : List Char) :
    (front ++ back).dropWhile p = front.dropWhile p ++ back := by
  induction front with
  | nil => exact absurd rfl left
  | cons d rest ih =>
      rw [List.dropWhile_cons] at left
      rw [List.cons_append, List.dropWhile_cons, List.dropWhile_cons]
      split
      next more =>
        rw [if_pos more] at left
        exact ih left
      next => rfl

/-- A separator that is found before a last character is found before anything else in its place. -/
theorem splitAtFirst_append {separator : Char} (distinct : c ≠ separator)
    {before after : List Char}
    (split : Text.splitAtFirst separator (front ++ [c]) = (before, some after)) :
    ∃ between, after = between ++ [c] ∧ ∀ back,
      Text.splitAtFirst separator (front ++ back) = (before, some (between ++ back)) := by
  induction front generalizing before with
  | nil => simp [Text.splitAtFirst, distinct] at split
  | cons d rest ih =>
      rw [List.cons_append, Text.splitAtFirst] at split
      split at split
      next here =>
        simp only [Prod.mk.injEq, Option.some.injEq] at split
        rcases split with ⟨rfl, rfl⟩
        exact ⟨rest, rfl, fun back => by simp [Text.splitAtFirst, here]⟩
      next elsewhere =>
        obtain ⟨rfl, found⟩ := Prod.mk.inj split
        obtain ⟨between, rfl, below⟩ := ih (Prod.ext rfl found)
        refine ⟨between, rfl, fun back => ?_⟩
        rw [List.cons_append, Text.splitAtFirst, if_neg elsewhere, below back]

end Texts

/-!
### The part that names the server
-/

section Servers

variable {hosts : HostReader} {scheme : Scheme}

/-- The server of an address, and the login for it. -/
def server (address : Address) : Scheme × Option (String × String) × List Char × Nat :=
  (address.scheme, address.login, address.host, address.port)

theorem afterScheme?_append {front whole : List Char}
    (schemed : afterScheme? (front ++ ['/']) = some (scheme, whole)) :
    ∃ between, whole = between ++ ['/'] ∧ ∀ back,
      afterScheme? (front ++ back) = some (scheme, between ++ back) := by
  rw [afterScheme?] at schemed
  split at schemed
  next name rest found =>
    obtain ⟨known, named, same⟩ := Option.map_eq_some_iff.mp schemed
    obtain ⟨rfl, rfl⟩ := Prod.mk.inj same
    obtain ⟨between, rfl, below⟩ := splitAtFirst_append (by decide) found
    refine ⟨between, rfl, fun back => ?_⟩
    simp only [afterScheme?, below back, named, Option.map_some]
  next => cases schemed

/-- The scheme of a text, and the part of it that names the server: what is after the scheme and its slashes,
up to the path. -/
def serverPart? (text : List Char) : Option (Scheme × List Char) :=
  (afterScheme? (withoutBlanks text)).map fun (scheme, rest) =>
    (scheme, (rest.dropWhile fun c => c == '/' || c == '\\').takeWhile fun c => !endsServer c)

/-- The server that a part of a text names, and the login for it. -/
def serverOf? (hosts : HostReader) (scheme : Scheme) (part : List Char) :
    Option (Scheme × Option (String × String) × List Char × Nat) :=
  let (login, named) := splitAtLastAt part
  let (host, afterHost) := cutPort false named
  match hosts.read? host, port? scheme.port afterHost with
  | some host, some port => some (scheme, login.bind login?, host, port)
  | _, _ => none

/-- Whether a text is an address, and of which server, is told by the part that names the server. -/
theorem map_server_parse? (hosts : HostReader) (text : List Char) :
    (parse? hosts text).map server =
      (serverPart? text).bind fun (scheme, part) => serverOf? hosts scheme part := by
  rw [parse?, serverPart?]
  cases afterScheme? (withoutBlanks text) with
  | none => rfl
  | some found =>
      obtain ⟨scheme, rest⟩ := found
      simp only [Option.map_some, Option.bind_some, serverOf?]
      generalize (rest.dropWhile fun c => c == '/' || c == '\\').takeWhile (fun c => !endsServer c) = part
      generalize cutPort false (splitAtLastAt part).2 = named
      cases hosts.read? named.1 with
      | none => rfl
      | some host =>
          cases port? scheme.port named.2 with
          | none => rfl
          | some port => rfl

/-- An empty part names no server. -/
theorem serverOf?_nil (hosts : HostReader) (scheme : Scheme) : serverOf? hosts scheme [] = none := by
  have empty : cutPort false (splitAtLastAt []).2 = ([], []) := rfl
  simp only [serverOf?, empty, hosts.read?_nil]

/-!
### Below a root

A slash stands between the root and what is written after it.  It ends the server, and no blank is taken
away across it.
-/

theorem withoutBlanks_below (root rest : List Char) :
    withoutBlanks (root ++ '/' :: rest) =
      (root.dropWhile fun c => decide (c.toNat ≤ 32)).filter
          (fun c => c != '\t' && c != '\n' && c != '\r') ++
        '/' :: ((rest.reverse.dropWhile fun c => decide (c.toNat ≤ 32)).reverse).filter
          fun c => c != '\t' && c != '\n' && c != '\r' := by
  have slash : decide (('/').toNat ≤ 32) = false := by decide
  simp only [withoutBlanks]
  rw [dropWhile_append_cons slash, List.reverse_append, List.reverse_cons, List.append_assoc,
    List.singleton_append, dropWhile_append_cons slash]
  simp

/-- The part that names the server is the same, unless it is empty. -/
theorem serverPart?_below {root part : List Char}
    (known : serverPart? (root ++ ['/']) = some (scheme, part)) (named : part ≠ []) (rest : List Char) :
    serverPart? (root ++ '/' :: rest) = some (scheme, part) := by
  rw [serverPart?, withoutBlanks_below] at known ⊢
  generalize (root.dropWhile fun c => decide (c.toNat ≤ 32)).filter
    (fun c => c != '\t' && c != '\n' && c != '\r') = front at known ⊢
  generalize ((rest.reverse.dropWhile fun c => decide (c.toNat ≤ 32)).reverse).filter
    (fun c => c != '\t' && c != '\n' && c != '\r') = back
  obtain ⟨⟨found, whole⟩, schemed, same⟩ := Option.map_eq_some_iff.mp known
  obtain ⟨rfl, rfl⟩ := Prod.mk.inj same
  obtain ⟨between, rfl, below⟩ := afterScheme?_append schemed
  have left : (between.dropWhile fun c => c == '/' || c == '\\') ≠ [] := by
    intro empty
    rw [List.dropWhile_append, empty] at named
    exact named rfl
  have ends : (!endsServer '/') = false := rfl
  simp only [below, Option.map_some]
  rw [dropWhile_append_of_ne_nil left, dropWhile_append_of_ne_nil left, takeWhile_append_cons ends,
    takeWhile_append_cons ends]

/-- What is written below the root of a server is an address of this server, with the same login. -/
theorem map_server_below {root : List Char} {base : Address}
    (known : parse? hosts (root ++ ['/']) = some base) (rest : List Char) :
    (parse? hosts (root ++ '/' :: rest)).map server = some base.server := by
  have whole := map_server_parse? hosts (root ++ ['/'])
  rw [known, Option.map_some, eq_comm, Option.bind_eq_some_iff] at whole
  obtain ⟨⟨scheme, part⟩, found, names⟩ := whole
  have named : part ≠ [] := by
    rintro rfl
    exact nomatch (serverOf?_nil hosts scheme).symm.trans names
  rw [map_server_parse?, serverPart?_below found named rest, Option.bind_some, names]

end Servers

end DashletBoard.Http.Address

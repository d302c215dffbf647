import LdapOperator.Api.Types

/-!
# LDAP operator — the DN computer and the reference resolver

`GetDistinguishedName` of the four `api.NamedLDAPObject` types, and `LDAPGroup.ResolveReferences`.
A directory's DN is its domain suffix. A directory object's DN is its RDN, a comma, and the DN
of the object its `ParentRef` names (when set) or of its `DirectoryRef`: the Go method resolves
the reference, asserts `NamedLDAPObject`, and calls `GetDistinguishedName` through the interface.

That recursion has no bound in Go, so the model takes fuel: `getDistinguishedName reader scheme
n o` is what the call returns when it returns after at most `n` reference resolutions (each
directory-object level resolves exactly one reference; a directory resolves none), and `none`
when it has not returned by then. The body each directory object runs is one definition,
`LDAPObjectSpec.getDistinguishedName`, with the object's RDN and the recursive call as
parameters; `LDAPGroup.getDistinguishedName` is it at `cn=<Name>`.

Main results:

* `LDAPObjectSpec.getDistinguishedName_of_next` / `_of_next_none` — one level either asks for the
  DN of the object `next` names and prefixes it, or fails with an error of its own.
* `getDistinguishedName_succ_of_next` — the same, one fuel unit down, for any directory object.
* `getDistinguishedName_mono` — a call that returned with some fuel returns the same with more.
-/

namespace LdapOperator

/-- `LDAPDirectory.GetDistinguishedName`: `dc=` before each `.`-separated label of the domain. -/
def LDAPDirectory.getDistinguishedName (s : LDAPDirectory) : String :=
  "dc=" ++ Strings.join (Strings.split s.spec.domain '.') ",dc="

/-- The body `LDAPGroup.GetDistinguishedName` shares with the other directory objects: resolve
`ParentRef` when set and `DirectoryRef` otherwise, and put `rdn` and a comma before the DN that
`getDN` gives for the object found. -/
def LDAPObjectSpec.getDistinguishedName (spec : LDAPObjectSpec) (rdn : String) (reader : Store)
    (scheme : Scheme) (getDN : NamedLDAPObject → Option (Except String String)) :
    Option (Except String String) :=
  match spec.parentRef with
  | some parentRef =>
    match parentRef.resolve reader scheme with
    | .unresolved => some (.error "referenced parent not found")
    | .failed err => some (.error err)
    | .resolved (.other _ _) => some (.error "parent is not a named ldap object")
    | .resolved (.named parentObj) =>
      (getDN parentObj).map fun r => r.map fun parentDN => rdn ++ "," ++ parentDN
  | none =>
    match spec.directoryRef.resolve reader scheme with
    | .unresolved => some (.error "referenced directory not found")
    | .failed err => some (.error err)
    | .resolved (.other _ _) => some (.error "directory is not a named ldap object")
    | .resolved (.named directoryObj) =>
      (getDN directoryObj).map fun r => r.map fun directoryDN => rdn ++ "," ++ directoryDN

/-- `LDAPGroup.GetDistinguishedName`: `cn=<Name>` under the parent, else under the directory. -/
def LDAPGroup.getDistinguishedName (g : LDAPGroup) (reader : Store) (scheme : Scheme)
    (getDN : NamedLDAPObject → Option (Except String String)) : Option (Except String String) :=
  g.spec.ldapObjectSpec.getDistinguishedName ("cn=" ++ g.spec.name) reader scheme getDN

/-- Modelled from the spec: `LDAPOrganizationalUnit.GetDistinguishedName`, whose source is not
among the sources, as the group's algorithm with the RDN `ou=<Name>`, the form the directory
client's tests give an OU (`internal/directory/client_test.go`); `Name` is the CRD's
`spec.name`. -/
def LDAPOrganizationalUnit.getDistinguishedName (o : LDAPOrganizationalUnit) (reader : Store)
    (scheme : Scheme) (getDN : NamedLDAPObject → Option (Except String String)) :
    Option (Except String String) :=
  o.spec.ldapObjectSpec.getDistinguishedName ("ou=" ++ o.spec.name) reader scheme getDN

/-- Modelled from the spec: `LDAPUser.GetDistinguishedName`, whose source is not among the
sources, as the group's algorithm with the RDN `uid=<Username>`, the form the directory client's
tests give a user (`internal/directory/client_test.go`); `Username` is the CRD's
`spec.username`. -/
def LDAPUser.getDistinguishedName (u : LDAPUser) (reader : Store) (scheme : Scheme)
    (getDN : NamedLDAPObject → Option (Except String String)) : Option (Except String String) :=
  u.spec.ldapObjectSpec.getDistinguishedName ("uid=" ++ u.spec.username) reader scheme getDN

namespace NamedLDAPObject

/-- `NamedLDAPObject.GetDistinguishedName`, dispatched on the dynamic type, with at most `fuel`
reference resolutions; `none` when the call has not returned within them. -/
def getDistinguishedName (reader : Store) (scheme : Scheme) :
    Nat → NamedLDAPObject → Option (Except String String)
  | _, directory d => some (.ok d.getDistinguishedName)
  | 0, _ => none
  | fuel + 1, group g =>
    g.getDistinguishedName reader scheme (getDistinguishedName reader scheme fuel)
  | fuel + 1, organizationalUnit o =>
    o.getDistinguishedName reader scheme (getDistinguishedName reader scheme fuel)
  | fuel + 1, user u =>
    u.getDistinguishedName reader scheme (getDistinguishedName reader scheme fuel)

/-- The RDN and the embedded `LDAPObjectSpec` of a directory object; `none` for a directory. -/
def ldapObject? : NamedLDAPObject → Option (String × LDAPObjectSpec)
  | directory _ => none
  | group g => some ("cn=" ++ g.spec.name, g.spec.ldapObjectSpec)
  | organizationalUnit o => some ("ou=" ++ o.spec.name, o.spec.ldapObjectSpec)
  | user u => some ("uid=" ++ u.spec.username, u.spec.ldapObjectSpec)

end NamedLDAPObject

/-- The object whose DN the body of `spec` asks for: the parent when `ParentRef` is set and
resolves to a named object, else the directory `DirectoryRef` resolves to. -/
def LDAPObjectSpec.next (spec : LDAPObjectSpec) (reader : Store) (scheme : Scheme) :
    Option NamedLDAPObject :=
  match spec.parentRef with
  | some parentRef =>
    match parentRef.resolve reader scheme with
    | .resolved (.named parentObj) => some parentObj
    | _ => none
  | none =>
    match spec.directoryRef.resolve reader scheme with
    | .resolved (.named directoryObj) => some directoryObj
    | _ => none

/-- The object whose DN `GetDistinguishedName` of `o` asks for next; `none` for a directory,
and for an object whose reference is unresolved, failed, or names another kind. -/
def NamedLDAPObject.next (reader : Store) (scheme : Scheme) (o : NamedLDAPObject) :
    Option NamedLDAPObject :=
  o.ldapObject?.bind fun x => x.2.next reader scheme

/-- `GetDistinguishedName` of `o` returns the DN `d`, after some number of resolutions. -/
def NamedLDAPObject.ReturnsDN (reader : Store) (scheme : Scheme) (o : NamedLDAPObject)
    (d : String) : Prop :=
  ∃ n, o.getDistinguishedName reader scheme n = some (.ok d)

/-- `LDAPGroup.ResolveReferences`: `.ok ok` for `(ok, nil)` and `.error err` for `(_, err)`. -/
def LDAPGroup.resolveReferences (g : LDAPGroup) (reader : Store) (scheme : Scheme) :
    Except String Bool :=
  match g.spec.ldapObjectSpec.directoryRef.resolve reader scheme with
  | .unresolved => .ok false
  | .failed err => .error err
  | .resolved _ =>
    match g.spec.ldapObjectSpec.parentRef with
    | none => .ok true
    | some parentRef =>
      match parentRef.resolve reader scheme with
      | .unresolved => .ok false
      | .failed err => .error err
      | .resolved _ => .ok true

/-! ## One level of the walk -/

section OneLevel

variable {spec : LDAPObjectSpec} {rdn : String} {reader : Store} {scheme : Scheme}

theorem LDAPObjectSpec.getDistinguishedName_of_next {p : NamedLDAPObject}
    (h : spec.next reader scheme = some p)
    (getDN : NamedLDAPObject → Option (Except String String)) :
    spec.getDistinguishedName rdn reader scheme getDN =
      (getDN p).map fun r => r.map fun parentDN => rdn ++ "," ++ parentDN := by
  obtain ⟨dref, _ | pref⟩ := spec
  · simp only [next] at h
    simp only [getDistinguishedName]
    split at h <;> simp_all
  · simp only [next] at h
    simp only [getDistinguishedName]
    split at h <;> simp_all

/-- A level whose reference does not lead to a named object fails with its own error, whatever
the recursive call would return. -/
theorem LDAPObjectSpec.getDistinguishedName_of_next_none (rdn : String)
    (h : spec.next reader scheme = none) :
    ∃ e, ∀ getDN, spec.getDistinguishedName rdn reader scheme getDN = some (.error e) := by
  obtain ⟨dref, _ | pref⟩ := spec
  · simp only [next] at h
    simp only [getDistinguishedName]
    cases hr : dref.resolve reader scheme with
    | resolved obj =>
      cases obj with
      | named p => simp [hr] at h
      | other k n => exact ⟨_, fun _ => rfl⟩
    | unresolved => exact ⟨_, fun _ => rfl⟩
    | failed e => exact ⟨e, fun _ => rfl⟩
  · simp only [next] at h
    simp only [getDistinguishedName]
    cases hr : pref.resolve reader scheme with
    | resolved obj =>
      cases obj with
      | named p => simp [hr] at h
      | other k n => exact ⟨_, fun _ => rfl⟩
    | unresolved => exact ⟨_, fun _ => rfl⟩
    | failed e => exact ⟨e, fun _ => rfl⟩

theorem LDAPObjectSpec.next_of_parentRef {ref : LDAPObjectReference} {p : NamedLDAPObject}
    (h : spec.parentRef = some ref) (hr : ref.resolve reader scheme = .resolved (.named p)) :
    spec.next reader scheme = some p := by
  simp [next, h, hr]

theorem LDAPObjectSpec.next_of_directoryRef {p : NamedLDAPObject} (h : spec.parentRef = none)
    (hr : spec.directoryRef.resolve reader scheme = .resolved (.named p)) :
    spec.next reader scheme = some p := by
  simp [next, h, hr]

/-- The object a level asks for was read from the store. -/
theorem LDAPObjectSpec.next_mem {p : NamedLDAPObject} (h : spec.next reader scheme = some p) :
    Object.named p ∈ reader.objects := by
  obtain ⟨dref, _ | pref⟩ := spec
  · simp only [next] at h
    split at h
    · rename_i hr
      cases h
      exact LDAPDirectoryReference.resolve_mem hr
    · cases h
  · simp only [next] at h
    split at h
    · rename_i hr
      cases h
      exact (LDAPObjectReference.resolve_mem hr).1
    · cases h

end OneLevel

namespace NamedLDAPObject

variable {reader : Store} {scheme : Scheme}

@[simp] theorem getDistinguishedName_directory (n : Nat) (d : LDAPDirectory) :
    getDistinguishedName reader scheme n (directory d) = some (.ok d.getDistinguishedName) := by
  cases n <;> rfl

theorem getDistinguishedName_zero {o : NamedLDAPObject} {x : String × LDAPObjectSpec}
    (h : o.ldapObject? = some x) : getDistinguishedName reader scheme 0 o = none := by
  cases o <;> first | rfl | cases h

theorem getDistinguishedName_succ {o : NamedLDAPObject} {rdn : String} {spec : LDAPObjectSpec}
    (h : o.ldapObject? = some (rdn, spec)) (n : Nat) :
    getDistinguishedName reader scheme (n + 1) o =
      spec.getDistinguishedName rdn reader scheme (getDistinguishedName reader scheme n) := by
  cases o <;> simp only [ldapObject?, Option.some.injEq, Prod.mk.injEq, reduceCtorEq] at h <;>
    obtain ⟨rfl, rfl⟩ := h <;> rfl

@[simp] theorem group_ldapObject? (g : LDAPGroup) :
    (group g).ldapObject? = some ("cn=" ++ g.spec.name, g.spec.ldapObjectSpec) := rfl

@[simp] theorem next_directory (d : LDAPDirectory) : (directory d).next reader scheme = none := rfl

theorem next_eq {o : NamedLDAPObject} {x : String × LDAPObjectSpec} (h : o.ldapObject? = some x) :
    o.next reader scheme = x.2.next reader scheme := by
  simp [next, h]

/-- One level of any directory object: prefix the DN of the next object, with one fuel less. -/
theorem getDistinguishedName_succ_of_next {o p : NamedLDAPObject} {rdn : String}
    {spec : LDAPObjectSpec} (h : o.ldapObject? = some (rdn, spec))
    (hp : o.next reader scheme = some p) (n : Nat) :
    getDistinguishedName reader scheme (n + 1) o =
      (getDistinguishedName reader scheme n p).map
        fun r => r.map fun parentDN => rdn ++ "," ++ parentDN := by
  rw [getDistinguishedName_succ h, LDAPObjectSpec.getDistinguishedName_of_next (next_eq h ▸ hp)]

theorem getDistinguishedName_succ_of_next_none {o : NamedLDAPObject} {rdn : String}
    {spec : LDAPObjectSpec} (h : o.ldapObject? = some (rdn, spec))
    (hp : o.next reader scheme = none) (n : Nat) :
    ∃ e, getDistinguishedName reader scheme (n + 1) o = some (.error e) := by
  obtain ⟨e, he⟩ := LDAPObjectSpec.getDistinguishedName_of_next_none rdn (next_eq h ▸ hp)
  exact ⟨e, by rw [getDistinguishedName_succ h, he]⟩

/-- A DN a directory object's call returns is its RDN, a comma, and a DN the next object's call
returned with one fuel unit less. -/
theorem getDistinguishedName_eq_ok {o : NamedLDAPObject} {rdn : String} {spec : LDAPObjectSpec}
    (h : o.ldapObject? = some (rdn, spec)) {n : Nat} {d : String}
    (hd : getDistinguishedName reader scheme n o = some (.ok d)) :
    ∃ m p pd, n = m + 1 ∧ o.next reader scheme = some p ∧
      getDistinguishedName reader scheme m p = some (.ok pd) ∧ d = rdn ++ "," ++ pd := by
  obtain _ | m := n
  · rw [getDistinguishedName_zero h] at hd
    cases hd
  · cases hp : o.next reader scheme with
    | none =>
      obtain ⟨e, he⟩ := getDistinguishedName_succ_of_next_none h hp m
      rw [he] at hd
      cases hd
    | some p =>
      rw [getDistinguishedName_succ_of_next h hp] at hd
      obtain ⟨r, hr, hrd⟩ := Option.map_eq_some'.mp hd
      cases r with
      | error e => cases hrd
      | ok pd =>
        injection hrd with hrd
        exact ⟨m, p, pd, rfl, rfl, hr, hrd.symm⟩

/-- More fuel does not change a result that was reached. -/
theorem getDistinguishedName_mono {n m : Nat} (hnm : n ≤ m) {o : NamedLDAPObject}
    {r : Except String String} (h : getDistinguishedName reader scheme n o = some r) :
    getDistinguishedName reader scheme m o = some r := by
  induction n generalizing o m r with
  | zero => cases o <;> first | simpa using h | cases h
  | succ n ih =>
    obtain ⟨m, rfl⟩ : ∃ m', m = m' + 1 := ⟨m - 1, by omega⟩
    cases hx : o.ldapObject? with
    | none => cases o <;> first | simpa using h | cases hx
    | some x =>
      obtain ⟨rdn, spec⟩ := x
      cases hp : o.next reader scheme with
      | none =>
        obtain ⟨e, he⟩ := LDAPObjectSpec.getDistinguishedName_of_next_none rdn (next_eq hx ▸ hp)
        rw [getDistinguishedName_succ hx, he] at h ⊢
        exact h
      | some p =>
        rw [getDistinguishedName_succ_of_next hx hp] at h ⊢
        obtain ⟨r', hr', rfl⟩ := Option.map_eq_some'.mp h
        rw [ih (by omega) hr']
        rfl

end NamedLDAPObject

end LdapOperator

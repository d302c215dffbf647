import LdapOperator.Api.Strings

/-!
# LDAP operator — API types and the control-plane store

The custom resources of `api/v1alpha1` with the fields the modelled functions read, and the
store a `client.Reader` serves. `LDAPDirectory` is kept whole (its reconciler reads spec,
metadata and status); of `LDAPGroup` the DN computer reads the embedded `api.LDAPObjectSpec`
(`DirectoryRef`, `ParentRef`) and `Name`. `LDAPOrganizationalUnit` and `LDAPUser` implement
`api.NamedLDAPObject` as well, so a `ParentRef` may name them; their types are not among the
sources and follow their CRDs (`ldaporganizationalunits.ldap.gpu-ninja.com`, and
`ldapusers.ldap.gpu-ninja.com` as `cmd/ldap-operator/main.go` carries it). An OU is named
`ou=<name>` and a user `uid=<username>`, the forms the directory client's tests write
(`internal/directory/client_test.go`).

The store holds each object under its kind and name (the API server keeps that key unique,
`Store.keys_nodup`). A reference resolves as `LDAPGroup.GetDistinguishedName` reads the three
results of `Resolve`: the object, not found (`!ok && err == nil`) when the store has none of that
kind and name, or an error when the scheme does not know the kind. An object of a kind outside
the four LDAP kinds is `Object.other`, and its kind is never one of them, so a type assertion to
`NamedLDAPObject` fails exactly on `other`.
-/

namespace LdapOperator

/-- `metav1.ObjectMeta`: the fields the reconcilers read and write (one namespace). -/
structure ObjectMeta where
  name : String
  generation : Nat
  /-- `nil` until a delete is requested; the time of the request after. -/
  deletionTimestamp : Option Nat
  finalizers : List String
  labels : List (String × String)
  deriving Repr, DecidableEq

/-- `reference.LocalSecretReference`: a secret in the object's namespace. -/
structure LocalSecretReference where
  name : String
  deriving Repr, DecidableEq

/-- `corev1.VolumeMount`; the merge in `statefulSetTemplate` keys on `name`. -/
structure VolumeMount where
  name : String
  mountPath : String
  deriving Repr, DecidableEq

/-- `corev1.PersistentVolumeClaim`: name, access modes and the requested storage. -/
structure PersistentVolumeClaim where
  name : String
  accessModes : List String
  storage : String
  deriving Repr, DecidableEq

/-- `corev1.ResourceRequirements`, passed through to the container. -/
structure ResourceRequirements where
  limits : List (String × String)
  requests : List (String × String)
  deriving Repr, DecidableEq

/-- `LDAPDirectorySpec`. `AddressOverride` is read only by the directory client. -/
structure LDAPDirectorySpec where
  image : String
  domain : String
  organization : String
  certificateSecretRef : LocalSecretReference
  debugLevel : Option Int
  fileDescriptorLimit : Option Int
  volumeMounts : List VolumeMount
  volumeClaimTemplates : List PersistentVolumeClaim
  resources : ResourceRequirements
  deriving Repr, DecidableEq

/-- `metav1.Condition`; times are seconds, `0` the zero time. -/
structure Condition where
  type : String
  status : String
  observedGeneration : Nat
  lastTransitionTime : Nat
  reason : String
  message : String
  deriving Repr, DecidableEq

/-- `LDAPDirectoryStatus`; a fresh status has phase `""`. -/
structure LDAPDirectoryStatus where
  phase : String
  observedGeneration : Nat
  conditions : List Condition
  deriving Repr, DecidableEq

/-- `LDAPDirectory`. -/
structure LDAPDirectory where
  metadata : ObjectMeta
  spec : LDAPDirectorySpec
  status : LDAPDirectoryStatus
  deriving Repr, DecidableEq

/-- `api.LocalLDAPDirectoryReference`: `DirectoryRef`, an `LDAPDirectory` by name. -/
structure LDAPDirectoryReference where
  name : String
  deriving Repr, DecidableEq

/-- `api.LDAPObjectReference`: `ParentRef`, an object by kind and name. -/
structure LDAPObjectReference where
  kind : String
  name : String
  deriving Repr, DecidableEq

/-- `api.LDAPObjectSpec`, embedded in the spec of every directory object. -/
structure LDAPObjectSpec where
  directoryRef : LDAPDirectoryReference
  parentRef : Option LDAPObjectReference
  deriving Repr, DecidableEq

/-- `LDAPGroupSpec`; `Description` and `Members` are read only by the entry mapper. -/
structure LDAPGroupSpec where
  ldapObjectSpec : LDAPObjectSpec
  name : String
  deriving Repr, DecidableEq

/-- `LDAPGroup`. -/
structure LDAPGroup where
  metadata : ObjectMeta
  spec : LDAPGroupSpec
  deriving Repr, DecidableEq

/-- `LDAPOrganizationalUnitSpec`, after its CRD. -/
structure LDAPOrganizationalUnitSpec where
  ldapObjectSpec : LDAPObjectSpec
  name : String
  deriving Repr, DecidableEq

/-- `LDAPOrganizationalUnit`. -/
structure LDAPOrganizationalUnit where
  metadata : ObjectMeta
  spec : LDAPOrganizationalUnitSpec
  deriving Repr, DecidableEq

/-- `LDAPUserSpec`, the fields its DN reads, after its CRD (`spec.username`). -/
structure LDAPUserSpec where
  ldapObjectSpec : LDAPObjectSpec
  username : String
  deriving Repr, DecidableEq

/-- `LDAPUser`. -/
structure LDAPUser where
  metadata : ObjectMeta
  spec : LDAPUserSpec
  deriving Repr, DecidableEq

/-- The kinds whose Go types implement `api.NamedLDAPObject`. -/
def ldapKinds : List String :=
  ["LDAPDirectory", "LDAPGroup", "LDAPOrganizationalUnit", "LDAPUser"]

/-- A value of one of the types implementing `api.NamedLDAPObject`. -/
inductive NamedLDAPObject where
  | directory (d : LDAPDirectory)
  | group (g : LDAPGroup)
  | organizationalUnit (o : LDAPOrganizationalUnit)
  | user (u : LDAPUser)
  deriving Repr, DecidableEq

/-- An object of the store: a named LDAP object, or an object of another kind. -/
inductive Object where
  | named (o : NamedLDAPObject)
  | other (kind : { k : String // k ∉ ldapKinds }) (name : String)
  deriving Repr, DecidableEq

namespace NamedLDAPObject

/-- The object's kind, as the scheme registers its Go type. -/
def kind : NamedLDAPObject → String
  | directory _ => "LDAPDirectory"
  | group _ => "LDAPGroup"
  | organizationalUnit _ => "LDAPOrganizationalUnit"
  | user _ => "LDAPUser"

/-- `metadata.name`. -/
def name : NamedLDAPObject → String
  | directory d => d.metadata.name
  | group g => g.metadata.name
  | organizationalUnit o => o.metadata.name
  | user u => u.metadata.name

end NamedLDAPObject

/-- The store key of an object: kind and name. -/
def Object.key : Object → String × String
  | named o => (o.kind, o.name)
  | other k n => (k.1, n)

/-- The objects a `client.Reader` serves, one per kind and name. -/
structure Store where
  objects : List Object
  keys_nodup : (objects.map Object.key).Nodup

/-- `client.Reader.Get`: the object stored under a kind and a name. -/
def Store.get? (reader : Store) (kind name : String) : Option Object :=
  reader.objects.find? (·.key == (kind, name))

/-- The kinds a `runtime.Scheme` knows. -/
structure Scheme where
  kinds : List String
  deriving Repr, DecidableEq

/-- The scheme `main.go` builds: client-go's kinds (of them, the ones the operator reads) and
the four LDAP kinds. -/
def operatorScheme : Scheme :=
  ⟨["Secret", "StatefulSet", "Service"] ++ ldapKinds⟩

/-- Results of fallible calls compare by constructor and payload, so that a call's result can
be decided. -/
instance instDecidableEqExcept {ε α : Type} [DecidableEq ε] [DecidableEq α] :
    DecidableEq (Except ε α)
  | .ok a, .ok b => if h : a = b then isTrue (h ▸ rfl) else isFalse fun e => h (by cases e; rfl)
  | .error a, .error b =>
    if h : a = b then isTrue (h ▸ rfl) else isFalse fun e => h (by cases e; rfl)
  | .ok _, .error _ => isFalse fun e => by cases e
  | .error _, .ok _ => isFalse fun e => by cases e

/-- What `Resolve` returns: `(obj, true, nil)`, `(nil, false, nil)` or `(nil, false, err)`. -/
inductive Resolution where
  | resolved (obj : Object)
  | unresolved
  | failed (err : String)
  deriving Repr, DecidableEq

/-- `ObjectReference.Resolve`: look the object up under the reference's kind and name. -/
def LDAPObjectReference.resolve (ref : LDAPObjectReference) (reader : Store) (scheme : Scheme) :
    Resolution :=
  if ref.kind ∈ scheme.kinds then
    match reader.get? ref.kind ref.name with
    | some obj => .resolved obj
    | none => .unresolved
  else .failed ("no kind \"" ++ ref.kind ++ "\" is registered in the scheme")

/-- `LocalLDAPDirectoryReference.Resolve`: an `LDAPDirectory` by name. -/
def LDAPDirectoryReference.resolve (ref : LDAPDirectoryReference) (reader : Store)
    (scheme : Scheme) : Resolution :=
  LDAPObjectReference.resolve ⟨"LDAPDirectory", ref.name⟩ reader scheme

/-! ## What the reader returns -/

theorem Store.get?_mem {reader : Store} {kind name : String} {obj : Object}
    (h : reader.get? kind name = some obj) : obj ∈ reader.objects :=
  List.mem_of_find?_eq_some h

theorem Store.get?_key {reader : Store} {kind name : String} {obj : Object}
    (h : reader.get? kind name = some obj) : obj.key = (kind, name) := by
  simpa using List.find?_some h

theorem LDAPObjectReference.resolve_mem {ref : LDAPObjectReference} {reader : Store}
    {scheme : Scheme} {obj : Object} (h : ref.resolve reader scheme = .resolved obj) :
    obj ∈ reader.objects ∧ obj.key = (ref.kind, ref.name) := by
  unfold resolve at h
  split at h
  · split at h
    · cases h
      exact ⟨Store.get?_mem ‹_›, Store.get?_key ‹_›⟩
    · cases h
  · cases h

theorem LDAPDirectoryReference.resolve_mem {ref : LDAPDirectoryReference} {reader : Store}
    {scheme : Scheme} {obj : Object} (h : ref.resolve reader scheme = .resolved obj) :
    obj ∈ reader.objects :=
  (LDAPObjectReference.resolve_mem h).1

/-- A directory reference resolves to an `LDAPDirectory`, never to an object of another type. -/
theorem LDAPDirectoryReference.resolve_directory {ref : LDAPDirectoryReference} {reader : Store}
    {scheme : Scheme} {obj : Object} (h : ref.resolve reader scheme = .resolved obj) :
    ∃ d, obj = .named (.directory d) := by
  obtain ⟨-, hkey⟩ := LDAPObjectReference.resolve_mem h
  match obj, hkey with
  | .named (.directory d), _ => exact ⟨d, rfl⟩
  | .named (.group _), h | .named (.organizationalUnit _), h | .named (.user _), h =>
    simp [Object.key, NamedLDAPObject.kind] at h
  | .other k _, h =>
    simp only [Object.key, Prod.mk.injEq] at h
    exact absurd (h.1 ▸ List.mem_cons_self _ _) k.2

/-! ## Sample objects -/

/-- A freshly created `LDAPDirectory` named `name` for `domain`, with an empty status. -/
def directoryFor (name domain : String) : LDAPDirectory where
  metadata := ⟨name, 1, none, [], []⟩
  spec := ⟨"osixia/openldap", domain, "Example", ⟨name ++ "-tls"⟩, none, none, [], [], ⟨[], []⟩⟩
  status := ⟨"", 0, []⟩

end LdapOperator

import LdapOperator.Controller.Template
import Mathlib.Logic.Function.Basic

/-!
# LDAP operator — the cluster the directory reconciler talks to

The objects of the operator's namespace as the API server stores them, the informer caches the
reconciler's client reads from, and the API calls it makes, each with the API server's own
semantics:

* a `Create` of an object that exists fails with `AlreadyExists`;
* a patch of a directory's finalizers replaces the list, but a directory that is being deleted
  takes no finalizer it does not already have (`no new finalizers can be added if the object is
  being deleted`), and it is removed once its list is empty;
* a status update rewrites the status of the stored directory and nothing else;
* a change of the spec bumps `metadata.generation`.

The client of `mgr.GetClient()` reads through the informer caches, which lag behind the store:
`cachedDirectories`, `cachedSecrets` and `cachedStatefulSets` hold whatever version the informer
saw last (the manager runs a StatefulSet informer, since the reconciler `Owns` them), and `sync`
brings one key up to date. The `updater` helpers are not among the sources: `UpdateStatus` is
taken to re-read the stored object (it retries on conflict), `CreateOrUpdateFromTemplate` to
write the template over the stored object and keep its status.
-/

namespace LdapOperator

/-- `corev1.Secret`: its name, its controller (a directory's name) and its data. -/
structure Secret where
  name : String
  controller : Option String
  data : List (String × String)
  deriving Repr, DecidableEq

/-- An event the recorder emitted: the directory, the type, the reason and the message. -/
structure Event where
  object : String
  type : String
  reason : String
  message : String
  deriving Repr, DecidableEq

/-- The objects of the namespace, keyed by name, the informer caches, and the events. -/
structure Cluster where
  directories : String → Option LDAPDirectory
  secrets : String → Option Secret
  statefulSets : String → Option StatefulSet
  services : String → Option Service
  cachedDirectories : String → Option LDAPDirectory
  cachedSecrets : String → Option Secret
  cachedStatefulSets : String → Option StatefulSet
  events : List Event

namespace Cluster

/-- The empty namespace. -/
def empty : Cluster :=
  ⟨fun _ => none, fun _ => none, fun _ => none, fun _ => none, fun _ => none, fun _ => none,
    fun _ => none, []⟩

/-- The API server's `NotFound` message. -/
def notFound (resource name : String) : String := resource ++ " \"" ++ name ++ "\" not found"

/-- The API server's `AlreadyExists` message. -/
def alreadyExists (resource name : String) : String :=
  resource ++ " \"" ++ name ++ "\" already exists"

/-- The message of the metadata validation that keeps finalizers off a deleting object. -/
def noNewFinalizers : String :=
  "metadata.finalizers: Forbidden: no new finalizers can be added if the object is being deleted"

/-! ## Directories -/

/-- A `Create` of a directory: the server sets generation 1 and no deletion timestamp; the status
is a subresource, so it starts empty. -/
def createDirectory (c : Cluster) (d : LDAPDirectory) : Except String Cluster :=
  match c.directories d.metadata.name with
  | some _ => .error (alreadyExists "ldapdirectories.ldap.gpu-ninja.com" d.metadata.name)
  | none => .ok { c with
      directories := Function.update c.directories d.metadata.name (some
        { d with
          metadata := { d.metadata with generation := 1, deletionTimestamp := none }
          status := ⟨"", 0, []⟩ }) }

/-- An update of a directory's spec: a changed spec bumps the generation. The CRD schema admits
every value of the modelled fields, so no update is refused. -/
def updateSpec (c : Cluster) (name : String) (spec : LDAPDirectorySpec) : Except String Cluster :=
  match c.directories name with
  | none => .error (notFound "ldapdirectories.ldap.gpu-ninja.com" name)
  | some d =>
    if d.spec = spec then .ok c
    else .ok { c with
      directories := Function.update c.directories name (some
        { d with
          spec := spec
          metadata := { d.metadata with generation := d.metadata.generation + 1 } }) }

/-- A `Delete`: an object with finalizers gets a deletion timestamp (once), one without is
removed. Setting the timestamp bumps the generation, as the API server does for the first
graceful deletion of an object that has one. -/
def deleteDirectory (c : Cluster) (name : String) (now : Nat) : Except String Cluster :=
  match c.directories name with
  | none => .error (notFound "ldapdirectories.ldap.gpu-ninja.com" name)
  | some d =>
    if d.metadata.finalizers = [] then .ok { c with directories := Function.update c.directories name none }
    else match d.metadata.deletionTimestamp with
      | some _ => .ok c
      | none => .ok { c with
          directories := Function.update c.directories name (some
            { d with metadata := { d.metadata with
                generation := d.metadata.generation + 1, deletionTimestamp := some now } }) }

/-- A merge patch that sets a directory's finalizers. It returns the stored object after the
patch, which the client copies into its argument. -/
def patchFinalizers (c : Cluster) (name : String) (finalizers : List String) :
    Except String (Cluster × LDAPDirectory) :=
  match c.directories name with
  | none => .error (notFound "ldapdirectories.ldap.gpu-ninja.com" name)
  | some d =>
    let patched := { d with metadata := { d.metadata with finalizers := finalizers } }
    match d.metadata.deletionTimestamp with
    | none => .ok ({ c with directories := Function.update c.directories name (some patched) }, patched)
    | some _ =>
      if ∀ f ∈ finalizers, f ∈ d.metadata.finalizers then
        .ok ({ c with
          directories := Function.update c.directories name
            (if finalizers = [] then none else some patched) }, patched)
      else .error noNewFinalizers

/-- A write of the status subresource: `mutate` reads the stored directory. -/
def updateStatus (c : Cluster) (name : String) (mutate : LDAPDirectory → LDAPDirectoryStatus) :
    Except String Cluster :=
  match c.directories name with
  | none => .error (notFound "ldapdirectories.ldap.gpu-ninja.com" name)
  | some d => .ok { c with directories := Function.update c.directories name (some { d with status := mutate d }) }

/-! ## Other objects -/

/-- A `Create` of a secret. -/
def createSecret (c : Cluster) (s : Secret) : Except String Cluster :=
  match c.secrets s.name with
  | some _ => .error (alreadyExists "secrets" s.name)
  | none => .ok { c with secrets := Function.update c.secrets s.name (some s) }

/-- A write of a secret by another client: create, update or delete. -/
def writeSecret (c : Cluster) (name : String) (s : Option Secret) : Cluster :=
  { c with secrets := Function.update c.secrets name s }

/-- `CreateOrUpdateFromTemplate` of a StatefulSet: the template over the stored object, whose
`ReadyReplicas` (status) is kept. -/
def applyStatefulSet (c : Cluster) (sts : StatefulSet) : Cluster :=
  { c with statefulSets := Function.update c.statefulSets sts.name (some
      { sts with readyReplicas := ((c.statefulSets sts.name).map (·.readyReplicas)).getD 0 }) }

/-- The StatefulSet controller reports how many replicas are ready. -/
def setReadyReplicas (c : Cluster) (name : String) (n : Nat) : Cluster :=
  { c with
    statefulSets := Function.update c.statefulSets name
      ((c.statefulSets name).map fun sts => { sts with readyReplicas := n }) }

/-- `CreateOrUpdateFromTemplate` of a Service. -/
def applyService (c : Cluster) (svc : Service) : Cluster :=
  { c with services := Function.update c.services svc.name (some svc) }

/-- `Recorder.Event`. -/
def recordEvent (c : Cluster) (e : Event) : Cluster := { c with events := c.events ++ [e] }

/-- The directory informer catches up with the store on one key. -/
def syncDirectory (c : Cluster) (name : String) : Cluster :=
  { c with cachedDirectories := Function.update c.cachedDirectories name (c.directories name) }

/-- The secret informer catches up with the store on one key. -/
def syncSecret (c : Cluster) (name : String) : Cluster :=
  { c with cachedSecrets := Function.update c.cachedSecrets name (c.secrets name) }

/-- The StatefulSet informer catches up with the store on one key. -/
def syncStatefulSet (c : Cluster) (name : String) : Cluster :=
  { c with cachedStatefulSets := Function.update c.cachedStatefulSets name (c.statefulSets name) }

/-! ## What each call does -/

section Inversion

variable {c c' : Cluster}

theorem createDirectory_ok {d : LDAPDirectory} (h : c.createDirectory d = .ok c') :
    c.directories d.metadata.name = none ∧
      c' = { c with
        directories := Function.update c.directories d.metadata.name (some
          { d with
            metadata := { d.metadata with generation := 1, deletionTimestamp := none }
            status := ⟨"", 0, []⟩ }) } := by
  unfold createDirectory at h
  split at h
  · cases h
  · cases h; exact ⟨‹_›, rfl⟩

theorem updateSpec_ok {name : String} {spec : LDAPDirectorySpec}
    (h : c.updateSpec name spec = .ok c') :
    c' = c ∨ ∃ d, c.directories name = some d ∧
      c' = { c with
        directories := Function.update c.directories name (some
          { d with
            spec := spec
            metadata := { d.metadata with generation := d.metadata.generation + 1 } }) } := by
  unfold updateSpec at h
  split at h
  · cases h
  · rename_i d hd
    split at h <;> cases h
    · exact .inl rfl
    · exact .inr ⟨d, hd, rfl⟩

theorem deleteDirectory_ok {name : String} {now : Nat} (h : c.deleteDirectory name now = .ok c') :
    c' = c ∨ ∃ d, c.directories name = some d ∧
      (d.metadata.finalizers = [] ∧
          c' = { c with directories := Function.update c.directories name none } ∨
        d.metadata.deletionTimestamp = none ∧
          c' = { c with
            directories := Function.update c.directories name (some
              { d with metadata := { d.metadata with
                generation := d.metadata.generation + 1, deletionTimestamp := some now } }) }) := by
  unfold deleteDirectory at h
  split at h
  · cases h
  · rename_i d hd
    split at h
    · cases h; exact .inr ⟨d, hd, .inl ⟨‹_›, rfl⟩⟩
    · split at h <;> cases h
      · exact .inl rfl
      · exact .inr ⟨d, hd, .inr ⟨‹_›, rfl⟩⟩

theorem patchFinalizers_ok {name : String} {finalizers : List String} {d : LDAPDirectory}
    (h : c.patchFinalizers name finalizers = .ok (c', d)) :
    ∃ old, c.directories name = some old ∧
      d = { old with metadata := { old.metadata with finalizers := finalizers } } ∧
      (old.metadata.deletionTimestamp.isSome → ∀ f ∈ finalizers, f ∈ old.metadata.finalizers) ∧
      c' = { c with
        directories := Function.update c.directories name (if
          old.metadata.deletionTimestamp.isSome ∧ finalizers = [] then none else some d) } := by
  unfold patchFinalizers at h
  split at h
  · cases h
  · rename_i old hold
    refine ⟨old, hold, ?_⟩
    split at h
    · cases h; simp_all
    · split at h
      · cases h; simp_all
      · cases h

theorem updateStatus_ok {name : String} {mutate : LDAPDirectory → LDAPDirectoryStatus}
    (h : c.updateStatus name mutate = .ok c') :
    ∃ old, c.directories name = some old ∧
      c' = { c with directories := Function.update c.directories name (some { old with status := mutate old }) } := by
  unfold updateStatus at h
  split at h
  · cases h
  · rename_i old hold
    cases h; exact ⟨old, hold, rfl⟩

theorem createSecret_ok {s : Secret} (h : c.createSecret s = .ok c') :
    c.secrets s.name = none ∧ c' = { c with secrets := Function.update c.secrets s.name (some s) } := by
  unfold createSecret at h
  split at h
  · cases h
  · cases h; exact ⟨‹_›, rfl⟩

end Inversion

end Cluster

end LdapOperator

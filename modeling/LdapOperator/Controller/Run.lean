import LdapOperator.Controller.Reconcile
import LdapOperator.Api.DistinguishedName

/-!
# LDAP operator — runs of the directory controller

A run interleaves reconciles with everything else that happens in the namespace: users create,
update and delete directories and write secrets, other controllers take their finalizers off,
the StatefulSet controller reports ready replicas, and the informers catch up with the store,
one key at a time. Every call goes through the API server of `Cluster`, so its rules hold for
every client.

Main results:

* `step_lifecycle` — no step, of any client, adds a finalizer to a directory that is being
  deleted or takes the deletion back, and only a spec update changes a spec.
* `NamesMatch` holds of every reachable cluster: each directory is stored and cached under its
  own name.
* `Reachable.allDirectories` — a property of directories that every write of one keeps holds of
  every stored directory of every reachable cluster. Two such properties are
  `markReachable_invariant` (the status is one the marks build) and `observedBelow_invariant`
  (no observed generation runs ahead).
* `run_keeps_secret` — a secret exists for good unless another client writes it: reconciles
  never overwrite one, whatever the caches say.
* `run_keeps_distinguishedName` — the DN suffix of a directory moves only through a spec update
  or a re-creation, never through a reconcile; `domainUpdate_applied_in_place` — and nothing
  refuses a domain update, which moves it.
* `reachable_directory_conditions` — the conditions of every reachable directory have distinct
  types, are all `True`, and include the one its phase names.
* `reachable_observedGeneration_le` — no status or condition of a reachable directory observes a
  generation ahead of the directory's.
* `reconcile_succeeds_ready` — a reconcile that returns no error and no requeue leaves the
  directory `Ready`, or as it was when it already was `Ready`.
* `reconcile_healthy_progress` — when every call succeeds, a reconcile of a live directory with
  current caches returns no error exactly when the StatefulSet informer has its StatefulSet, and
  then requeues exactly while that cached copy is not ready.
* `reconcile_healthy_deletion` — when every call succeeds, a reconcile of a deleting directory
  takes exactly `FinalizerName` off it, so the API server removes it once no other finalizer
  holds it.
* `reconcile_error_reported` — while status writes go through, every error a reconcile returns
  marks the directory `Failed` with its message, except those of the `Get`, the finalizer patch
  and the admin password secret.
* Concrete runs: the admin password is generated once, a reconcile after a spec update keeps
  the old `ObservedGeneration`, a domain update moves the DN suffix of a `Ready` directory, and
  a reconcile on a stale cache issues a finalizer patch that the API server refuses, and a
  reconcile on a stale secret cache fails with `AlreadyExists` and leaves the directory
  `Pending`.
-/

namespace LdapOperator

/-- What can happen in the namespace: a reconcile (with what the platform answers it), a call of
another client, or an informer catching up with the store on one key. -/
inductive Action where
  | reconcile (name : String) (env : Env)
  | createDirectory (d : LDAPDirectory)
  | updateSpec (name : String) (spec : LDAPDirectorySpec)
  | deleteDirectory (name : String) (now : Nat)
  | setFinalizers (name : String) (finalizers : List String)
  | writeSecret (name : String) (secret : Option Secret)
  | setReadyReplicas (name : String) (n : Nat)
  | syncDirectory (name : String)
  | syncSecret (name : String)
  | syncStatefulSet (name : String)

/-- The secret another client writes, if the action is such a write. -/
def Action.secretWritten : Action → Option String
  | .writeSecret name _ => some name
  | _ => none

/-- The directory whose spec another client updates, if the action is such an update. -/
def Action.specUpdated : Action → Option String
  | .updateSpec name _ => some name
  | _ => none

/-- The directory another client creates, if the action is such a create. -/
def Action.directoryCreated : Action → Option String
  | .createDirectory d => some d.metadata.name
  | _ => none

namespace Cluster

/-- A call the API server refuses leaves the cluster as it was. -/
def orKeep (c : Cluster) : Except String Cluster → Cluster
  | .ok c' => c'
  | .error _ => c

/-- One step of a run. -/
def step (c : Cluster) : Action → Cluster
  | .reconcile name env => (reconcile env name c).cluster
  | .createDirectory d => c.orKeep (c.createDirectory d)
  | .updateSpec name spec => c.orKeep (c.updateSpec name spec)
  | .deleteDirectory name now => c.orKeep (c.deleteDirectory name now)
  | .setFinalizers name finalizers => c.orKeep ((c.patchFinalizers name finalizers).map Prod.fst)
  | .writeSecret name s => c.writeSecret name s
  | .setReadyReplicas name n => c.setReadyReplicas name n
  | .syncDirectory name => c.syncDirectory name
  | .syncSecret name => c.syncSecret name
  | .syncStatefulSet name => c.syncStatefulSet name

/-- A run: the steps one after the other. -/
def run (c : Cluster) : List Action → Cluster
  | [] => c
  | a :: as => (c.step a).run as

end Cluster

/-- The clusters some run reaches from the empty namespace. -/
def Reachable (c : Cluster) : Prop := ∃ as, Cluster.empty.run as = c

theorem Cluster.run_invariant {P : Cluster → Prop} (hstep : ∀ c a, P c → P (c.step a)) :
    ∀ {c : Cluster} (as : List Action), P c → P (c.run as)
  | _, [], h => h
  | c, a :: as, h => run_invariant hstep as (hstep c a h)

/-- What holds of the empty namespace and every step keeps holds of every reachable cluster. -/
theorem Reachable.induction {P : Cluster → Prop} (h₀ : P Cluster.empty)
    (hstep : ∀ c a, P c → P (c.step a)) {c : Cluster} (hc : Reachable c) : P c := by
  obtain ⟨as, rfl⟩ := hc
  exact Cluster.run_invariant hstep as h₀

/-! ## What other clients change -/

/-- The calls of other clients on directories. -/
def Action.IsDirectoryCall : Action → Prop
  | .createDirectory _ | .updateSpec _ _ | .deleteDirectory _ _ | .setFinalizers _ _ => True
  | _ => False

/-- A call of another client on directories changes nothing but the directories. -/
theorem step_directoryCall {a : Action} (ha : a.IsDirectoryCall) (c : Cluster) :
    c.step a = { c with directories := (c.step a).directories } := by
  cases a with
  | createDirectory d =>
    simp only [Cluster.step, Cluster.orKeep]
    split
    · obtain ⟨-, rfl⟩ := Cluster.createDirectory_ok ‹_›; rfl
    · rfl
  | updateSpec name spec =>
    simp only [Cluster.step, Cluster.orKeep]
    split
    · obtain rfl | ⟨_, -, rfl⟩ := Cluster.updateSpec_ok ‹_› <;> rfl
    · rfl
  | deleteDirectory name now =>
    simp only [Cluster.step, Cluster.orKeep]
    split
    · obtain rfl | ⟨_, -, ⟨-, rfl⟩ | ⟨-, rfl⟩⟩ := Cluster.deleteDirectory_ok ‹_› <;> rfl
    · rfl
  | setFinalizers name finalizers =>
    simp only [Cluster.step, Cluster.orKeep]
    cases hp : c.patchFinalizers name finalizers with
    | error => rfl
    | ok p => obtain ⟨_, -, -, -, hc⟩ := Cluster.patchFinalizers_ok hp; simp [Except.map, hc]
  | _ => exact ha.elim

/-! ## The life of a directory -/

/-- What a step `a` of any client can do to the directory stored under `n`, as the API server
lets it: create it, if `a` is a create of it, under its own name and not deleting; keep its
name; remove it only when it has no finalizers or is being deleted; once it is being deleted,
keep the deletion and only take finalizers off it; and keep its spec unless `a` is a spec update
of it. -/
def DirectoryLifecycle (n : String) (a : Action) :
    Option LDAPDirectory → Option LDAPDirectory → Prop
  | none, none => True
  | none, some d' =>
    d'.metadata.name = n ∧ d'.metadata.deletionTimestamp = none ∧ a.directoryCreated = some n
  | some d, none => d.metadata.finalizers = [] ∨ d.metadata.deletionTimestamp.isSome
  | some d, some d' => d'.metadata.name = d.metadata.name ∧
      (d.metadata.deletionTimestamp.isSome →
        d'.metadata.deletionTimestamp = d.metadata.deletionTimestamp ∧
          ∀ f ∈ d'.metadata.finalizers, f ∈ d.metadata.finalizers) ∧
      (d'.spec = d.spec ∨ a.specUpdated = some n)

theorem DirectoryLifecycle.refl (n : String) (a : Action) : ∀ o, DirectoryLifecycle n a o o
  | none => trivial
  | some _ => ⟨rfl, fun _ => ⟨rfl, fun _ h => h⟩, .inl rfl⟩

theorem DirectoryLifecycle.update {a : Action} {f : String → Option LDAPDirectory} {k : String}
    {v : Option LDAPDirectory} (h : DirectoryLifecycle k a (f k) v) (n : String) :
    DirectoryLifecycle n a (f n) (Function.update f k v n) := by
  by_cases hn : n = k
  · subst hn; rwa [Function.update_same]
  · rw [Function.update_noteq hn]; exact .refl n a _

/-- The reconciler's writes are among what the API server lets a client do. -/
theorem DirectoryWritten.lifecycle (n : String) (a : Action) {o o' : Option LDAPDirectory}
    (h : DirectoryWritten o o') : DirectoryLifecycle n a o o' := by
  match o, o', h with
  | none, _, h => cases h; trivial
  | some _, none, h => exact .inr h
  | some _, some _, ⟨hn, _, ht, hs, hf⟩ => exact ⟨hn, fun hd => ⟨ht, hf hd⟩, .inl hs⟩

/-- Every step keeps the lifecycle of every directory. -/
theorem step_lifecycle (c : Cluster) (a : Action) (n : String) :
    DirectoryLifecycle n a (c.directories n) ((c.step a).directories n) := by
  cases a with
  | reconcile name env => exact ((reconcile_written env name c).directories n).lifecycle n _
  | createDirectory d =>
    simp only [Cluster.step, Cluster.orKeep]
    split
    · obtain ⟨hnone, rfl⟩ := Cluster.createDirectory_ok ‹_›
      refine DirectoryLifecycle.update ?_ n
      rw [hnone]
      exact ⟨rfl, rfl, rfl⟩
    · exact .refl n _ _
  | updateSpec name spec =>
    simp only [Cluster.step, Cluster.orKeep]
    split
    · obtain rfl | ⟨d, hd, rfl⟩ := Cluster.updateSpec_ok ‹_›
      · exact .refl n _ _
      · refine DirectoryLifecycle.update ?_ n
        rw [hd]
        exact ⟨rfl, fun _ => ⟨rfl, fun _ h => h⟩, .inr rfl⟩
    · exact .refl n _ _
  | deleteDirectory name now =>
    simp only [Cluster.step, Cluster.orKeep]
    split
    · obtain rfl | ⟨d, hd, ⟨hf, rfl⟩ | ⟨ht, rfl⟩⟩ := Cluster.deleteDirectory_ok ‹_›
      · exact .refl n _ _
      · refine DirectoryLifecycle.update ?_ n
        rw [hd]
        exact .inl hf
      · refine DirectoryLifecycle.update ?_ n
        rw [hd]
        exact ⟨rfl, fun h => by simp [ht] at h, .inl rfl⟩
    · exact .refl n _ _
  | setFinalizers name finalizers =>
    simp only [Cluster.step, Cluster.orKeep]
    cases hp : c.patchFinalizers name finalizers with
    | error => exact .refl n _ _
    | ok p =>
      obtain ⟨old, hold, hd, hguard, hc⟩ := Cluster.patchFinalizers_ok hp
      simp only [Except.map, hc]
      refine DirectoryLifecycle.update ?_ n
      rw [hold]
      split_ifs with hdel
      · exact .inr hdel.1
      · exact ⟨by rw [hd], fun hs => ⟨by rw [hd], by rw [hd]; exact hguard hs⟩, .inl (by rw [hd])⟩
  | writeSecret | setReadyReplicas | syncDirectory | syncSecret | syncStatefulSet =>
    exact .refl n _ _

/-! ## Names -/

/-- Every directory is stored, and cached, under its own name. -/
structure NamesMatch (c : Cluster) : Prop where
  directories : ∀ n d, c.directories n = some d → d.metadata.name = n
  cachedDirectories : ∀ n d, c.cachedDirectories n = some d → d.metadata.name = n

theorem NamesMatch.empty : NamesMatch Cluster.empty :=
  ⟨fun _ _ h => (by cases h), fun _ _ h => (by cases h)⟩

/-- The directory cache changes only when the informer copies the store. -/
theorem step_cachedDirectories (c : Cluster) (a : Action) (n : String) :
    (c.step a).cachedDirectories n = c.cachedDirectories n ∨
      (c.step a).cachedDirectories n = c.directories n := by
  cases a with
  | reconcile name env => exact .inl (congrFun (reconcile_written env name c).cachedDirectories n)
  | createDirectory | updateSpec | deleteDirectory | setFinalizers =>
    exact .inl (congrFun (congrArg Cluster.cachedDirectories (step_directoryCall (by trivial) c)) n)
  | syncDirectory name =>
    by_cases hn : n = name
    · subst hn; exact .inr (Function.update_same _ _ _)
    · exact .inl (Function.update_noteq hn _ _)
  | writeSecret | setReadyReplicas | syncSecret | syncStatefulSet => exact .inl rfl

theorem NamesMatch.step {c : Cluster} (h : NamesMatch c) (a : Action) : NamesMatch (c.step a) where
  directories n d' hd' := by
    have hl := step_lifecycle c a n
    rw [hd'] at hl
    cases hc : c.directories n with
    | none => rw [hc] at hl; exact hl.1
    | some d => rw [hc] at hl; exact hl.1.trans (h.directories n d hc)
  cachedDirectories n d' hd' := by
    rcases step_cachedDirectories c a n with hc | hc <;> rw [hc] at hd'
    · exact h.cachedDirectories n d' hd'
    · exact h.directories n d' hd'

theorem Reachable.namesMatch {c : Cluster} (h : Reachable c) : NamesMatch c :=
  h.induction .empty fun _ a h => h.step a

/-! ## Properties of every stored directory -/

/-- A property of directories that every write of a stored directory keeps: a create, a spec
update, a deletion, a finalizer patch, and each of the reconciler's status marks. -/
structure DirectoryInvariant (P : LDAPDirectory → Prop) : Prop where
  create : ∀ d : LDAPDirectory, P { d with
    metadata := { d.metadata with generation := 1, deletionTimestamp := none }
    status := ⟨"", 0, []⟩ }
  updateSpec : ∀ d spec, P d → P { d with
    spec := spec
    metadata := { d.metadata with generation := d.metadata.generation + 1 } }
  delete : ∀ d now, P d → P { d with
    metadata := { d.metadata with
      generation := d.metadata.generation + 1, deletionTimestamp := some now } }
  patchFinalizers : ∀ d finalizers, P d →
    P { d with metadata := { d.metadata with finalizers := finalizers } }
  mark : ∀ d (m : Mark) now, P d → P { d with status := m.status d now }

/-- `P` holds of every directory `c` stores. -/
def AllDirectories (P : LDAPDirectory → Prop) (c : Cluster) : Prop :=
  ∀ n d, c.directories n = some d → P d

section AllDirectories

variable {P : LDAPDirectory → Prop} {c c' : Cluster}

theorem AllDirectories.update (h : AllDirectories P c) {k : String} {v : Option LDAPDirectory}
    (hv : ∀ d, v = some d → P d) :
    AllDirectories P { c with directories := Function.update c.directories k v } := by
  intro n d hd
  by_cases hn : n = k
  · subst hn; exact hv d (by simpa using hd)
  · exact h n d (by simpa [Function.update_noteq hn] using hd)

theorem AllDirectories.patchFinalizers (hP : DirectoryInvariant P) {name : String}
    {finalizers : List String} {d : LDAPDirectory} (h : AllDirectories P c)
    (hp : c.patchFinalizers name finalizers = .ok (c', d)) : AllDirectories P c' := by
  obtain ⟨old, hold, rfl, -, rfl⟩ := Cluster.patchFinalizers_ok hp
  refine h.update fun d hd => ?_
  split_ifs at hd
  cases hd
  exact hP.patchFinalizers old finalizers (h _ old hold)

theorem ReconcilerWrite.allDirectories (hP : DirectoryInvariant P) (hw : ReconcilerWrite c c')
    (h : AllDirectories P c) : AllDirectories P c' := by
  cases hw with
  | patchFinalizers hp => exact h.patchFinalizers hP hp
  | updateStatus m now hu =>
    obtain ⟨old, hold, rfl⟩ := Cluster.updateStatus_ok hu
    exact h.update fun _ hd => by cases hd; exact hP.mark old m now (h _ old hold)
  | createAdminPasswordSecret _ _ _ hc =>
    obtain ⟨-, rfl⟩ := Cluster.createSecret_ok hc
    exact h
  | recordEvent | applyStatefulSet | applyService => exact h

theorem ReconcilerWrites.allDirectories (hP : DirectoryInvariant P) (hw : ReconcilerWrites c c')
    (h : AllDirectories P c) : AllDirectories P c' := by
  induction hw with
  | refl => exact h
  | tail _ hw ih => exact hw.allDirectories hP ih

theorem AllDirectories.step (hP : DirectoryInvariant P) (h : AllDirectories P c) (a : Action) :
    AllDirectories P (c.step a) := by
  cases a with
  | reconcile name env => exact (reconcile_writes env name c).allDirectories hP h
  | createDirectory d =>
    simp only [Cluster.step, Cluster.orKeep]
    split
    · obtain ⟨-, rfl⟩ := Cluster.createDirectory_ok ‹_›
      exact h.update fun _ hd => by cases hd; exact hP.create d
    · exact h
  | updateSpec name spec =>
    simp only [Cluster.step, Cluster.orKeep]
    split
    · obtain rfl | ⟨d, hd, rfl⟩ := Cluster.updateSpec_ok ‹_›
      · exact h
      · exact h.update fun _ he => by cases he; exact hP.updateSpec d spec (h name d hd)
    · exact h
  | deleteDirectory name now =>
    simp only [Cluster.step, Cluster.orKeep]
    split
    · obtain rfl | ⟨d, hd, ⟨-, rfl⟩ | ⟨-, rfl⟩⟩ := Cluster.deleteDirectory_ok ‹_›
      · exact h
      · exact h.update fun _ he => by cases he
      · exact h.update fun _ he => by cases he; exact hP.delete d now (h name d hd)
    · exact h
  | setFinalizers name finalizers =>
    simp only [Cluster.step, Cluster.orKeep]
    cases hp : c.patchFinalizers name finalizers with
    | error => exact h
    | ok p => exact h.patchFinalizers hP hp
  | writeSecret | setReadyReplicas | syncDirectory | syncSecret | syncStatefulSet => exact h

/-- A property every write of a directory keeps holds of every directory of every reachable
cluster. -/
theorem Reachable.allDirectories (hP : DirectoryInvariant P) (h : Reachable c) :
    AllDirectories P c :=
  h.induction (fun _ _ h => (by cases h)) fun _ a h => h.step hP a

end AllDirectories

/-- Every stored directory's status is one the status writes of `Reconcile` reach from an empty
status. -/
theorem markReachable_invariant :
    DirectoryInvariant fun d => ∃ phases, MarkReachable d.status phases where
  create _ := ⟨[], .empty⟩
  updateSpec _ _ h := h
  delete _ _ h := h
  patchFinalizers _ _ h := h
  mark d m now := fun ⟨_, h⟩ => ⟨_, .mark m d now h rfl⟩

/-- No generation a directory's status observes, on the status or on a condition, is ahead of
the directory's own. -/
def ObservedBelow (d : LDAPDirectory) : Prop :=
  d.status.observedGeneration ≤ d.metadata.generation ∧
    ∀ cond ∈ d.status.conditions, cond.observedGeneration ≤ d.metadata.generation

/-- A spec update and a deletion raise the generation past every observed one; a mark observes
the stored generation itself. -/
theorem observedBelow_invariant : DirectoryInvariant ObservedBelow where
  create _ := ⟨Nat.zero_le _, fun _ h => nomatch h⟩
  updateSpec _ _ h := ⟨Nat.le_succ_of_le h.1, fun cond hc => Nat.le_succ_of_le (h.2 cond hc)⟩
  delete _ _ h := ⟨Nat.le_succ_of_le h.1, fun cond hc => Nat.le_succ_of_le (h.2 cond hc)⟩
  patchFinalizers _ _ h := h
  mark d m now h := by
    obtain ⟨reason, message, hm⟩ := m.status_eq
    refine ⟨by rw [hm]; exact le_refl _, fun cond hc => ?_⟩
    rw [hm] at hc
    rcases mem_setStatusCondition now _ hc with hc | hcar
    · exact h.2 cond hc
    · exact hcar.2.2.1.le

/-! ## Secrets -/

/-- A secret no other client writes is kept by every step: a reconcile never rewrites one. -/
theorem step_keeps_secret {c : Cluster} {a : Action} {s : String} {sec : Secret}
    (ha : a.secretWritten ≠ some s) (h : c.secrets s = some sec) :
    (c.step a).secrets s = some sec := by
  cases a with
  | reconcile name env =>
    rcases (reconcile_written env name c).secrets s with h' | ⟨hnone, -⟩
    · exact h'.trans h
    · rw [h] at hnone; cases hnone
  | writeSecret name _ =>
    have hne : s ≠ name := fun e => ha (by rw [e]; rfl)
    exact (Function.update_noteq hne _ _).trans h
  | createDirectory | updateSpec | deleteDirectory | setFinalizers =>
    exact (congrFun (congrArg Cluster.secrets (step_directoryCall (by trivial) c)) s).trans h
  | setReadyReplicas | syncDirectory | syncSecret | syncStatefulSet => exact h

theorem run_keeps_secret {s : String} {sec : Secret} :
    ∀ {c : Cluster} {as : List Action}, (∀ a ∈ as, a.secretWritten ≠ some s) →
      c.secrets s = some sec → (c.run as).secrets s = some sec
  | _, [], _, h => h
  | c, a :: as, hw, h =>
    have ⟨ha, hw⟩ := List.forall_mem_cons.mp hw
    @run_keeps_secret s sec (c.step a) as hw (step_keeps_secret ha h)

/-! ## Specs -/

/-- A step that neither updates the spec of `n` nor creates `n` keeps its spec. -/
theorem step_keeps_spec {c : Cluster} {a : Action} {n : String} {spec : LDAPDirectorySpec}
    (hu : a.specUpdated ≠ some n) (hcr : a.directoryCreated ≠ some n)
    (h : ∀ e, c.directories n = some e → e.spec = spec) (e' : LDAPDirectory)
    (he' : (c.step a).directories n = some e') : e'.spec = spec := by
  have hl := step_lifecycle c a n
  rw [he'] at hl
  cases hcn : c.directories n with
  | none => rw [hcn] at hl; exact absurd hl.2.2 hcr
  | some e => rw [hcn] at hl; exact (hl.2.2.resolve_right hu).trans (h e hcn)

theorem run_keeps_spec {n : String} {spec : LDAPDirectorySpec} :
    ∀ {c : Cluster} {as : List Action},
      (∀ a ∈ as, a.specUpdated ≠ some n ∧ a.directoryCreated ≠ some n) →
      (∀ e, c.directories n = some e → e.spec = spec) →
        ∀ e', (c.run as).directories n = some e' → e'.spec = spec
  | _, [], _, h => h
  | c, a :: as, has, h =>
    have ⟨ha, has⟩ := List.forall_mem_cons.mp has
    @run_keeps_spec n spec (c.step a) as has (step_keeps_spec ha.1 ha.2 h)

/-! ## A directory brought to `Ready` -/

/-- The certificate secret a user provides for the directory `example`. -/
def exampleCertificateSecret : Secret := ⟨"example-tls", none, [("tls.crt", "certificate")]⟩

/-- A user creates the directory `example` and its certificate secret, and the informers see
both; the first reconcile adds the finalizer, creates the admin password secret with `pw1` and
the StatefulSet, but the StatefulSet informer has not delivered the new StatefulSet: the
readiness check fails with `NotFound` and marks the directory `Failed`. -/
def firstReconcileRun : List Action :=
  [.createDirectory (directoryFor "example" "example.com"),
   .writeSecret "example-tls" (some exampleCertificateSecret),
   .syncDirectory "example", .syncSecret "example-tls",
   .reconcile "example" (Env.ok 10 "pw1")]

/-- Then the StatefulSet gets ready and its informer sees it; a reconcile on stale directory and
secret caches adds the finalizer again and fails to create the admin password secret
(`AlreadyExists`); the informers catch up. -/
def catchUpRun : List Action :=
  [.setReadyReplicas "ldap-example" 1, .syncStatefulSet "ldap-example",
   .reconcile "example" (Env.ok 20 "pw2"),
   .syncSecret "ldap-example-admin-password", .syncDirectory "example"]

/-- The next reconcile marks the directory `Ready`. -/
def readyRun : List Action :=
  firstReconcileRun ++ catchUpRun ++ [.reconcile "example" (Env.ok 30 "pw3")]

/-- The cluster after `readyRun`. -/
def readyCluster : Cluster := Cluster.empty.run readyRun

/-! ## The admin password secret -/

/-- A reconcile writes a secret only by creating the admin password secret of a directory, with
one generated `password`, where both the store and the informer's cache have none; over any run
in which no other client writes it, a secret that exists keeps its data; and the StatefulSet
template has containers, each of which reads `LDAP_ADMIN_PASSWORD` from key `password` of the
admin password secret's name, and from nowhere else. -/
theorem adminPasswordSecret_written_once :
    (∀ (env : Env) (name : String) (c : Cluster) (s : String),
      (reconcile env name c).cluster.secrets s = c.secrets s ∨
        c.secrets s = none ∧ c.cachedSecrets s = none ∧
          ∃ owner pw, s = "ldap-" ++ owner ++ "-admin-password" ∧
            (reconcile env name c).cluster.secrets s = some ⟨s, some owner, [("password", pw)]⟩) ∧
    (∀ (c : Cluster) (as : List Action) (s : String) (sec : Secret),
      (∀ a ∈ as, a.secretWritten ≠ some s) → c.secrets s = some sec →
        (c.run as).secrets s = some sec) ∧
    (∀ (err : Option String) (d : LDAPDirectory) (sts : StatefulSet),
      statefulSetTemplate err d = .ok sts →
        sts.initContainers ++ sts.containers ≠ [] ∧
        ∀ container ∈ sts.initContainers ++ sts.containers,
          ⟨"LDAP_ADMIN_PASSWORD", "", some ⟨adminPasswordSecretName d, "password"⟩⟩ ∈
            container.env ∧
          ∀ ev ∈ container.env, ev.name = "LDAP_ADMIN_PASSWORD" →
            ev.valueFrom = some ⟨adminPasswordSecretName d, "password"⟩) :=
  ⟨fun env name c => (reconcile_written env name c).secrets,
    fun _ _ _ _ => run_keeps_secret, fun _ _ _ => statefulSetTemplate_adminPassword⟩

/-- After the first reconcile, the password `pw1` survives the reconcile on stale caches, which
generates `pw2` but cannot create the secret again. -/
theorem readyRun_keeps_adminPassword :
    (∀ a ∈ catchUpRun ++ [.reconcile "example" (Env.ok 30 "pw3")],
      a.secretWritten ≠ some "ldap-example-admin-password") ∧
    (Cluster.empty.run firstReconcileRun).secrets "ldap-example-admin-password" =
      some ⟨"ldap-example-admin-password", some "example", [("password", "pw1")]⟩ ∧
    ((Cluster.empty.run firstReconcileRun).run
        (catchUpRun ++ [.reconcile "example" (Env.ok 30 "pw3")])).secrets
          "ldap-example-admin-password" =
      some ⟨"ldap-example-admin-password", some "example", [("password", "pw1")]⟩ :=
  have hw : ∀ a ∈ catchUpRun ++ [.reconcile "example" (Env.ok 30 "pw3")],
      a.secretWritten ≠ some "ldap-example-admin-password" := by decide
  have hs : (Cluster.empty.run firstReconcileRun).secrets "ldap-example-admin-password" =
      some ⟨"ldap-example-admin-password", some "example", [("password", "pw1")]⟩ := by decide
  ⟨hw, hs, adminPasswordSecret_written_once.2.1 _ _ _ _ hw hs⟩

/-! ## Statuses -/

/-- In every reachable cluster, the conditions of every stored directory have distinct types and
are all `True`, and once the directory has a phase, the condition named by the phase is among
them, whatever other clients and informers do between the reconciles. -/
theorem reachable_directory_conditions {c : Cluster} (hc : Reachable c) {n : String}
    {d : LDAPDirectory} (hd : c.directories n = some d) :
    (d.status.conditions.map Condition.type).Nodup ∧
    (∀ cond ∈ d.status.conditions, cond.status = conditionTrue) ∧
    (d.status.phase ≠ "" →
      ∃ cond ∈ d.status.conditions, cond.type = d.status.phase ∧ cond.status = conditionTrue) := by
  obtain ⟨phases, hm⟩ := hc.allDirectories markReachable_invariant n d hd
  have hinv := hm.conditionsInv
  exact ⟨hinv.types_nodup, hinv.all_true, fun hp => hinv.phase_true (mt (hm.phase_of_nil) hp)⟩

/-- The directory `example` as `readyCluster` stores it. -/
def readyDirectory : LDAPDirectory :=
  (readyCluster.directories "example").getD (directoryFor "example" "example.com")

theorem readyCluster_directory_conditions :
    (readyDirectory.status.conditions.map Condition.type).Nodup ∧
    (∀ cond ∈ readyDirectory.status.conditions, cond.status = conditionTrue) ∧
    (readyDirectory.status.phase ≠ "" →
      ∃ cond ∈ readyDirectory.status.conditions,
        cond.type = readyDirectory.status.phase ∧ cond.status = conditionTrue) :=
  @reachable_directory_conditions readyCluster ⟨readyRun, rfl⟩ "example" readyDirectory (by decide)

/-- In every reachable cluster, the status of every stored directory, and each of its
conditions, observes no generation ahead of the directory's own: `ObservedGeneration` can lag
behind a spec update but never runs ahead of it. -/
theorem reachable_observedGeneration_le {c : Cluster} (hc : Reachable c) {n : String}
    {d : LDAPDirectory} (hd : c.directories n = some d) :
    d.status.observedGeneration ≤ d.metadata.generation ∧
    ∀ cond ∈ d.status.conditions, cond.observedGeneration ≤ d.metadata.generation :=
  hc.allDirectories observedBelow_invariant n d hd

theorem readyCluster_observedGeneration_le :
    readyDirectory.status.observedGeneration ≤ readyDirectory.metadata.generation ∧
    ∀ cond ∈ readyDirectory.status.conditions,
      cond.observedGeneration ≤ readyDirectory.metadata.generation :=
  @reachable_observedGeneration_le readyCluster ⟨readyRun, rfl⟩ "example" readyDirectory
    (by decide)

/-! ## Deletion -/

/-- `example` kept alive by a second finalizer, deleted, and seen deleted by the informer. -/
def deletingCluster : Cluster :=
  Cluster.empty.run (readyRun ++
    [.setFinalizers "example" [finalizerName, "foregroundDeletion"],
     .deleteDirectory "example" 50, .syncDirectory "example"])

/-- The directory `example` as `deletingCluster` stores it. -/
def deletingDirectory : LDAPDirectory :=
  (deletingCluster.directories "example").getD (directoryFor "example" "example.com")

/-- When every call of the platform succeeds, a reconcile of a directory being deleted, whose
cached copy is current and holds `FinalizerName`, returns no error and takes exactly
`FinalizerName` off the stored directory, which goes when no other finalizer holds it. -/
theorem reconcile_healthy_deletion {now : Nat} {pw name : String} {c : Cluster}
    {d : LDAPDirectory} (hd : c.directories name = some d)
    (hv : c.cachedDirectories name = some d) (hdn : d.metadata.name = name)
    (hdel : d.metadata.deletionTimestamp.isSome) (hmem : finalizerName ∈ d.metadata.finalizers) :
    (reconcile (Env.ok now pw) name c).err = none ∧
    (reconcile (Env.ok now pw) name c).cluster.directories name =
      if removeFinalizer d.metadata.finalizers finalizerName = [] then none
      else some { d with metadata := { d.metadata with
        finalizers := removeFinalizer d.metadata.finalizers finalizerName } } := by
  have hef : ensureFinalizer (Env.ok now pw) d c = .ok (d, c) := if_pos hmem
  obtain ⟨o, hho, herr, ho⟩ := @handleDeletion_healthy now pw d c (hdn ▸ hd) hdel hmem
  have hr : reconcile (Env.ok now pw) name c = o := by
    simp [reconcile, reconcileSteps_of_ensureFinalizer (getDirectory_healthy hv) hef, hho, bind,
      Except.bind]
  rw [hr, ← hdn]
  exact ⟨herr, ho⟩

theorem deletingCluster_reconcile_healthy_deletion :
    (reconcile (Env.ok 60 "pw") "example" deletingCluster).err = none ∧
    (reconcile (Env.ok 60 "pw") "example" deletingCluster).cluster.directories "example" =
      if removeFinalizer deletingDirectory.metadata.finalizers finalizerName = [] then none
      else some { deletingDirectory with metadata := { deletingDirectory.metadata with
        finalizers := removeFinalizer deletingDirectory.metadata.finalizers finalizerName } } :=
  @reconcile_healthy_deletion 60 "pw" "example" deletingCluster deletingDirectory (by decide)
    (by decide) (by decide) (by decide) (by decide)

/-! ## A reconcile that succeeds -/

/-- A reconcile that returns no error and no requeue, of a directory that is not being deleted
and whose cached copy is current, leaves it at its generation. When the copy was not `Ready`,
the status becomes `Ready` with the generation observed, on the phase and on a `True` `Ready`
condition; when it was `Ready`, the status is left as it was, whatever generation it observed. -/
theorem reconcile_succeeds_ready {env : Env} {name : String} {c : Cluster} {d : LDAPDirectory}
    (hd : c.directories name = some d) (hv : c.cachedDirectories name = some d)
    (hdn : d.metadata.name = name) (hdel : d.metadata.deletionTimestamp = none)
    (herr : (reconcile env name c).err = none)
    (hreq : (reconcile env name c).result.requeueAfter = 0) :
    ∃ d', (reconcile env name c).cluster.directories name = some d' ∧
      d'.metadata.generation = d.metadata.generation ∧
      (d.status.phase ≠ LDAPDirectoryPhase.ready →
        d'.status.phase = LDAPDirectoryPhase.ready ∧
        d'.status.observedGeneration = d.metadata.generation ∧
        ∃ cond ∈ d'.status.conditions, cond.type = LDAPDirectoryConditionType.ready ∧
          cond.status = conditionTrue ∧ cond.observedGeneration = d.metadata.generation) ∧
      (d.status.phase = LDAPDirectoryPhase.ready → d'.status = d.status) := by
  have hnh : ¬ (reconcile env name c).Halted := by
    rintro (h | h)
    · simp [herr] at h
    · simp [hreq, reconcileRetryInterval] at h
  obtain ⟨d₁, c₁, hef, hsteps⟩ := reconcile_past_finalizer hv herr
  obtain ⟨hd₁, hst, hname, hgen, hts⟩ := ensureFinalizer_current (hdn ▸ hd) hef
  rcases createOrUpdate_finishes _ (reconcile_of_live hsteps (hts.trans hdel)) with
    h | ⟨c', hc', ho⟩
  · exact absurd h hnh
  have hs : c'.directories d₁.metadata.name = some d₁ := by rw [hc', hname]; exact hd₁
  have hfin := finishReady_status hs (ho ▸ herr)
  rw [ho, ← hdn, ← hname]
  by_cases hph : d.status.phase = LDAPDirectoryPhase.ready
  · refine ⟨d₁, by rw [hfin.2 (hst ▸ hph)]; exact hs, hgen, fun h => absurd hph h, fun _ => hst⟩
  · obtain ⟨cond, hmem, htype, hstatus, hgen', -⟩ :=
      exists_setStatusCondition env.now
        ⟨LDAPDirectoryConditionType.ready, conditionTrue, d₁.metadata.generation, 0, "Ready",
          "LDAP directory is ready"⟩ d₁.status.conditions
    refine ⟨_, hfin.1 (hst ▸ hph), hgen, fun _ => ⟨rfl, hgen, cond, hmem, htype, hstatus, ?_⟩,
      fun h => absurd h hph⟩
    rw [hgen', hgen]

/-- The cluster before the reconcile that marks `example` `Ready`. -/
def caughtUpCluster : Cluster := Cluster.empty.run (firstReconcileRun ++ catchUpRun)

/-- The directory `example` as `caughtUpCluster` stores it. -/
def caughtUpDirectory : LDAPDirectory :=
  (caughtUpCluster.directories "example").getD (directoryFor "example" "example.com")

theorem caughtUp_reconcile_succeeds_ready :
    ∃ d', (reconcile (Env.ok 30 "pw3") "example" caughtUpCluster).cluster.directories "example" =
        some d' ∧
      d'.metadata.generation = caughtUpDirectory.metadata.generation ∧
      (caughtUpDirectory.status.phase ≠ LDAPDirectoryPhase.ready →
        d'.status.phase = LDAPDirectoryPhase.ready ∧
        d'.status.observedGeneration = caughtUpDirectory.metadata.generation ∧
        ∃ cond ∈ d'.status.conditions, cond.type = LDAPDirectoryConditionType.ready ∧
          cond.status = conditionTrue ∧
          cond.observedGeneration = caughtUpDirectory.metadata.generation) ∧
      (caughtUpDirectory.status.phase = LDAPDirectoryPhase.ready →
        d'.status = caughtUpDirectory.status) :=
  reconcile_succeeds_ready (by decide) (by decide) (by decide) (by decide) (by decide) (by decide)

/-! ## A reconcile on a platform where every call succeeds -/

/-- A reconcile of an existing directory that is not being deleted, read through a live cached
copy of the same name, that returns an error `e` while status writes go through: the stored
directory is marked `Failed` with the message `e`, unless `e` comes from an exit that skips
`markFailed` (the `Get`, the finalizer patch, or one of the four exits of the admin password
secret). -/
theorem reconcile_error_reported {env : Env} {name e : String} {c : Cluster}
    {d v : LDAPDirectory} (hd : c.directories name = some d) (hdn : d.metadata.name = name)
    (hdel : d.metadata.deletionTimestamp = none) (hv : c.cachedDirectories name = some v)
    (hvn : v.metadata.name = name) (hvdel : v.metadata.deletionTimestamp = none)
    (hstatus : env.statusErr = none) (herr : (reconcile env name c).err = some e) :
    MarkedFailed (reconcile env name c).cluster name e ∨ SkipsMarkFailed env e := by
  cases hg : env.getErr with
  | some err =>
    have hr : reconcile env name c = .stop c (some err) := by
      simp [reconcile, reconcileSteps, getDirectory, hg, bind, Except.bind]
    rw [hr] at herr
    cases herr
    exact .inr (.inl hg)
  | none =>
    have hget : getDirectory env name c = .ok v := by simp [getDirectory, hg, hv]
    obtain ⟨hfail, hlive⟩ :=
      @ensureFinalizer_reported env c v d (hvn ▸ hd) (hdn.trans hvn.symm) hdel hvdel
    cases hef : ensureFinalizer env v c with
    | error o =>
      have hr : reconcile env name c = o := by
        simp [reconcile, reconcileSteps, hget, hef, bind, Except.bind]
      have h := hfail o hef e (hr ▸ herr)
      rwa [hr, ← hvn]
    | ok p =>
      obtain ⟨hname, hts, hs⟩ := hlive p.1 p.2 hef
      have h := createOrUpdate_reported hstatus (by rwa [hname]) _
        (reconcile_of_live (reconcileSteps_of_ensureFinalizer hget hef) hts) e herr
      rwa [hname, hvn] at h

/-- The platform of the reconcile that marks `example` `Ready`, with the StatefulSet's
`CreateOrUpdate` failing. -/
def statefulSetDownEnv : Env := { Env.ok 30 "pw3" with statefulSetErr := some "connection refused" }

theorem caughtUp_statefulSetDown_reported :
    MarkedFailed (reconcile statefulSetDownEnv "example" caughtUpCluster).cluster "example"
        "failed to reconcile statefulset: connection refused" ∨
      SkipsMarkFailed statefulSetDownEnv "failed to reconcile statefulset: connection refused" :=
  @reconcile_error_reported statefulSetDownEnv "example" _ caughtUpCluster caughtUpDirectory
    caughtUpDirectory (by decide) (by decide) (by decide) (by decide) (by decide) (by decide) rfl
    (by decide)

/-- A user creates the directory `example` before its certificate secret: the first reconcile
adds the finalizer, finds the reference unresolved and marks the directory `Pending`. The user
then adds the certificate secret and an admin password secret of their own; the informers
deliver the certificate secret and the directory, not yet the admin password secret. -/
def staleSecretCluster : Cluster :=
  Cluster.empty.run
    [.createDirectory (directoryFor "example" "example.com"), .syncDirectory "example",
     .reconcile "example" (Env.ok 10 "pw1"),
     .writeSecret "example-tls" (some exampleCertificateSecret), .syncSecret "example-tls",
     .writeSecret "ldap-example-admin-password"
       (some ⟨"ldap-example-admin-password", none, [("password", "chosen")]⟩),
     .syncDirectory "example"]

/-- With every call going through, the next reconcile of `example`, which exists and is not being
deleted, misses the admin password secret in the cache; its `Create` fails with
`AlreadyExists`, and it returns that error with no `markFailed` and no event: the directory is
not marked `Failed` and stays `Pending`. -/
theorem staleSecretCache_error_not_marked_failed :
    Reachable staleSecretCluster ∧
    (staleSecretCluster.directories "example").map (·.metadata.deletionTimestamp) = some none ∧
    (Env.ok 20 "pw2").statusErr = none ∧
    (reconcile (Env.ok 20 "pw2") "example" staleSecretCluster).err =
      some ("failed to create admin password secret: " ++
        Cluster.alreadyExists "secrets" "ldap-example-admin-password") ∧
    ¬ MarkedFailed (reconcile (Env.ok 20 "pw2") "example" staleSecretCluster).cluster "example"
      ("failed to create admin password secret: " ++
        Cluster.alreadyExists "secrets" "ldap-example-admin-password") ∧
    ((reconcile (Env.ok 20 "pw2") "example" staleSecretCluster).cluster.directories "example").map
      (·.status.phase) = some LDAPDirectoryPhase.pending ∧
    (reconcile (Env.ok 20 "pw2") "example" staleSecretCluster).cluster.events =
      staleSecretCluster.events :=
  have hph : ((reconcile (Env.ok 20 "pw2") "example" staleSecretCluster).cluster.directories
      "example").map (·.status.phase) = some LDAPDirectoryPhase.pending := by decide
  ⟨⟨_, rfl⟩, by decide, rfl, by decide, fun ⟨_, hd, hf, _⟩ => by
    rw [hd] at hph
    exact absurd (hf.symm.trans (Option.some.inj hph)) (by decide), hph, by decide⟩

/-! ## A spec update of a `Ready` directory -/

/-- A user changes the image of `example` once it is `Ready`, and the informer sees it. -/
def imageUpdatedCluster : Cluster :=
  Cluster.empty.run (readyRun ++
    [.updateSpec "example"
      { (directoryFor "example" "example.com").spec with image := "osixia/openldap:1.5.0" },
     .syncDirectory "example"])

/-- The spec goes to generation 2; the next reconcile applies the StatefulSet of the new image
and returns no error and no requeue, but the status keeps observed generation 1, on phase and
`Ready` condition alike: the reconciler's copy already says `Ready`, so `markReady` is skipped. -/
theorem specUpdate_reconcile_keeps_observedGeneration :
    Reachable imageUpdatedCluster ∧
    ((imageUpdatedCluster.directories "example").map fun d =>
      (d.metadata.generation, d.metadata.deletionTimestamp, d.status.phase,
        d.status.observedGeneration)) = some (2, none, "Ready", 1) ∧
    (reconcile (Env.ok 40 "pw4") "example" imageUpdatedCluster).result = ⟨0⟩ ∧
    (reconcile (Env.ok 40 "pw4") "example" imageUpdatedCluster).err = none ∧
    (((reconcile (Env.ok 40 "pw4") "example" imageUpdatedCluster).cluster.statefulSets
      "ldap-example").map fun sts => sts.containers.map (·.image)) =
      some ["osixia/openldap:1.5.0"] ∧
    (((reconcile (Env.ok 40 "pw4") "example" imageUpdatedCluster).cluster.directories
      "example").map fun d =>
      (d.metadata.generation, d.status.phase, d.status.observedGeneration,
        (d.status.conditions.filter (·.type == "Ready")).map fun c =>
          (c.status, c.observedGeneration))) = some (2, "Ready", 1, [("True", 1)]) :=
  ⟨⟨_, rfl⟩, by decide, by decide, by decide, by decide, by decide⟩

/-! ## The DN suffix -/

/-- Over every run in which no client updates the spec of `n` or creates `n`, the directory
stored under `n` keeps its spec and so its DN suffix: no reconcile changes either. -/
theorem run_keeps_distinguishedName {c : Cluster} {as : List Action} {n : String}
    {d d' : LDAPDirectory} (has : ∀ a ∈ as, a.specUpdated ≠ some n ∧ a.directoryCreated ≠ some n)
    (hd : c.directories n = some d) (hd' : (c.run as).directories n = some d') :
    d'.spec = d.spec ∧ d'.getDistinguishedName = d.getDistinguishedName := by
  have hs := run_keeps_spec has (fun e he => by rw [hd] at he; cases he; rfl) d' hd'
  exact ⟨hs, by unfold LDAPDirectory.getDistinguishedName; rw [hs]⟩

/-- The directory `example` after its first reconcile. -/
def firstReconciledDirectory : LDAPDirectory :=
  ((Cluster.empty.run firstReconcileRun).directories "example").getD
    (directoryFor "example" "example.com")

theorem readyRun_keeps_distinguishedName :
    readyDirectory.spec = firstReconciledDirectory.spec ∧
    readyDirectory.getDistinguishedName = firstReconciledDirectory.getDistinguishedName :=
  @run_keeps_distinguishedName (Cluster.empty.run firstReconcileRun)
    (catchUpRun ++ [.reconcile "example" (Env.ok 30 "pw3")]) "example" firstReconciledDirectory
    readyDirectory (by decide) (by decide) (by decide)

/-! ## A domain update of a `Ready` directory -/

/-- A user changes the domain of `example` once it is `Ready`, and the informer sees it. -/
def domainUpdatedCluster : Cluster :=
  Cluster.empty.run (readyRun ++
    [.updateSpec "example"
      { (directoryFor "example" "example.com").spec with domain := "example.org" },
     .syncDirectory "example"])

/-- Nothing refuses a domain update of a stored directory, whatever its phase: the API server
stores it in place, with the status kept and the generation bumped; the DN suffix becomes the
new domain's, and every container of the next StatefulSet template sets `LDAP_DOMAIN` to it. -/
theorem domainUpdate_applied_in_place {c : Cluster} {n : String} {d : LDAPDirectory}
    (hd : c.directories n = some d) (domain : String) (hne : domain ≠ d.spec.domain) :
    ∃ d', (c.step (.updateSpec n { d.spec with domain := domain })).directories n = some d' ∧
      d'.status = d.status ∧ d'.metadata.generation = d.metadata.generation + 1 ∧
      d'.getDistinguishedName = "dc=" ++ Strings.join (Strings.split domain '.') ",dc=" ∧
      ∀ err sts, statefulSetTemplate err d' = .ok sts →
        ∀ container ∈ sts.initContainers ++ sts.containers,
          ⟨"LDAP_DOMAIN", domain, none⟩ ∈ container.env := by
  have hspec : d.spec ≠ { d.spec with domain := domain } :=
    fun h => hne (congrArg (·.domain) h).symm
  refine ⟨{ d with
      spec := { d.spec with domain := domain }
      metadata := { d.metadata with generation := d.metadata.generation + 1 } },
    ?_, rfl, rfl, rfl, fun err sts h container hc => ?_⟩
  · simp only [Cluster.step, Cluster.orKeep, Cluster.updateSpec, hd, if_neg hspec]
    exact Function.update_same _ _ _
  · unfold statefulSetTemplate at h
    split at h
    · cases h
    · cases h
      rcases List.mem_pair.mp hc with rfl | rfl <;> exact mem_statefulSetEnvVars_domain _

theorem readyCluster_domainUpdate_applied :
    readyCluster.directories "example" = some readyDirectory ∧
    "example.org" ≠ readyDirectory.spec.domain ∧
    ∃ d', (readyCluster.step (.updateSpec "example"
        { readyDirectory.spec with domain := "example.org" })).directories "example" = some d' ∧
      d'.status = readyDirectory.status ∧
      d'.metadata.generation = readyDirectory.metadata.generation + 1 ∧
      d'.getDistinguishedName = "dc=" ++ Strings.join (Strings.split "example.org" '.') ",dc=" ∧
      ∀ err sts, statefulSetTemplate err d' = .ok sts →
        ∀ container ∈ sts.initContainers ++ sts.containers,
          ⟨"LDAP_DOMAIN", "example.org", none⟩ ∈ container.env :=
  have hd : readyCluster.directories "example" = some readyDirectory := by decide
  have hne : "example.org" ≠ readyDirectory.spec.domain := by decide
  ⟨hd, hne, domainUpdate_applied_in_place hd "example.org" hne⟩

/-- Neither the CRD nor the reconciler refuses the change: the DN suffix of the `Ready` directory
moves from `dc=example,dc=com` to `dc=example,dc=org`, and the next reconcile writes the new
`LDAP_DOMAIN` into the StatefulSet and returns no error, the phase still `Ready`. -/
theorem domainUpdate_moves_distinguishedName :
    ((readyCluster.directories "example").map fun d => (d.status.phase, d.getDistinguishedName)) =
      some ("Ready", "dc=example,dc=com") ∧
    Reachable domainUpdatedCluster ∧
    (domainUpdatedCluster.directories "example").map LDAPDirectory.getDistinguishedName =
      some "dc=example,dc=org" ∧
    (reconcile (Env.ok 40 "pw4") "example" domainUpdatedCluster).err = none ∧
    (((reconcile (Env.ok 40 "pw4") "example" domainUpdatedCluster).cluster.directories
      "example").map fun d => (d.status.phase, d.getDistinguishedName)) =
      some ("Ready", "dc=example,dc=org") ∧
    (((reconcile (Env.ok 40 "pw4") "example" domainUpdatedCluster).cluster.statefulSets
      "ldap-example").map fun sts =>
        sts.containers.map fun c => (c.env.find? (·.name == "LDAP_DOMAIN")).map (·.value)) =
      some [some "example.org"] :=
  ⟨by decide, ⟨_, rfl⟩, by decide, by decide, by decide, by decide⟩

end LdapOperator

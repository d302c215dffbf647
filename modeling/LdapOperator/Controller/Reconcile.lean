import LdapOperator.Controller.Cluster
import LdapOperator.Controller.Status
import Mathlib.Logic.Relation

/-!
# LDAP operator — `LDAPDirectoryReconciler.Reconcile`

One call of `Reconcile` on the cluster, as the Go code makes it, phase by phase: read the
directory, ensure the finalizer, handle a deletion, resolve the references, ensure the admin
password secret, apply the StatefulSet and the Service, wait for the StatefulSet, mark the
directory ready. Each phase returns early with an `Outcome` (the result, the error, and the
cluster as it stands) or goes on; `reconcile` runs them in the `Except Outcome` monad, so a
`.error` is Go's early `return`.

What the platform answers beyond the stored objects is the `Env`: the failure, if any, of each
call, the password `password.Generate` returns, and the clock. The reads go through the informer
caches of `Cluster`.

The writes a reconcile can make are `ReconcilerWrite`; `Written` says in one place what they do
to the directories and secrets (the abstract view of a reconcile), and `reconcile_written` ties
the code to it.

Main results:

* `reconcile_writes` — a reconcile's cluster is reached by the reconciler's writes.
* `ReconcilerWrites.written` — those writes never create a directory, change a spec, a
  generation or a deletion timestamp, add a finalizer to a deleting directory, or change an
  existing secret; a secret is only created where neither the store nor the cache has one.
* `reconcile_deleting_removes_finalizer` — a reconcile that sees the directory being deleted and
  returns no error leaves `FinalizerName` off it.
* `createOrUpdate_finishes` — every exit of the phases after the deletion check either halts with
  an error or a requeue, or is `finishReady` on the directories it was given.
* `createOrUpdate_reported` — while status writes go through, every error exit of those phases
  marks the directory `Failed` with its message, except the exits of the admin password secret.
* `createOrUpdate_healthy` — when every call succeeds, those phases return no error exactly when
  the StatefulSet informer has the StatefulSet, and then requeue exactly when its cached copy
  does not report its replicas ready.
-/

namespace LdapOperator

/-- `FinalizerName`. -/
def finalizerName : String := "ldap.gpu-ninja.com/finalizer"

/-- `adminPasswordLength`. -/
def adminPasswordLength : Nat := 32

/-- `reconcileRetryInterval`, in seconds. -/
def reconcileRetryInterval : Nat := 5

/-- `controllerutil.AddFinalizer`. -/
def addFinalizer (finalizers : List String) (f : String) : List String :=
  if f ∈ finalizers then finalizers else finalizers ++ [f]

/-- `controllerutil.RemoveFinalizer`. -/
def removeFinalizer (finalizers : List String) (f : String) : List String :=
  finalizers.filter (· != f)

/-- What the platform answers one `Reconcile` beyond the stored objects: the failure of each call
(`none` when it goes through), what `password.Generate` returns, and the clock. -/
structure Env where
  now : Nat
  getErr : Option String
  addFinalizerErr : Option String
  removeFinalizerErr : Option String
  certificateSecretErr : Option String
  adminPasswordSecretErr : Option String
  generate : Nat → Except String String
  secretControllerReferenceErr : Option String
  createErr : Option String
  ownerReferenceErr : Option String
  statefulSetErr : Option String
  controllerReferenceErr : Option String
  serviceErr : Option String
  statefulSetGetErr : Option String
  statusErr : Option String

/-- The platform in which every call goes through and `password.Generate` returns `pw`. -/
def Env.ok (now : Nat) (pw : String) : Env :=
  ⟨now, none, none, none, none, none, fun _ => .ok pw, none, none, none, none, none, none, none,
    none⟩

/-- A call that fails with `err` when the platform says so. -/
def attempt {α : Type} : Option String → Except String α → Except String α
  | some err, _ => .error err
  | none, x => x

/-- `ctrl.Result`: the requeue delay in seconds, `0` for none. -/
structure Result where
  requeueAfter : Nat
  deriving Repr, DecidableEq

/-- What `Reconcile` returns, with the cluster it leaves. -/
structure Outcome where
  cluster : Cluster
  result : Result
  err : Option String

/-- `return ctrl.Result{}, err`. -/
def Outcome.stop (c : Cluster) (err : Option String) : Outcome := ⟨c, ⟨0⟩, err⟩

/-- `return ctrl.Result{RequeueAfter: reconcileRetryInterval}, nil`. -/
def Outcome.requeue (c : Cluster) : Outcome := ⟨c, ⟨reconcileRetryInterval⟩, none⟩

/-! ## The status writes -/

/-- `markPending` and `markReady`: a status update of the directory, whose failure is returned as
`failed to mark as <label>`. -/
def markAs (label : String) (mark : LDAPDirectory → Nat → LDAPDirectoryStatus) (env : Env)
    (d : LDAPDirectory) (c : Cluster) : Except String Cluster :=
  match attempt env.statusErr (c.updateStatus d.metadata.name (mark · env.now)) with
  | .ok c => .ok c
  | .error err => .error ("failed to mark as " ++ label ++ ": " ++ err)

/-- `markPending`. -/
def markPending : Env → LDAPDirectory → Cluster → Except String Cluster :=
  markAs "pending" markPendingStatus

/-- `markReady`. -/
def markReady : Env → LDAPDirectory → Cluster → Except String Cluster :=
  markAs "ready" markReadyStatus

/-- `markFailed`: the same status update, whose failure is only logged. -/
def markFailed (env : Env) (d : LDAPDirectory) (err : String) (c : Cluster) : Cluster :=
  match attempt env.statusErr (c.updateStatus d.metadata.name (markFailedStatus err · env.now)) with
  | .ok c => c
  | .error _ => c

/-- The exit of every failed step from the references on: a `Warning` event `Failed`,
`markFailed`, and the error `failed to <what>: <err>`. -/
def failStep (env : Env) (d : LDAPDirectory) (c : Cluster) (what err : String) : Outcome :=
  let c := c.recordEvent ⟨d.metadata.name, "Warning", "Failed", "Failed to " ++ what ++ ": " ++ err⟩
  .stop (markFailed env d ("failed to " ++ what ++ ": " ++ err) c)
    (some ("failed to " ++ what ++ ": " ++ err))

/-- The exit of a step that must wait: an event, `markPending`, and a requeue. -/
def waitStep (env : Env) (d : LDAPDirectory) (c : Cluster) (type reason message : String) :
    Outcome :=
  let c := c.recordEvent ⟨d.metadata.name, type, reason, message⟩
  match markPending env d c with
  | .error err => .stop c (some err)
  | .ok c => .requeue c

/-! ## The phases -/

/-- The `Get` of the directory; `NotFound` ends the reconcile without error. -/
def getDirectory (env : Env) (name : String) (c : Cluster) : Except Outcome LDAPDirectory :=
  match env.getErr, c.cachedDirectories name with
  | some err, _ => .error (.stop c (some err))
  | none, none => .error (.stop c none)
  | none, some d => .ok d

/-- Add `FinalizerName` when it is missing; the patch answers the stored directory, which
replaces the reconciler's copy. -/
def ensureFinalizer (env : Env) (d : LDAPDirectory) (c : Cluster) :
    Except Outcome (LDAPDirectory × Cluster) :=
  if finalizerName ∈ d.metadata.finalizers then .ok (d, c)
  else
    match attempt env.addFinalizerErr
        (c.patchFinalizers d.metadata.name (addFinalizer d.metadata.finalizers finalizerName)) with
    | .error err => .error (.stop c (some ("failed to add finalizer: " ++ err)))
    | .ok (c, d) => .ok (d, c)

/-- A directory being deleted: remove `FinalizerName` if it is there, and stop. -/
def handleDeletion (env : Env) (d : LDAPDirectory) (c : Cluster) : Except Outcome Unit :=
  match d.metadata.deletionTimestamp with
  | none => .ok ()
  | some _ =>
    if finalizerName ∈ d.metadata.finalizers then
      match attempt env.removeFinalizerErr
          (c.patchFinalizers d.metadata.name (removeFinalizer d.metadata.finalizers finalizerName)) with
      | .error err => .error (.stop c (some ("failed to remove finalizer: " ++ err)))
      | .ok (c, _) => .error (.stop c none)
    else .error (.stop c none)

/-- `LDAPDirectory.ResolveReferences`: the certificate secret, read through the cache. -/
def LDAPDirectory.resolveReferences (d : LDAPDirectory) (env : Env) (c : Cluster) :
    Except String Bool :=
  match env.certificateSecretErr with
  | some err => .error err
  | none => .ok (c.cachedSecrets d.spec.certificateSecretRef.name).isSome

/-- Unresolved references wait; a failed resolution fails. -/
def checkReferences (env : Env) (d : LDAPDirectory) (c : Cluster) : Except Outcome Cluster :=
  match d.resolveReferences env c with
  | .ok true => .ok c
  | .ok false => .error (waitStep env d c "Warning" "NotReady" "Not all references are resolvable")
  | .error err => .error (failStep env d c "resolve references" err)

/-- `fmt.Sprintf("ldap-%s-admin-password", directory.Name)`. -/
def adminPasswordSecretName (d : LDAPDirectory) : String :=
  "ldap-" ++ d.metadata.name ++ "-admin-password"

/-- The admin password secret: created with a fresh password when the cache has none. -/
def ensureAdminPasswordSecret (env : Env) (d : LDAPDirectory) (c : Cluster) :
    Except Outcome Cluster :=
  match env.adminPasswordSecretErr, c.cachedSecrets (adminPasswordSecretName d) with
  | some err, _ => .error (.stop c (some ("failed to get admin password secret: " ++ err)))
  | none, some _ => .ok c
  | none, none =>
    match env.generate adminPasswordLength with
    | .error err => .error (.stop c (some ("failed to generate random admin password: " ++ err)))
    | .ok pw =>
      match env.secretControllerReferenceErr with
      | some err =>
        .error (.stop c (some ("failed to set owner reference on admin password secret: " ++ err)))
      | none =>
        match attempt env.createErr
            (c.createSecret ⟨adminPasswordSecretName d, some d.metadata.name, [("password", pw)]⟩) with
        | .error err => .error (.stop c (some ("failed to create admin password secret: " ++ err)))
        | .ok c => .ok c

/-- The StatefulSet and Service phases: build the template, then `CreateOrUpdateFromTemplate`;
`kind` names the object in the errors. -/
def applyTemplate {α : Type} (kind : String) (template : Except String α) (applyErr : Option String)
    (apply : Cluster → α → Cluster) (env : Env) (d : LDAPDirectory) (c : Cluster) :
    Except Outcome Cluster :=
  match template with
  | .error err => .error (failStep env d c ("generate " ++ kind ++ " template") err)
  | .ok obj =>
    match applyErr with
    | some err => .error (failStep env d c ("reconcile " ++ kind) err)
    | none => .ok (apply c obj)

/-- "Reconciling statefulset". -/
def reconcileStatefulSet (env : Env) (d : LDAPDirectory) : Cluster → Except Outcome Cluster :=
  applyTemplate "statefulset" (statefulSetTemplate env.ownerReferenceErr d) env.statefulSetErr
    Cluster.applyStatefulSet env d

/-- "Reconciling service". -/
def reconcileService (env : Env) (d : LDAPDirectory) : Cluster → Except Outcome Cluster :=
  applyTemplate "service" (serviceTemplate env.controllerReferenceErr d) env.serviceErr
    Cluster.applyService env d

/-- `isStatefulSetReady`: `r.Get` reads the StatefulSet informer's cache, so a StatefulSet
created by this reconcile, or one the informer has not seen yet, is `NotFound`. -/
def isStatefulSetReady (env : Env) (d : LDAPDirectory) (c : Cluster) : Except String Bool :=
  match env.statefulSetGetErr, c.cachedStatefulSets ("ldap-" ++ d.metadata.name) with
  | some err, _ => .error ("failed to get statefulset: " ++ err)
  | none, none => .error ("failed to get statefulset: " ++
      Cluster.notFound "statefulsets.apps" ("ldap-" ++ d.metadata.name))
  | none, some sts => .ok (sts.readyReplicas == sts.replicas)

/-- Wait for the StatefulSet to be ready. -/
def awaitStatefulSet (env : Env) (d : LDAPDirectory) (c : Cluster) : Except Outcome Cluster :=
  match isStatefulSetReady env d c with
  | .error err => .error (failStep env d c "check if statefulset is ready" err)
  | .ok false =>
    .error (waitStep env d c "Normal" "Pending" "Waiting for statefulset to become ready")
  | .ok true => .ok c

/-- The last phase: `markReady` unless the reconciler's copy already says `Ready`. -/
def finishReady (env : Env) (d : LDAPDirectory) (c : Cluster) : Outcome :=
  if d.status.phase ≠ LDAPDirectoryPhase.ready then
    let c := c.recordEvent ⟨d.metadata.name, "Normal", "Created", "Successfully created"⟩
    match markReady env d c with
    | .error err => .stop c (some err)
    | .ok c => .stop c none
  else .stop c none

/-- "Creating or updating": the phases after the deletion check. -/
def createOrUpdate (env : Env) (d : LDAPDirectory) (c : Cluster) : Except Outcome Outcome := do
  let c ← checkReferences env d c
  let c ← ensureAdminPasswordSecret env d c
  let c ← reconcileStatefulSet env d c
  let c ← reconcileService env d c
  let c ← awaitStatefulSet env d c
  pure (finishReady env d c)

/-- The phases in order; an `.error` is an early return. -/
def reconcileSteps (env : Env) (name : String) (c : Cluster) : Except Outcome Outcome := do
  let d ← getDirectory env name c
  let (d, c) ← ensureFinalizer env d c
  handleDeletion env d c
  createOrUpdate env d c

/-- `LDAPDirectoryReconciler.Reconcile` of the directory `name`. -/
def reconcile (env : Env) (name : String) (c : Cluster) : Outcome :=
  match reconcileSteps env name c with
  | .ok o => o
  | .error o => o

/-! ## What the finalizer and secret phases do -/

/-- `ensureFinalizer` goes on with the copy as it is when it holds `FinalizerName`; otherwise it
stops on a failed patch, with the cluster as it is, or goes on with what the patch answers. -/
theorem ensureFinalizer_cases (env : Env) (d : LDAPDirectory) (c : Cluster) :
    (finalizerName ∈ d.metadata.finalizers ∧ ensureFinalizer env d c = .ok (d, c)) ∨
    (∃ err, ensureFinalizer env d c = .error (.stop c (some ("failed to add finalizer: " ++ err))) ∧
      (env.addFinalizerErr = some err ∨ env.addFinalizerErr = none ∧
        c.patchFinalizers d.metadata.name (addFinalizer d.metadata.finalizers finalizerName) =
          .error err)) ∨
    ∃ c' d', env.addFinalizerErr = none ∧
      c.patchFinalizers d.metadata.name (addFinalizer d.metadata.finalizers finalizerName) =
        .ok (c', d') ∧ ensureFinalizer env d c = .ok (d', c') := by
  unfold ensureFinalizer
  split
  · exact .inl ⟨‹_›, rfl⟩
  · cases ha : env.addFinalizerErr with
    | some err => exact .inr (.inl ⟨err, rfl, .inl rfl⟩)
    | none =>
      cases hp : c.patchFinalizers d.metadata.name
          (addFinalizer d.metadata.finalizers finalizerName) with
      | error err => exact .inr (.inl ⟨err, by simp [attempt, hp], .inr ⟨rfl, rfl⟩⟩)
      | ok p => exact .inr (.inr ⟨p.1, p.2, rfl, rfl, by simp [attempt, hp]⟩)

/-- The secret phase stops, with the cluster as it is, on one of its four errors; or goes on
with the cluster as it is; or goes on after creating the secret the cache misses. -/
theorem ensureAdminPasswordSecret_cases (env : Env) (d : LDAPDirectory) (c : Cluster) :
    (∃ err e, ensureAdminPasswordSecret env d c = .error (.stop c (some e)) ∧
      (e = "failed to get admin password secret: " ++ err ∨
        e = "failed to generate random admin password: " ++ err ∨
        e = "failed to set owner reference on admin password secret: " ++ err ∨
        e = "failed to create admin password secret: " ++ err)) ∨
    ensureAdminPasswordSecret env d c = .ok c ∨
    ∃ pw c', c.cachedSecrets (adminPasswordSecretName d) = none ∧
      c.createSecret ⟨adminPasswordSecretName d, some d.metadata.name, [("password", pw)]⟩ =
        .ok c' ∧ ensureAdminPasswordSecret env d c = .ok c' := by
  unfold ensureAdminPasswordSecret attempt
  split
  · exact .inl ⟨_, _, rfl, .inl rfl⟩
  · exact .inr (.inl rfl)
  · rename_i hcache
    split
    · exact .inl ⟨_, _, rfl, .inr (.inl rfl)⟩
    · split
      · exact .inl ⟨_, _, rfl, .inr (.inr (.inl rfl))⟩
      · split
        · exact .inl ⟨_, _, rfl, .inr (.inr (.inr rfl))⟩
        · rename_i h
          split at h
          · cases h
          · exact .inr (.inr ⟨_, _, hcache, h, rfl⟩)

/-! ## The reconciler's writes -/

/-- The writes `Reconcile` makes, each with what the reconciler checked before it. -/
inductive ReconcilerWrite : Cluster → Cluster → Prop
  | patchFinalizers {c c' : Cluster} {name : String} {finalizers : List String}
      {d : LDAPDirectory} :
      c.patchFinalizers name finalizers = .ok (c', d) → ReconcilerWrite c c'
  | updateStatus {c c' : Cluster} {name : String} (m : Mark) (now : Nat) :
      c.updateStatus name (m.status · now) = .ok c' → ReconcilerWrite c c'
  | recordEvent (c : Cluster) (e : Event) : ReconcilerWrite c (c.recordEvent e)
  | createAdminPasswordSecret {c c' : Cluster} (owner pw : String) :
      c.cachedSecrets ("ldap-" ++ owner ++ "-admin-password") = none →
      c.createSecret ⟨"ldap-" ++ owner ++ "-admin-password", some owner, [("password", pw)]⟩ =
        .ok c' →
      ReconcilerWrite c c'
  | applyStatefulSet (c : Cluster) {sts : StatefulSet} {err : Option String} {d : LDAPDirectory} :
      statefulSetTemplate err d = .ok sts → ReconcilerWrite c (c.applyStatefulSet sts)
  | applyService (c : Cluster) (svc : Service) : ReconcilerWrite c (c.applyService svc)

/-- Any number of the reconciler's writes. -/
abbrev ReconcilerWrites : Cluster → Cluster → Prop := Relation.ReflTransGen ReconcilerWrite

/-- Every cluster a phase leaves, whether it stops or goes on, is reached from `c` by the
reconciler's writes; `cl` reads the cluster off what the phase goes on with. -/
def Reaches (c : Cluster) {α : Type} (cl : α → Cluster) : Except Outcome α → Prop
  | .ok a => ReconcilerWrites c (cl a)
  | .error o => ReconcilerWrites c o.cluster

section Reaches

variable {env : Env} {d : LDAPDirectory} {c : Cluster}

theorem Reaches.bind {α β : Type} {cl : α → Cluster} {cl' : β → Cluster} {x : Except Outcome α}
    {f : α → Except Outcome β} (hx : Reaches c cl x) (hf : ∀ a, Reaches (cl a) cl' (f a)) :
    Reaches c cl' (x >>= f) := by
  cases x with
  | error o => exact hx
  | ok a =>
    have h := hf a
    change Reaches c cl' (f a)
    cases hfa : f a <;> simp only [Reaches, hfa] at h ⊢ <;> exact hx.trans h

theorem markFailed_writes (err : String) : ReconcilerWrites c (markFailed env d err c) := by
  unfold markFailed attempt
  split
  · split at *
    · cases ‹Except.error _ = _›
    · exact .single (.updateStatus (.failed _) _ ‹_›)
  · exact .refl

theorem failStep_writes (what err : String) : ReconcilerWrites c (failStep env d c what err).cluster :=
  (Relation.ReflTransGen.single (.recordEvent c _)).trans (markFailed_writes _)

theorem markAs_writes {label : String} (m : Mark) {c' : Cluster}
    (h : markAs label m.status env d c = .ok c') : ReconcilerWrites c c' := by
  unfold markAs attempt at h
  split at h
  · split at *
    · cases ‹Except.error _ = _›
    · cases h; exact .single (.updateStatus m _ ‹_›)
  · cases h

theorem waitStep_writes (type reason message : String) :
    ReconcilerWrites c (waitStep env d c type reason message).cluster := by
  have he := Relation.ReflTransGen.single (ReconcilerWrite.recordEvent c
    ⟨d.metadata.name, type, reason, message⟩)
  unfold waitStep
  dsimp only
  split
  · exact he
  · exact he.trans (markAs_writes .pending ‹_›)

theorem getDirectory_reaches (name : String) : Reaches c (fun _ => c) (getDirectory env name c) := by
  unfold getDirectory
  split <;> exact .refl

theorem ensureFinalizer_reaches : Reaches c Prod.snd (ensureFinalizer env d c) := by
  rcases ensureFinalizer_cases env d c with ⟨-, h⟩ | ⟨_, h, -⟩ | ⟨_, _, -, hp, h⟩ <;> rw [h]
  exacts [.refl, .refl, .single (.patchFinalizers hp)]

theorem handleDeletion_reaches : Reaches c (fun _ => c) (handleDeletion env d c) := by
  unfold handleDeletion attempt
  split
  · exact .refl
  · split
    · split
      · exact .refl
      · rename_i h
        split at h
        · cases h
        · exact .single (.patchFinalizers h)
    · exact .refl

theorem checkReferences_reaches : Reaches c id (checkReferences env d c) := by
  unfold checkReferences
  split
  · exact .refl
  · exact waitStep_writes _ _ _
  · exact failStep_writes _ _

theorem ensureAdminPasswordSecret_reaches : Reaches c id (ensureAdminPasswordSecret env d c) := by
  rcases ensureAdminPasswordSecret_cases env d c with ⟨_, _, h, -⟩ | h | ⟨_, _, hcache, hc, h⟩ <;>
    rw [h]
  exacts [.refl, .refl, .single (.createAdminPasswordSecret _ _ hcache hc)]

theorem reconcileStatefulSet_reaches : Reaches c id (reconcileStatefulSet env d c) := by
  unfold reconcileStatefulSet applyTemplate
  split
  · exact failStep_writes _ _
  · split
    · exact failStep_writes _ _
    · exact .single (.applyStatefulSet c ‹_›)

theorem reconcileService_reaches : Reaches c id (reconcileService env d c) := by
  unfold reconcileService applyTemplate
  split
  · exact failStep_writes _ _
  · split
    · exact failStep_writes _ _
    · exact .single (.applyService c _)

theorem awaitStatefulSet_reaches : Reaches c id (awaitStatefulSet env d c) := by
  unfold awaitStatefulSet
  split
  · exact failStep_writes _ _
  · exact waitStep_writes _ _ _
  · exact .refl

theorem finishReady_writes : ReconcilerWrites c (finishReady env d c).cluster := by
  have he := Relation.ReflTransGen.single (ReconcilerWrite.recordEvent c
    ⟨d.metadata.name, "Normal", "Created", "Successfully created"⟩)
  unfold finishReady
  split
  · dsimp only
    split
    · exact he
    · exact he.trans (markAs_writes .ready ‹_›)
  · exact .refl

end Reaches

theorem createOrUpdate_reaches {env : Env} {d : LDAPDirectory} {c : Cluster} :
    Reaches c Outcome.cluster (createOrUpdate env d c) :=
  checkReferences_reaches.bind fun _ =>
    ensureAdminPasswordSecret_reaches.bind fun _ =>
      reconcileStatefulSet_reaches.bind fun _ =>
        reconcileService_reaches.bind fun _ =>
          awaitStatefulSet_reaches.bind fun _ => finishReady_writes

/-- Every cluster a reconcile leaves is reached by the reconciler's writes. -/
theorem reconcile_writes (env : Env) (name : String) (c : Cluster) :
    ReconcilerWrites c (reconcile env name c).cluster := by
  have h : Reaches c Outcome.cluster (reconcileSteps env name c) :=
    (getDirectory_reaches name).bind fun _ =>
      ensureFinalizer_reaches.bind fun _ =>
        handleDeletion_reaches.bind fun _ => createOrUpdate_reaches
  unfold reconcile
  split <;> simpa [Reaches, *] using h

/-! ## What the writes do -/

/-- What the reconciler's writes can do to the directory stored under one name: never create it;
keep its name, generation, deletion timestamp and spec; once it is being deleted, take
finalizers off it but never add one, and remove it. -/
def DirectoryWritten : Option LDAPDirectory → Option LDAPDirectory → Prop
  | none, after => after = none
  | some d, none => d.metadata.deletionTimestamp.isSome
  | some d, some d' =>
    d'.metadata.name = d.metadata.name ∧ d'.metadata.generation = d.metadata.generation ∧
      d'.metadata.deletionTimestamp = d.metadata.deletionTimestamp ∧ d'.spec = d.spec ∧
      (d.metadata.deletionTimestamp.isSome →
        ∀ f ∈ d'.metadata.finalizers, f ∈ d.metadata.finalizers)

theorem DirectoryWritten.refl : ∀ o : Option LDAPDirectory, DirectoryWritten o o
  | none => rfl
  | some _ => ⟨rfl, rfl, rfl, rfl, fun _ _ h => h⟩

theorem DirectoryWritten.trans {a b e : Option LDAPDirectory} (h₁ : DirectoryWritten a b)
    (h₂ : DirectoryWritten b e) : DirectoryWritten a e := by
  match a, b, e, h₁, h₂ with
  | none, _, _, h₁, h₂ => cases h₁; exact h₂
  | some _, none, _, h₁, h₂ => cases h₂; exact h₁
  | some a, some b, none, ⟨_, _, ht, _, _⟩, h₂ =>
    exact show a.metadata.deletionTimestamp.isSome from
      ht ▸ (h₂ : b.metadata.deletionTimestamp.isSome)
  | some _, some _, some _, ⟨hn, hg, ht, hs, hf⟩, ⟨hn', hg', ht', hs', hf'⟩ =>
    exact ⟨hn'.trans hn, hg'.trans hg, ht'.trans ht, hs'.trans hs,
      fun hd f hm => hf hd f (hf' (ht ▸ hd) f hm)⟩

theorem DirectoryWritten.update {f : String → Option LDAPDirectory} {name : String}
    {v : Option LDAPDirectory} (h : DirectoryWritten (f name) v) (n : String) :
    DirectoryWritten (f n) (Function.update f name v n) := by
  by_cases hn : n = name
  · subst hn; rwa [Function.update_same]
  · rw [Function.update_noteq hn]; exact .refl _

/-- What a reconcile does to the cluster, summed up: directories change only as
`DirectoryWritten` allows, the caches are untouched, and a secret is only ever created, as the
admin password secret of a directory, where neither the store nor the cache has one. -/
structure Written (c c' : Cluster) : Prop where
  directories : ∀ n, DirectoryWritten (c.directories n) (c'.directories n)
  cachedDirectories : c'.cachedDirectories = c.cachedDirectories
  cachedSecrets : c'.cachedSecrets = c.cachedSecrets
  cachedStatefulSets : c'.cachedStatefulSets = c.cachedStatefulSets
  secrets : ∀ s, c'.secrets s = c.secrets s ∨
    c.secrets s = none ∧ c.cachedSecrets s = none ∧
      ∃ owner pw, s = "ldap-" ++ owner ++ "-admin-password" ∧
        c'.secrets s = some ⟨s, some owner, [("password", pw)]⟩

theorem Written.refl (c : Cluster) : Written c c :=
  ⟨fun _ => .refl _, rfl, rfl, rfl, fun _ => .inl rfl⟩

theorem Written.trans {c₁ c₂ c₃ : Cluster} (h₁ : Written c₁ c₂) (h₂ : Written c₂ c₃) :
    Written c₁ c₃ where
  directories n := (h₁.directories n).trans (h₂.directories n)
  cachedDirectories := h₂.cachedDirectories.trans h₁.cachedDirectories
  cachedSecrets := h₂.cachedSecrets.trans h₁.cachedSecrets
  cachedStatefulSets := h₂.cachedStatefulSets.trans h₁.cachedStatefulSets
  secrets s := by
    rcases h₂.secrets s with h | ⟨hnone, hcache, hnew⟩
    · rw [h]; exact h₁.secrets s
    · rcases h₁.secrets s with h' | ⟨_, _, _, _, _, hs'⟩
      · rw [← h₁.cachedSecrets]; exact .inr ⟨h' ▸ hnone, hcache, hnew⟩
      · rw [hs'] at hnone; cases hnone

theorem ReconcilerWrite.written {c c' : Cluster} (h : ReconcilerWrite c c') : Written c c' := by
  cases h with
  | patchFinalizers h =>
    obtain ⟨old, hold, rfl, hguard, rfl⟩ := Cluster.patchFinalizers_ok h
    refine ⟨DirectoryWritten.update ?_, rfl, rfl, rfl, fun _ => .inl rfl⟩
    rw [hold]
    split_ifs with hdel
    · exact hdel.1
    · exact ⟨rfl, rfl, rfl, rfl, hguard⟩
  | updateStatus _ _ h =>
    obtain ⟨old, hold, rfl⟩ := Cluster.updateStatus_ok h
    refine ⟨DirectoryWritten.update ?_, rfl, rfl, rfl, fun _ => .inl rfl⟩
    rw [hold]
    exact ⟨rfl, rfl, rfl, rfl, fun _ _ h => h⟩
  | createAdminPasswordSecret owner pw hcache h =>
    obtain ⟨hnone, rfl⟩ := Cluster.createSecret_ok h
    refine ⟨fun _ => .refl _, rfl, rfl, rfl, fun s => ?_⟩
    by_cases hs : s = "ldap-" ++ owner ++ "-admin-password"
    · subst hs
      exact .inr ⟨hnone, hcache, owner, pw, rfl, Function.update_same _ _ _⟩
    · exact .inl (Function.update_noteq hs _ _)
  | recordEvent | applyStatefulSet | applyService =>
    exact ⟨fun _ => .refl _, rfl, rfl, rfl, fun _ => .inl rfl⟩

theorem ReconcilerWrites.written {c c' : Cluster} (h : ReconcilerWrites c c') : Written c c' := by
  induction h with
  | refl => exact .refl c
  | tail _ hw ih => exact ih.trans hw.written

/-- The abstract view of a reconcile holds of the code. -/
theorem reconcile_written (env : Env) (name : String) (c : Cluster) :
    Written c (reconcile env name c).cluster :=
  (reconcile_writes env name c).written

/-! ## A reconcile of a deleting directory -/

section Deletion

variable {env : Env} {c : Cluster}

theorem mem_addFinalizer (finalizers : List String) (f : String) : f ∈ addFinalizer finalizers f := by
  unfold addFinalizer
  split <;> simp_all

theorem mem_of_mem_removeFinalizer {finalizers : List String} {f : String} :
    ∀ g ∈ removeFinalizer finalizers f, g ∈ finalizers :=
  fun _ h => (List.mem_filter.mp h).1

theorem ensureFinalizer_error {d : LDAPDirectory} {o : Outcome}
    (h : ensureFinalizer env d c = .error o) : o.err.isSome := by
  rcases ensureFinalizer_cases env d c with ⟨-, he⟩ | ⟨_, he, -⟩ | ⟨_, _, -, -, he⟩ <;>
    rw [he] at h <;> cases h
  rfl

theorem getDirectory_of_cached (env : Env) {name : String} {v : LDAPDirectory}
    (hv : c.cachedDirectories name = some v) :
    getDirectory env name c = .ok v ∨ ∃ err, getDirectory env name c = .error (.stop c (some err)) := by
  unfold getDirectory
  rw [hv]
  cases env.getErr with
  | none => exact .inl rfl
  | some err => exact .inr ⟨err, rfl⟩

theorem reconcileSteps_of_ensureFinalizer {name : String} {v d₁ : LDAPDirectory} {c₁ : Cluster}
    (hget : getDirectory env name c = .ok v) (hef : ensureFinalizer env v c = .ok (d₁, c₁)) :
    reconcileSteps env name c = (handleDeletion env d₁ c₁ >>= fun _ => createOrUpdate env d₁ c₁) := by
  simp [reconcileSteps, hget, hef, bind, Except.bind]

/-- A reconcile of a cached directory that returns no error got through `getDirectory` and
`ensureFinalizer`: what it does is `handleDeletion` and the phases after it. -/
theorem reconcile_past_finalizer {name : String} {v : LDAPDirectory}
    (hv : c.cachedDirectories name = some v) (herr : (reconcile env name c).err = none) :
    ∃ d₁ c₁, ensureFinalizer env v c = .ok (d₁, c₁) ∧
      reconcileSteps env name c = (handleDeletion env d₁ c₁ >>= fun _ => createOrUpdate env d₁ c₁) := by
  rcases getDirectory_of_cached env hv with hget | ⟨e, hget⟩
  · cases hef : ensureFinalizer env v c with
    | error o =>
      have hr : reconcile env name c = o := by
        simp [reconcile, reconcileSteps, hget, hef, bind, Except.bind]
      exact absurd (ensureFinalizer_error hef) (by simp [← hr, herr])
    | ok p => exact ⟨p.1, p.2, rfl, reconcileSteps_of_ensureFinalizer hget hef⟩
  · have hr : reconcile env name c = .stop c (some e) := by
      simp [reconcile, reconcileSteps, hget, bind, Except.bind]
    rw [hr] at herr
    cases herr

end Deletion

/-! ## A reconcile that succeeds -/

/-- An early return that is no success: an error, or a requeue. -/
def Outcome.Halted (o : Outcome) : Prop :=
  o.err.isSome ∨ o.result.requeueAfter = reconcileRetryInterval

/-- What a phase after the deletion check does on the way to success: return early with a halted
outcome, or go on with the directories it was given. -/
def KeepsDirectories (c : Cluster) : Except Outcome Cluster → Prop
  | .ok c' => c'.directories = c.directories
  | .error o => o.Halted

/-- Every outcome `r` can end with is halted, or is `finishReady` on the copy `d` over a cluster
with the directories of `c`. -/
def Finishes (env : Env) (d : LDAPDirectory) (c : Cluster) (r : Except Outcome Outcome) : Prop :=
  ∀ o, (r = .ok o ∨ r = .error o) →
    o.Halted ∨ ∃ c', c'.directories = c.directories ∧ o = finishReady env d c'

section Success

variable {env : Env} {d : LDAPDirectory} {c : Cluster}

theorem failStep_halted (what err : String) : (failStep env d c what err).Halted := .inl rfl

theorem waitStep_halted (type reason message : String) :
    (waitStep env d c type reason message).Halted := by
  unfold waitStep
  dsimp only
  split
  · exact .inl rfl
  · exact .inr rfl

theorem checkReferences_keeps : KeepsDirectories c (checkReferences env d c) := by
  unfold checkReferences
  split
  · rfl
  · exact waitStep_halted _ _ _
  · exact failStep_halted _ _

theorem ensureAdminPasswordSecret_keeps : KeepsDirectories c (ensureAdminPasswordSecret env d c) := by
  rcases ensureAdminPasswordSecret_cases env d c with ⟨_, _, h, -⟩ | h | ⟨_, _, -, hc, h⟩ <;> rw [h]
  · exact .inl rfl
  · rfl
  · obtain ⟨-, rfl⟩ := Cluster.createSecret_ok hc
    rfl

theorem applyTemplate_keeps {α : Type} {kind : String} {template : Except String α}
    {applyErr : Option String} {apply : Cluster → α → Cluster}
    (happly : ∀ c a, (apply c a).directories = c.directories) :
    KeepsDirectories c (applyTemplate kind template applyErr apply env d c) := by
  unfold applyTemplate
  split
  · exact failStep_halted _ _
  · split
    · exact failStep_halted _ _
    · exact happly c _

theorem awaitStatefulSet_keeps : KeepsDirectories c (awaitStatefulSet env d c) := by
  unfold awaitStatefulSet
  split
  · exact failStep_halted _ _
  · exact waitStep_halted _ _ _
  · rfl

theorem KeepsDirectories.bind {x : Except Outcome Cluster} {f : Cluster → Except Outcome Outcome}
    (hx : KeepsDirectories c x)
    (hf : ∀ c', c'.directories = c.directories → Finishes env d c' (f c')) :
    Finishes env d c (x >>= f) := by
  intro o ho
  cases x with
  | error o' =>
    obtain h | h := ho <;> cases h
    exact .inl hx
  | ok c' =>
    rcases hf c' hx o ho with h | ⟨c'', hc'', rfl⟩
    · exact .inl h
    · exact .inr ⟨c'', hc''.trans hx, rfl⟩

theorem reconcileStatefulSet_keeps : KeepsDirectories c (reconcileStatefulSet env d c) :=
  applyTemplate_keeps fun _ _ => rfl

theorem reconcileService_keeps : KeepsDirectories c (reconcileService env d c) :=
  applyTemplate_keeps fun _ _ => rfl

/-- Past the finalizer, a reconcile of a live copy returns what `createOrUpdate` does. -/
theorem reconcile_of_live {name : String} {c₀ : Cluster}
    (hsteps : reconcileSteps env name c₀ =
      (handleDeletion env d c >>= fun _ => createOrUpdate env d c))
    (hdel : d.metadata.deletionTimestamp = none) :
    createOrUpdate env d c = .ok (reconcile env name c₀) ∨
      createOrUpdate env d c = .error (reconcile env name c₀) := by
  have hhd : handleDeletion env d c = .ok () := by
    unfold handleDeletion
    rw [hdel]
  unfold reconcile
  rw [hsteps, hhd]
  cases createOrUpdate env d c <;> simp [bind, Except.bind]

theorem finishReady_finishes : Finishes env d c (pure (finishReady env d c)) := by
  intro o ho
  obtain h | h := ho <;> cases h
  exact .inr ⟨c, rfl, rfl⟩

/-- A success of the phases after the deletion check comes from `finishReady`, over a cluster
whose directories they left alone. -/
theorem createOrUpdate_finishes : Finishes env d c (createOrUpdate env d c) :=
  checkReferences_keeps.bind fun _ _ =>
    ensureAdminPasswordSecret_keeps.bind fun _ _ =>
      reconcileStatefulSet_keeps.bind fun _ _ =>
        reconcileService_keeps.bind fun _ _ =>
          awaitStatefulSet_keeps.bind fun _ _ => finishReady_finishes

theorem markAs_ok {label : String} {mark : LDAPDirectory → Nat → LDAPDirectoryStatus}
    {c' : Cluster} (h : markAs label mark env d c = .ok c') :
    ∃ old, c.directories d.metadata.name = some old ∧
      c'.directories d.metadata.name = some { old with status := mark old env.now } := by
  unfold markAs attempt at h
  split at h
  · split at *
    · cases ‹Except.error _ = _›
    · cases h
      obtain ⟨old, hold, rfl⟩ := Cluster.updateStatus_ok ‹_›
      exact ⟨old, hold, Function.update_same _ _ _⟩
  · cases h

/-- `finishReady` that returns no error: on a copy that is not `Ready`, `markReady` wrote the
stored directory; on a `Ready` copy nothing was written. -/
theorem finishReady_status {s : LDAPDirectory} (hs : c.directories d.metadata.name = some s)
    (herr : (finishReady env d c).err = none) :
    (d.status.phase ≠ LDAPDirectoryPhase.ready →
      (finishReady env d c).cluster.directories d.metadata.name =
        some { s with status := markReadyStatus s env.now }) ∧
    (d.status.phase = LDAPDirectoryPhase.ready → (finishReady env d c).cluster = c) := by
  unfold finishReady at herr ⊢
  by_cases hne : d.status.phase ≠ LDAPDirectoryPhase.ready
  · rw [if_pos hne] at herr ⊢
    refine ⟨fun _ => ?_, fun h => absurd h hne⟩
    dsimp only at herr ⊢
    cases hm : markReady env d
        (c.recordEvent ⟨d.metadata.name, "Normal", "Created", "Successfully created"⟩) with
    | error err => rw [hm] at herr; cases herr
    | ok c' =>
      obtain ⟨old, hold, hc'⟩ := markAs_ok hm
      rw [show old = s from Option.some_injective _ (hold.symm.trans hs)] at hc'
      exact hc'
  · rw [if_neg hne]
    exact ⟨fun h => absurd h hne, fun _ => rfl⟩

/-- The copy `ensureFinalizer` goes on with, from a current copy, is the stored directory with
the finalizer added, and it is stored so. -/
theorem ensureFinalizer_current {d' : LDAPDirectory} {c' : Cluster}
    (hs : c.directories d.metadata.name = some d) (h : ensureFinalizer env d c = .ok (d', c')) :
    c'.directories d.metadata.name = some d' ∧ d'.status = d.status ∧
      d'.metadata.name = d.metadata.name ∧ d'.metadata.generation = d.metadata.generation ∧
      d'.metadata.deletionTimestamp = d.metadata.deletionTimestamp := by
  rcases ensureFinalizer_cases env d c with ⟨-, he⟩ | ⟨_, he, -⟩ | ⟨_, _, -, hp, he⟩ <;>
    rw [he] at h <;> cases h
  · exact ⟨hs, rfl, rfl, rfl, rfl⟩
  · obtain ⟨old, hold, rfl, -, rfl⟩ := Cluster.patchFinalizers_ok hp
    rw [hs] at hold
    cases hold
    refine ⟨?_, rfl, rfl, rfl, rfl⟩
    have hne : addFinalizer d.metadata.finalizers finalizerName ≠ [] :=
      List.ne_nil_of_mem (mem_addFinalizer _ _)
    simp [hne]

end Success

/-! ## Failures -/

/-- The stored directory `name` is marked `Failed` with the message `e`: phase `Failed`, and a
`True` condition of type `Failed` whose message is `e`. -/
def MarkedFailed (c : Cluster) (name e : String) : Prop :=
  ∃ d, c.directories name = some d ∧ d.status.phase = LDAPDirectoryPhase.failed ∧
    ∃ cond ∈ d.status.conditions, cond.type = LDAPDirectoryConditionType.failed ∧
      cond.status = conditionTrue ∧ cond.message = e

/-- The error exits of `Reconcile` that return without `markFailed`: the `Get` of the directory,
the finalizer patch, and the four exits of the admin password secret. -/
def SkipsMarkFailed (env : Env) (e : String) : Prop :=
  env.getErr = some e ∨ ∃ err, e = "failed to add finalizer: " ++ err ∨
    e = "failed to get admin password secret: " ++ err ∨
    e = "failed to generate random admin password: " ++ err ∨
    e = "failed to set owner reference on admin password secret: " ++ err ∨
    e = "failed to create admin password secret: " ++ err

/-- The error of `o`, if any, is marked `Failed` on the directory `name`, or skips
`markFailed`. -/
def Outcome.FailureReported (env : Env) (name : String) (o : Outcome) : Prop :=
  ∀ e, o.err = some e → MarkedFailed o.cluster name e ∨ SkipsMarkFailed env e

/-- A phase after the finalizer reports the failure it stops with, or goes on with the
directory `name` still stored. -/
def ReportsFailure (env : Env) (name : String) : Except Outcome Cluster → Prop
  | .ok c => (c.directories name).isSome
  | .error o => o.FailureReported env name

/-- Every outcome `r` can end with reports its failure. -/
def AllReported (env : Env) (name : String) (r : Except Outcome Outcome) : Prop :=
  ∀ o, (r = .ok o ∨ r = .error o) → o.FailureReported env name

section Failures

variable {env : Env} {d : LDAPDirectory} {c : Cluster}

/-- A status write of a stored directory goes through when the platform lets it. -/
theorem markAs_succeeds {label : String} {mark : LDAPDirectory → Nat → LDAPDirectoryStatus}
    (hstatus : env.statusErr = none) (hs : (c.directories d.metadata.name).isSome) :
    ∃ c', markAs label mark env d c = .ok c' := by
  obtain ⟨s, hs⟩ := Option.isSome_iff_exists.mp hs
  simp [markAs, attempt, hstatus, Cluster.updateStatus, hs]

/-- `failStep` marks the stored directory `Failed` with the error it returns. -/
theorem failStep_reported (hstatus : env.statusErr = none)
    (hs : (c.directories d.metadata.name).isSome) (what err : String) :
    (failStep env d c what err).FailureReported env d.metadata.name := by
  rintro e ⟨⟩
  obtain ⟨s, hs⟩ := Option.isSome_iff_exists.mp hs
  obtain ⟨cond, hmem, htype, hstat, -, -, hmsg⟩ := exists_setStatusCondition env.now
    ⟨LDAPDirectoryConditionType.failed, conditionTrue, s.metadata.generation, 0, "Failed",
      "failed to " ++ what ++ ": " ++ err⟩ s.status.conditions
  refine .inl ⟨{ s with status := markFailedStatus ("failed to " ++ what ++ ": " ++ err) s env.now },
    ?_, rfl, cond, hmem, htype, hstat, hmsg⟩
  simp [failStep, markFailed, attempt, hstatus, Cluster.recordEvent, Cluster.updateStatus, hs,
    Outcome.stop]

theorem waitStep_err (hstatus : env.statusErr = none)
    (hs : (c.directories d.metadata.name).isSome) (type reason message : String) :
    (waitStep env d c type reason message).err = none := by
  obtain ⟨c', h⟩ := @markAs_succeeds env d (c.recordEvent ⟨d.metadata.name, type, reason, message⟩)
    "pending" markPendingStatus hstatus hs
  simp only [waitStep, markPending, h]
  rfl

theorem checkReferences_reported (hstatus : env.statusErr = none)
    (hs : (c.directories d.metadata.name).isSome) :
    ReportsFailure env d.metadata.name (checkReferences env d c) := by
  unfold checkReferences
  split
  · exact hs
  · intro e he
    rw [waitStep_err hstatus hs] at he
    cases he
  · exact failStep_reported hstatus hs _ _

/-- The exits of the admin password secret skip `markFailed`. -/
theorem ensureAdminPasswordSecret_reported (hs : (c.directories d.metadata.name).isSome) :
    ReportsFailure env d.metadata.name (ensureAdminPasswordSecret env d c) := by
  rcases ensureAdminPasswordSecret_cases env d c with ⟨err, _, h, hmsg⟩ | h | ⟨_, _, -, hc, h⟩ <;>
    rw [h]
  · rintro e ⟨⟩
    exact .inr (.inr ⟨err, .inr hmsg⟩)
  · exact hs
  · obtain ⟨-, rfl⟩ := Cluster.createSecret_ok hc
    exact hs

theorem applyTemplate_reported {α : Type} {kind : String} {template : Except String α}
    {applyErr : Option String} {apply : Cluster → α → Cluster}
    (happly : ∀ c a, (apply c a).directories = c.directories) (hstatus : env.statusErr = none)
    (hs : (c.directories d.metadata.name).isSome) :
    ReportsFailure env d.metadata.name (applyTemplate kind template applyErr apply env d c) := by
  unfold applyTemplate
  split
  · exact failStep_reported hstatus hs _ _
  · split
    · exact failStep_reported hstatus hs _ _
    · show ((apply c _).directories d.metadata.name).isSome
      rwa [happly]

theorem reconcileStatefulSet_reported (hstatus : env.statusErr = none)
    (hs : (c.directories d.metadata.name).isSome) :
    ReportsFailure env d.metadata.name (reconcileStatefulSet env d c) :=
  applyTemplate_reported (fun _ _ => rfl) hstatus hs

theorem reconcileService_reported (hstatus : env.statusErr = none)
    (hs : (c.directories d.metadata.name).isSome) :
    ReportsFailure env d.metadata.name (reconcileService env d c) :=
  applyTemplate_reported (fun _ _ => rfl) hstatus hs

theorem awaitStatefulSet_reported (hstatus : env.statusErr = none)
    (hs : (c.directories d.metadata.name).isSome) :
    ReportsFailure env d.metadata.name (awaitStatefulSet env d c) := by
  unfold awaitStatefulSet
  split
  · exact failStep_reported hstatus hs _ _
  · intro e he
    rw [waitStep_err hstatus hs] at he
    cases he
  · exact hs

theorem finishReady_reported (hstatus : env.statusErr = none)
    (hs : (c.directories d.metadata.name).isSome) :
    AllReported env d.metadata.name (pure (finishReady env d c)) := by
  rintro o (h | h) <;> cases h
  intro e he
  unfold finishReady at he
  split_ifs at he
  · obtain ⟨c', h⟩ := @markAs_succeeds env d
      (c.recordEvent ⟨d.metadata.name, "Normal", "Created", "Successfully created"⟩)
      "ready" markReadyStatus hstatus hs
    simp only [markReady, h] at he
    cases he
  · cases he

theorem ReportsFailure.bind {name : String} {x : Except Outcome Cluster}
    {f : Cluster → Except Outcome Outcome} (hx : ReportsFailure env name x)
    (hf : ∀ c', (c'.directories name).isSome → AllReported env name (f c')) :
    AllReported env name (x >>= f) := by
  intro o ho
  cases x with
  | error o' =>
    obtain h | h := ho <;> cases h
    exact hx
  | ok c' => exact hf c' hx o ho

/-- While status writes go through, every error exit of the phases after the deletion check
marks the stored directory `Failed`, except those of the admin password secret. -/
theorem createOrUpdate_reported (hstatus : env.statusErr = none)
    (hs : (c.directories d.metadata.name).isSome) :
    AllReported env d.metadata.name (createOrUpdate env d c) :=
  (checkReferences_reported hstatus hs).bind fun _ h₁ =>
    (ensureAdminPasswordSecret_reported h₁).bind fun _ h₂ =>
      (reconcileStatefulSet_reported hstatus h₂).bind fun _ h₃ =>
        (reconcileService_reported hstatus h₃).bind fun _ h₄ =>
          (awaitStatefulSet_reported hstatus h₄).bind fun _ h₅ => finishReady_reported hstatus h₅

/-- The finalizer patch skips `markFailed`; when it goes through on a live directory stored
under the copy's name, the copy it goes on with is live, named so, and still stored. -/
theorem ensureFinalizer_reported {v s : LDAPDirectory}
    (hs : c.directories v.metadata.name = some s) (hsn : s.metadata.name = v.metadata.name)
    (hsdel : s.metadata.deletionTimestamp = none) (hvdel : v.metadata.deletionTimestamp = none) :
    (∀ o, ensureFinalizer env v c = .error o → o.FailureReported env v.metadata.name) ∧
    ∀ d' c', ensureFinalizer env v c = .ok (d', c') →
      d'.metadata.name = v.metadata.name ∧ d'.metadata.deletionTimestamp = none ∧
        (c'.directories v.metadata.name).isSome := by
  rcases ensureFinalizer_cases env v c with ⟨-, he⟩ | ⟨err, he, -⟩ | ⟨_, _, -, hp, he⟩ <;> rw [he]
  · refine ⟨fun _ h => (by cases h), fun d' c' h => ?_⟩
    cases h
    exact ⟨rfl, hvdel, by rw [hs]; rfl⟩
  · refine ⟨fun o h => ?_, fun _ _ h => (by cases h)⟩
    cases h
    rintro e ⟨⟩
    exact .inr (.inr ⟨err, .inl rfl⟩)
  · refine ⟨fun _ h => (by cases h), fun d' c' h => ?_⟩
    cases h
    obtain ⟨old, hold, rfl, -, rfl⟩ := Cluster.patchFinalizers_ok hp
    rw [hs] at hold
    cases hold
    exact ⟨hsn, hsdel, by simp [hsdel]⟩

end Failures

/-! ## A platform where every call succeeds -/

section Healthy

variable {now : Nat} {pw : String} {d : LDAPDirectory} {c : Cluster}

theorem getDirectory_healthy {name : String} {v : LDAPDirectory}
    (hv : c.cachedDirectories name = some v) : getDirectory (Env.ok now pw) name c = .ok v := by
  unfold getDirectory
  rw [hv]
  rfl

theorem checkReferences_healthy
    (hcert : (c.cachedSecrets d.spec.certificateSecretRef.name).isSome) :
    checkReferences (Env.ok now pw) d c = .ok c := by
  simp [checkReferences, LDAPDirectory.resolveReferences, Env.ok, hcert]

/-- The StatefulSet is ready when its cached copy reports all its replicas ready; else the
reconcile waits. -/
theorem awaitStatefulSet_healthy {sts : StatefulSet}
    (hsts : c.cachedStatefulSets ("ldap-" ++ d.metadata.name) = some sts) :
    (sts.readyReplicas = sts.replicas → awaitStatefulSet (Env.ok now pw) d c = .ok c) ∧
    (sts.readyReplicas ≠ sts.replicas → awaitStatefulSet (Env.ok now pw) d c =
      .error (waitStep (Env.ok now pw) d c "Normal" "Pending"
        "Waiting for statefulset to become ready")) := by
  unfold awaitStatefulSet isStatefulSetReady
  rw [show (Env.ok now pw).statefulSetGetErr = none from rfl, hsts]
  constructor
  · intro h
    simp only [h, beq_self_eq_true]
  · intro h
    simp only [beq_eq_false_iff_ne.mpr h]

/-- A StatefulSet the informer has not delivered fails the readiness check with `NotFound`. -/
theorem awaitStatefulSet_missing
    (hsts : c.cachedStatefulSets ("ldap-" ++ d.metadata.name) = none) :
    awaitStatefulSet (Env.ok now pw) d c = .error (failStep (Env.ok now pw) d c
      "check if statefulset is ready" ("failed to get statefulset: " ++
        Cluster.notFound "statefulsets.apps" ("ldap-" ++ d.metadata.name))) := by
  unfold awaitStatefulSet isStatefulSetReady
  rw [show (Env.ok now pw).statefulSetGetErr = none from rfl, hsts]

/-- On a deleting copy stored as read that holds `FinalizerName`, the deletion phase takes it off
and stops without error; the stored directory goes when no finalizer is left. -/
theorem handleDeletion_healthy (hs : c.directories d.metadata.name = some d)
    (hdel : d.metadata.deletionTimestamp.isSome) (hmem : finalizerName ∈ d.metadata.finalizers) :
    ∃ o, handleDeletion (Env.ok now pw) d c = .error o ∧ o.err = none ∧
      o.cluster.directories d.metadata.name =
        if removeFinalizer d.metadata.finalizers finalizerName = [] then none
        else some { d with metadata := { d.metadata with
          finalizers := removeFinalizer d.metadata.finalizers finalizerName } } := by
  obtain ⟨t, ht⟩ := Option.isSome_iff_exists.mp hdel
  unfold handleDeletion
  rw [ht, if_pos hmem]
  simp only [attempt, Env.ok, Cluster.patchFinalizers, hs, ht,
    if_pos mem_of_mem_removeFinalizer]
  exact ⟨_, rfl, rfl, Function.update_same _ _ _⟩

theorem markAs_healthy {label : String} {mark : LDAPDirectory → Nat → LDAPDirectoryStatus}
    (hs : (c.directories d.metadata.name).isSome) :
    ∃ c', markAs label mark (Env.ok now pw) d c = .ok c' :=
  markAs_succeeds rfl hs

end Healthy

end LdapOperator

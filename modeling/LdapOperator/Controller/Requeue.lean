import LdapOperator.Controller.Run

/-!
# LDAP operator — what a requeue means

`Reconcile` returns `RequeueAfter: reconcileRetryInterval` from two places only: when the
directory's references do not resolve yet, and when its StatefulSet does not report its replicas
ready. Both record an event and mark the directory `Pending`, and requeue only when that status
write went through; every other exit returns `ctrl.Result{}`. So a requeue is never lost
information: whatever the platform answers, the directory a requeue is for is stored `Pending`
and the log ends with the reason.

The proof follows the phases, as `createOrUpdate_reported` does for failures: one lemma per
phase, chained by `ReportsRequeue.bind`.

Main results:

* `reconcile_requeue_pending` — on a cluster that stores and caches every directory under its own
  name, a reconcile that requeues returns no error, requeues after `reconcileRetryInterval`,
  leaves the directory marked `Pending`, and its last event is one of the two waits'.
-/

namespace LdapOperator

/-- The events of the two waits of `Reconcile`: references that do not resolve, and a
StatefulSet that is not ready. -/
def waitEvents (name : String) : List Event :=
  [⟨name, "Warning", "NotReady", "Not all references are resolvable"⟩,
   ⟨name, "Normal", "Pending", "Waiting for statefulset to become ready"⟩]

/-- The stored directory `name` is marked `Pending`: phase `Pending`, and a `True` condition of
type `Pending`. -/
def MarkedPending (c : Cluster) (name : String) : Prop :=
  ∃ d, c.directories name = some d ∧ d.status.phase = LDAPDirectoryPhase.pending ∧
    ∃ cond ∈ d.status.conditions, cond.type = LDAPDirectoryConditionType.pending ∧
      cond.status = conditionTrue

/-- A requeue of `o` comes with no error, after the retry interval, with the directory `name`
marked `Pending` and a wait's event last in the log. -/
def Outcome.RequeueReported (name : String) (o : Outcome) : Prop :=
  o.result.requeueAfter ≠ 0 → o.err = none ∧ o.result.requeueAfter = reconcileRetryInterval ∧
    MarkedPending o.cluster name ∧ ∃ es, ∃ e ∈ waitEvents name, o.cluster.events = es ++ [e]

/-- A phase reports the requeue it returns early with. -/
def ReportsRequeue (name : String) {α : Type} : Except Outcome α → Prop
  | .ok _ => True
  | .error o => o.RequeueReported name

/-- Every outcome `r` can end with reports its requeue. -/
def AllRequeuesReported (name : String) (r : Except Outcome Outcome) : Prop :=
  ∀ o, (r = .ok o ∨ r = .error o) → o.RequeueReported name

section Requeue

variable {env : Env} {name : String} {d : LDAPDirectory} {c : Cluster}

theorem Outcome.stop_requeueReported (c : Cluster) (err : Option String) :
    (Outcome.stop c err).RequeueReported name :=
  fun h => absurd rfl h

theorem ReportsRequeue.bind {α : Type} {x : Except Outcome α} {f : α → Except Outcome Outcome}
    (hx : ReportsRequeue name x) (hf : ∀ a, x = .ok a → AllRequeuesReported name (f a)) :
    AllRequeuesReported name (x >>= f) := by
  intro o ho
  cases x with
  | error o' =>
    obtain h | h := ho <;> cases h
    exact hx
  | ok a => exact hf a rfl o ho

/-- A status write that goes through changes the stored directory's status, and nothing else. -/
theorem markAs_eq {label : String} {mark : LDAPDirectory → Nat → LDAPDirectoryStatus}
    {c' : Cluster} (h : markAs label mark env d c = .ok c') :
    ∃ old, c.directories d.metadata.name = some old ∧ c' = { c with
      directories := Function.update c.directories d.metadata.name
        (some { old with status := mark old env.now }) } := by
  unfold markAs attempt at h
  split at h
  · split at *
    · cases ‹Except.error _ = _›
    · cases h
      exact Cluster.updateStatus_ok ‹_›
  · cases h

/-- `markPending` after the wait's event: when it goes through, the directory is marked
`Pending` and the event stays last. -/
theorem waitStep_requeueReported {type reason message : String}
    (he : ⟨d.metadata.name, type, reason, message⟩ ∈ waitEvents d.metadata.name) :
    (waitStep env d c type reason message).RequeueReported d.metadata.name := by
  unfold waitStep
  dsimp only
  split
  · exact Outcome.stop_requeueReported _ _
  · obtain ⟨old, hold, rfl⟩ := markAs_eq ‹_›
    obtain ⟨cond, hmem, htype, hstat, -⟩ := exists_setStatusCondition env.now
      ⟨LDAPDirectoryConditionType.pending, conditionTrue, old.metadata.generation, 0,
        "Pending", "LDAP directory is pending"⟩ old.status.conditions
    exact fun _ => ⟨rfl, rfl, ⟨_, Function.update_same _ _ _, rfl, cond, hmem, htype, hstat⟩,
      c.events, _, he, rfl⟩

theorem failStep_requeueReported (what err : String) :
    (failStep env d c what err).RequeueReported name :=
  Outcome.stop_requeueReported _ _

theorem getDirectory_requeue : ReportsRequeue name (getDirectory env name c) := by
  unfold getDirectory
  split <;> first | trivial | exact Outcome.stop_requeueReported _ _

theorem ensureFinalizer_requeue : ReportsRequeue name (ensureFinalizer env d c) := by
  rcases ensureFinalizer_cases env d c with ⟨-, he⟩ | ⟨_, he, -⟩ | ⟨_, _, -, -, he⟩ <;> rw [he]
  exacts [trivial, Outcome.stop_requeueReported _ _, trivial]

/-- A deleting directory stops with `ctrl.Result{}` on every path. -/
theorem handleDeletion_requeue : ReportsRequeue name (handleDeletion env d c) := by
  unfold handleDeletion
  repeat' split
  all_goals first | trivial | exact Outcome.stop_requeueReported _ _

theorem checkReferences_requeue :
    ReportsRequeue d.metadata.name (checkReferences env d c) := by
  unfold checkReferences
  split
  · trivial
  · exact waitStep_requeueReported (List.mem_cons_self _ _)
  · exact failStep_requeueReported _ _

theorem ensureAdminPasswordSecret_requeue :
    ReportsRequeue name (ensureAdminPasswordSecret env d c) := by
  rcases ensureAdminPasswordSecret_cases env d c with ⟨_, _, h, -⟩ | h | ⟨_, _, -, -, h⟩ <;>
    rw [h]
  exacts [Outcome.stop_requeueReported _ _, trivial, trivial]

theorem applyTemplate_requeue {α : Type} {kind : String} {template : Except String α}
    {applyErr : Option String} {apply : Cluster → α → Cluster} :
    ReportsRequeue name (applyTemplate kind template applyErr apply env d c) := by
  unfold applyTemplate
  repeat' split
  all_goals first | trivial | exact failStep_requeueReported _ _

theorem awaitStatefulSet_requeue :
    ReportsRequeue d.metadata.name (awaitStatefulSet env d c) := by
  unfold awaitStatefulSet
  split
  · exact failStep_requeueReported _ _
  · exact waitStep_requeueReported (List.mem_cons_of_mem _ (List.mem_singleton_self _))
  · trivial

/-- The last phase never requeues. -/
theorem finishReady_requeue : AllRequeuesReported name (pure (finishReady env d c)) := by
  rintro o (h | h) <;> cases h
  unfold finishReady
  split_ifs
  · dsimp only
    split <;> exact Outcome.stop_requeueReported _ _
  · exact Outcome.stop_requeueReported _ _

/-- The phases after the deletion check requeue only from the two waits. -/
theorem createOrUpdate_requeue :
    AllRequeuesReported d.metadata.name (createOrUpdate env d c) :=
  checkReferences_requeue.bind fun _ _ =>
    ensureAdminPasswordSecret_requeue.bind fun _ _ =>
      applyTemplate_requeue.bind fun _ _ =>
        applyTemplate_requeue.bind fun _ _ =>
          awaitStatefulSet_requeue.bind fun _ _ => finishReady_requeue

/-- The copy `ensureFinalizer` goes on with keeps the name of the copy it was given, when the
store keeps every directory under its own name. -/
theorem ensureFinalizer_name {d' : LDAPDirectory} {c' : Cluster}
    (hs : ∀ s, c.directories d.metadata.name = some s → s.metadata.name = d.metadata.name)
    (h : ensureFinalizer env d c = .ok (d', c')) : d'.metadata.name = d.metadata.name := by
  rcases ensureFinalizer_cases env d c with ⟨-, he⟩ | ⟨_, he, -⟩ | ⟨_, _, -, hp, he⟩ <;>
    rw [he] at h <;> cases h
  · rfl
  · obtain ⟨old, hold, rfl, -, rfl⟩ := Cluster.patchFinalizers_ok hp
    exact hs old hold

end Requeue

/-- Whatever the platform answers, a reconcile that requeues returns no error, requeues after
`reconcileRetryInterval`, leaves the directory marked `Pending`, and its last event says why:
its references do not resolve, or its StatefulSet is not ready. -/
theorem reconcile_requeue_pending {c : Cluster} (hc : NamesMatch c) (env : Env) (n : String) :
    (reconcile env n c).RequeueReported n := by
  have h : AllRequeuesReported n (reconcileSteps env n c) :=
    getDirectory_requeue.bind fun v hv =>
      ensureFinalizer_requeue.bind fun p hp =>
        handleDeletion_requeue.bind fun _ _ => by
          have hvn : v.metadata.name = n := by
            unfold getDirectory at hv
            split at hv <;> cases hv
            exact hc.cachedDirectories n _ ‹_›
          have hpn : p.1.metadata.name = n :=
            (ensureFinalizer_name (fun s hs => hvn ▸ hc.directories _ s (hvn ▸ hs)) hp).trans hvn
          exact hpn ▸ createOrUpdate_requeue
  unfold reconcile
  split <;> exact h _ (by simp [*])

/-- After the first reconcile of `example`, the informers deliver its StatefulSet, not yet
ready, its admin password secret and the directory. -/
def waitingCluster : Cluster :=
  Cluster.empty.run (firstReconcileRun ++
    [.syncStatefulSet "ldap-example", .syncSecret "ldap-example-admin-password",
     .syncDirectory "example"])

/-- The next reconcile of `example` requeues to wait for its StatefulSet, and reports it. -/
theorem waiting_requeue_pending :
    (reconcile (Env.ok 15 "pw2") "example" waitingCluster).result.requeueAfter ≠ 0 ∧
    (reconcile (Env.ok 15 "pw2") "example" waitingCluster).RequeueReported "example" :=
  ⟨by decide, reconcile_requeue_pending (Reachable.namesMatch ⟨_, rfl⟩) _ _⟩

end LdapOperator

import LdapOperator.Controller.Independence
import LdapOperator.Controller.Requeue

/-!
# LDAP operator — a reconciled directory is a fixpoint of the reconciler

A level-triggered controller has to come to rest: once it has done its work, reconciling again
must write nothing and record nothing, or every resync would rewrite the objects and add to the
event log. `Converged c n d` is the state the reconciler leaves the directory `n` in when it has
nothing left to do: the directory `d` stored and cached alike, live, holding `FinalizerName` and
`Ready`; its certificate and admin password secrets cached; its StatefulSet the template with its
replica ready, as the StatefulSet informer sees it too; and its Service the template.

Main results:

* `converged_reconcile` — when every call succeeds, a reconcile of a converged directory returns
  no error and no requeue and leaves the cluster exactly as it was.
* `reconcile_converges` — when every call succeeds, a reconcile of a live directory whose caches
  are current and whose StatefulSet reports its replica ready, in the store and in the informer's
  cache, followed by the informers catching up on the directory, its admin password secret and
  its StatefulSet, leaves the directory converged.
* `reconcile_fixpoint` — so the next reconcile changes nothing.
* `live_directory_converges` — the controller makes progress: from a live directory with its
  certificate secret cached, a reconcile, the StatefulSet reporting its replica ready and another
  reconcile, each followed by the informers catching up, converge it, whether the first reconcile
  found the StatefulSet not yet ready, or not yet in the informer's cache at all.
* `converged_stable` — a converged directory stays converged over any run of reconciles, of any
  directories, in which those of the directory itself succeed; reconciles of the others may fail
  in any way. It rests on the non-interference of `Independence.lean`.
-/

namespace LdapOperator

/-- The directory `n`, stored and cached as `d`, as the reconciler leaves it when it has nothing
left to do. -/
structure Converged (c : Cluster) (n : String) (d : LDAPDirectory) : Prop where
  stored : c.directories n = some d
  cached : c.cachedDirectories n = some d
  name : d.metadata.name = n
  live : d.metadata.deletionTimestamp = none
  finalizer : finalizerName ∈ d.metadata.finalizers
  ready : d.status.phase = LDAPDirectoryPhase.ready
  certificate : (c.cachedSecrets d.spec.certificateSecretRef.name).isSome
  secret : (c.cachedSecrets (adminPasswordSecretName d)).isSome
  statefulSet : ∃ sts, statefulSetTemplate none d = .ok sts ∧
    c.statefulSets ("ldap-" ++ n) = some { sts with readyReplicas := 1 }
  cachedStatefulSet : c.cachedStatefulSets ("ldap-" ++ n) = c.statefulSets ("ldap-" ++ n)
  service : ∃ svc, serviceTemplate none d = .ok svc ∧ c.services ("ldap-" ++ n) = some svc

/-! ## Writes that change nothing -/

/-- Applying the StatefulSet that is stored, with whatever replicas it reports ready, writes
nothing. -/
theorem Cluster.applyStatefulSet_self {c : Cluster} {sts : StatefulSet} {k : String} {r : Nat}
    (hk : sts.name = k) (h : c.statefulSets k = some { sts with readyReplicas := r }) :
    c.applyStatefulSet sts = c := by
  subst hk
  unfold Cluster.applyStatefulSet
  simp only [h, Option.map_some', Option.getD_some]
  rw [← h, Function.update_eq_self]

theorem Cluster.applyService_self {c : Cluster} {svc : Service}
    (h : c.services svc.name = some svc) : c.applyService svc = c := by
  unfold Cluster.applyService
  rw [← h, Function.update_eq_self]

/-! ## The phases when every call succeeds -/

section Phases

variable {now : Nat} {pw : String} {c : Cluster} {d : LDAPDirectory}

/-- On a live directory stored as read, `ensureFinalizer` goes on with the stored directory
holding `FinalizerName`, stored so, and writes nothing else. -/
theorem ensureFinalizer_live (hs : c.directories d.metadata.name = some d)
    (hdel : d.metadata.deletionTimestamp = none) :
    ∃ fs, finalizerName ∈ fs ∧ ensureFinalizer (Env.ok now pw) d c =
      .ok ({ d with metadata := { d.metadata with finalizers := fs } }, { c with
        directories := Function.update c.directories d.metadata.name
          (some { d with metadata := { d.metadata with finalizers := fs } }) }) := by
  rcases ensureFinalizer_cases (Env.ok now pw) d c with ⟨hmem, he⟩ | ⟨_, -, hfail⟩ |
    ⟨_, _, -, hp, he⟩
  · refine ⟨d.metadata.finalizers, hmem, ?_⟩
    rw [he, ← hs, Function.update_eq_self]
  · simp [Env.ok, Cluster.patchFinalizers, hs, hdel] at hfail
  · obtain ⟨old, hold, rfl, -, rfl⟩ := Cluster.patchFinalizers_ok hp
    rw [hs] at hold
    cases hold
    exact ⟨_, mem_addFinalizer _ _, by simpa [hdel] using he⟩

/-- When the cache has the admin password secret exactly when the store does, the secret phase
goes on with that secret stored, created if it was missing, and writes nothing else. -/
theorem ensureAdminPasswordSecret_current
    (hsec : c.cachedSecrets (adminPasswordSecretName d) = c.secrets (adminPasswordSecretName d)) :
    ∃ s, ensureAdminPasswordSecret (Env.ok now pw) d c =
      .ok { c with secrets := Function.update c.secrets (adminPasswordSecretName d) (some s) } := by
  unfold ensureAdminPasswordSecret
  cases hc : c.cachedSecrets (adminPasswordSecretName d) with
  | some s =>
    refine ⟨s, ?_⟩
    rw [hc] at hsec
    rw [(Function.update_eq_self_iff.mpr hsec :
      Function.update c.secrets (adminPasswordSecretName d) (some s) = c.secrets)]
    rfl
  | none =>
    rw [hc] at hsec
    exact ⟨_, by simp only [Env.ok, attempt, Cluster.createSecret, ← hsec]; rfl⟩

theorem reconcileStatefulSet_template {sts : StatefulSet} (h : statefulSetTemplate none d = .ok sts) :
    reconcileStatefulSet (Env.ok now pw) d c = .ok (c.applyStatefulSet sts) := by
  show applyTemplate _ (statefulSetTemplate none d) none _ _ d c = _
  rw [h]
  rfl

theorem reconcileService_template {svc : Service} (h : serviceTemplate none d = .ok svc) :
    reconcileService (Env.ok now pw) d c = .ok (c.applyService svc) := by
  show applyTemplate _ (serviceTemplate none d) none _ _ d c = _
  rw [h]
  rfl

/-- When every call succeeds, `finishReady` on a copy stored as read leaves it `Ready`, changing
only its status, and records some events. -/
theorem finishReady_current (hs : c.directories d.metadata.name = some d) :
    ∃ st es, finishReady (Env.ok now pw) d c = .stop { c with
        directories := Function.update c.directories d.metadata.name
          (some { d with status := st }),
        events := c.events ++ es } none ∧ st.phase = LDAPDirectoryPhase.ready := by
  unfold finishReady
  split_ifs with hph
  · refine ⟨markReadyStatus d now,
      [⟨d.metadata.name, "Normal", "Created", "Successfully created"⟩], ?_, rfl⟩
    simp only [markReady, markAs, attempt, Env.ok, Cluster.updateStatus, Cluster.recordEvent, hs]
  · refine ⟨d.status, [], ?_, not_not.mp hph⟩
    rw [← hs, Function.update_eq_self, List.append_nil]

end Phases

/-! ## A converged directory -/

section Converged

variable {now : Nat} {pw : String} {c : Cluster} {n : String} {d : LDAPDirectory}

/-- When every call succeeds, a reconcile of a converged directory returns no error and no
requeue, and writes and records nothing. -/
theorem converged_reconcile (h : Converged c n d) :
    reconcile (Env.ok now pw) n c = .stop c none := by
  obtain ⟨sts, hsts, hstored⟩ := h.statefulSet
  obtain ⟨svc, hsvc, hsvcStored⟩ := h.service
  obtain ⟨hname, hrep⟩ := statefulSetTemplate_ok hsts
  obtain ⟨s, hs⟩ := Option.isSome_iff_exists.mp h.secret
  have hsvcName : svc.name = "ldap-" ++ n := by
    unfold serviceTemplate at hsvc
    cases hsvc
    rw [h.name]
  have happly : c.applyStatefulSet sts = c :=
    Cluster.applyStatefulSet_self (hname.trans (by rw [h.name])) hstored
  have hsvcApply : c.applyService svc = c := Cluster.applyService_self (hsvcName ▸ hsvcStored)
  have hawait : awaitStatefulSet (Env.ok now pw) d c = .ok c :=
    (awaitStatefulSet_healthy (h.name ▸ h.cachedStatefulSet.trans hstored)).1 hrep.symm
  have hdel : handleDeletion (Env.ok now pw) d c = .ok () := by
    unfold handleDeletion
    rw [h.live]
  have hsec : ensureAdminPasswordSecret (Env.ok now pw) d c = .ok c := by
    unfold ensureAdminPasswordSecret
    rw [hs]
    rfl
  have hfin : finishReady (Env.ok now pw) d c = .stop c none := by
    unfold finishReady
    rw [if_neg (not_not.mpr h.ready)]
  simp only [reconcile, reconcileSteps, createOrUpdate, getDirectory_healthy h.cached,
    ensureFinalizer, if_pos h.finalizer, hdel, checkReferences_healthy h.certificate, hsec,
    reconcileStatefulSet_template hsts, happly, reconcileService_template hsvc, hsvcApply, hawait,
    hfin, bind, Except.bind, pure, Except.pure]

end Converged

/-! ## Reaching it -/

section Converges

variable {now : Nat} {pw : String} {c : Cluster} {d : LDAPDirectory}

/-- What the phases up to the readiness check leave of the directory `d`: `d` stored, its admin
password secret stored, its StatefulSet the template reporting `r` replicas ready, and its Service
the template. -/
structure Applied (c : Cluster) (d : LDAPDirectory) (r : Nat) : Prop where
  stored : c.directories d.metadata.name = some d
  secret : (c.secrets (adminPasswordSecretName d)).isSome
  statefulSet : ∃ sts, statefulSetTemplate none d = .ok sts ∧
    c.statefulSets ("ldap-" ++ d.metadata.name) = some { sts with readyReplicas := r }
  service : ∃ svc, serviceTemplate none d = .ok svc ∧
    c.services ("ldap-" ++ d.metadata.name) = some svc

/-- What a reconcile that went through every phase leaves of the directory `d`, before the
informers catch up: applied with its replica ready, and `d` `Ready`. -/
structure Settled (c : Cluster) (d : LDAPDirectory) extends Applied c d 1 : Prop where
  ready : d.status.phase = LDAPDirectoryPhase.ready

/-- A status write keeps what the phases applied. -/
theorem Applied.withStatus {r : Nat} (h : Applied c d r) (st : LDAPDirectoryStatus) {c' : Cluster}
    (hdir : c'.directories d.metadata.name = some { d with status := st })
    (hsec : c'.secrets = c.secrets) (hsts : c'.statefulSets = c.statefulSets)
    (hsvc : c'.services = c.services) : Applied c' { d with status := st } r where
  stored := hdir
  secret := hsec ▸ h.secret
  statefulSet := hsts ▸ h.statefulSet
  service := hsvc ▸ h.service

/-- Once the informers catch up on a settled directory, on its admin password secret and on its
StatefulSet, it is converged, when it is live, holds `FinalizerName` and its certificate secret is
cached. -/
theorem Settled.converged (h : Settled c d) (hdel : d.metadata.deletionTimestamp = none)
    (hfin : finalizerName ∈ d.metadata.finalizers)
    (hcert : (c.cachedSecrets d.spec.certificateSecretRef.name).isSome) :
    Converged (((c.syncDirectory d.metadata.name).syncSecret (adminPasswordSecretName d))
      |>.syncStatefulSet ("ldap-" ++ d.metadata.name)) d.metadata.name d where
  stored := h.stored
  cached := (Function.update_same _ _ _).trans h.stored
  name := rfl
  live := hdel
  finalizer := hfin
  ready := h.ready
  certificate := by
    show (Function.update c.cachedSecrets _ _ _).isSome
    rw [Function.update_apply]
    split_ifs
    exacts [h.secret, hcert]
  secret := by
    show (Function.update c.cachedSecrets _ _ _).isSome
    rw [Function.update_same]
    exact h.secret
  statefulSet := h.statefulSet
  cachedStatefulSet := Function.update_same _ _ _
  service := h.service

/-- When every call succeeds, the phases after the deletion check of a copy stored as read, whose
certificate secret is cached and whose cached admin password secret is current, apply the secret,
the StatefulSet and the Service, leaving the StatefulSet's ready count and the caches and events
as they were, and go on to the readiness check. -/
theorem createOrUpdate_applies (hs : c.directories d.metadata.name = some d)
    (hcert : (c.cachedSecrets d.spec.certificateSecretRef.name).isSome)
    (hsec : c.cachedSecrets (adminPasswordSecretName d) = c.secrets (adminPasswordSecretName d)) :
    ∃ c₄, Applied c₄ d (((c.statefulSets ("ldap-" ++ d.metadata.name)).map (·.readyReplicas)).getD 0) ∧
      c₄.cachedSecrets = c.cachedSecrets ∧ c₄.cachedDirectories = c.cachedDirectories ∧
      c₄.cachedStatefulSets = c.cachedStatefulSets ∧ createOrUpdate (Env.ok now pw) d c =
        (awaitStatefulSet (Env.ok now pw) d c₄ >>= fun c => pure (finishReady (Env.ok now pw) d c)) := by
  obtain ⟨s, h₂⟩ := @ensureAdminPasswordSecret_current now pw c d hsec
  obtain ⟨sts, hsts⟩ : ∃ sts, statefulSetTemplate none d = .ok sts := ⟨_, rfl⟩
  obtain ⟨svc, hsvc⟩ : ∃ svc, serviceTemplate none d = .ok svc := ⟨_, rfl⟩
  have hsvcName : svc.name = "ldap-" ++ d.metadata.name := by
    unfold serviceTemplate at hsvc
    cases hsvc
    rfl
  refine ⟨({ c with secrets := Function.update c.secrets (adminPasswordSecretName d) (some s) }
    |>.applyStatefulSet sts |>.applyService svc), ⟨hs, ?_, ⟨sts, hsts, ?_⟩, ⟨svc, hsvc, ?_⟩⟩,
    rfl, rfl, rfl, ?_⟩
  · show (Function.update c.secrets (adminPasswordSecretName d) (some s) _).isSome
    rw [Function.update_same]
    rfl
  · simp only [Cluster.applyService, Cluster.applyStatefulSet, (statefulSetTemplate_ok hsts).1,
      Function.update_same]
  · rw [← hsvcName]
    exact Function.update_same _ _ _
  · simp only [createOrUpdate, checkReferences_healthy hcert, h₂, reconcileStatefulSet_template hsts,
      reconcileService_template hsvc, bind, Except.bind]

/-- When its StatefulSet also reports its replica ready, in the store and in the informer's
cache, those phases settle the directory, changing only its status, and leave the secret cache
alone. -/
theorem createOrUpdate_settles (hs : c.directories d.metadata.name = some d)
    (hcert : (c.cachedSecrets d.spec.certificateSecretRef.name).isSome)
    (hsec : c.cachedSecrets (adminPasswordSecretName d) = c.secrets (adminPasswordSecretName d))
    (hready : ((c.statefulSets ("ldap-" ++ d.metadata.name)).map (·.readyReplicas)).getD 0 = 1)
    {cached : StatefulSet} (hcached : c.cachedStatefulSets ("ldap-" ++ d.metadata.name) = some cached)
    (hcachedReady : cached.readyReplicas = cached.replicas) :
    ∃ st c', createOrUpdate (Env.ok now pw) d c = .ok (.stop c' none) ∧
      Settled c' { d with status := st } ∧ c'.cachedSecrets = c.cachedSecrets := by
  obtain ⟨c₄, ha, hcache, -, hcacheSts, he⟩ := @createOrUpdate_applies now pw c d hs hcert hsec
  rw [hready] at ha
  obtain ⟨st, es, hfin, hready'⟩ := @finishReady_current now pw c₄ d ha.stored
  refine ⟨st, { c₄ with
      directories := Function.update c₄.directories d.metadata.name (some { d with status := st }),
      events := c₄.events ++ es }, ?_,
    ⟨ha.withStatus st (Function.update_same _ _ _) rfl rfl rfl, hready'⟩, hcache⟩
  rw [he, (awaitStatefulSet_healthy (hcacheSts ▸ hcached)).1 hcachedReady]
  exact congrArg (Except.ok) hfin

/-- Whatever the StatefulSet informer shows, a reconcile's phases after the deletion check, when
every call succeeds, end with the directory applied, its status aside, and the caches as they
were: the readiness check goes on, waits, or fails with `NotFound`, and each marks the status. -/
theorem createOrUpdate_applied (hs : c.directories d.metadata.name = some d)
    (hcert : (c.cachedSecrets d.spec.certificateSecretRef.name).isSome)
    (hsec : c.cachedSecrets (adminPasswordSecretName d) = c.secrets (adminPasswordSecretName d))
    (o : Outcome) (ho : createOrUpdate (Env.ok now pw) d c = .ok o ∨
      createOrUpdate (Env.ok now pw) d c = .error o) :
    ∃ st, Applied o.cluster { d with status := st }
        (((c.statefulSets ("ldap-" ++ d.metadata.name)).map (·.readyReplicas)).getD 0) ∧
      o.cluster.cachedSecrets = c.cachedSecrets ∧
      o.cluster.cachedDirectories = c.cachedDirectories := by
  obtain ⟨c₄, ha, hcache, hcached, -, he⟩ := @createOrUpdate_applies now pw c d hs hcert hsec
  rw [he] at ho
  cases hcs : c₄.cachedStatefulSets ("ldap-" ++ d.metadata.name) with
  | none =>
    rw [awaitStatefulSet_missing hcs] at ho
    obtain h | h := ho <;> cases h
    simp only [failStep, markFailed, attempt, Env.ok, Cluster.updateStatus, Cluster.recordEvent,
      ha.stored, Outcome.stop]
    exact ⟨_, ha.withStatus _ (Function.update_same _ _ _) rfl rfl rfl, hcache, hcached⟩
  | some sts =>
    have h := @awaitStatefulSet_healthy now pw d c₄ sts hcs
    by_cases hr : sts.readyReplicas = sts.replicas
    · rw [h.1 hr] at ho
      obtain ⟨st, es, hfin, -⟩ := @finishReady_current now pw c₄ d ha.stored
      obtain h | h := ho <;> cases h
      rw [hfin]
      exact ⟨st, ha.withStatus st (Function.update_same _ _ _) rfl rfl rfl, hcache, hcached⟩
    · rw [h.2 hr] at ho
      obtain h | h := ho <;> cases h
      have hd₄ : (c₄.recordEvent ⟨d.metadata.name, "Normal", "Pending",
          "Waiting for statefulset to become ready"⟩).directories d.metadata.name = some d :=
        ha.stored
      obtain ⟨c', hm⟩ := @markAs_healthy now pw d _ "pending" markPendingStatus (by rw [hd₄]; rfl)
      obtain ⟨old, hold, rfl⟩ := markAs_eq hm
      rw [hd₄] at hold
      cases hold
      simp only [waitStep, markPending, hm, Outcome.requeue]
      exact ⟨_, ha.withStatus _ (Function.update_same _ _ _) rfl rfl rfl, hcache, hcached⟩

/-- A reconcile of `n` where every call succeeds, then the informers catching up on the directory,
on its admin password secret and on its StatefulSet. -/
def settleRun (now : Nat) (pw n : String) (d : LDAPDirectory) : List Action :=
  [.reconcile n (Env.ok now pw), .syncDirectory n, .syncSecret (adminPasswordSecretName d),
   .syncStatefulSet ("ldap-" ++ n)]

/-- When every call succeeds, a reconcile of a live directory whose cached copy and cached admin
password secret are current, whose certificate secret is cached and whose StatefulSet reports its
replica ready, in the store and in the informer's cache, followed by the informers catching up,
leaves the directory converged. -/
theorem reconcile_converges {n : String} (hd : c.directories n = some d)
    (hv : c.cachedDirectories n = some d) (hdn : d.metadata.name = n)
    (hdel : d.metadata.deletionTimestamp = none)
    (hcert : (c.cachedSecrets d.spec.certificateSecretRef.name).isSome)
    (hsec : c.cachedSecrets (adminPasswordSecretName d) = c.secrets (adminPasswordSecretName d))
    (hready : ((c.statefulSets ("ldap-" ++ n)).map (·.readyReplicas)).getD 0 = 1)
    (hcached : ∃ sts, c.cachedStatefulSets ("ldap-" ++ n) = some sts ∧
      sts.readyReplicas = sts.replicas) :
    ∃ d', Converged (c.run (settleRun now pw n d)) n d' := by
  subst hdn
  obtain ⟨fs, hfs, hef⟩ := @ensureFinalizer_live now pw c d hd hdel
  obtain ⟨cached, hcs, hcr⟩ := hcached
  obtain ⟨st, c', hcu, hset, hcache⟩ :=
    @createOrUpdate_settles now pw
      { c with directories := Function.update c.directories d.metadata.name (some _) }
      { d with metadata := { d.metadata with finalizers := fs } } (Function.update_same _ _ _)
      hcert hsec hready cached hcs hcr
  have hrec : reconcile (Env.ok now pw) d.metadata.name c = .stop c' none := by
    rcases reconcile_of_live (reconcileSteps_of_ensureFinalizer (getDirectory_healthy hv) hef)
      hdel with h | h <;> rw [hcu] at h
    · exact (Except.ok.inj h).symm
    · cases h
  simp only [settleRun, Cluster.run, Cluster.step, hrec, Outcome.stop]
  exact ⟨_, hset.converged hdel hfs (hcache ▸ hcert)⟩

/-- So the controller comes to rest: after that reconcile and catch-up the directory is stored
`Ready`, and every later reconcile of it, at any time and whatever password it would generate,
returns no error and no requeue and leaves the cluster exactly as it is. -/
theorem reconcile_fixpoint {n : String} (hd : c.directories n = some d)
    (hv : c.cachedDirectories n = some d) (hdn : d.metadata.name = n)
    (hdel : d.metadata.deletionTimestamp = none)
    (hcert : (c.cachedSecrets d.spec.certificateSecretRef.name).isSome)
    (hsec : c.cachedSecrets (adminPasswordSecretName d) = c.secrets (adminPasswordSecretName d))
    (hready : ((c.statefulSets ("ldap-" ++ n)).map (·.readyReplicas)).getD 0 = 1)
    (hcached : ∃ sts, c.cachedStatefulSets ("ldap-" ++ n) = some sts ∧
      sts.readyReplicas = sts.replicas) :
    ∃ d', (c.run (settleRun now pw n d)).directories n = some d' ∧
      d'.status.phase = LDAPDirectoryPhase.ready ∧
      ∀ now' pw', reconcile (Env.ok now' pw') n (c.run (settleRun now pw n d)) =
        .stop (c.run (settleRun now pw n d)) none := by
  obtain ⟨d', h⟩ := reconcile_converges hd hv hdn hdel hcert hsec hready hcached
  exact ⟨d', h.stored, h.ready, fun _ _ => converged_reconcile h⟩

theorem caughtUp_reconcile_fixpoint :
    ∃ d', (caughtUpCluster.run (settleRun 30 "pw3" "example" caughtUpDirectory)).directories
        "example" = some d' ∧ d'.status.phase = LDAPDirectoryPhase.ready ∧
      ∀ now' pw', reconcile (Env.ok now' pw') "example"
          (caughtUpCluster.run (settleRun 30 "pw3" "example" caughtUpDirectory)) =
        .stop (caughtUpCluster.run (settleRun 30 "pw3" "example" caughtUpDirectory)) none :=
  reconcile_fixpoint (by decide) (by decide) (by decide) (by decide) (by decide) (by decide)
    (by decide) ⟨_, (Option.some_get (by decide)).symm, by decide⟩

/-- Whatever its StatefulSet reports, a reconcile of a live directory whose cached copy and cached
admin password secret are current and whose certificate secret is cached, where every call
succeeds, leaves the directory applied with `FinalizerName` and some status, its StatefulSet's
ready count and the caches as they were. -/
theorem reconcile_applies {n : String} (hd : c.directories n = some d)
    (hv : c.cachedDirectories n = some d) (hdn : d.metadata.name = n)
    (hdel : d.metadata.deletionTimestamp = none)
    (hcert : (c.cachedSecrets d.spec.certificateSecretRef.name).isSome)
    (hsec : c.cachedSecrets (adminPasswordSecretName d) = c.secrets (adminPasswordSecretName d)) :
    ∃ fs st, finalizerName ∈ fs ∧
      Applied (reconcile (Env.ok now pw) n c).cluster
        { d with metadata := { d.metadata with finalizers := fs }, status := st }
        (((c.statefulSets ("ldap-" ++ n)).map (·.readyReplicas)).getD 0) ∧
      (reconcile (Env.ok now pw) n c).cluster.cachedSecrets = c.cachedSecrets ∧
      (reconcile (Env.ok now pw) n c).cluster.cachedDirectories = c.cachedDirectories := by
  subst hdn
  obtain ⟨fs, hfs, hef⟩ := @ensureFinalizer_live now pw c d hd hdel
  obtain ⟨st, ha, hcache, hcached⟩ :=
    @createOrUpdate_applied now pw
      { c with directories := Function.update c.directories d.metadata.name (some _) }
      { d with metadata := { d.metadata with finalizers := fs } } (Function.update_same _ _ _)
      hcert hsec _ (reconcile_of_live
        (reconcileSteps_of_ensureFinalizer (getDirectory_healthy hv) hef) hdel)
  exact ⟨fs, st, hfs, ha, hcache, hcached⟩

/-- The controller makes progress: when every call succeeds, a live directory whose cached copy
and cached admin password secret are current and whose certificate secret is cached converges
after a reconcile and the informers catching up, its StatefulSet then reporting its replica
ready and the informer seeing it, and another reconcile and catch-up. The first reconcile may
find the StatefulSet ready, not ready, or not in the informer's cache at all; whichever it is,
the second one settles the directory. -/
theorem live_directory_converges {n : String} (hd : c.directories n = some d)
    (hv : c.cachedDirectories n = some d) (hdn : d.metadata.name = n)
    (hdel : d.metadata.deletionTimestamp = none)
    (hcert : (c.cachedSecrets d.spec.certificateSecretRef.name).isSome)
    (hsec : c.cachedSecrets (adminPasswordSecretName d) = c.secrets (adminPasswordSecretName d))
    (now' : Nat) (pw' : String) :
    ∃ d', Converged (c.run (settleRun now pw n d ++
      .setReadyReplicas ("ldap-" ++ n) 1 :: .syncStatefulSet ("ldap-" ++ n) ::
        settleRun now' pw' n d)) n d' := by
  obtain ⟨fs, st, hfs, ha, hcache, -⟩ := @reconcile_applies now pw c d n hd hv hdn hdel hcert hsec
  subst hdn
  generalize hc₁ : (reconcile (Env.ok now pw) d.metadata.name c).cluster = c₁ at ha hcache
  obtain ⟨sts, htmpl, hsts⟩ := ha.statefulSet
  rw [Cluster.run_append]
  simp only [settleRun, Cluster.run, Cluster.step, hc₁]
  refine @reconcile_converges now' pw' _
    { d with metadata := { d.metadata with finalizers := fs }, status := st } d.metadata.name
    ha.stored ?_ rfl hdel ?_ ?_ ?_ ⟨{ sts with readyReplicas := 1 }, ?_, ?_⟩
  · exact (Function.update_same _ _ _).trans ha.stored
  · show (Function.update c₁.cachedSecrets _ _ _).isSome
    rw [Function.update_apply]
    split_ifs
    exacts [ha.secret, hcache ▸ hcert]
  · exact Function.update_same _ _ _
  · show ((Function.update c₁.statefulSets _ _ _).map (·.readyReplicas)).getD 0 = 1
    rw [Function.update_same]
    erw [hsts]
    rfl
  · simp only [Cluster.syncStatefulSet, Cluster.setReadyReplicas, Cluster.syncSecret,
      Cluster.syncDirectory, Function.update_same, hsts]
    rfl
  · exact (statefulSetTemplate_ok htmpl).2.symm

/-- The directory `example` as the user created it, with its certificate secret, once the
informers have seen both. -/
def createdDirectory : LDAPDirectory :=
  ((Cluster.empty.run (firstReconcileRun.take 4)).directories "example").getD
    (directoryFor "example" "example.com")

theorem created_directory_converges :
    ∃ d', Converged ((Cluster.empty.run (firstReconcileRun.take 4)).run
      (settleRun 10 "pw1" "example" createdDirectory ++
        .setReadyReplicas ("ldap-" ++ "example") 1 :: .syncStatefulSet ("ldap-" ++ "example") ::
          settleRun 20 "pw2" "example" createdDirectory)) "example" d' :=
  live_directory_converges (by decide) (by decide) (by decide) (by decide) (by decide)
    (by decide) 20 "pw2"

end Converges

/-! ## Staying there -/

section Stable

variable {n : String} {d : LDAPDirectory}

/-- Convergence reads only what a reconcile of the directory reads. -/
theorem Converged.of_sameFor {c c' : Cluster} (h : Converged c n d) (hs : Cluster.SameFor n c c') :
    Converged c' n d where
  stored := hs.directory ▸ h.stored
  cached := hs.cachedDirectories ▸ h.cached
  name := h.name
  live := h.live
  finalizer := h.finalizer
  ready := h.ready
  certificate := hs.cachedSecrets ▸ h.certificate
  secret := hs.cachedSecrets ▸ h.secret
  statefulSet := hs.statefulSet ▸ h.statefulSet
  cachedStatefulSet := hs.statefulSet ▸ hs.cachedStatefulSets ▸ h.cachedStatefulSet
  service := hs.service ▸ h.service

/-- One step of such a run: a reconcile of the directory itself changes nothing, and a
reconcile of another one, however it ends, leaves alone what convergence reads. -/
theorem Converged.step_reconcile {c : Cluster} (hc : NamesMatch c) (h : Converged c n d)
    {m : String} {env : Env} (hm : m = n → ∃ now pw, env = Env.ok now pw) :
    Converged (c.step (.reconcile m env)) n d := by
  by_cases hmn : m = n
  · obtain ⟨now, pw, rfl⟩ := hm hmn
    subst hmn
    show Converged (reconcile _ m c).cluster m d
    rw [converged_reconcile h]
    exact h
  · obtain ⟨-, -, -, _, hw, -⟩ := @reconcile_paired env m c c hc (.refl c)
    exact h.of_sameFor (hw.sameFor (Ne.symm hmn))

/-- A converged directory stays converged over every run of reconciles, of any directories,
in which those of the directory itself are answered without failure; the others may fail in any
way. Every reconcile of it along the run changes nothing. -/
theorem converged_stable {c : Cluster} (hc : NamesMatch c) (h : Converged c n d)
    (as : List Action)
    (has : ∀ a ∈ as, ∃ m env, a = .reconcile m env ∧ (m = n → ∃ now pw, env = Env.ok now pw)) :
    Converged (c.run as) n d := by
  induction as generalizing c with
  | nil => exact h
  | cons a as ih =>
    obtain ⟨m, env, rfl, hm⟩ := has a (List.mem_cons_self _ _)
    exact ih (hc.step _) (h.step_reconcile hc hm) fun a ha => has a (List.mem_cons_of_mem _ ha)

theorem settled_converged_stable :
    ∃ d', Converged (((Cluster.empty.run twoDirectoriesRun).run
        (settleRun 30 "pw3" "example" caughtUpDirectory)).run
      [.reconcile "other" { Env.ok 40 "pw4" with statusErr := some "conflict" },
       .reconcile "example" (Env.ok 50 "pw5")]) "example" d' :=
  let ⟨d', h⟩ := @reconcile_converges 30 "pw3" (Cluster.empty.run twoDirectoriesRun)
    caughtUpDirectory "example" (by decide) (by decide) (by decide) (by decide) (by decide)
    (by decide) (by decide) ⟨_, (Option.some_get (by decide)).symm, by decide⟩
  ⟨d', converged_stable ((Reachable.namesMatch ⟨_, rfl⟩).run _) h _ fun a ha => by
    simp only [List.mem_cons, List.mem_singleton, List.not_mem_nil, or_false] at ha
    rcases ha with rfl | rfl
    · exact ⟨_, _, rfl, fun h => absurd h (by decide)⟩
    · exact ⟨_, _, rfl, fun _ => ⟨50, "pw5", rfl⟩⟩⟩

end Stable

end LdapOperator

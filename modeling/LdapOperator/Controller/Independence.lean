import LdapOperator.Controller.Run

/-!
# LDAP operator — reconciles of different directories do not interfere

A reconcile of the directory `n` reads the informer caches and, in the store, the directory under
`n`, its admin password secret `ldap-<n>-admin-password` and its StatefulSet `ldap-<n>`; it
writes only the directory under `n`, that secret, the StatefulSet and the Service `ldap-<n>`, and
the event log. `SameFor n` says that two clusters agree on what a reconcile of `n` reads and
writes; `WritesOnly n` that a cluster changed only there, with some events recorded.

The same phases run on two clusters that are `SameFor n` go the same way: they return at the same
exit with the same result and error, write the same values and record the same events. The
two-run relation is `Parallel`, one clause per shape of `Except Outcome`, and `Parallel.bind`
chains the phases as `reconcileSteps` does. A reconcile of another directory keeps everything a
reconcile of `n` reads, so the work queue may serve two directories in either order.

Main results:

* `reconcile_paired` — a reconcile of `n` of a cluster that stores and caches the directory
  under its own name depends only on what it reads, and changes only the objects of `n` and the
  events.
* `reconcile_comm` — reconciles of two different directories commute: in either order each
  returns the same, and the cluster ends the same except for the order of their events.
* `run_swap_reconciles` — so in any run, from any cluster that stores and caches every directory
  under its own name, two adjacent reconciles of different directories may be swapped: the run
  ends in the same cluster, with the same events in another order.
-/

namespace LdapOperator

namespace Cluster

/-- Two clusters agree on what a reconcile of the directory `n` reads and writes: the directory
stored under `n`, its admin password secret, its StatefulSet and Service, and the caches. -/
structure SameFor (n : String) (c₁ c₂ : Cluster) : Prop where
  directory : c₁.directories n = c₂.directories n
  secret : c₁.secrets ("ldap-" ++ n ++ "-admin-password") =
    c₂.secrets ("ldap-" ++ n ++ "-admin-password")
  statefulSet : c₁.statefulSets ("ldap-" ++ n) = c₂.statefulSets ("ldap-" ++ n)
  service : c₁.services ("ldap-" ++ n) = c₂.services ("ldap-" ++ n)
  cachedDirectories : c₁.cachedDirectories = c₂.cachedDirectories
  cachedSecrets : c₁.cachedSecrets = c₂.cachedSecrets
  cachedStatefulSets : c₁.cachedStatefulSets = c₂.cachedStatefulSets

/-- `c'` is `c` with only the objects of the directory `n` changed and the events `es`
recorded. -/
structure WritesOnly (n : String) (c c' : Cluster) (es : List Event) : Prop where
  directories : ∀ k, k ≠ n → c'.directories k = c.directories k
  secrets : ∀ k, k ≠ "ldap-" ++ n ++ "-admin-password" → c'.secrets k = c.secrets k
  statefulSets : ∀ k, k ≠ "ldap-" ++ n → c'.statefulSets k = c.statefulSets k
  services : ∀ k, k ≠ "ldap-" ++ n → c'.services k = c.services k
  cachedDirectories : c'.cachedDirectories = c.cachedDirectories
  cachedSecrets : c'.cachedSecrets = c.cachedSecrets
  cachedStatefulSets : c'.cachedStatefulSets = c.cachedStatefulSets
  events : c'.events = c.events ++ es

/-- Two runs of a reconcile of `n`, from `b₁` and from `b₂`, that have come to `c₁` and `c₂`:
they agree on what the reconcile reads and writes, and each changed only that and recorded the
same events. -/
structure Paired (n : String) (b₁ b₂ c₁ c₂ : Cluster) : Prop where
  same : SameFor n c₁ c₂
  writes : ∃ es, WritesOnly n b₁ c₁ es ∧ WritesOnly n b₂ c₂ es

section Paired

variable {n : String} {b₁ b₂ c₁ c₂ e₁ e₂ : Cluster}

theorem WritesOnly.refl (c : Cluster) : WritesOnly n c c [] :=
  ⟨fun _ _ => rfl, fun _ _ => rfl, fun _ _ => rfl, fun _ _ => rfl, rfl, rfl, rfl,
    (List.append_nil _).symm⟩

theorem WritesOnly.trans {c c' c'' : Cluster} {es es' : List Event} (h : WritesOnly n c c' es)
    (h' : WritesOnly n c' c'' es') : WritesOnly n c c'' (es ++ es') where
  directories k hk := (h'.directories k hk).trans (h.directories k hk)
  secrets k hk := (h'.secrets k hk).trans (h.secrets k hk)
  statefulSets k hk := (h'.statefulSets k hk).trans (h.statefulSets k hk)
  services k hk := (h'.services k hk).trans (h.services k hk)
  cachedDirectories := h'.cachedDirectories.trans h.cachedDirectories
  cachedSecrets := h'.cachedSecrets.trans h.cachedSecrets
  cachedStatefulSets := h'.cachedStatefulSets.trans h.cachedStatefulSets
  events := by rw [h'.events, h.events, List.append_assoc]

theorem SameFor.refl (c : Cluster) : SameFor n c c := ⟨rfl, rfl, rfl, rfl, rfl, rfl, rfl⟩

theorem Paired.refl (h : SameFor n c₁ c₂) : Paired n c₁ c₂ c₁ c₂ :=
  ⟨h, [], .refl _, .refl _⟩

theorem Paired.trans (h : Paired n b₁ b₂ c₁ c₂) (h' : Paired n c₁ c₂ e₁ e₂) :
    Paired n b₁ b₂ e₁ e₂ :=
  let ⟨_, es, h₁, h₂⟩ := h
  let ⟨hs, es', h₁', h₂'⟩ := h'
  ⟨hs, es ++ es', h₁.trans h₁', h₂.trans h₂'⟩

/-! ## The writes of a reconcile of `n` -/

theorem WritesOnly.recordEvent (c : Cluster) (e : Event) : WritesOnly n c (c.recordEvent e) [e] :=
  ⟨fun _ _ => rfl, fun _ _ => rfl, fun _ _ => rfl, fun _ _ => rfl, rfl, rfl, rfl, rfl⟩

theorem WritesOnly.setDirectory (c : Cluster) (v : Option LDAPDirectory) :
    WritesOnly n c { c with directories := Function.update c.directories n v } [] :=
  ⟨fun _ hk => Function.update_noteq hk _ _, fun _ _ => rfl, fun _ _ => rfl, fun _ _ => rfl,
    rfl, rfl, rfl, (List.append_nil _).symm⟩

theorem WritesOnly.setSecret (c : Cluster) (v : Option Secret) :
    WritesOnly n c
      { c with secrets := Function.update c.secrets ("ldap-" ++ n ++ "-admin-password") v } [] :=
  ⟨fun _ _ => rfl, fun _ hk => Function.update_noteq hk _ _, fun _ _ => rfl, fun _ _ => rfl,
    rfl, rfl, rfl, (List.append_nil _).symm⟩

theorem WritesOnly.setStatefulSet (c : Cluster) (v : Option StatefulSet) :
    WritesOnly n c { c with statefulSets := Function.update c.statefulSets ("ldap-" ++ n) v } [] :=
  ⟨fun _ _ => rfl, fun _ _ => rfl, fun _ hk => Function.update_noteq hk _ _, fun _ _ => rfl,
    rfl, rfl, rfl, (List.append_nil _).symm⟩

theorem WritesOnly.setService (c : Cluster) (v : Option Service) :
    WritesOnly n c { c with services := Function.update c.services ("ldap-" ++ n) v } [] :=
  ⟨fun _ _ => rfl, fun _ _ => rfl, fun _ _ => rfl, fun _ hk => Function.update_noteq hk _ _,
    rfl, rfl, rfl, (List.append_nil _).symm⟩

theorem SameFor.recordEvent (h : SameFor n c₁ c₂) (e : Event) :
    Paired n c₁ c₂ (c₁.recordEvent e) (c₂.recordEvent e) :=
  ⟨⟨h.directory, h.secret, h.statefulSet, h.service, h.cachedDirectories, h.cachedSecrets,
    h.cachedStatefulSets⟩, [e],
    .recordEvent _ _, .recordEvent _ _⟩

theorem SameFor.setDirectory (h : SameFor n c₁ c₂) (v : Option LDAPDirectory) :
    Paired n c₁ c₂ { c₁ with directories := Function.update c₁.directories n v }
      { c₂ with directories := Function.update c₂.directories n v } :=
  ⟨⟨by simp, h.secret, h.statefulSet, h.service, h.cachedDirectories, h.cachedSecrets,
    h.cachedStatefulSets⟩, [],
    .setDirectory _ _, .setDirectory _ _⟩

theorem SameFor.setSecret (h : SameFor n c₁ c₂) (v : Option Secret) :
    Paired n c₁ c₂
      { c₁ with secrets := Function.update c₁.secrets ("ldap-" ++ n ++ "-admin-password") v }
      { c₂ with secrets := Function.update c₂.secrets ("ldap-" ++ n ++ "-admin-password") v } :=
  ⟨⟨h.directory, by simp, h.statefulSet, h.service, h.cachedDirectories, h.cachedSecrets,
    h.cachedStatefulSets⟩, [],
    .setSecret _ _, .setSecret _ _⟩

theorem SameFor.applyStatefulSet (h : SameFor n c₁ c₂) {sts : StatefulSet}
    (hs : sts.name = "ldap-" ++ n) :
    Paired n c₁ c₂ (c₁.applyStatefulSet sts) (c₂.applyStatefulSet sts) := by
  unfold Cluster.applyStatefulSet
  rw [hs, h.statefulSet]
  exact ⟨⟨h.directory, h.secret, by simp, h.service, h.cachedDirectories, h.cachedSecrets,
    h.cachedStatefulSets⟩, [],
    .setStatefulSet _ _, .setStatefulSet _ _⟩

theorem SameFor.applyService (h : SameFor n c₁ c₂) {svc : Service}
    (hs : svc.name = "ldap-" ++ n) :
    Paired n c₁ c₂ (c₁.applyService svc) (c₂.applyService svc) := by
  unfold Cluster.applyService
  rw [hs]
  exact ⟨⟨h.directory, h.secret, h.statefulSet, by simp, h.cachedDirectories, h.cachedSecrets,
    h.cachedStatefulSets⟩,
    [], .setService _ _, .setService _ _⟩

end Paired

end Cluster

open Cluster

/-- Two outcomes of a reconcile of `n` run from `b₁` and from `b₂`: the same result and error,
over paired clusters. -/
structure Outcome.Paired (n : String) (b₁ b₂ : Cluster) (o₁ o₂ : Outcome) : Prop where
  result : o₁.result = o₂.result
  err : o₁.err = o₂.err
  cluster : Cluster.Paired n b₁ b₂ o₁.cluster o₂.cluster

/-- The same phase run from `b₁` and from `b₂`: it returns at the same exit from both, with
paired outcomes, or goes on from both, with values related by `R` and paired clusters (`cl₁` and
`cl₂` read the cluster off the value). -/
def Parallel (n : String) (b₁ b₂ : Cluster) {α : Type} (R : α → α → Prop) (cl₁ cl₂ : α → Cluster) :
    Except Outcome α → Except Outcome α → Prop
  | .ok a₁, .ok a₂ => R a₁ a₂ ∧ Cluster.Paired n b₁ b₂ (cl₁ a₁) (cl₂ a₂)
  | .error o₁, .error o₂ => o₁.Paired n b₁ b₂ o₂
  | _, _ => False

section Parallel

variable {n : String} {b₁ b₂ c₁ c₂ : Cluster}

theorem Outcome.Paired.trans_left {o₁ o₂ : Outcome} (h : Cluster.Paired n b₁ b₂ c₁ c₂)
    (ho : o₁.Paired n c₁ c₂ o₂) : o₁.Paired n b₁ b₂ o₂ :=
  ⟨ho.result, ho.err, h.trans ho.cluster⟩

theorem Parallel.bind {α β : Type} {R : α → α → Prop} {R' : β → β → Prop}
    {cl₁ cl₂ : α → Cluster} {cl₁' cl₂' : β → Cluster} {x₁ x₂ : Except Outcome α}
    {f₁ f₂ : α → Except Outcome β} (hx : Parallel n b₁ b₂ R cl₁ cl₂ x₁ x₂)
    (hf : ∀ a₁ a₂, R a₁ a₂ → SameFor n (cl₁ a₁) (cl₂ a₂) →
      Parallel n (cl₁ a₁) (cl₂ a₂) R' cl₁' cl₂' (f₁ a₁) (f₂ a₂)) :
    Parallel n b₁ b₂ R' cl₁' cl₂' (x₁ >>= f₁) (x₂ >>= f₂) := by
  match x₁, x₂, hx with
  | .error _, .error _, hx => exact hx
  | .ok a₁, .ok a₂, ⟨hR, hp⟩ =>
    have h := hf a₁ a₂ hR hp.same
    change Parallel n b₁ b₂ R' cl₁' cl₂' (f₁ a₁) (f₂ a₂)
    match f₁ a₁, f₂ a₂, h with
    | .ok _, .ok _, ⟨hR', hp'⟩ => exact ⟨hR', hp.trans hp'⟩
    | .error _, .error _, ho => exact ho.trans_left hp

end Parallel

/-! ## The phases -/

section Phases

variable {env : Env} {d : LDAPDirectory} {c₁ c₂ : Cluster}

theorem markFailed_paired (h : SameFor d.metadata.name c₁ c₂) (err : String) :
    Cluster.Paired d.metadata.name c₁ c₂ (markFailed env d err c₁) (markFailed env d err c₂) := by
  unfold markFailed attempt Cluster.updateStatus
  rw [h.directory]
  cases env.statusErr
  · cases c₂.directories d.metadata.name
    · exact .refl h
    · exact h.setDirectory _
  · exact .refl h

theorem failStep_paired (h : SameFor d.metadata.name c₁ c₂) (what err : String) :
    (failStep env d c₁ what err).Paired d.metadata.name c₁ c₂ (failStep env d c₂ what err) :=
  ⟨rfl, rfl, (h.recordEvent _).trans (markFailed_paired (h.recordEvent _).same _)⟩

theorem markAs_paired (env : Env) (h : SameFor d.metadata.name c₁ c₂) (label : String)
    (mark : LDAPDirectory → Nat → LDAPDirectoryStatus) :
    (∃ e, markAs label mark env d c₁ = .error e ∧ markAs label mark env d c₂ = .error e) ∨
      ∃ c₁' c₂', markAs label mark env d c₁ = .ok c₁' ∧ markAs label mark env d c₂ = .ok c₂' ∧
        Cluster.Paired d.metadata.name c₁ c₂ c₁' c₂' := by
  unfold markAs attempt Cluster.updateStatus
  rw [h.directory]
  cases env.statusErr
  · cases c₂.directories d.metadata.name
    · exact .inl ⟨_, rfl, rfl⟩
    · exact .inr ⟨_, _, rfl, rfl, h.setDirectory _⟩
  · exact .inl ⟨_, rfl, rfl⟩

theorem waitStep_paired (h : SameFor d.metadata.name c₁ c₂) (type reason message : String) :
    (waitStep env d c₁ type reason message).Paired d.metadata.name c₁ c₂
      (waitStep env d c₂ type reason message) := by
  have he := h.recordEvent ⟨d.metadata.name, type, reason, message⟩
  unfold waitStep markPending
  rcases markAs_paired env he.same "pending" markPendingStatus with
    ⟨_, h₁, h₂⟩ | ⟨_, _, h₁, h₂, hp⟩ <;> simp only [h₁, h₂]
  · exact ⟨rfl, rfl, he⟩
  · exact ⟨rfl, rfl, he.trans hp⟩

theorem getDirectory_paired (h : SameFor n c₁ c₂) :
    Parallel n c₁ c₂ (fun d₁ d₂ => d₁ = d₂ ∧ c₁.cachedDirectories n = some d₁)
      (fun _ => c₁) (fun _ => c₂) (getDirectory env n c₁) (getDirectory env n c₂) := by
  unfold getDirectory
  rw [← h.cachedDirectories]
  cases env.getErr
  · cases hd : c₁.cachedDirectories n
    · exact ⟨rfl, rfl, .refl h⟩
    · exact ⟨⟨rfl, rfl⟩, .refl h⟩
  · exact ⟨rfl, rfl, .refl h⟩

/-- The same finalizer patch on two clusters fails on both with one error, or goes through on
both, answering the same directory. -/
theorem Cluster.SameFor.patchFinalizers (h : SameFor n c₁ c₂) (finalizers : List String) :
    (∃ e, c₁.patchFinalizers n finalizers = .error e ∧ c₂.patchFinalizers n finalizers = .error e) ∨
      ∃ c₁' c₂' d', c₁.patchFinalizers n finalizers = .ok (c₁', d') ∧
        c₂.patchFinalizers n finalizers = .ok (c₂', d') ∧ Cluster.Paired n c₁ c₂ c₁' c₂' := by
  unfold Cluster.patchFinalizers
  rw [← h.directory]
  cases c₁.directories n with
  | none => exact .inl ⟨_, rfl, rfl⟩
  | some s =>
    dsimp only
    cases s.metadata.deletionTimestamp
    · exact .inr ⟨_, _, _, rfl, rfl, h.setDirectory _⟩
    · dsimp only
      by_cases hg : ∀ f ∈ finalizers, f ∈ s.metadata.finalizers
      · rw [if_pos hg, if_pos hg]
        exact .inr ⟨_, _, _, rfl, rfl, h.setDirectory _⟩
      · rw [if_neg hg, if_neg hg]
        exact .inl ⟨_, rfl, rfl⟩

theorem ensureFinalizer_paired (hn : d.metadata.name = n) (h : SameFor n c₁ c₂)
    (hs : ∀ s, c₁.directories n = some s → s.metadata.name = n) :
    Parallel n c₁ c₂ (fun p₁ p₂ => p₁.1 = p₂.1 ∧ p₁.1.metadata.name = n) Prod.snd Prod.snd
      (ensureFinalizer env d c₁) (ensureFinalizer env d c₂) := by
  subst hn
  unfold ensureFinalizer attempt
  split_ifs
  · exact ⟨⟨rfl, rfl⟩, .refl h⟩
  · cases env.addFinalizerErr
    · rcases h.patchFinalizers (addFinalizer d.metadata.finalizers finalizerName) with
        ⟨_, h₁, h₂⟩ | ⟨_, _, d', h₁, h₂, hp⟩ <;> simp only [h₁, h₂]
      · exact ⟨rfl, rfl, .refl h⟩
      · obtain ⟨s, hsd, rfl, -⟩ := Cluster.patchFinalizers_ok h₁
        exact ⟨⟨rfl, hs s hsd⟩, hp⟩
    · exact ⟨rfl, rfl, .refl h⟩

theorem handleDeletion_paired (hn : d.metadata.name = n) (h : SameFor n c₁ c₂) :
    Parallel n c₁ c₂ (fun _ _ => True) (fun _ => c₁) (fun _ => c₂) (handleDeletion env d c₁)
      (handleDeletion env d c₂) := by
  subst hn
  unfold handleDeletion attempt
  cases d.metadata.deletionTimestamp
  · exact ⟨trivial, .refl h⟩
  · split_ifs
    · cases env.removeFinalizerErr
      · rcases h.patchFinalizers (removeFinalizer d.metadata.finalizers finalizerName) with
          ⟨_, h₁, h₂⟩ | ⟨_, _, _, h₁, h₂, hp⟩ <;> simp only [h₁, h₂]
        · exact ⟨rfl, rfl, .refl h⟩
        · exact ⟨rfl, rfl, hp⟩
      · exact ⟨rfl, rfl, .refl h⟩
    · exact ⟨rfl, rfl, .refl h⟩

theorem checkReferences_paired (h : SameFor d.metadata.name c₁ c₂) :
    Parallel d.metadata.name c₁ c₂ (fun _ _ => True) id id (checkReferences env d c₁)
      (checkReferences env d c₂) := by
  unfold checkReferences LDAPDirectory.resolveReferences
  rw [← congrFun h.cachedSecrets]
  cases env.certificateSecretErr
  · cases (c₁.cachedSecrets d.spec.certificateSecretRef.name).isSome
    · exact waitStep_paired h _ _ _
    · exact ⟨trivial, .refl h⟩
  · exact failStep_paired h _ _

theorem ensureAdminPasswordSecret_paired (h : SameFor d.metadata.name c₁ c₂) :
    Parallel d.metadata.name c₁ c₂ (fun _ _ => True) id id (ensureAdminPasswordSecret env d c₁)
      (ensureAdminPasswordSecret env d c₂) := by
  dsimp only [ensureAdminPasswordSecret, attempt, Cluster.createSecret, adminPasswordSecretName]
  rw [← congrFun h.cachedSecrets, ← h.secret]
  cases env.adminPasswordSecretErr
  · cases c₁.cachedSecrets ("ldap-" ++ d.metadata.name ++ "-admin-password")
    · cases env.generate adminPasswordLength
      · exact ⟨rfl, rfl, .refl h⟩
      · cases env.secretControllerReferenceErr
        · cases env.createErr
          · cases c₁.secrets ("ldap-" ++ d.metadata.name ++ "-admin-password")
            · exact ⟨trivial, h.setSecret _⟩
            · exact ⟨rfl, rfl, .refl h⟩
          · exact ⟨rfl, rfl, .refl h⟩
        · exact ⟨rfl, rfl, .refl h⟩
    · exact ⟨trivial, .refl h⟩
  · exact ⟨rfl, rfl, .refl h⟩

theorem applyTemplate_paired {α : Type} {kind : String} {template : Except String α}
    {applyErr : Option String} {apply : Cluster → α → Cluster} (h : SameFor d.metadata.name c₁ c₂)
    (happly : ∀ obj, template = .ok obj →
      Cluster.Paired d.metadata.name c₁ c₂ (apply c₁ obj) (apply c₂ obj)) :
    Parallel d.metadata.name c₁ c₂ (fun _ _ => True) id id
      (applyTemplate kind template applyErr apply env d c₁)
      (applyTemplate kind template applyErr apply env d c₂) := by
  unfold applyTemplate
  cases template with
  | error => exact failStep_paired h _ _
  | ok obj =>
    cases applyErr
    · exact ⟨trivial, happly obj rfl⟩
    · exact failStep_paired h _ _

theorem reconcileStatefulSet_paired (h : SameFor d.metadata.name c₁ c₂) :
    Parallel d.metadata.name c₁ c₂ (fun _ _ => True) id id (reconcileStatefulSet env d c₁)
      (reconcileStatefulSet env d c₂) :=
  applyTemplate_paired h fun _ hsts => h.applyStatefulSet (statefulSetTemplate_ok hsts).1

theorem reconcileService_paired (h : SameFor d.metadata.name c₁ c₂) :
    Parallel d.metadata.name c₁ c₂ (fun _ _ => True) id id (reconcileService env d c₁)
      (reconcileService env d c₂) := by
  refine applyTemplate_paired h fun svc hsvc => h.applyService ?_
  unfold serviceTemplate at hsvc
  split at hsvc <;> cases hsvc
  rfl

theorem awaitStatefulSet_paired (h : SameFor d.metadata.name c₁ c₂) :
    Parallel d.metadata.name c₁ c₂ (fun _ _ => True) id id (awaitStatefulSet env d c₁)
      (awaitStatefulSet env d c₂) := by
  unfold awaitStatefulSet isStatefulSetReady
  rw [← congrFun h.cachedStatefulSets]
  cases env.statefulSetGetErr
  · cases c₁.cachedStatefulSets ("ldap-" ++ d.metadata.name) with
    | none => exact failStep_paired h _ _
    | some sts =>
      dsimp only
      cases sts.readyReplicas == sts.replicas
      · exact waitStep_paired h _ _ _
      · exact ⟨trivial, .refl h⟩
  · exact failStep_paired h _ _

theorem finishReady_paired (h : SameFor d.metadata.name c₁ c₂) :
    (finishReady env d c₁).Paired d.metadata.name c₁ c₂ (finishReady env d c₂) := by
  have he := h.recordEvent ⟨d.metadata.name, "Normal", "Created", "Successfully created"⟩
  unfold finishReady markReady
  split_ifs
  · rcases markAs_paired env he.same "ready" markReadyStatus with
      ⟨_, h₁, h₂⟩ | ⟨_, _, h₁, h₂, hp⟩ <;> simp only [h₁, h₂]
    · exact ⟨rfl, rfl, he⟩
    · exact ⟨rfl, rfl, he.trans hp⟩
  · exact ⟨rfl, rfl, .refl h⟩

/-- Two outcomes that return the same. -/
def SameReturn (o₁ o₂ : Outcome) : Prop := o₁.result = o₂.result ∧ o₁.err = o₂.err

theorem createOrUpdate_paired (hn : d.metadata.name = n) (h : SameFor n c₁ c₂) :
    Parallel n c₁ c₂ SameReturn Outcome.cluster Outcome.cluster (createOrUpdate env d c₁)
      (createOrUpdate env d c₂) := by
  subst hn
  exact (checkReferences_paired h).bind fun _ _ _ h =>
    (ensureAdminPasswordSecret_paired h).bind fun _ _ _ h =>
      (reconcileStatefulSet_paired h).bind fun _ _ _ h =>
        (reconcileService_paired h).bind fun _ _ _ h =>
          (awaitStatefulSet_paired h).bind fun _ _ _ h =>
            let hf := finishReady_paired h
            ⟨⟨hf.result, hf.err⟩, hf.cluster⟩

end Phases

/-! ## A whole reconcile -/

section Reconcile

variable {env : Env} {n : String} {c₁ c₂ : Cluster}

theorem reconcileSteps_paired (h : SameFor n c₁ c₂)
    (hcn : ∀ d, c₁.cachedDirectories n = some d → d.metadata.name = n)
    (hsn : ∀ d, c₁.directories n = some d → d.metadata.name = n) :
    Parallel n c₁ c₂ SameReturn Outcome.cluster Outcome.cluster (reconcileSteps env n c₁)
      (reconcileSteps env n c₂) := by
  unfold reconcileSteps
  refine (getDirectory_paired h).bind fun d _ ⟨hd, hcache⟩ h => ?_
  subst hd
  refine (ensureFinalizer_paired (hcn d hcache) h hsn).bind fun ⟨d', _⟩ ⟨_, _⟩ ⟨hd', hn'⟩ h => ?_
  subst hd'
  exact (handleDeletion_paired hn' h).bind fun _ _ _ h => createOrUpdate_paired hn' h

/-- A reconcile of `n`, of a cluster that stores and caches every directory under its own name,
goes the same way on every cluster that agrees with it on what the reconcile reads and writes:
it returns the same, writes the same and records the same events, and changes nothing else. -/
theorem reconcile_paired (hc : NamesMatch c₁) (h : SameFor n c₁ c₂) :
    (reconcile env n c₁).Paired n c₁ c₂ (reconcile env n c₂) := by
  have hp := @reconcileSteps_paired env n c₁ c₂ h (hc.cachedDirectories n) (hc.directories n)
  unfold reconcile
  match reconcileSteps env n c₁, reconcileSteps env n c₂, hp with
  | .ok _, .ok _, ⟨⟨hr, he⟩, hcl⟩ => exact ⟨hr, he, hcl⟩
  | .error _, .error _, ho => exact ho

end Reconcile

/-! ## Two directories -/

theorem ldap_append_inj {n m : String} (h : "ldap-" ++ n = "ldap-" ++ m) : n = m := by
  have := congrArg String.data h
  simp only [String.data_append, List.append_cancel_left_eq] at this
  exact String.ext this

theorem adminPasswordSecret_append_inj {n m : String}
    (h : "ldap-" ++ n ++ "-admin-password" = "ldap-" ++ m ++ "-admin-password") : n = m := by
  have := congrArg String.data h
  simp only [String.data_append, List.append_assoc, List.append_cancel_left_eq,
    List.append_cancel_right_eq] at this
  exact String.ext this

/-- What a reconcile of `m` writes is none of what a reconcile of another directory reads. -/
theorem Cluster.WritesOnly.sameFor {m n : String} {c c' : Cluster} {es : List Event}
    (h : WritesOnly m c c' es) (hnm : n ≠ m) : SameFor n c c' :=
  ⟨(h.directories n hnm).symm,
    (h.secrets _ fun e => hnm (adminPasswordSecret_append_inj e)).symm,
    (h.statefulSets _ fun e => hnm (ldap_append_inj e)).symm,
    (h.services _ fun e => hnm (ldap_append_inj e)).symm,
    h.cachedDirectories.symm, h.cachedSecrets.symm, h.cachedStatefulSets.symm⟩

/-- A keyed store written at `a` by one writer and at `b ≠ a` by another ends the same in either
order. -/
theorem store_comm {β : Type} {f fa fb fab fba : String → Option β} {a b : String} (hab : a ≠ b)
    (ha : ∀ k, k ≠ a → fa k = f k) (hb : ∀ k, k ≠ b → fb k = f k)
    (hab' : ∀ k, k ≠ b → fab k = fa k) (hbb : fab b = fb b)
    (hba' : ∀ k, k ≠ a → fba k = fb k) (haa : fba a = fa a) : fab = fba := by
  funext k
  by_cases hka : k = a
  · subst hka; rw [hab' k hab, haa]
  · by_cases hkb : k = b
    · subst hkb; rw [hbb, hba' k hka]
    · rw [hab' k hkb, hba' k hka, ha k hka, hb k hkb]

/-- Reconciles of two different directories commute: in either order each returns the same, and
the cluster ends the same except for the order in which their events were recorded. -/
theorem reconcile_comm {c : Cluster} (hc : NamesMatch c) {n m : String} (hnm : n ≠ m)
    (envN envM : Env) :
    { c.run [.reconcile n envN, .reconcile m envM] with events := [] } =
      { c.run [.reconcile m envM, .reconcile n envN] with events := [] } ∧
    (∃ en em, (c.run [.reconcile n envN, .reconcile m envM]).events = c.events ++ en ++ em ∧
      (c.run [.reconcile m envM, .reconcile n envN]).events = c.events ++ em ++ en) ∧
    SameReturn (reconcile envN n (reconcile envM m c).cluster) (reconcile envN n c) ∧
    SameReturn (reconcile envM m (reconcile envN n c).cluster) (reconcile envM m c) := by
  obtain ⟨-, -, -, _, hA, -⟩ := @reconcile_paired envN n c c hc (.refl c)
  obtain ⟨-, -, -, _, hB, -⟩ := @reconcile_paired envM m c c hc (.refl c)
  obtain ⟨hrn, hen, hsn, en, hA', hBA⟩ := @reconcile_paired envN n c _ hc (hB.sameFor hnm)
  obtain ⟨hrm, hem, hsm, em, hB', hAB⟩ := @reconcile_paired envM m c _ hc (hA.sameFor hnm.symm)
  have hsec : "ldap-" ++ n ++ "-admin-password" ≠ "ldap-" ++ m ++ "-admin-password" :=
    fun e => hnm (adminPasswordSecret_append_inj e)
  have hldap : "ldap-" ++ n ≠ "ldap-" ++ m := fun e => hnm (ldap_append_inj e)
  refine ⟨?_, ⟨en, em, ?_, ?_⟩, ⟨hrn.symm, hen.symm⟩, ⟨hrm.symm, hem.symm⟩⟩
  · simp only [Cluster.run, Cluster.step]
    rw [store_comm hnm hA'.directories hB'.directories hAB.directories hsm.directory.symm
        hBA.directories hsn.directory.symm,
      store_comm hsec hA'.secrets hB'.secrets hAB.secrets hsm.secret.symm hBA.secrets
        hsn.secret.symm,
      store_comm hldap hA'.statefulSets hB'.statefulSets hAB.statefulSets hsm.statefulSet.symm
        hBA.statefulSets hsn.statefulSet.symm,
      store_comm hldap hA'.services hB'.services hAB.services hsm.service.symm hBA.services
        hsn.service.symm,
      hAB.cachedDirectories, hA'.cachedDirectories, hBA.cachedDirectories, hB'.cachedDirectories,
      hAB.cachedSecrets, hA'.cachedSecrets, hBA.cachedSecrets, hB'.cachedSecrets,
      hAB.cachedStatefulSets, hA'.cachedStatefulSets, hBA.cachedStatefulSets,
      hB'.cachedStatefulSets]
  · simp only [Cluster.run, Cluster.step]
    rw [hAB.events, hA'.events]
  · simp only [Cluster.run, Cluster.step]
    rw [hBA.events, hB'.events]

/-! ## Whole runs

No step reads the event log, so runs that differ only in their events go on the same way; and
two reconciles of different directories can be swapped anywhere in a run. -/

theorem Cluster.run_append (c : Cluster) (as bs : List Action) :
    c.run (as ++ bs) = (c.run as).run bs := by
  induction as generalizing c with
  | nil => rfl
  | cons a as ih => exact ih (c.step a)

theorem NamesMatch.run {c : Cluster} (h : NamesMatch c) (as : List Action) :
    NamesMatch (c.run as) :=
  Cluster.run_invariant (fun _ a h => h.step a) as h

/-- A keyed store that two writers both wrote at `a` alone, with the same value, is the same. -/
theorem store_eq {β : Type} {f g₁ g₂ : String → Option β} {a : String}
    (h₁ : ∀ k, k ≠ a → g₁ k = f k) (h₂ : ∀ k, k ≠ a → g₂ k = f k) (ha : g₁ a = g₂ a) :
    g₁ = g₂ := by
  funext k
  by_cases hk : k = a
  · subst hk; exact ha
  · rw [h₁ k hk, h₂ k hk]

/-- Every step but a reconcile leaves the events alone and reads none of them. -/
theorem other_step_withEvents (c : Cluster) (a : Action) (ha : ∀ n env, a ≠ .reconcile n env)
    (e : List Event) : { c with events := e }.step a = { c.step a with events := e } := by
  obtain ⟨d, s, t, v, cd, cs, cst, e'⟩ := c
  cases a with
  | reconcile n env => exact absurd rfl (ha n env)
  | createDirectory x =>
    simp only [Cluster.step, Cluster.orKeep, Cluster.createDirectory]
    cases d x.metadata.name <;> rfl
  | updateSpec name spec =>
    simp only [Cluster.step, Cluster.orKeep, Cluster.updateSpec]
    cases d name
    · rfl
    · dsimp only
      split_ifs <;> rfl
  | deleteDirectory name now =>
    simp only [Cluster.step, Cluster.orKeep, Cluster.deleteDirectory]
    cases d name with
    | none => rfl
    | some x =>
      dsimp only
      split_ifs
      · rfl
      · cases x.metadata.deletionTimestamp <;> rfl
  | setFinalizers name fs =>
    simp only [Cluster.step, Cluster.orKeep, Cluster.patchFinalizers]
    cases d name with
    | none => rfl
    | some x =>
      dsimp only
      cases x.metadata.deletionTimestamp
      · rfl
      · dsimp only
        split_ifs <;> rfl
  | _ => rfl

/-- Two runs of a reconcile of `n` from clusters that differ only in their events end in
clusters that differ only in their events. -/
theorem Cluster.eq_of_writesOnly {n : String} {b r₁ r₂ : Cluster} {e es : List Event}
    (hs : SameFor n r₁ r₂) (h₁ : WritesOnly n b r₁ es)
    (h₂ : WritesOnly n { b with events := e } r₂ es) : r₂ = { r₁ with events := e ++ es } := by
  cases r₂
  congr 1
  · exact store_eq h₂.directories h₁.directories hs.directory.symm
  · exact store_eq h₂.secrets h₁.secrets hs.secret.symm
  · exact store_eq h₂.statefulSets h₁.statefulSets hs.statefulSet.symm
  · exact store_eq h₂.services h₁.services hs.service.symm
  · exact h₂.cachedDirectories.trans h₁.cachedDirectories.symm
  · exact h₂.cachedSecrets.trans h₁.cachedSecrets.symm
  · exact h₂.cachedStatefulSets.trans h₁.cachedStatefulSets.symm
  · exact h₂.events

/-- A reconcile reads none of the events: from the same cluster with other events it writes the
same and records the same events. -/
theorem reconcile_withEvents {c : Cluster} (hc : NamesMatch c) (env : Env) (n : String)
    (e : List Event) : ∃ es, (reconcile env n c).cluster.events = c.events ++ es ∧
      (reconcile env n { c with events := e }).cluster =
        { (reconcile env n c).cluster with events := e ++ es } := by
  obtain ⟨-, -, hs, es, h₁, h₂⟩ :=
    @reconcile_paired env n c { c with events := e } hc ⟨rfl, rfl, rfl, rfl, rfl, rfl, rfl⟩
  exact ⟨es, h₁.events, Cluster.eq_of_writesOnly hs h₁ h₂⟩

/-- A step reads none of the events: from the same cluster with other events it goes the same way
and records the same events. -/
theorem Cluster.step_withEvents {c : Cluster} (hc : NamesMatch c) (a : Action) (e : List Event) :
    ∃ es, (c.step a).events = c.events ++ es ∧
      { c with events := e }.step a = { c.step a with events := e ++ es } := by
  by_cases ha : ∃ n env, a = .reconcile n env
  · obtain ⟨n, env, rfl⟩ := ha
    exact reconcile_withEvents hc env n e
  · have ha : ∀ n env, a ≠ .reconcile n env := fun n env h => ha ⟨n, env, h⟩
    have h := congrArg Cluster.events (other_step_withEvents c a ha c.events)
    exact ⟨[], by rw [List.append_nil]; exact h,
      by rw [List.append_nil]; exact other_step_withEvents c a ha e⟩

/-- A run reads none of the events. -/
theorem Cluster.run_withEvents {c : Cluster} (hc : NamesMatch c) (bs : List Action)
    (e : List Event) : ∃ es, (c.run bs).events = c.events ++ es ∧
      { c with events := e }.run bs = { c.run bs with events := e ++ es } := by
  induction bs generalizing c e with
  | nil => exact ⟨[], (List.append_nil _).symm, by rw [List.append_nil]; rfl⟩
  | cons a bs ih =>
    obtain ⟨es, hes, hstep⟩ := Cluster.step_withEvents hc a e
    obtain ⟨es', hes', hrun⟩ := ih (hc.step a) (e ++ es)
    refine ⟨es ++ es', ?_, ?_⟩
    · show ((c.step a).run bs).events = _
      rw [hes', hes, List.append_assoc]
    · show ({ c with events := e }.step a).run bs = _
      rw [hstep, hrun, List.append_assoc]
      rfl

theorem Cluster.eq_withEvents {x y : Cluster}
    (h : { x with events := [] } = { y with events := [] }) : y = { x with events := y.events } := by
  cases x; cases y; cases h; rfl

/-- Two reconciles of different directories can be swapped anywhere in a run, from any cluster
that stores and caches every directory under its own name: the run ends in the same cluster but
for the order of the events, and records the same events. -/
theorem run_swap_reconciles {c : Cluster} (hc : NamesMatch c) (as bs : List Action)
    {n m : String} (hnm : n ≠ m) (envN envM : Env) :
    { c.run (as ++ .reconcile n envN :: .reconcile m envM :: bs) with events := [] } =
      { c.run (as ++ .reconcile m envM :: .reconcile n envN :: bs) with events := [] } ∧
    (c.run (as ++ .reconcile n envN :: .reconcile m envM :: bs)).events.Perm
      (c.run (as ++ .reconcile m envM :: .reconcile n envN :: bs)).events := by
  rw [Cluster.run_append, Cluster.run_append]
  have hc' := hc.run as
  obtain ⟨hcl, ⟨en, em, h₁, h₂⟩, -⟩ := reconcile_comm hc' hnm envN envM
  obtain ⟨post, hpost, hrun⟩ := Cluster.run_withEvents
    (hc'.run [.reconcile n envN, .reconcile m envM]) bs
    ((c.run as).run [.reconcile m envM, .reconcile n envN]).events
  change { ((c.run as).run [.reconcile n envN, .reconcile m envM]).run bs with events := [] } =
      { ((c.run as).run [.reconcile m envM, .reconcile n envN]).run bs with events := [] } ∧
    (((c.run as).run [.reconcile n envN, .reconcile m envM]).run bs).events.Perm
      (((c.run as).run [.reconcile m envM, .reconcile n envN]).run bs).events
  rw [Cluster.eq_withEvents hcl, hrun]
  refine ⟨rfl, ?_⟩
  show List.Perm _ (_ ++ post)
  rw [hpost, h₁, h₂]
  simpa only [List.append_assoc] using
    (List.perm_append_comm.append_left (c.run as).events).append_right post

/-- The caught-up cluster with a second directory `other`, which a user creates with its
certificate secret, and which the informers see. -/
def twoDirectoriesRun : List Action :=
  firstReconcileRun ++ catchUpRun ++
    [.createDirectory (directoryFor "other" "other.com"),
     .writeSecret "other-tls" (some ⟨"other-tls", none, [("tls.crt", "certificate")]⟩),
     .syncDirectory "other", .syncSecret "other-tls"]

/-- With `example` and `other` both stored and cached, a reconcile of each can be swapped. -/
theorem caughtUp_swap_reconciles :
    ((Cluster.empty.run twoDirectoriesRun).cachedDirectories "example").isSome ∧
    ((Cluster.empty.run twoDirectoriesRun).cachedDirectories "other").isSome ∧
    NamesMatch Cluster.empty ∧ "example" ≠ "other" ∧
    { Cluster.empty.run (twoDirectoriesRun ++
        .reconcile "example" (Env.ok 30 "pw3") :: .reconcile "other" (Env.ok 30 "pw4") :: []) with
        events := [] } =
      { Cluster.empty.run (twoDirectoriesRun ++
        .reconcile "other" (Env.ok 30 "pw4") :: .reconcile "example" (Env.ok 30 "pw3") :: []) with
        events := [] } ∧
    (Cluster.empty.run (twoDirectoriesRun ++
        .reconcile "example" (Env.ok 30 "pw3") :: .reconcile "other" (Env.ok 30 "pw4") :: [])).events.Perm
      (Cluster.empty.run (twoDirectoriesRun ++
        .reconcile "other" (Env.ok 30 "pw4") :: .reconcile "example" (Env.ok 30 "pw3") :: [])).events :=
  ⟨by decide, by decide, .empty, by decide, run_swap_reconciles .empty _ [] (by decide) _ _⟩

end LdapOperator

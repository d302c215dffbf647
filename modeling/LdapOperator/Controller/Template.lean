import LdapOperator.Api.Types
import Mathlib.Data.List.Nodup

/-!
# LDAP operator — the StatefulSet and Service templates

`LDAPDirectoryReconciler.statefulSetTemplate` and `serviceTemplate`, with the objects they
build. Fields the templates set to constants and nothing reads (ports, probes, the security
context, the grace period) are left out. The template's two merge loops (volume claim templates
and volume mounts over their defaults) are one definition, `mergeByName`, keyed by the entry's
name: each override replaces the first entry of its name, or is appended.

Main results:

* `statefulSetTemplate_adminPassword` — the template has containers, and every one reads
  `LDAP_ADMIN_PASSWORD` from key `password` of the secret `ldap-<name>-admin-password`, in its
  only entry of that name.
* `templateLabels_override` — the labels of both objects have no key twice; the three operator
  labels override the directory's, and every other label of the directory is carried over.
-/

namespace LdapOperator

/-- `corev1.SecretKeySelector`. -/
structure SecretKeySelector where
  name : String
  key : String
  deriving Repr, DecidableEq

/-- `corev1.EnvVar`: a value, or a secret key it is read from. -/
structure EnvVar where
  name : String
  value : String
  valueFrom : Option SecretKeySelector
  deriving Repr, DecidableEq

/-- `corev1.Container`, the fields the template fills from the directory. -/
structure Container where
  name : String
  image : String
  command : List String
  env : List EnvVar
  volumeMounts : List VolumeMount
  resources : ResourceRequirements
  deriving Repr, DecidableEq

/-- `appsv1.StatefulSet`: its metadata, the spec fields the template fills, and
`Status.ReadyReplicas`. -/
structure StatefulSet where
  name : String
  labels : List (String × String)
  owner : String
  replicas : Nat
  serviceName : String
  selector : List (String × String)
  initContainers : List Container
  containers : List Container
  certificateSecretName : String
  volumeClaimTemplates : List PersistentVolumeClaim
  readyReplicas : Nat
  deriving Repr, DecidableEq

/-- `corev1.Service`: its metadata and selector. -/
structure Service where
  name : String
  labels : List (String × String)
  controller : String
  selector : List (String × String)
  deriving Repr, DecidableEq

/-- A write `m[k] = v` to a Go `map[string]string`, kept as a list of distinct keys. -/
def setLabel (labels : List (String × String)) (k v : String) : List (String × String) :=
  if labels.any (·.1 == k) then labels.map fun kv => if kv.1 = k then (k, v) else kv
  else labels ++ [(k, v)]

/-- The labels both templates put on their object: the directory's labels, then the three
operator labels over them. -/
def templateLabels (directory : LDAPDirectory) : List (String × String) :=
  let labels := directory.metadata.labels.foldl (fun l kv => setLabel l kv.1 kv.2) []
  let labels := setLabel labels "app.kubernetes.io/name" "directory"
  let labels := setLabel labels "app.kubernetes.io/instance" directory.metadata.name
  setLabel labels "app.kubernetes.io/managed-by" "ldap-operator"

/-! ## The merge loops -/

/-- The inner loop: replace the first entry named like `v`, or `none` when there is none. -/
def replaceByName {α : Type} (name : α → String) (v : α) : List α → Option (List α)
  | [] => none
  | x :: xs => if name x = name v then some (v :: xs) else (replaceByName name v xs).map (x :: ·)

/-- The outer loop: each override replaces the entry of its name, or is appended. -/
def mergeByName {α : Type} (name : α → String) (defaults overrides : List α) : List α :=
  overrides.foldl (fun acc v => (replaceByName name v acc).getD (acc ++ [v])) defaults

/-- `defaultVolumeClaimTemplates`. -/
def defaultVolumeClaimTemplates : List PersistentVolumeClaim :=
  [⟨"config", ["ReadWriteOnce"], "10Mi"⟩, ⟨"data", ["ReadWriteOnce"], "100Mi"⟩]

/-- The volume mounts `statefulSetTemplate` starts from. -/
def defaultVolumeMounts : List VolumeMount :=
  [⟨"config", "/etc/ldap/slapd.d"⟩, ⟨"data", "/var/lib/ldap"⟩, ⟨"certs", "/etc/ldap/certs"⟩]

/-! ## The templates -/

/-- The environment of both containers: domain, organization, the admin password's secret key,
and the optional descriptor limit and debug level. -/
def statefulSetEnvVars (directory : LDAPDirectory) : List EnvVar :=
  let envVars : List EnvVar :=
    [⟨"LDAP_DOMAIN", directory.spec.domain, none⟩,
     ⟨"LDAP_ORGANIZATION", directory.spec.organization, none⟩,
     ⟨"LDAP_ADMIN_PASSWORD", "",
       some ⟨"ldap-" ++ directory.metadata.name ++ "-admin-password", "password"⟩⟩]
  let envVars := match directory.spec.fileDescriptorLimit with
    | some limit => envVars ++ [⟨"LDAP_NOFILE", toString limit, none⟩]
    | none => envVars
  match directory.spec.debugLevel with
  | some level => envVars ++ [⟨"LDAP_DEBUG_LEVEL", toString level, none⟩]
  | none => envVars

/-- `statefulSetTemplate`; it fails only when `SetOwnerReference` does. -/
def statefulSetTemplate (ownerReferenceErr : Option String) (directory : LDAPDirectory) :
    Except String StatefulSet :=
  let envVars := statefulSetEnvVars directory
  let volumeClaimTemplates := mergeByName PersistentVolumeClaim.name defaultVolumeClaimTemplates
    directory.spec.volumeClaimTemplates
  let volumeMounts := mergeByName VolumeMount.name defaultVolumeMounts directory.spec.volumeMounts
  match ownerReferenceErr with
  | some err => .error ("failed to set owner reference: " ++ err)
  | none => .ok
    { name := "ldap-" ++ directory.metadata.name
      labels := templateLabels directory
      owner := directory.metadata.name
      replicas := 1
      serviceName := "ldap"
      selector := [("app.kubernetes.io/name", "ldap"),
        ("app.kubernetes.io/instance", directory.metadata.name)]
      initContainers := [⟨"openldap-init", directory.spec.image, ["/bootstrap.sh"], envVars,
        volumeMounts, ⟨[], []⟩⟩]
      containers := [⟨"openldap", directory.spec.image, [], envVars, volumeMounts,
        directory.spec.resources⟩]
      certificateSecretName := directory.spec.certificateSecretRef.name
      volumeClaimTemplates := volumeClaimTemplates
      readyReplicas := 0 }

/-- `serviceTemplate`; it fails only when `SetControllerReference` does. -/
def serviceTemplate (ownerReferenceErr : Option String) (directory : LDAPDirectory) :
    Except String Service :=
  match ownerReferenceErr with
  | some err => .error ("failed to set controller reference: " ++ err)
  | none => .ok
    { name := "ldap-" ++ directory.metadata.name
      labels := templateLabels directory
      controller := directory.metadata.name
      selector := [("app.kubernetes.io/name", "ldap"),
        ("app.kubernetes.io/instance", directory.metadata.name)] }

/-- The templates read the directory's metadata and spec, never its status. -/
@[simp]
theorem statefulSetTemplate_withStatus (ownerReferenceErr : Option String)
    (directory : LDAPDirectory) (status : LDAPDirectoryStatus) :
    statefulSetTemplate ownerReferenceErr { directory with status := status } =
      statefulSetTemplate ownerReferenceErr directory := rfl

@[simp]
theorem serviceTemplate_withStatus (ownerReferenceErr : Option String)
    (directory : LDAPDirectory) (status : LDAPDirectoryStatus) :
    serviceTemplate ownerReferenceErr { directory with status := status } =
      serviceTemplate ownerReferenceErr directory := rfl

/-- The StatefulSet is `ldap-<name>`, with one replica. -/
theorem statefulSetTemplate_ok {ownerReferenceErr : Option String} {directory : LDAPDirectory}
    {sts : StatefulSet} (h : statefulSetTemplate ownerReferenceErr directory = .ok sts) :
    sts.name = "ldap-" ++ directory.metadata.name ∧ sts.replicas = 1 := by
  unfold statefulSetTemplate at h
  split at h
  · cases h
  · cases h
    exact ⟨rfl, rfl⟩

theorem mem_statefulSetEnvVars_adminPassword (directory : LDAPDirectory) :
    ⟨"LDAP_ADMIN_PASSWORD", "",
      some ⟨"ldap-" ++ directory.metadata.name ++ "-admin-password", "password"⟩⟩ ∈
      statefulSetEnvVars directory := by
  unfold statefulSetEnvVars
  split <;> split <;> simp

theorem mem_statefulSetEnvVars_domain (directory : LDAPDirectory) :
    ⟨"LDAP_DOMAIN", directory.spec.domain, none⟩ ∈ statefulSetEnvVars directory := by
  unfold statefulSetEnvVars
  split <;> split <;> simp

/-- No other entry is named `LDAP_ADMIN_PASSWORD`: the optional ones have names of their own. -/
theorem statefulSetEnvVars_adminPassword (directory : LDAPDirectory) :
    ∀ ev ∈ statefulSetEnvVars directory, ev.name = "LDAP_ADMIN_PASSWORD" →
      ev = ⟨"LDAP_ADMIN_PASSWORD", "",
        some ⟨"ldap-" ++ directory.metadata.name ++ "-admin-password", "password"⟩⟩ := by
  intro ev hev hname
  unfold statefulSetEnvVars at hev
  split at hev <;> split at hev <;> simp only [List.mem_append, List.mem_cons,
    List.not_mem_nil, or_false, or_assoc] at hev <;> repeat' rcases hev with rfl | hev
  all_goals first | rfl | simp at hname

/-- The template has containers, and every one of them reads `LDAP_ADMIN_PASSWORD` from the key
`password` of the secret `ldap-<name>-admin-password`, in its only entry of that name. -/
theorem statefulSetTemplate_adminPassword {ownerReferenceErr : Option String}
    {directory : LDAPDirectory} {sts : StatefulSet}
    (h : statefulSetTemplate ownerReferenceErr directory = .ok sts) :
    sts.initContainers ++ sts.containers ≠ [] ∧
    ∀ container ∈ sts.initContainers ++ sts.containers,
      ⟨"LDAP_ADMIN_PASSWORD", "",
        some ⟨"ldap-" ++ directory.metadata.name ++ "-admin-password", "password"⟩⟩ ∈
        container.env ∧
      ∀ ev ∈ container.env, ev.name = "LDAP_ADMIN_PASSWORD" →
        ev.valueFrom =
          some ⟨"ldap-" ++ directory.metadata.name ++ "-admin-password", "password"⟩ := by
  unfold statefulSetTemplate at h
  split at h
  · cases h
  · cases h
    refine ⟨List.cons_ne_nil _ _, fun container hc => ?_⟩
    rcases List.mem_pair.mp hc with rfl | rfl <;>
      exact ⟨mem_statefulSetEnvVars_adminPassword _,
        fun ev hev hn => by rw [statefulSetEnvVars_adminPassword _ ev hev hn]⟩

/-! ## The labels -/

section Labels

variable (labels : List (String × String)) (k v key : String)

theorem lookup_cons_ite (a b : String) :
    ((a, b) :: labels).lookup key = if key = a then some b else labels.lookup key := by
  rw [List.lookup_cons]
  by_cases h : key = a
  · simp [h]
  · simp [h, beq_eq_false_iff_ne.mpr h]

theorem lookup_map_setLabel :
    (labels.map fun kv => if kv.1 = k then (k, v) else kv).lookup key =
      if key = k then (if labels.any (·.1 == k) then some v else none) else labels.lookup key := by
  induction labels with
  | nil => simp
  | cons kv labels ih =>
    obtain ⟨a, b⟩ := kv
    by_cases ha : a = k
    · subst ha
      by_cases hk : key = a <;> simp [lookup_cons_ite, hk, ih]
    · by_cases hk : key = k
      · subst hk
        have hka : key ≠ a := fun h => ha h.symm
        simp only [List.any_cons, beq_eq_false_iff_ne.mpr ha, Bool.false_or]
        simp [lookup_cons_ite, ih, ha, hka]
      · simp [lookup_cons_ite, hk, ha, ih]

/-- A write `m[k] = v` is read back at `k` and leaves every other key as it was. -/
theorem lookup_setLabel :
    (setLabel labels k v).lookup key = if key = k then some v else labels.lookup key := by
  unfold setLabel
  by_cases hany : labels.any (·.1 == k)
  · rw [if_pos hany, lookup_map_setLabel, if_pos hany]
  · rw [if_neg hany, List.lookup_append, lookup_cons_ite, List.lookup_nil]
    have hnone : labels.lookup k = none := by
      simp only [Bool.not_eq_true, List.any_eq_false, beq_iff_eq] at hany
      exact List.lookup_eq_none_iff.mpr fun p hp => bne_iff_ne.mpr fun h => hany p hp h.symm
    by_cases hkey : key = k
    · subst hkey
      simp [hnone]
    · simp [hkey]

theorem keys_setLabel :
    (setLabel labels k v).map Prod.fst =
      if labels.any (·.1 == k) then labels.map Prod.fst else labels.map Prod.fst ++ [k] := by
  unfold setLabel
  split_ifs
  · simp only [List.map_map]
    congr 1
    funext kv
    by_cases h : kv.1 = k <;> simp [h]
  · simp

theorem nodup_setLabel (h : (labels.map Prod.fst).Nodup) :
    ((setLabel labels k v).map Prod.fst).Nodup := by
  rw [keys_setLabel]
  split_ifs with hany
  · exact h
  · exact h.append (List.nodup_singleton k) (by simpa using hany)

end Labels

/-- The loop `for k, v := range directory.ObjectMeta.Labels`: the last value of a key wins. -/
theorem lookup_foldl_setLabel (l acc : List (String × String)) (key : String) :
    (l.foldl (fun acc kv => setLabel acc kv.1 kv.2) acc).lookup key =
      (l.reverse.lookup key).or (acc.lookup key) := by
  induction l generalizing acc with
  | nil => simp
  | cons kv l ih =>
    obtain ⟨a, b⟩ := kv
    rw [List.foldl_cons, ih, lookup_setLabel, List.reverse_cons, List.lookup_append,
      Option.or_assoc, lookup_cons_ite, List.lookup_nil]
    by_cases h : key = a <;> simp [h]

theorem nodup_foldl_setLabel (l acc : List (String × String)) (h : (acc.map Prod.fst).Nodup) :
    ((l.foldl (fun acc kv => setLabel acc kv.1 kv.2) acc).map Prod.fst).Nodup := by
  induction l generalizing acc with
  | nil => exact h
  | cons kv l ih => exact ih _ (nodup_setLabel _ _ _ h)

/-- The labels of the StatefulSet and the Service: no key twice; the three operator labels over
the directory's; every other label of the directory carried over, the last value of a key
winning (a Go map has one). -/
theorem templateLabels_override (directory : LDAPDirectory) :
    ((templateLabels directory).map Prod.fst).Nodup ∧ ∀ key,
      (templateLabels directory).lookup key =
        if key = "app.kubernetes.io/managed-by" then some "ldap-operator"
        else if key = "app.kubernetes.io/instance" then some directory.metadata.name
        else if key = "app.kubernetes.io/name" then some "directory"
        else directory.metadata.labels.reverse.lookup key := by
  unfold templateLabels
  refine ⟨nodup_setLabel _ _ _ (nodup_setLabel _ _ _ (nodup_setLabel _ _ _
    (nodup_foldl_setLabel _ _ List.nodup_nil))), fun key => ?_⟩
  simp only [lookup_setLabel, lookup_foldl_setLabel, List.lookup_nil, Option.or_none]

end LdapOperator

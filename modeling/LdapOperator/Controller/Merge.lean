import LdapOperator.Controller.Template
import Mathlib.Data.List.Nodup

/-!
# LDAP operator — the merge loops of `statefulSetTemplate`

`statefulSetTemplate` merges the user's volume claim templates and volume mounts over its
defaults with two copies of one nested loop: for each override, search the working list for an
entry of the same name and replace it, or else append the override. `mergeByName` is that loop.
The spec describes the result as an override-by-name merge: the defaults' names in default
order, then each other name of the overrides in order of first occurrence, each name with its
last override, or with its default when no override has it. `overrideByName` is that merge, in
the spec's words.

The loop body is `upsertByName` (`mergeStep_eq_upsertByName`), and the loop invariant is stated
over the overrides consumed so far: the working list's names are the defaults' and then the new
names of that prefix, and a name's entry is its last override in it. With distinct default
names, the working list's names stay distinct, so an entry is fixed by its name.

Main results:

* `mergeByName_names`, `mergeByName_find?`, `mergeByName_nodup` — the names and entries the loop
  leaves.
* `mergeByName_eq_overrideByName` — the loop computes the spec's merge.
* `statefulSetTemplate_merges_by_name` — both merged lists of the StatefulSet are that merge.
-/

namespace LdapOperator

/-- The names of `ns` that are not in `known`, each once, in order of first occurrence. -/
def newNames (known : List String) : List String → List String
  | [] => []
  | n :: ns => if n ∈ known then newNames known ns else n :: newNames (known ++ [n]) ns

theorem nodup_append_newNames {known : List String} (h : known.Nodup) (ns : List String) :
    (known ++ newNames known ns).Nodup := by
  induction ns generalizing known with
  | nil => simpa [newNames]
  | cons n ns ih =>
    unfold newNames
    split
    · exact ih h
    · rename_i hn
      simpa using @ih (known ++ [n]) (List.nodup_append.2 ⟨h, List.nodup_singleton n,
        List.disjoint_singleton.2 hn⟩)

section Upsert

variable {α : Type} (name : α → String)

/-- Replace the first entry named like `v`, or append `v`: one pass of the outer loop. -/
def upsertByName (v : α) : List α → List α
  | [] => [v]
  | x :: xs => if name x = name v then v :: xs else x :: upsertByName v xs

/-- The Go loop body, a search that replaces the entry of the same name or else an append, is
`upsertByName`. -/
theorem mergeStep_eq_upsertByName (v : α) (acc : List α) :
    (replaceByName name v acc).getD (acc ++ [v]) = upsertByName name v acc := by
  induction acc with
  | nil => rfl
  | cons x xs ih =>
    simp only [replaceByName, upsertByName]
    split
    · rfl
    · rw [← ih]
      cases replaceByName name v xs <;> rfl

theorem mergeByName_eq_foldl (defaults overrides : List α) :
    mergeByName name defaults overrides =
      overrides.foldl (fun acc v => upsertByName name v acc) defaults := by
  simp only [mergeByName, mergeStep_eq_upsertByName]

theorem map_upsertByName (v : α) (acc : List α) :
    (upsertByName name v acc).map name =
      if name v ∈ acc.map name then acc.map name else acc.map name ++ [name v] := by
  induction acc with
  | nil => simp [upsertByName]
  | cons x xs ih =>
    by_cases hx : name x = name v
    · simp [upsertByName, hx]
    · simp only [upsertByName, hx, if_false, List.map_cons, ih, List.mem_cons, Ne.symm hx,
        false_or]
      split_ifs <;> rfl

theorem find?_upsertByName (v : α) (acc : List α) (n : String) :
    (upsertByName name v acc).find? (fun x => name x = n) =
      if name v = n then some v else acc.find? (fun x => name x = n) := by
  induction acc with
  | nil => by_cases h : name v = n <;> simp [upsertByName, h]
  | cons x xs ih =>
    by_cases hx : name x = name v
    · by_cases h : name v = n <;> simp [upsertByName, hx, h]
    · simp only [upsertByName, hx, if_false, List.find?_cons, ih]
      by_cases h : name v = n
      · subst h
        simp [hx]
      · simp [h]

/-! ## The loop -/

/-- The loop invariant, over the overrides consumed so far: the names are those of the list the
loop started from, then the new names of the overrides. -/
theorem map_foldl_upsertByName (overrides acc : List α) :
    (overrides.foldl (fun acc v => upsertByName name v acc) acc).map name =
      acc.map name ++ newNames (acc.map name) (overrides.map name) := by
  induction overrides generalizing acc with
  | nil => simp [newNames]
  | cons v vs ih =>
    rw [List.foldl_cons, ih, map_upsertByName]
    by_cases h : name v ∈ acc.map name <;> simp [h, newNames]

/-- The other half of the invariant: the entry of a name is its last override so far, or the
entry the loop started from. -/
theorem find?_foldl_upsertByName (overrides acc : List α) (n : String) :
    (overrides.foldl (fun acc v => upsertByName name v acc) acc).find? (fun x => name x = n) =
      (overrides.reverse.find? (fun x => name x = n)).or (acc.find? (fun x => name x = n)) := by
  induction overrides generalizing acc with
  | nil => simp
  | cons v vs ih =>
    rw [List.foldl_cons, ih, find?_upsertByName, List.reverse_cons, List.find?_append,
      Option.or_assoc]
    by_cases h : name v = n <;> simp [h]

theorem mergeByName_names (defaults overrides : List α) :
    (mergeByName name defaults overrides).map name =
      defaults.map name ++ newNames (defaults.map name) (overrides.map name) := by
  rw [mergeByName_eq_foldl, map_foldl_upsertByName]

theorem mergeByName_find? (defaults overrides : List α) (n : String) :
    (mergeByName name defaults overrides).find? (fun x => name x = n) =
      (overrides.reverse.find? (fun x => name x = n)).or
        (defaults.find? (fun x => name x = n)) := by
  rw [mergeByName_eq_foldl, find?_foldl_upsertByName]

-- The last override of `data` wins, in the place of the default; `backup` comes after.
example : (mergeByName PersistentVolumeClaim.name defaultVolumeClaimTemplates
    [⟨"data", ["ReadWriteOnce"], "1Gi"⟩, ⟨"backup", ["ReadWriteOnce"], "5Gi"⟩,
      ⟨"data", ["ReadWriteOnce"], "2Gi"⟩]).map (fun p => (p.name, p.storage)) =
    [("config", "10Mi"), ("data", "2Gi"), ("backup", "5Gi")] := by decide

theorem mergeByName_nodup {defaults : List α} (h : (defaults.map name).Nodup)
    (overrides : List α) : ((mergeByName name defaults overrides).map name).Nodup := by
  rw [mergeByName_names]
  exact nodup_append_newNames h _

/-! ## The spec's merge -/

/-- The override-by-name merge of the spec: the defaults' names in default order, then each
other name of the overrides in order of first occurrence; the entry of a name is the last
override with that name, or its default when no override has it. -/
def overrideByName (defaults overrides : List α) : List α :=
  (defaults.map name ++ newNames (defaults.map name) (overrides.map name)).filterMap fun n =>
    (overrides.reverse.find? (fun x => name x = n)).or (defaults.find? (fun x => name x = n))

/-- A list with distinct names is read back from its names through `find?`. -/
theorem filterMap_find?_names {l : List α} (h : (l.map name).Nodup) :
    (l.map name).filterMap (fun n => l.find? (fun x => name x = n)) = l := by
  induction l with
  | nil => rfl
  | cons x xs ih =>
    rw [List.map_cons, List.nodup_cons] at h
    have htail : (xs.map name).filterMap (fun n => (x :: xs).find? (fun y => name y = n)) = xs :=
      (List.filterMap_congr fun n hn => by
        have hne : name x ≠ n := fun e => h.1 (e ▸ hn)
        simp [hne]).trans (ih h.2)
    simp [List.filterMap_cons, htail]

/-- With distinct default names, the loop computes the spec's merge. -/
theorem mergeByName_eq_overrideByName {defaults : List α} (h : (defaults.map name).Nodup)
    (overrides : List α) :
    mergeByName name defaults overrides = overrideByName name defaults overrides := by
  rw [← filterMap_find?_names name (mergeByName_nodup name h overrides), mergeByName_names]
  simp only [overrideByName, mergeByName_find?]

/-- What the spec asks of a list `l` merged from `defaults` and `overrides`: it is their
override-by-name merge; its names are distinct, the defaults' first in default order, then the
overrides' other names in order of first occurrence; and the entry of each name is its last
override, or its default when no override has it. -/
structure MergedByName (defaults overrides l : List α) : Prop where
  eq_overrideByName : l = overrideByName name defaults overrides
  names_nodup : (l.map name).Nodup
  names : l.map name = defaults.map name ++ newNames (defaults.map name) (overrides.map name)
  entry : ∀ n, l.find? (fun x => name x = n) =
    (overrides.reverse.find? (fun x => name x = n)).or (defaults.find? (fun x => name x = n))

theorem mergeByName_merged {defaults : List α} (h : (defaults.map name).Nodup)
    (overrides : List α) :
    MergedByName name defaults overrides (mergeByName name defaults overrides) :=
  ⟨mergeByName_eq_overrideByName name h overrides, mergeByName_nodup name h overrides,
    mergeByName_names name defaults overrides, mergeByName_find? name defaults overrides⟩

end Upsert

/-! ## The template -/

/-- Both lists `statefulSetTemplate` merges, the volume claim templates and every container's
volume mounts, are the spec's override-by-name merge of their defaults with the directory's
overrides. -/
theorem statefulSetTemplate_merges_by_name {ownerReferenceErr : Option String}
    {directory : LDAPDirectory} {sts : StatefulSet}
    (h : statefulSetTemplate ownerReferenceErr directory = .ok sts) :
    MergedByName PersistentVolumeClaim.name defaultVolumeClaimTemplates
        directory.spec.volumeClaimTemplates sts.volumeClaimTemplates ∧
    ∀ container ∈ sts.initContainers ++ sts.containers,
      MergedByName VolumeMount.name defaultVolumeMounts directory.spec.volumeMounts
        container.volumeMounts := by
  unfold statefulSetTemplate at h
  split at h
  · cases h
  · cases h
    refine ⟨mergeByName_merged _ (by decide) _, ?_⟩
    simp only [List.singleton_append, List.mem_cons, List.mem_singleton, List.not_mem_nil,
      or_false]
    rintro _ (rfl | rfl) <;> exact mergeByName_merged _ (by decide) _

/-- `example` with overrides that repeat a name and override a default twice. -/
def overridingDirectory : LDAPDirectory :=
  { directoryFor "example" "example.com" with
    spec := { (directoryFor "example" "example.com").spec with
      volumeClaimTemplates := [⟨"data", ["ReadWriteOnce"], "1Gi"⟩,
        ⟨"backup", ["ReadWriteOnce"], "5Gi"⟩, ⟨"data", ["ReadWriteOnce"], "2Gi"⟩]
      volumeMounts := [⟨"backup", "/backup"⟩, ⟨"certs", "/certs"⟩] } }

theorem overridingDirectory_merges_by_name :
    ∃ sts, statefulSetTemplate none overridingDirectory = .ok sts ∧
      MergedByName PersistentVolumeClaim.name defaultVolumeClaimTemplates
        overridingDirectory.spec.volumeClaimTemplates sts.volumeClaimTemplates ∧
      ∀ container ∈ sts.initContainers ++ sts.containers,
        MergedByName VolumeMount.name defaultVolumeMounts overridingDirectory.spec.volumeMounts
          container.volumeMounts :=
  ⟨_, rfl, @statefulSetTemplate_merges_by_name none overridingDirectory _ rfl⟩

end LdapOperator

import LdapOperator.Api.Walk

/-!
# LDAP operator — the shape of a group's distinguished name

What the DN of a group is, as a string: along a `ParentRef` chain of groups ending at a
directory, the `cn=` components of the chain, most specific first, then the `dc=` components of
the directory's domain labels. The suffix comes from the directory the walk ends at, which the
code never compares with the group's own `DirectoryRef`; and names are concatenated unescaped,
so the encoding is injective only on names without a comma.

Main results:

* `LDAPDirectory.getDistinguishedName_eq` — `Join(Split(domain, "."), ",dc=")` is the labels
  with `dc=` before each, comma separated.
* `getDistinguishedName_groupChain` — the DN of a group chain, component by component.
* `group_getDistinguishedName_root` — a group's DN ends with `,` and the DN of the directory
  its walk ends at.
* `group_distinguishedName_injective` — for comma-free names, one DN means one name and one
  parent DN.
-/

namespace LdapOperator

open NamedLDAPObject

variable {reader : Store} {scheme : Scheme}

/-! ## The domain suffix -/

/-- `labels` are the `.`-separated labels of `domain` in order, empty ones included. -/
def DomainLabels (domain : String) (labels : List String) : Prop :=
  labels ≠ [] ∧ (∀ l ∈ labels, '.' ∉ l.data) ∧ String.intercalate "." labels = domain

theorem LDAPDirectory.getDistinguishedName_eq {D : LDAPDirectory} {labels : List String}
    (h : DomainLabels D.spec.domain labels) :
    D.getDistinguishedName = String.intercalate "," (labels.map ("dc=" ++ ·)) := by
  obtain ⟨hne, hdot, hdom⟩ := h
  rw [LDAPDirectory.getDistinguishedName, ← hdom, Strings.join_eq_intercalate,
    show ("." : String) = ⟨['.']⟩ from rfl, Strings.split_join hne hdot,
    show (",dc=" : String) = "," ++ "dc=" from rfl]
  exact Strings.prefix_join "dc=" hne

/-! ## Group chains -/

/-- `gs` is a `ParentRef` chain of groups ending at the directory `D`: each group's `ParentRef`
resolves to the next group, and the last group's `ParentRef` resolves to `D`, or it has no
`ParentRef` and its `DirectoryRef` resolves to `D`. -/
def GroupChainTo (reader : Store) (scheme : Scheme) (D : LDAPDirectory) : List LDAPGroup → Prop
  | [] => False
  | [g] =>
    (∃ ref, g.spec.ldapObjectSpec.parentRef = some ref ∧
      ref.resolve reader scheme = .resolved (.named (.directory D))) ∨
    (g.spec.ldapObjectSpec.parentRef = none ∧
      g.spec.ldapObjectSpec.directoryRef.resolve reader scheme = .resolved (.named (.directory D)))
  | g :: g' :: gs =>
    (∃ ref, g.spec.ldapObjectSpec.parentRef = some ref ∧
      ref.resolve reader scheme = .resolved (.named (.group g'))) ∧
    GroupChainTo reader scheme D (g' :: gs)

/-- The DN of the groups `gs` (most specific first) under a directory whose domain has the
labels `labels`, as `LDAPGroup.GetDistinguishedName` and `LDAPDirectory.GetDistinguishedName`
build it: `cn=` before each group name, then `dc=` before each label, all comma separated. -/
def chainDN (gs : List LDAPGroup) (labels : List String) : String :=
  String.intercalate "," (gs.map (fun g => "cn=" ++ g.spec.name) ++ labels.map ("dc=" ++ ·))

theorem chainDN_cons {labels : List String} (hl : labels ≠ []) (g : LDAPGroup)
    (gs : List LDAPGroup) : chainDN (g :: gs) labels = "cn=" ++ g.spec.name ++ "," ++ chainDN gs labels :=
  Strings.intercalate_cons (by simp [hl])

/-- Along a chain of groups `g :: gs` ending at `D`, `GetDistinguishedName` of `g` returns, once
it has one resolution per group, the chain's `cn=` components and then the `dc=` components of
`D`'s domain labels. -/
theorem getDistinguishedName_groupChain {D : LDAPDirectory} {labels : List String}
    (hl : DomainLabels D.spec.domain labels) :
    ∀ {gs : List LDAPGroup} {g : LDAPGroup}, GroupChainTo reader scheme D (g :: gs) →
      ∀ {n : Nat}, gs.length + 1 ≤ n →
        getDistinguishedName reader scheme n (.group g) = some (.ok (chainDN (g :: gs) labels)) := by
  intro gs
  induction gs with
  | nil =>
    intro g hchain n hn
    obtain ⟨m, rfl⟩ : ∃ m, n = m + 1 := ⟨n - 1, by omega⟩
    have hnext : (group g).next reader scheme = some (.directory D) := by
      rw [next_eq (group_ldapObject? g)]
      rcases hchain with ⟨ref, href, hr⟩ | ⟨href, hr⟩
      · exact LDAPObjectSpec.next_of_parentRef href hr
      · exact LDAPObjectSpec.next_of_directoryRef href hr
    rw [getDistinguishedName_succ_of_next (group_ldapObject? g) hnext, getDistinguishedName_directory,
      chainDN_cons hl.1, LDAPDirectory.getDistinguishedName_eq hl]
    rfl
  | cons g' gs ih =>
    intro g hchain n hn
    obtain ⟨m, rfl⟩ : ∃ m, n = m + 1 := ⟨n - 1, by omega⟩
    obtain ⟨⟨ref, href, hr⟩, hrest⟩ := hchain
    have hnext : (group g).next reader scheme = some (.group g') := by
      rw [next_eq (group_ldapObject? g)]
      exact LDAPObjectSpec.next_of_parentRef href hr
    rw [getDistinguishedName_succ_of_next (group_ldapObject? g) hnext, ih hrest (by simp at hn; omega),
      chainDN_cons hl.1 g]
    rfl

/-- The directory `example` for `example.com`. -/
def exampleDirectory : LDAPDirectory := directoryFor "example" "example.com"

/-- The group `b` at the top of `example`. -/
def groupB : LDAPGroup := groupFor "b" "b" "example" none

/-- The group `a` under the group `b`. -/
def groupA : LDAPGroup := groupFor "nested" "a" "example" (some ⟨"LDAPGroup", "b"⟩)

/-- A group named `a,cn=b` at the top of `example`. -/
def groupCommaA : LDAPGroup := groupFor "top" "a,cn=b" "example" none

/-- The directory `example` with the groups `b`, `a` under `b`, and `a,cn=b`. -/
def exampleGroupStore : Store where
  objects := [.named (.directory exampleDirectory), .named (.group groupB),
    .named (.group groupA), .named (.group groupCommaA)]
  keys_nodup := by decide

theorem groupA_getDistinguishedName_chain :
    DomainLabels exampleDirectory.spec.domain ["example", "com"] ∧
    GroupChainTo exampleGroupStore operatorScheme exampleDirectory [groupA, groupB] ∧
    getDistinguishedName exampleGroupStore operatorScheme 2 (.group groupA) =
      some (.ok (chainDN [groupA, groupB] ["example", "com"])) :=
  have hl : DomainLabels exampleDirectory.spec.domain ["example", "com"] :=
    ⟨by decide, by decide, by decide⟩
  have hc : GroupChainTo exampleGroupStore operatorScheme exampleDirectory [groupA, groupB] := by
    unfold GroupChainTo
    exact ⟨⟨_, rfl, by decide⟩, .inr ⟨rfl, by decide⟩⟩
  ⟨hl, hc, getDistinguishedName_groupChain hl hc (le_refl 2)⟩

/-! ## The suffix -/

/-- A DN a directory object gets is a prefix, a comma, and the DN of the directory its walk
ends at. -/
theorem getDistinguishedName_root {o : NamedLDAPObject} {x : String × LDAPObjectSpec}
    (ho : o.ldapObject? = some x) {n : Nat} {d : String}
    (h : getDistinguishedName reader scheme n o = some (.ok d)) :
    ∃ k D pre, walk reader scheme o (k + 1) = some (.directory D) ∧
      d = pre ++ "," ++ D.getDistinguishedName := by
  induction n generalizing o x d with
  | zero => rw [getDistinguishedName_zero ho] at h; cases h
  | succ n ih =>
    obtain ⟨m, p, pd, hm, hp, hpd, rfl⟩ := getDistinguishedName_eq_ok ho h
    cases hm
    cases hy : p.ldapObject? with
    | none =>
      cases p with
      | directory D =>
        simp only [getDistinguishedName_directory, Option.some.injEq, Except.ok.injEq] at hpd
        exact ⟨0, D, x.1, by simp [walk, hp], by rw [hpd]⟩
      | _ => cases hy
    | some y =>
      obtain ⟨k, D, pre, hk, rfl⟩ := ih hy hpd
      refine ⟨k + 1, D, x.1 ++ "," ++ pre, ?_, by simp [String.append_assoc]⟩
      rw [walk, hp, Option.some_bind]
      exact hk

/-- The DN of a group ends with a comma and the DN of the directory at the end of its parent
walk. That directory is the one the group's `DirectoryRef` names when the group has no
`ParentRef`; otherwise the code never compares the two. -/
theorem group_getDistinguishedName_root {g : LDAPGroup} {n : Nat} {d : String}
    (h : getDistinguishedName reader scheme n (.group g) = some (.ok d)) :
    (∃ k D pre, walk reader scheme (.group g) (k + 1) = some (.directory D) ∧
      d = pre ++ "," ++ D.getDistinguishedName) ∧
    (g.spec.ldapObjectSpec.parentRef = none → ∃ D,
      g.spec.ldapObjectSpec.directoryRef.resolve reader scheme = .resolved (.named (.directory D)) ∧
      d = "cn=" ++ g.spec.name ++ "," ++ D.getDistinguishedName) := by
  refine ⟨getDistinguishedName_root (group_ldapObject? g) h, fun hpr => ?_⟩
  obtain ⟨m, p, pd, -, hp, hpd, rfl⟩ := getDistinguishedName_eq_ok (group_ldapObject? g) h
  rw [next_eq (group_ldapObject? g)] at hp
  simp only [LDAPObjectSpec.next, hpr] at hp
  split at hp
  · rename_i obj hr
    cases hp
    obtain ⟨D, hD⟩ := LDAPDirectoryReference.resolve_directory hr
    cases hD
    simp only [getDistinguishedName_directory, Option.some.injEq, Except.ok.injEq] at hpd
    exact ⟨D, hr, by rw [hpd]⟩
  · cases hp

theorem groupA_getDistinguishedName_root :
    getDistinguishedName exampleGroupStore operatorScheme 2 (.group groupA) =
      some (.ok "cn=a,cn=b,dc=example,dc=com") ∧
    (∃ k D pre, walk exampleGroupStore operatorScheme (.group groupA) (k + 1) =
        some (.directory D) ∧ "cn=a,cn=b,dc=example,dc=com" = pre ++ "," ++ D.getDistinguishedName) ∧
    (groupA.spec.ldapObjectSpec.parentRef = none → ∃ D,
      groupA.spec.ldapObjectSpec.directoryRef.resolve exampleGroupStore operatorScheme =
        .resolved (.named (.directory D)) ∧
      "cn=a,cn=b,dc=example,dc=com" = "cn=" ++ groupA.spec.name ++ "," ++ D.getDistinguishedName) :=
  have h : getDistinguishedName exampleGroupStore operatorScheme 2 (.group groupA) =
      some (.ok "cn=a,cn=b,dc=example,dc=com") := by decide
  ⟨h, group_getDistinguishedName_root h⟩

/-- Two directories, and a group of `one` whose parent is a group of `two`. -/
def crossDirectoryStore : Store where
  objects := [.named (.directory (directoryFor "one" "one.example")),
    .named (.directory (directoryFor "two" "two.example")),
    .named (.group (groupFor "parent" "parent" "two" none)),
    .named (.group (groupFor "child" "child" "one" (some ⟨"LDAPGroup", "parent"⟩)))]
  keys_nodup := by decide

/-- The group `child` names the directory `one`, yet its DN ends with the suffix of `two`. -/
theorem crossDirectory_suffix_mismatch :
    getDistinguishedName crossDirectoryStore operatorScheme 2
        (.group (groupFor "child" "child" "one" (some ⟨"LDAPGroup", "parent"⟩))) =
      some (.ok "cn=child,cn=parent,dc=two,dc=example") ∧
    (directoryFor "one" "one.example").getDistinguishedName = "dc=one,dc=example" ∧
    ∀ pre, "cn=child,cn=parent,dc=two,dc=example" ≠ pre ++ "dc=one,dc=example" := by
  refine ⟨by decide, by decide, fun pre h => ?_⟩
  have hsuffix : "dc=one,dc=example".data <:+ "cn=child,cn=parent,dc=two,dc=example".data :=
    ⟨pre.data, by rw [h]; rfl⟩
  exact absurd hsuffix (by decide)

/-! ## Injectivity -/

/-- For group names without a comma, one DN means one name and, below it, one parent DN: the
first comma of the DN ends the group's own component. -/
theorem group_distinguishedName_injective {g₁ g₂ : LDAPGroup} {d : String}
    (h₁ : ReturnsDN reader scheme (.group g₁) d) (h₂ : ReturnsDN reader scheme (.group g₂) d)
    (hc₁ : ',' ∉ g₁.spec.name.data) (hc₂ : ',' ∉ g₂.spec.name.data) :
    g₁.spec.name = g₂.spec.name ∧ ∃ p₁ p₂ pd, (group g₁).next reader scheme = some p₁ ∧
      (group g₂).next reader scheme = some p₂ ∧
      ReturnsDN reader scheme p₁ pd ∧ ReturnsDN reader scheme p₂ pd := by
  obtain ⟨n₁, h₁⟩ := h₁
  obtain ⟨n₂, h₂⟩ := h₂
  obtain ⟨m₁, p₁, pd₁, -, hp₁, hpd₁, rfl⟩ := getDistinguishedName_eq_ok (group_ldapObject? g₁) h₁
  obtain ⟨m₂, p₂, pd₂, -, hp₂, hpd₂, hd⟩ := getDistinguishedName_eq_ok (group_ldapObject? g₂) h₂
  have hrdn : ∀ name : String, ',' ∉ name.data → ',' ∉ ("cn=" ++ name).data := fun name h => by
    simp only [String.data_append, List.mem_append, not_or]
    exact ⟨by decide, h⟩
  obtain ⟨hname, rfl⟩ := Strings.append_sep_inj ',' (hrdn _ hc₁) (hrdn _ hc₂) hd
  refine ⟨?_, p₁, p₂, pd₁, hp₁, hp₂, ⟨m₁, hpd₁⟩, ⟨m₂, hpd₂⟩⟩
  exact String.ext (by simpa using congrArg String.data hname)

theorem groupA_distinguishedName_injective :
    ReturnsDN exampleGroupStore operatorScheme (.group groupA) "cn=a,cn=b,dc=example,dc=com" ∧
    ',' ∉ groupA.spec.name.data ∧
    groupA.spec.name = groupA.spec.name ∧ ∃ p₁ p₂ pd,
      (group groupA).next exampleGroupStore operatorScheme = some p₁ ∧
      (group groupA).next exampleGroupStore operatorScheme = some p₂ ∧
      ReturnsDN exampleGroupStore operatorScheme p₁ pd ∧
      ReturnsDN exampleGroupStore operatorScheme p₂ pd :=
  have h : ReturnsDN exampleGroupStore operatorScheme (.group groupA) "cn=a,cn=b,dc=example,dc=com" :=
    ⟨2, by decide⟩
  have hc : ',' ∉ groupA.spec.name.data := by decide
  ⟨h, hc, group_distinguishedName_injective h h hc hc⟩

/-- The groups `a,cn=b` and `a` under `b` have different names and different parent DNs, and
the same DN. -/
theorem commaName_distinguishedName_collision :
    getDistinguishedName exampleGroupStore operatorScheme 1 (.group groupCommaA) =
      some (.ok "cn=a,cn=b,dc=example,dc=com") ∧
    getDistinguishedName exampleGroupStore operatorScheme 2 (.group groupA) =
      some (.ok "cn=a,cn=b,dc=example,dc=com") ∧
    groupCommaA.spec.name ≠ groupA.spec.name ∧
    exampleDirectory.getDistinguishedName ≠ "cn=b," ++ exampleDirectory.getDistinguishedName := by
  decide

/-! ## The resolver and the DN computer -/

/-- When `ResolveReferences` reports the references of `g` resolved, `GetDistinguishedName` of
`g` cannot fail on them, save that the parent may not be a `NamedLDAPObject`: its result is
`cn=<Name>,` before whatever the next object's call returns, which may still be an error from
further up the chain or no result at all. Without a `ParentRef` it is a DN. -/
theorem getDistinguishedName_of_resolveReferences {g : LDAPGroup}
    (h : g.resolveReferences reader scheme = .ok true) (n : Nat) :
    ((∃ p, (group g).next reader scheme = some p ∧
        getDistinguishedName reader scheme (n + 1) (.group g) =
          (getDistinguishedName reader scheme n p).map
            fun r => r.map fun parentDN => "cn=" ++ g.spec.name ++ "," ++ parentDN) ∨
      getDistinguishedName reader scheme (n + 1) (.group g) =
        some (.error "parent is not a named ldap object")) ∧
    (g.spec.ldapObjectSpec.parentRef = none → ∃ D : LDAPDirectory,
      getDistinguishedName reader scheme (n + 1) (.group g) =
        some (.ok ("cn=" ++ g.spec.name ++ "," ++ D.getDistinguishedName))) := by
  have hnext : ∀ p, (group g).next reader scheme = some p →
      getDistinguishedName reader scheme (n + 1) (.group g) =
        (getDistinguishedName reader scheme n p).map
          fun r => r.map fun parentDN => "cn=" ++ g.spec.name ++ "," ++ parentDN :=
    fun p hp => getDistinguishedName_succ_of_next (group_ldapObject? g) hp n
  unfold LDAPGroup.resolveReferences at h
  cases hd : g.spec.ldapObjectSpec.directoryRef.resolve reader scheme with
  | unresolved => simp [hd] at h
  | failed e => simp [hd] at h
  | resolved obj =>
    cases hpr : g.spec.ldapObjectSpec.parentRef with
    | none =>
      obtain ⟨D, rfl⟩ := LDAPDirectoryReference.resolve_directory hd
      have hp : (group g).next reader scheme = some (.directory D) := by
        rw [next_eq (group_ldapObject? g)]
        exact LDAPObjectSpec.next_of_directoryRef hpr hd
      exact ⟨.inl ⟨_, hp, hnext _ hp⟩, fun _ => ⟨D, by rw [hnext _ hp, getDistinguishedName_directory]; rfl⟩⟩
    | some ref =>
      refine ⟨?_, fun h => nomatch h⟩
      simp only [hd, hpr] at h
      cases hr : ref.resolve reader scheme with
      | unresolved => simp [hr] at h
      | failed e => simp [hr] at h
      | resolved obj' =>
        cases obj' with
        | named p =>
          have hp : (group g).next reader scheme = some p := by
            rw [next_eq (group_ldapObject? g)]
            exact LDAPObjectSpec.next_of_parentRef hpr hr
          exact .inl ⟨p, hp, hnext p hp⟩
        | other k nm =>
          refine .inr ?_
          rw [getDistinguishedName_succ (group_ldapObject? g)]
          simp [LDAPObjectSpec.getDistinguishedName, hpr, hr]

theorem groupA_getDistinguishedName_of_resolveReferences :
    groupA.resolveReferences exampleGroupStore operatorScheme = .ok true ∧
    ((∃ p, (group groupA).next exampleGroupStore operatorScheme = some p ∧
        getDistinguishedName exampleGroupStore operatorScheme 2 (.group groupA) =
          (getDistinguishedName exampleGroupStore operatorScheme 1 p).map
            fun r => r.map fun parentDN => "cn=" ++ groupA.spec.name ++ "," ++ parentDN) ∨
      getDistinguishedName exampleGroupStore operatorScheme 2 (.group groupA) =
        some (.error "parent is not a named ldap object")) ∧
    (groupA.spec.ldapObjectSpec.parentRef = none → ∃ D : LDAPDirectory,
      getDistinguishedName exampleGroupStore operatorScheme 2 (.group groupA) =
        some (.ok ("cn=" ++ groupA.spec.name ++ "," ++ D.getDistinguishedName))) :=
  have h : groupA.resolveReferences exampleGroupStore operatorScheme = .ok true := by decide
  ⟨h, getDistinguishedName_of_resolveReferences h 1⟩

/-- The group `child` under `parent`, whose own `ParentRef` names a group that does not exist. -/
def missingGrandparentStore : Store where
  objects := [.named (.directory exampleDirectory),
    .named (.group (groupFor "parent" "parent" "example" (some ⟨"LDAPGroup", "missing"⟩))),
    .named (.group (groupFor "child" "child" "example" (some ⟨"LDAPGroup", "parent"⟩)))]
  keys_nodup := by decide

/-- `ResolveReferences` reports `child` resolved, and `GetDistinguishedName` of `child` fails
with "referenced parent not found", whatever the fuel. -/
theorem missingGrandparent_resolved_without_dn :
    (groupFor "child" "child" "example" (some ⟨"LDAPGroup", "parent"⟩)).resolveReferences
        missingGrandparentStore operatorScheme = .ok true ∧
    ∀ n, getDistinguishedName missingGrandparentStore operatorScheme (n + 2)
        (.group (groupFor "child" "child" "example" (some ⟨"LDAPGroup", "parent"⟩))) =
      some (.error "referenced parent not found") :=
  have h₂ : getDistinguishedName missingGrandparentStore operatorScheme 2
      (.group (groupFor "child" "child" "example" (some ⟨"LDAPGroup", "parent"⟩))) =
      some (.error "referenced parent not found") := by decide
  ⟨by decide, fun n => getDistinguishedName_mono (Nat.le_add_left 2 n) h₂⟩

end LdapOperator

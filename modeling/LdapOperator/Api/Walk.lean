import LdapOperator.Api.DistinguishedName
import Mathlib.Data.Finset.Card

/-!
# LDAP operator — the parent walk of `GetDistinguishedName`

`GetDistinguishedName` of a directory object asks for the DN of one other object, which asks for
the DN of one other object, and so on: `walk o k` is the object asked for after `k` levels. The
walk stops at a directory, or at a level whose reference does not lead to a named object. The
Go recursion keeps no visited set, so the walk can go round a cycle of `ParentRef`s for ever.

Every object the walk reaches was read from the store, so a walk of more steps than the store
has objects repeats one (pigeonhole), after which it is periodic and never stops. Hence the
call returns within `|store|` reference resolutions or never returns at all, and it never
returns exactly when the parent chain revisits an object.

Main results:

* `getDistinguishedName_eq_none_iff` — the call has not returned after `n` resolutions iff the
  walk is at a directory object after `n` steps.
* `revisits_of_walk_isSome` — a walk of `|store|` steps from a stored object revisits one.
* `getDistinguishedName_eq_none_of_revisits` — a walk that revisits an object never returns.
* `getDistinguishedName_returns_or_cycles` — the dichotomy.
-/

namespace LdapOperator.NamedLDAPObject

variable {reader : Store} {scheme : Scheme}

/-- The object `GetDistinguishedName` of `o` asks for after `k` levels, if it gets that far. -/
def walk (reader : Store) (scheme : Scheme) (o : NamedLDAPObject) : Nat → Option NamedLDAPObject
  | 0 => some o
  | k + 1 => (o.next reader scheme).bind fun p => walk reader scheme p k

/-- The walk from `o` meets one object twice. -/
def ChainRevisits (reader : Store) (scheme : Scheme) (o : NamedLDAPObject) : Prop :=
  ∃ i j, i < j ∧ (walk reader scheme o i).isSome ∧ walk reader scheme o i = walk reader scheme o j

/-! ## The walk -/

theorem walk_add (o : NamedLDAPObject) (i j : Nat) :
    walk reader scheme o (i + j) = (walk reader scheme o i).bind fun p => walk reader scheme p j := by
  induction i generalizing o with
  | zero => simp [walk]
  | succ i ih =>
    rw [Nat.add_right_comm, walk, walk]
    cases o.next reader scheme <;> simp [ih]

theorem walk_isSome_of_le {o : NamedLDAPObject} {i j : Nat} (hij : i ≤ j)
    (h : (walk reader scheme o j).isSome) : (walk reader scheme o i).isSome := by
  obtain ⟨d, rfl⟩ := Nat.exists_eq_add_of_le hij
  rw [walk_add] at h
  cases hw : walk reader scheme o i <;> simp_all

/-- A walk that takes one more step stands at a directory object. -/
theorem walk_ldapObject {o q : NamedLDAPObject} {k : Nat} (hq : walk reader scheme o k = some q)
    (h : (walk reader scheme o (k + 1)).isSome) : q.ldapObject?.isSome := by
  rw [walk_add, hq] at h
  cases q <;> simp_all [walk, ldapObject?]

theorem next_mem {o p : NamedLDAPObject} (h : o.next reader scheme = some p) :
    Object.named p ∈ reader.objects := by
  cases hx : o.ldapObject? with
  | none => simp [next, hx] at h
  | some x => exact LDAPObjectSpec.next_mem (next_eq hx ▸ h)

theorem walk_mem {o q : NamedLDAPObject} (ho : Object.named o ∈ reader.objects) :
    ∀ {k}, walk reader scheme o k = some q → Object.named q ∈ reader.objects
  | 0, h => by cases h; exact ho
  | k + 1, h => by
    simp only [walk, Option.bind_eq_some] at h
    obtain ⟨p, hp, hq⟩ := h
    exact walk_mem (next_mem hp) hq

/-! ## Returning and the walk -/

/-- The call has not returned after `n` resolutions iff the walk stands at a directory object
after `n` steps. -/
theorem getDistinguishedName_eq_none_iff {n : Nat} {o : NamedLDAPObject} :
    getDistinguishedName reader scheme n o = none ↔
      ∃ q, walk reader scheme o n = some q ∧ q.ldapObject?.isSome := by
  induction n generalizing o with
  | zero => cases o <;> simp [walk, ldapObject?, getDistinguishedName]
  | succ n ih =>
    cases hx : o.ldapObject? with
    | none => cases o <;> simp_all [walk, ldapObject?]
    | some x =>
      obtain ⟨rdn, spec⟩ := x
      cases hp : o.next reader scheme with
      | none =>
        obtain ⟨e, he⟩ := getDistinguishedName_succ_of_next_none hx hp n
        simp [he, walk, hp]
      | some p =>
        rw [getDistinguishedName_succ_of_next hx hp, Option.map_eq_none', ih]
        simp [walk, hp]

/-- A walk that goes on for ever keeps the call from returning, with any fuel. -/
theorem getDistinguishedName_eq_none_of_walk {o : NamedLDAPObject}
    (h : ∀ k, (walk reader scheme o k).isSome) (n : Nat) :
    getDistinguishedName reader scheme n o = none := by
  obtain ⟨q, hq⟩ := Option.isSome_iff_exists.mp (h n)
  exact getDistinguishedName_eq_none_iff.mpr ⟨q, hq, walk_ldapObject hq (h (n + 1))⟩

/-- After a repeat the walk is periodic, so it never stops. -/
theorem walk_isSome_of_revisits {o : NamedLDAPObject} (h : ChainRevisits reader scheme o) :
    ∀ k, (walk reader scheme o k).isSome := by
  obtain ⟨i, j, hij, hi, heq⟩ := h
  have hper : ∀ m, walk reader scheme o (i + m) = walk reader scheme o (j + m) := fun m => by
    rw [walk_add, walk_add, heq]
  intro k
  induction k using Nat.strong_induction_on with
  | _ k ih =>
    rcases Nat.lt_or_ge j k with hjk | hkj
    · obtain ⟨m, rfl⟩ := Nat.exists_eq_add_of_lt hjk
      rw [show j + m + 1 = j + (m + 1) by omega, ← hper]
      exact ih _ (by omega)
    · exact walk_isSome_of_le hkj (heq ▸ hi)

theorem getDistinguishedName_eq_none_of_revisits {o : NamedLDAPObject}
    (h : ChainRevisits reader scheme o) (n : Nat) : getDistinguishedName reader scheme n o = none :=
  getDistinguishedName_eq_none_of_walk (walk_isSome_of_revisits h) n

/-- Pigeonhole: a walk of `|store|` steps from a stored object meets some object twice. -/
theorem revisits_of_walk_isSome {o : NamedLDAPObject} (ho : Object.named o ∈ reader.objects)
    (h : (walk reader scheme o reader.objects.length).isSome) : ChainRevisits reader scheme o := by
  let f : Nat → Object := fun k => ((walk reader scheme o k).map Object.named).getD (.named o)
  have hsome : ∀ k ∈ Finset.range (reader.objects.length + 1), (walk reader scheme o k).isSome :=
    fun k hk => walk_isSome_of_le (Nat.lt_succ_iff.mp (Finset.mem_range.mp hk)) h
  have hf : ∀ k ∈ Finset.range (reader.objects.length + 1), f k ∈ reader.objects.toFinset := by
    intro k hk
    obtain ⟨q, hq⟩ := Option.isSome_iff_exists.mp (hsome k hk)
    simpa [f, hq] using walk_mem ho hq
  have hcard : reader.objects.toFinset.card < (Finset.range (reader.objects.length + 1)).card := by
    rw [Finset.card_range]
    exact Nat.lt_succ_of_le (List.toFinset_card_le _)
  obtain ⟨x, hx, y, hy, hxy, hfxy⟩ := Finset.exists_ne_map_eq_of_card_lt_of_maps_to hcard hf
  obtain ⟨qx, hqx⟩ := Option.isSome_iff_exists.mp (hsome x hx)
  obtain ⟨qy, hqy⟩ := Option.isSome_iff_exists.mp (hsome y hy)
  have hq : walk reader scheme o x = walk reader scheme o y := by
    simp only [f, hqx, hqy, Option.map_some', Option.getD_some, Object.named.injEq] at hfxy
    rw [hqx, hqy, hfxy]
  rcases Nat.lt_or_gt_of_ne hxy with hlt | hlt
  · exact ⟨x, y, hlt, hsome x hx, hq⟩
  · exact ⟨y, x, hlt, hsome y hy, hq.symm⟩

/-- `GetDistinguishedName` of a stored object returns (a DN or an error) within `|store|`
reference resolutions unless its parent chain revisits an object, and it never returns exactly
when the chain does: there is no visited set, so a cycle recurses without end instead of
failing with a "cyclic reference" error. -/
theorem getDistinguishedName_returns_or_cycles {o : NamedLDAPObject}
    (ho : Object.named o ∈ reader.objects) :
    ((getDistinguishedName reader scheme reader.objects.length o).isSome ↔
        ¬ ChainRevisits reader scheme o) ∧
      ((∀ n, getDistinguishedName reader scheme n o = none) ↔ ChainRevisits reader scheme o) := by
  have hret : (getDistinguishedName reader scheme reader.objects.length o).isSome ∨
      ChainRevisits reader scheme o := by
    rcases hdn : getDistinguishedName reader scheme reader.objects.length o with _ | r
    · obtain ⟨q, hq, -⟩ := getDistinguishedName_eq_none_iff.mp hdn
      exact .inr (revisits_of_walk_isSome ho (by simp [hq]))
    · exact .inl rfl
  refine ⟨⟨fun h hc => ?_, fun h => hret.resolve_right h⟩,
    ⟨fun h => hret.resolve_left (by simp [h]), getDistinguishedName_eq_none_of_revisits⟩⟩
  simp [getDistinguishedName_eq_none_of_revisits hc] at h

end LdapOperator.NamedLDAPObject

namespace LdapOperator

open NamedLDAPObject

/-- An `LDAPGroup` object `name` with common name `cn` in the directory `directory`, with
`ParentRef` `parentRef`. -/
def groupFor (name cn directory : String) (parentRef : Option LDAPObjectReference) : LDAPGroup where
  metadata := ⟨name, 1, none, [], []⟩
  spec := ⟨⟨⟨directory⟩, parentRef⟩, cn⟩

/-- The group `loop` names itself as its parent. -/
def selfParentStore : Store where
  objects := [.named (.directory (directoryFor "example" "example.com")),
    .named (.group (groupFor "loop" "loop" "example" (some ⟨"LDAPGroup", "loop"⟩)))]
  keys_nodup := by decide

/-- A group whose `ParentRef` names itself never gets a DN or an error, with any fuel: the
recursion has no "cyclic reference" exit. -/
theorem selfParent_getDistinguishedName_never_returns :
    (fun n => getDistinguishedName selfParentStore operatorScheme n
      (.group (groupFor "loop" "loop" "example" (some ⟨"LDAPGroup", "loop"⟩)))) = fun _ => none :=
  funext (getDistinguishedName_eq_none_of_revisits ⟨0, 1, by decide, rfl, by decide⟩)

theorem selfParent_returns_or_cycles :
    Object.named (.group (groupFor "loop" "loop" "example" (some ⟨"LDAPGroup", "loop"⟩))) ∈
      selfParentStore.objects ∧
    ((getDistinguishedName selfParentStore operatorScheme selfParentStore.objects.length
        (.group (groupFor "loop" "loop" "example" (some ⟨"LDAPGroup", "loop"⟩)))).isSome ↔
      ¬ ChainRevisits selfParentStore operatorScheme
        (.group (groupFor "loop" "loop" "example" (some ⟨"LDAPGroup", "loop"⟩)))) ∧
    ((∀ n, getDistinguishedName selfParentStore operatorScheme n
        (.group (groupFor "loop" "loop" "example" (some ⟨"LDAPGroup", "loop"⟩))) = none) ↔
      ChainRevisits selfParentStore operatorScheme
        (.group (groupFor "loop" "loop" "example" (some ⟨"LDAPGroup", "loop"⟩)))) :=
  have h : Object.named (.group (groupFor "loop" "loop" "example" (some ⟨"LDAPGroup", "loop"⟩))) ∈
      selfParentStore.objects := by decide
  ⟨h, getDistinguishedName_returns_or_cycles h⟩

end LdapOperator

import LdapOperator.Api.Types
import Mathlib.Data.List.Nodup

/-!
# LDAP operator — directory status and its conditions

`meta.SetStatusCondition` and the three status writes of `LDAPDirectoryReconciler`:
`markPending`, `markReady` and `markFailed` each record the directory's generation, set the
phase, and set the condition named like the phase to `True`. `SetStatusCondition` touches only
the condition of the type it is given, and no mark resets the other two, so a condition set by
an earlier mark stays `True` after a later mark of another kind.

Main results:

* `map_type_setStatusCondition` / `mem_setStatusCondition` / `exists_setStatusCondition` — what
  `SetStatusCondition` does to the list: one condition of the new type, carrying its content;
  the others kept.
* `ConditionsInv.mark` — one mark keeps the invariant of `ConditionsInv`.
* `markReachable_conditions` — in every status the marks reach from an empty one, the
  condition named by the phase is `True` and the `True` conditions are exactly the marked ones.
-/

namespace LdapOperator

/-- `LDAPDirectoryPhasePending`. -/
def LDAPDirectoryPhase.pending : String := "Pending"
/-- `LDAPDirectoryPhaseReady`. -/
def LDAPDirectoryPhase.ready : String := "Ready"
/-- `LDAPDirectoryPhaseFailed`. -/
def LDAPDirectoryPhase.failed : String := "Failed"
/-- `LDAPDirectoryConditionTypePending`. -/
def LDAPDirectoryConditionType.pending : String := "Pending"
/-- `LDAPDirectoryConditionTypeReady`. -/
def LDAPDirectoryConditionType.ready : String := "Ready"
/-- `LDAPDirectoryConditionTypeFailed`. -/
def LDAPDirectoryConditionType.failed : String := "Failed"

/-- `metav1.ConditionTrue`. -/
def conditionTrue : String := "True"

/-! ## `SetStatusCondition` -/

/-- The update `SetStatusCondition` makes to the existing condition of the new condition's type:
a changed status gets a transition time (the new condition's, or `now` when that is zero);
reason, message and observed generation are always copied. -/
def Condition.setFrom (now : Nat) (existing newCondition : Condition) : Condition :=
  let transitioned :=
    if existing.status = newCondition.status then existing
    else { existing with
      status := newCondition.status
      lastTransitionTime :=
        if newCondition.lastTransitionTime = 0 then now else newCondition.lastTransitionTime }
  { transitioned with
    reason := newCondition.reason
    message := newCondition.message
    observedGeneration := newCondition.observedGeneration }

/-- `meta.SetStatusCondition`: update the first condition of the new condition's type, or append
the new condition, stamped `now` when its transition time is zero. -/
def setStatusCondition (now : Nat) : List Condition → Condition → List Condition
  | [], newCondition =>
    [if newCondition.lastTransitionTime = 0 then { newCondition with lastTransitionTime := now }
      else newCondition]
  | c :: cs, newCondition =>
    if c.type = newCondition.type then c.setFrom now newCondition :: cs
    else c :: setStatusCondition now cs newCondition

/-- `c` carries the content of `newCondition`: its type, status, generation, reason, message. -/
def Condition.Carries (c newCondition : Condition) : Prop :=
  c.type = newCondition.type ∧ c.status = newCondition.status ∧
    c.observedGeneration = newCondition.observedGeneration ∧
    c.reason = newCondition.reason ∧ c.message = newCondition.message

theorem Condition.setFrom_carries (now : Nat) {c newCondition : Condition}
    (h : c.type = newCondition.type) : (c.setFrom now newCondition).Carries newCondition := by
  unfold setFrom Carries
  split <;> simp_all

section SetStatusCondition

variable (now : Nat) (newCondition : Condition)

theorem map_type_setStatusCondition (cs : List Condition) :
    (setStatusCondition now cs newCondition).map Condition.type =
      if newCondition.type ∈ cs.map Condition.type then cs.map Condition.type
      else cs.map Condition.type ++ [newCondition.type] := by
  induction cs with
  | nil => simp [setStatusCondition]; split <;> rfl
  | cons c cs ih =>
    by_cases hc : c.type = newCondition.type
    · simp [setStatusCondition, hc, Condition.setFrom_carries now hc |>.1]
    · by_cases hm : newCondition.type ∈ cs.map Condition.type <;>
        simp [setStatusCondition, hc, ih, hm, Ne.symm hc]

theorem mem_setStatusCondition {cs : List Condition} {c : Condition}
    (h : c ∈ setStatusCondition now cs newCondition) : c ∈ cs ∨ c.Carries newCondition := by
  induction cs with
  | nil =>
    simp only [setStatusCondition, List.mem_singleton] at h
    subst h
    split <;> exact .inr ⟨rfl, rfl, rfl, rfl, rfl⟩
  | cons c' cs ih =>
    simp only [setStatusCondition] at h
    split at h
    · rcases List.mem_cons.mp h with rfl | h
      · exact .inr (Condition.setFrom_carries now ‹_›)
      · exact .inl (List.mem_cons_of_mem _ h)
    · rcases List.mem_cons.mp h with rfl | h
      · exact .inl (List.mem_cons_self _ _)
      · exact (ih h).imp_left (List.mem_cons_of_mem _)

theorem exists_setStatusCondition (cs : List Condition) :
    ∃ c ∈ setStatusCondition now cs newCondition, c.Carries newCondition := by
  induction cs with
  | nil => exact ⟨_, List.mem_singleton_self _, by split <;> exact ⟨rfl, rfl, rfl, rfl, rfl⟩⟩
  | cons c' cs ih =>
    simp only [setStatusCondition]
    split
    · exact ⟨_, List.mem_cons_self _ _, Condition.setFrom_carries now ‹_›⟩
    · obtain ⟨c, hc, hcar⟩ := ih
      exact ⟨c, List.mem_cons_of_mem _ hc, hcar⟩

end SetStatusCondition

/-! ## The marks -/

/-- The status `markPending`, `markReady` and `markFailed` write on the directory as the status
update reads it: its generation observed, the phase set, and the condition of type
`conditionType` set to `True` with `reason` and `message`. -/
def markStatus (phase conditionType reason message : String) (directory : LDAPDirectory)
    (now : Nat) : LDAPDirectoryStatus :=
  { directory.status with
    observedGeneration := directory.metadata.generation
    phase := phase
    conditions := setStatusCondition now directory.status.conditions
      { type := conditionType
        status := conditionTrue
        observedGeneration := directory.metadata.generation
        lastTransitionTime := 0
        reason := reason
        message := message } }

/-- The status write of `markPending`. -/
def markPendingStatus (directory : LDAPDirectory) (now : Nat) : LDAPDirectoryStatus :=
  markStatus LDAPDirectoryPhase.pending LDAPDirectoryConditionType.pending "Pending"
    "LDAP directory is pending" directory now

/-- The status write of `markReady`. -/
def markReadyStatus (directory : LDAPDirectory) (now : Nat) : LDAPDirectoryStatus :=
  markStatus LDAPDirectoryPhase.ready LDAPDirectoryConditionType.ready "Ready"
    "LDAP directory is ready" directory now

/-- The status write of `markFailed`, whose message is the error's. -/
def markFailedStatus (err : String) (directory : LDAPDirectory) (now : Nat) : LDAPDirectoryStatus :=
  markStatus LDAPDirectoryPhase.failed LDAPDirectoryConditionType.failed "Failed" err directory now

/-- The three status writes of `Reconcile`. -/
inductive Mark where
  | pending
  | ready
  | failed (err : String)
  deriving Repr, DecidableEq

/-- The status a mark writes. -/
def Mark.status : Mark → LDAPDirectory → Nat → LDAPDirectoryStatus
  | pending => markPendingStatus
  | ready => markReadyStatus
  | failed err => markFailedStatus err

/-- The phase a mark sets. -/
def Mark.phase : Mark → String
  | pending => LDAPDirectoryPhase.pending
  | ready => LDAPDirectoryPhase.ready
  | failed _ => LDAPDirectoryPhase.failed

/-- Every mark is `markStatus` with a condition type equal to the phase it sets. -/
theorem Mark.status_eq (m : Mark) : ∃ reason message, ∀ directory now,
    m.status directory now = markStatus m.phase m.phase reason message directory now := by
  cases m <;> exact ⟨_, _, fun _ _ => rfl⟩

/-! ## Statuses the marks reach -/

/-- The statuses a sequence of marks writes from an empty status, with the phases marked so far,
the latest first. Each mark reads the stored directory: its status is the current one, its
metadata (the generation) is whatever the store holds. -/
inductive MarkReachable : LDAPDirectoryStatus → List String → Prop
  | empty : MarkReachable ⟨"", 0, []⟩ []
  | mark {status : LDAPDirectoryStatus} {phases : List String} (m : Mark)
      (directory : LDAPDirectory) (now : Nat) :
      MarkReachable status phases → directory.status = status →
      MarkReachable (m.status directory now) (m.phase :: phases)

/-- What the marks keep: one condition per type, all `True`, of exactly the marked phases, and
once a mark was made, one of them named by the phase. -/
structure ConditionsInv (status : LDAPDirectoryStatus) (phases : List String) : Prop where
  types_nodup : (status.conditions.map Condition.type).Nodup
  all_true : ∀ c ∈ status.conditions, c.status = conditionTrue
  types_eq : ∀ t, t ∈ status.conditions.map Condition.type ↔ t ∈ phases
  phase_true : phases ≠ [] → ∃ c ∈ status.conditions, c.type = status.phase ∧ c.status = conditionTrue

theorem ConditionsInv.empty : ConditionsInv ⟨"", 0, []⟩ [] :=
  ⟨List.nodup_nil, by simp, by simp, fun h => absurd rfl h⟩

theorem ConditionsInv.mark {status : LDAPDirectoryStatus} {phases : List String}
    (hinv : ConditionsInv status phases) (m : Mark) (directory : LDAPDirectory) (now : Nat)
    (hs : directory.status = status) : ConditionsInv (m.status directory now) (m.phase :: phases) := by
  obtain ⟨reason, message, hm⟩ := m.status_eq
  rw [hm]
  subst hs
  refine ⟨?_, ?_, ?_, fun _ => ?_⟩
  · simp only [markStatus, map_type_setStatusCondition]
    split
    · exact hinv.types_nodup
    · exact hinv.types_nodup.append (List.nodup_singleton _) (List.disjoint_singleton.mpr ‹_›)
  · intro c hc
    rcases mem_setStatusCondition now _ hc with hc | hcar
    · exact hinv.all_true c hc
    · exact hcar.2.1
  · intro t
    simp only [markStatus, map_type_setStatusCondition, List.mem_cons, ← hinv.types_eq t]
    split <;> simp_all [or_comm, eq_comm]
  · obtain ⟨c, hc, hcar⟩ := exists_setStatusCondition now _ directory.status.conditions
    exact ⟨c, hc, hcar.1, hcar.2.1⟩

/-- Before any mark the phase is empty. -/
theorem MarkReachable.phase_of_nil {status : LDAPDirectoryStatus} {phases : List String}
    (h : MarkReachable status phases) (hnil : phases = []) : status.phase = "" := by
  cases h with
  | empty => rfl
  | mark => cases hnil

theorem MarkReachable.conditionsInv {status : LDAPDirectoryStatus} {phases : List String}
    (h : MarkReachable status phases) : ConditionsInv status phases := by
  induction h with
  | empty => exact ConditionsInv.empty
  | mark m directory now _ hs ih => exact ih.mark m directory now hs

/-- In every status that `markPending`, `markReady` and `markFailed` reach from an empty status
by a nonempty sequence, the condition whose type is the phase is `True`; but no mark resets the
others, so the `True` conditions are exactly the phases ever marked, one condition each. -/
theorem markReachable_conditions {status : LDAPDirectoryStatus} {phases : List String}
    (h : MarkReachable status phases) (hne : phases ≠ []) :
    (∃ c ∈ status.conditions, c.type = status.phase ∧ c.status = conditionTrue) ∧
    (∀ t, (∃ c ∈ status.conditions, c.type = t ∧ c.status = conditionTrue) ↔ t ∈ phases) ∧
    (status.conditions.map Condition.type).Nodup := by
  have hinv := h.conditionsInv
  refine ⟨hinv.phase_true hne, fun t => ?_, hinv.types_nodup⟩
  rw [← hinv.types_eq t, List.mem_map]
  exact ⟨fun ⟨c, hc, ht, _⟩ => ⟨c, hc, ht⟩, fun ⟨c, hc, ht⟩ => ⟨c, hc, ht, hinv.all_true c hc⟩⟩

/-- `markReady` and then `markPending` on a fresh directory. -/
def readyThenPendingStatus : LDAPDirectoryStatus :=
  markPendingStatus
    { directoryFor "example" "example.com" with
      status := markReadyStatus (directoryFor "example" "example.com") 1 } 2

theorem readyThenPending_reachable :
    MarkReachable readyThenPendingStatus [LDAPDirectoryPhase.pending, LDAPDirectoryPhase.ready] :=
  .mark .pending _ 2 (.mark .ready _ 1 .empty rfl) rfl

theorem readyThenPending_conditions :
    MarkReachable readyThenPendingStatus [LDAPDirectoryPhase.pending, LDAPDirectoryPhase.ready] ∧
    [LDAPDirectoryPhase.pending, LDAPDirectoryPhase.ready] ≠ [] ∧
    (∃ c ∈ readyThenPendingStatus.conditions,
      c.type = readyThenPendingStatus.phase ∧ c.status = conditionTrue) ∧
    (∀ t, (∃ c ∈ readyThenPendingStatus.conditions, c.type = t ∧ c.status = conditionTrue) ↔
      t ∈ [LDAPDirectoryPhase.pending, LDAPDirectoryPhase.ready]) ∧
    (readyThenPendingStatus.conditions.map Condition.type).Nodup :=
  ⟨readyThenPending_reachable, by decide,
    markReachable_conditions readyThenPending_reachable (by decide)⟩

/-- After `markReady` and then `markPending`, the phase is `Pending` and both the `Ready` and the
`Pending` condition are `True`. -/
theorem readyThenPending_two_true :
    MarkReachable readyThenPendingStatus [LDAPDirectoryPhase.pending, LDAPDirectoryPhase.ready] ∧
    readyThenPendingStatus.phase = "Pending" ∧
    (readyThenPendingStatus.conditions.filter (·.status == conditionTrue)).map Condition.type =
      ["Ready", "Pending"] :=
  ⟨readyThenPending_reachable, by decide, by decide⟩

end LdapOperator

import OpenAssetWatch.Identity.SensorSafe

namespace OpenAssetWatch.Identity

open Library ReadCommitted Discipline

section Exchange

variable {held : Set IdentityKey} {changes : IdentityTables → IdentityTables} {tables : IdentityTables} {call : SensorExchange}
  {enrollmentId credentialId : String} {row : SensorEnrollment} {result : IdentityResult}

theorem safe_completeSensor (keeps : Keeps held changes tables)
    (same : ∀ tables, (changes tables).sensorEnrollments = tables.sensorEnrollments)
    (locked : .sensorEnrollment enrollmentId ∈ held) (stored : tables.sensorEnrollments.get? enrollmentId = some row)
    (pending : row.status = .pending) (silent : Silent result) :
    SafeSession (updateWhere sensorEnrollmentTable (fun id _ => id = enrollmentId) (fun row => { row with status := .used }) fun _ =>
      .write (fun tables => { tables with sensorCompletions := tables.sensorCompletions ++ [⟨enrollmentId, credentialId⟩] })
        (.commit result)) held changes tables := by
  apply safe_updateWhere
  intro snapshot later count goes goesOn
  apply safe_silent _ silent
  intro last goesLast
  have since := goes.trans (goesOn.trans (goesLast.anti held_subset_withRows))
  have now := keeps last since
  have listed : enrollmentId ∈ sensorEnrollmentTable.ids (fun id _ => id = enrollmentId) (changes snapshot) := by
    refine TableOf.mem_ids.mpr ⟨row, ?_, decide_eq_true rfl⟩
    show (changes snapshot).sensorEnrollments.get? enrollmentId = some row
    rw [same, sensorEnrollment_unchanged goes locked]
    exact stored
  have still : (changes last).sensorEnrollments.get? enrollmentId = some row := by
    rw [same, sensorEnrollment_unchanged since locked]
    exact stored
  exact (now.mono held_subset_withRows).trans
    (moves_completeSensor now.consistent (fun id listed => key_mem_withRows listed) listed still pending (decide_eq_true rfl))

theorem safe_storeSensor {active : List (String × SensorCredential)} (consistent : ConsistentTables tables)
    (owner : .agent call.sensorId ∈ held)
    (agrees : ∀ later, Meantime held tables later → ∀ before, later.agents.get? call.sensorId = some before →
      row.siteId = before.siteId ∧ .networkSensor = before.agentType)
    (none : active.isEmpty = true → ∀ later, Meantime held tables later → ∀ other before,
      later.sensorCredentials.get? other = some before → before.sensorId = call.sensorId → before.status ≠ .active)
    (locked : .sensorEnrollment enrollmentId ∈ held) (stored : tables.sensorEnrollments.get? enrollmentId = some row)
    (pending : row.status = .pending) (silent : Silent result) :
    let rest : IdentitySession :=
      updateWhere sensorEnrollmentTable (fun id _ => id = enrollmentId) (fun row => { row with status := .used }) fun _ =>
        .write (fun tables => { tables with
            sensorCompletions := tables.sensorCompletions ++ [⟨enrollmentId, credentialId⟩] }) (.commit result)
    SafeSession (insertSensorCredential call.issued call.sensorId row.siteId call.sensorType call.now <|
        if active.isEmpty then rest else rotateOthers call.sensorId call.issued.credentialId rest) held
      ((agentTable.modify fun rows => rows.update call.sensorId fun _ =>
        { siteId := row.siteId, agentType := .networkSensor, identityStatus := .active }) ∘ id) tables := by
  intro rest
  have keeps : Keeps held ((agentTable.modify fun rows => rows.update call.sensorId fun _ =>
      { siteId := row.siteId, agentType := .networkSensor, identityStatus := .active }) ∘ id) tables :=
    fun later goes => moves_setAgent goes.consistent owner (agrees later goes)
  have present (later : IdentityTables) : ((agentTable.modify fun rows => rows.update call.sensorId fun _ =>
      { siteId := row.siteId, agentType := .networkSensor, identityStatus := .active }) later).agents.get? call.sensorId =
        some { siteId := row.siteId, agentType := .networkSensor, identityStatus := .active } :=
    Dict.get?_update_self _ _ _
  have finish {later : IdentityTables} {more : Set IdentityKey} {changes : IdentityTables → IdentityTables} (keeps : Keeps more changes later)
      (same : ∀ tables, (changes tables).sensorEnrollments = tables.sensorEnrollments) (locked : .sensorEnrollment enrollmentId ∈ more)
      (stored : later.sensorEnrollments.get? enrollmentId = some row) : SafeSession rest more changes later :=
    safe_completeSensor keeps same locked stored pending silent
  apply safe_insertRow consistent
  · intro later keys _
    exact safe_raise fun _ _ => trivial
  · intro later goes fresh
    have own : IdentityKey.sensorCredential call.issued.credentialId ∈
      {key | key ∈ [sensorCredentialTable.key call.issued.credentialId, .sensorToken call.issued.lookupId]} ∪ held :=
        Or.inl List.mem_cons_self
    have kept := (keeps.onward goes).grow (Set.subset_union_right
      (s := {key | key ∈ [sensorCredentialTable.key call.issued.credentialId, .sensorToken call.issued.lookupId]}))
    have enrollment : later.sensorEnrollments.get? enrollmentId = some row := (sensorEnrollment_unchanged goes locked).trans stored
    split
    · rename_i empty
      refine finish ?_ ?_ (Or.inr locked) enrollment
      · intro last goesLast
        have now := kept last goesLast
        have before := goesLast.anti Set.subset_union_right
        refine now.trans (moves_setSensorCredential now.consistent own (Or.inr owner) ?_ (present last) ?_)
        · exact (sensorCredential_unchanged goesLast own).trans fresh
        · exact none empty last (goes.trans before)
      · intro tables
        rfl
    · apply safe_rotateOthers
        { sensorId := call.sensorId, siteId := _, sensorType := _, tokenLookupId := _, credentialDigest := _, status := .active,
          createdAt := call.now } kept (fun _ => rfl) (Or.inr owner) own fresh
      · intro last _
        exact ⟨_, present last⟩
      · intro last more changes grows goesLast keeps same
        apply finish keeps same (grows (Or.inr locked))
        exact (sensorEnrollment_unchanged goesLast (Or.inr locked)).trans enrollment

theorem safe_enrollSensor (locked : .sensorEnrollment enrollmentId ∈ held)
    (stored : tables.sensorEnrollments.get? enrollmentId = some row) (pending : row.status = .pending) :
    SafeSession (enrollSensor call enrollmentId row) held id tables := by
  apply safe_selectForUpdate
  intro first second goesFirst goesSecond
  split
  · exact safe_rejectEnrollment _ _
  · rename_i matching
    generalize chosen : agentTable.selected (fun id _ => id = call.sensorId) (agentTable.ids (fun id _ => id = call.sensorId) (id first))
      (id second) = existing at matching
    have seen {entry : String × AgentRow} (member : entry ∈ existing) : second.agents.get? call.sensorId = some entry.2 ∧
        (row.siteId = entry.2.siteId ∧ .networkSensor = entry.2.agentType) ∧
        IdentityKey.agent call.sensorId ∈ withRows agentTable (agentTable.ids (fun id _ => id = call.sensorId) (id first)) held := by
      have listed := member
      rw [← chosen] at listed
      obtain ⟨here, there, same⟩ := TableOf.mem_selected.mp listed
      have same : entry.1 = call.sensorId := of_decide_eq_true same
      rw [same] at here there
      refine ⟨there, ?_, key_mem_withRows here⟩
      rw [Bool.not_eq_true, List.any_eq_false] at matching
      have checked := matching entry member
      simp only [Bool.or_eq_true, decide_eq_true_eq, not_or, not_not] at checked
      exact ⟨checked.1.symm, checked.2.symm⟩
    apply safe_selectForUpdate
    intro third fourth goesThird goesFourth
    simp only
    apply safe_upsertRow
    intro fifth goesFifth found
    have absent (none : existing = []) : fifth.agents.get? call.sensorId = Option.none := found _ rfl (by rw [none]; rfl)
    have since : Meantime _ second fifth := goesThird.trans (goesFourth.trans (goesFifth.anti held_subset_withRows))
    have enrollment : fifth.sensorEnrollments.get? enrollmentId = some row := by
      rw [sensorEnrollment_unchanged since (held_subset_withRows locked), sensorEnrollment_unchanged (goesFirst.trans goesSecond) locked]
      exact stored
    have still : _ ∈ withRows sensorCredentialTable (sensorCredentialTable.ids (isActiveOf call.sensorId) (id third))
        (withRows agentTable (agentTable.ids (fun id _ => id = call.sensorId) (id first)) _) :=
      held_subset_withRows (held_subset_withRows locked)
    apply safe_storeSensor goesFifth.consistent (Or.inl rfl) _ _ (Or.inr still) enrollment pending
    · exact fun _ _ => trivial
    · intro later goes before there
      cases existing with
      | nil =>
        rw [agent_unchanged goes (Or.inl rfl), absent rfl] at there
        cases there
      | cons entry others =>
        obtain ⟨stored, agrees, owner⟩ := seen List.mem_cons_self
        have whole := since.trans (goes.anti ((Set.subset_insert _ _).trans' held_subset_withRows))
        rw [agent_unchanged whole owner, stored] at there
        cases there
        exact agrees
    · intro empty later goes other before there owned active
      cases existing with
      | nil =>
        obtain ⟨earlier, held, owned', -⟩ := sensor_active_before goes (Or.inl rfl) there owned active
        obtain ⟨agent, stored⟩ := goesFifth.consistent.sensorOwned other earlier held
        have stored : fifth.agents.get? earlier.sensorId = some agent := stored
        rw [owned', absent rfl] at stored
        cases stored
      | cons entry others =>
        obtain ⟨-, -, owner⟩ := seen List.mem_cons_self
        have fromFourth := goesFifth.trans (goes.anti (Set.subset_insert _ _))
        obtain ⟨now, held, ownedNow, activeNow⟩ := sensor_active_before fromFourth (held_subset_withRows owner) there owned active
        obtain ⟨then_, heldThen, ownedThen, activeThen⟩ := sensor_active_before goesFourth owner held ownedNow activeNow
        have listed : other ∈ sensorCredentialTable.ids (isActiveOf call.sensorId) (id third) :=
          TableOf.mem_ids.mpr ⟨then_, heldThen, isActiveOf_iff.mpr ⟨ownedThen, activeThen⟩⟩
        have selected : (other, now) ∈ sensorCredentialTable.selected (isActiveOf call.sensorId)
            (sensorCredentialTable.ids (isActiveOf call.sensorId) (id third)) (id fourth) :=
          TableOf.mem_selected.mpr ⟨listed, held, isActiveOf_iff.mpr ⟨ownedNow, activeNow⟩⟩
        have sorted : (other, now) ∈ sortedDescending (·.2.createdAt) (sensorCredentialTable.selected (isActiveOf call.sensorId)
            (sensorCredentialTable.ids (isActiveOf call.sensorId) (id third)) (id fourth)) := mem_sortedDescending.mpr selected
        rw [List.isEmpty_iff.mp empty] at sorted
        cases sorted

theorem safe_exchangeSensorEnrollment (call : SensorExchange) : SafeSession (exchangeSensorEnrollment call) held id tables := by
  unfold exchangeSensorEnrollment
  split
  · exact safe_silent keeps_id fun _ _ => trivial
  · apply safe_selectForUpdate
    intro first second goesFirst goesSecond
    split
    · exact safe_rejectEnrollment _ _
    · rename_i enrollmentId row others selected
      have chosen : (enrollmentId, row) ∈ sensorEnrollmentTable.selected _ _ _ := selected ▸ List.mem_cons_self
      obtain ⟨listed, stored, -⟩ := TableOf.mem_selected.mp chosen
      simp only
      split
      · exact safe_rejectEnrollment _ _
      · split
        · exact safe_rejectEnrollment _ _
        · split
          · exact safe_rejectEnrollment _ _
          · rename_i pending
            split
            · apply keeps_id.safe_updateWhere
              · intro ids more between locked consistent
                exact moves_updateSensorEnrollments consistent locked fun _ status => by cases status
              · intro _ _ _ _ _
                exact safe_rejectEnrollment _ _
            · split
              · exact safe_rejectEnrollment _ _
              · exact safe_enrollSensor (key_mem_withRows listed) stored (not_not.mp pending)

end Exchange

end OpenAssetWatch.Identity

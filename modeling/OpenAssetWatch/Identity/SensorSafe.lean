import OpenAssetWatch.Identity.Moves

namespace OpenAssetWatch.Identity

open Library ReadCommitted Discipline

abbrev Meantime (held : Set IdentityKey) (tables later : IdentityTables) : Prop := identityRules.Meanwhile held tables later

abbrev SafeSession (session : IdentitySession) (held : Set IdentityKey) (changes : IdentityTables → IdentityTables)
    (tables : IdentityTables) : Prop :=
  identityRules.Safe Undisturbed Outcome session held changes tables

/-- What a transaction has done could be committed, whatever the others do. -/
def Keeps (held : Set IdentityKey) (changes : IdentityTables → IdentityTables) (tables : IdentityTables) : Prop :=
  ∀ later, Meantime held tables later → Moves held later (changes later)

/-- Results that say nothing about the tables. -/
def Silent (result : IdentityResult) : Prop := ∀ tables later, Outcome result tables later

section Keeps

variable {held more : Set IdentityKey} {changes change : IdentityTables → IdentityTables} {tables later : IdentityTables}
  {result : IdentityResult}

theorem Moves.mono (subset : held ⊆ more) (moves : Moves held tables later) : Moves more tables later :=
  ⟨identityRules.mono subset moves.change, moves.consistent⟩

theorem keeps_id : Keeps held id tables := fun _ goes => Moves.refl goes.consistent

theorem Keeps.onward (keeps : Keeps held changes tables) (goes : Meantime held tables later) : Keeps held changes later :=
  fun last goesOn => keeps last (goes.trans goesOn)

theorem Keeps.grow (keeps : Keeps held changes tables) (subset : held ⊆ more) : Keeps more changes tables :=
  fun later goes => (keeps later (goes.anti subset)).mono subset

theorem Keeps.andThen (keeps : Keeps held changes tables) (next : ∀ between, ConsistentTables between → Moves held between (change between)) :
    Keeps held (change ∘ changes) tables :=
  fun later goes => (keeps later goes).trans (next _ (keeps later goes).consistent)

theorem safe_commit (keeps : Keeps held changes tables) (outcome : ∀ later, Meantime held tables later → Outcome result later (changes later)) :
    SafeSession (.commit result) held changes tables :=
  fun later goes => ⟨(keeps later goes).change, (keeps later goes).consistent, outcome later goes⟩

theorem safe_silent (keeps : Keeps held changes tables) (silent : Silent result) : SafeSession (.commit result) held changes tables :=
  safe_commit keeps fun _ _ => silent _ _

theorem safe_raise (silent : Silent result) : SafeSession (raise result) held changes tables := by
  intro later _
  exact safe_silent keeps_id silent

section Update

variable {ρ : Type} {table : TableOf IdentityKey IdentityTables ρ} {qualifies : String → ρ → Bool} {update : ρ → ρ}
  {next : Nat → IdentitySession}

theorem Keeps.safe_update (keeps : Keeps held changes tables)
    (moves : ∀ ids more between, (∀ id ∈ ids, table.key id ∈ more) → ConsistentTables between →
      Moves more between (table.updateRows qualifies ids update between))
    (rest : ∀ snapshot later more count, held ⊆ more → Meantime held tables snapshot → Meantime held snapshot later →
      Keeps more (table.updateRows qualifies (table.ids qualifies (changes snapshot)) update ∘ changes) later →
      SafeSession (next count) more (table.updateRows qualifies (table.ids qualifies (changes snapshot)) update ∘ changes) later) :
    SafeSession (updateWhere table qualifies update next) held changes tables := by
  apply ReadCommitted.safe_updateWhere
  intro snapshot later count goes goesOn
  apply rest snapshot later _ count held_subset_withRows goes goesOn
  apply Keeps.andThen ((keeps.onward (goes.trans goesOn)).grow held_subset_withRows)
  intro between consistent
  exact moves _ _ between (fun id listed => key_mem_withRows listed) consistent

theorem Keeps.safe_updateWhere (keeps : Keeps held changes tables)
    (moves : ∀ ids more between, (∀ id ∈ ids, table.key id ∈ more) → ConsistentTables between →
      Moves more between (table.updateRows qualifies ids update between))
    (rest : ∀ later more changes count, Keeps more changes later → SafeSession (next count) more changes later) :
    SafeSession (updateWhere table qualifies update next) held changes tables :=
  keeps.safe_update moves fun _ later more count _ _ _ keeps => rest later more _ count keeps

end Update

end Keeps

section Frames

variable {held : Set IdentityKey} {tables later : IdentityTables} {id : String}

theorem agent_unchanged (goes : Meantime held tables later) (locked : .agent id ∈ held) : later.agents.get? id = tables.agents.get? id :=
  goes.change.agents.frame id (not_not.mpr locked)

theorem sensorCredential_unchanged (goes : Meantime held tables later) (locked : .sensorCredential id ∈ held) :
    later.sensorCredentials.get? id = tables.sensorCredentials.get? id :=
  goes.change.sensorCredentials.frame id (not_not.mpr locked)

theorem sensorEnrollment_unchanged (goes : Meantime held tables later) (locked : .sensorEnrollment id ∈ held) :
    later.sensorEnrollments.get? id = tables.sensorEnrollments.get? id :=
  goes.change.sensorEnrollments.frame id (not_not.mpr locked)

theorem sensor_active_before (goes : Meantime held tables later) {sensorId : String} (locked : .agent sensorId ∈ held)
    {row : SensorCredential} (stored : later.sensorCredentials.get? id = some row) (owned : row.sensorId = sensorId)
    (active : row.status = .active) :
    ∃ row', tables.sensorCredentials.get? id = some row' ∧ row'.sensorId = sensorId ∧ row'.status = .active :=
  goes.change.sensorCredentials.active_before (not_not.mpr locked) stored owned active

end Frames

section Sensor

theorem isActiveOf_iff {sensorId id : String} {row : SensorCredential} :
    isActiveOf sensorId id row = true ↔ row.sensorId = sensorId ∧ row.status = .active := by
  rw [isActiveOf, Bool.and_eq_true, decide_eq_true_eq, decide_eq_true_eq]

variable {held : Set IdentityKey} {tables : IdentityTables}

theorem safe_persistEnrollmentRejection (row : Option (String × SensorEnrollment)) (reason : RejectionReason) :
    SafeSession (persistEnrollmentRejection row reason) held id tables := by
  have rejected {held : Set IdentityKey} {changes : IdentityTables → IdentityTables} {tables : IdentityTables}
      (keeps : Keeps held changes tables) : SafeSession (.commit .sensorEnrollmentRejected) held changes tables :=
    safe_silent keeps fun _ _ => trivial
  unfold persistEnrollmentRejection
  split
  · exact rejected keeps_id
  · split
    · apply safe_selectForUpdate
      intro snapshot later goes goesOn
      split
      · exact rejected keeps_id
      · split
        · split
          · apply keeps_id.safe_updateWhere
            · intro ids more between locked consistent
              exact moves_updateSensorEnrollments consistent locked fun _ status => by cases status
            · intro _ _ _ _ keeps
              exact rejected keeps
          all_goals try exact rejected keeps_id
          all_goals
            apply keeps_id.safe_updateWhere
            · intro ids more between locked consistent
              apply moves_updateSensorEnrollments consistent locked
              intro row pending
              simp only at pending
              split at pending
              · cases pending
              · exact pending
            · intro _ _ _ _ keeps
              exact rejected keeps
        · exact rejected keeps_id
    · exact rejected keeps_id

theorem safe_rejectEnrollment {changes : IdentityTables → IdentityTables} (row : Option (String × SensorEnrollment))
    (reason : RejectionReason) : SafeSession (rejectEnrollment row reason) held changes tables :=
  fun _ _ => safe_persistEnrollmentRejection row reason

theorem safe_authenticateSensorRequest (claim : SensorClaim) : SafeSession (authenticateSensorRequest claim) held id tables := by
  have rejected {held : Set IdentityKey} {changes : IdentityTables → IdentityTables} {tables : IdentityTables}
      (keeps : Keeps held changes tables) : SafeSession (.commit .sensorAuthenticationRejected) held changes tables :=
    safe_silent keeps fun _ _ => trivial
  unfold authenticateSensorRequest
  split
  · split
    · exact safe_silent keeps_id fun _ _ => trivial
    · exact rejected keeps_id
  · exact rejected keeps_id
  · apply safe_selectForUpdate
    intro snapshot later goes goesOn
    split
    · exact rejected keeps_id
    · rename_i credentialId row others selected
      have chosen : (credentialId, row) ∈ sensorCredentialTable.selected _ _ _ := selected ▸ List.mem_cons_self
      obtain ⟨listed, stored, -⟩ := TableOf.mem_selected.mp chosen
      have locked : IdentityKey.sensorCredential credentialId ∈ withRows sensorCredentialTable _ held := key_mem_withRows listed
      simp only
      split
      · rename_i expired
        rw [Bool.and_eq_true] at expired
        apply keeps_id.safe_updateWhere
        · intro ids more between locked consistent
          exact moves_updateSensorCredentials consistent locked (fun _ => rfl) fun _ status => by cases status
        · intro _ _ _ _ keeps
          rw [expired.1, if_neg (by simp)]
          exact rejected keeps
      · split
        · rename_i accepted
          apply safe_commit keeps_id
          intro last goesLast
          refine ⟨row, (sensorCredential_unchanged goesLast locked).trans stored, ?_⟩
          simp only [Bool.and_eq_true, decide_eq_true_eq] at accepted
          exact accepted.1.2.1
        · exact rejected keeps_id

theorem safe_revokeSensorCredential (sensorId credentialId : String) :
    SafeSession (revokeSensorCredential sensorId credentialId) held id tables := by
  have done {held : Set IdentityKey} {changes : IdentityTables → IdentityTables} {tables : IdentityTables} {status : CredentialStatus}
      (keeps : Keeps held changes tables) : SafeSession (.commit (.sensorCredentialRevoked credentialId status)) held changes tables :=
    safe_silent keeps fun _ _ => trivial
  apply safe_selectForUpdate
  intro snapshot later goes goesOn
  split
  · exact safe_raise fun _ _ => trivial
  · split
    · apply keeps_id.safe_updateWhere
      · intro ids more between locked consistent
        exact moves_updateSensorCredentials consistent locked (fun _ => rfl) fun _ status => by cases status
      · intro _ _ _ _ keeps last goesLast _
        simp only
        split
        · exact done (keeps.onward goesLast)
        · apply (keeps.onward goesLast).safe_updateWhere
          · intro ids more between locked consistent
            exact moves_updateAgents consistent locked (fun _ => rfl) fun _ => rfl
          · intro _ _ _ _ keeps
            exact done keeps
    · exact done keeps_id

theorem safe_revokeSensor (sensorId : String) (now : Time) : SafeSession (revokeSensor sensorId now) held id tables := by
  apply safe_selectForUpdate
  intro snapshot later goes goesOn
  split
  · exact safe_raise fun _ _ => trivial
  · rename_i key sensor others selected
    have chosen : (key, sensor) ∈ agentTable.selected _ _ _ := selected ▸ List.mem_cons_self
    obtain ⟨listed, -, matching⟩ := TableOf.mem_selected.mp chosen
    have same : key = sensorId := of_decide_eq_true matching
    have locked : IdentityKey.agent sensorId ∈ withRows agentTable _ held := same ▸ key_mem_withRows listed
    split
    · exact safe_raise fun _ _ => trivial
    · apply keeps_id.safe_update
      · intro ids more between locked consistent
        exact moves_updateSensorCredentials consistent locked (fun _ => rfl) fun _ status => by cases status
      · intro first second more count grows goesFirst goesSecond keeps
        apply keeps.safe_update
        · intro ids more between locked consistent
          exact moves_updateAgents consistent locked (fun _ => rfl) fun _ => rfl
        · intro third last most count' grows' goesThird goesLast keeps
          apply safe_commit keeps
          intro final goesFinal id row stored owned active
          have goes : Meantime _ first final :=
            (goesSecond.trans ((goesThird.trans goesLast).anti grows)).trans (goesFinal.anti (grows.trans grows'))
          have stored : (sensorCredentialTable.rows (sensorCredentialTable.updateRows (isActiveOf sensorId)
              (sensorCredentialTable.ids (isActiveOf sensorId) first) (fun row => { row with status := .revoked }) final)).get? id =
              some row := stored
          rw [TableOf.get?_updateRows, Option.map_eq_some_iff] at stored
          obtain ⟨before, held, same⟩ := stored
          split at same
          · rw [← same] at active
            cases active
          · rename_i passed
            subst same
            obtain ⟨earlier, stored, owned', active'⟩ := sensor_active_before goes locked held owned active
            have listed : id ∈ sensorCredentialTable.ids (isActiveOf sensorId) first :=
              TableOf.mem_ids.mpr ⟨earlier, stored, isActiveOf_iff.mpr ⟨owned', active'⟩⟩
            apply passed
            rw [Bool.and_eq_true, List.contains_iff_mem]
            exact ⟨listed, isActiveOf_iff.mpr ⟨owned, active⟩⟩

end Sensor

section Replace

variable {held : Set IdentityKey} {changes prior : IdentityTables → IdentityTables} {tables : IdentityTables} {sensorId credentialId : String}
  {ids : List String} {new : SensorCredential} {agent : AgentRow} {next : IdentitySession}

theorem moves_replaceSensorCredential (consistent : ConsistentTables tables) (own : .sensorCredential credentialId ∈ held)
    (owner : .agent new.sensorId ∈ held) (locked : ∀ id ∈ ids, .sensorCredential id ∈ held)
    (fresh : tables.sensorCredentials.get? credentialId = none) (stored : tables.agents.get? new.sensorId = some agent)
    (rotated : ∀ id row, tables.sensorCredentials.get? id = some row → row.sensorId = new.sensorId → row.status = .active → id ∈ ids) :
    Moves held tables (sensorCredentialTable.updateRows (fun id row => isActiveOf new.sensorId id row && id ≠ credentialId) ids
      (fun row => { row with status := .rotated })
      (sensorCredentialTable.modify (fun rows => rows.set credentialId new) tables)) := by
  have rotate : Moves held tables (sensorCredentialTable.updateRows
      (fun id row => isActiveOf new.sensorId id row && id ≠ credentialId) ids (fun row => { row with status := .rotated }) tables) :=
    moves_updateSensorCredentials consistent locked (fun _ => rfl) fun _ status => by cases status
  have swapped : sensorCredentialTable.updateRows (fun id row => isActiveOf new.sensorId id row && id ≠ credentialId) ids
      (fun row => { row with status := .rotated }) (sensorCredentialTable.modify (fun rows => rows.set credentialId new) tables) =
      { sensorCredentialTable.updateRows (fun id row => isActiveOf new.sensorId id row && id ≠ credentialId) ids
          (fun row => { row with status := .rotated }) tables with
        sensorCredentials := (sensorCredentialTable.updateRows (fun id row => isActiveOf new.sensorId id row && id ≠ credentialId) ids
          (fun row => { row with status := .rotated }) tables).sensorCredentials.set credentialId new } := by
    simp only [TableOf.updateRows, sensorCredentialTable, Dict.mapValues_set]
    rw [if_neg]
    simp
  have read (id : String) : (sensorCredentialTable.updateRows (fun id row => isActiveOf new.sensorId id row && id ≠ credentialId) ids
      (fun row => { row with status := .rotated }) tables).sensorCredentials.get? id =
      (tables.sensorCredentials.get? id).map fun row =>
        if ids.contains id && (isActiveOf new.sensorId id row && id ≠ credentialId) then { row with status := .rotated } else row :=
    sensorCredentialTable.get?_updateRows _ _ _ _ _
  rw [swapped]
  refine rotate.trans (moves_setSensorCredential rotate.consistent own owner ?_ stored ?_)
  · rw [read, fresh]
    rfl
  · intro id row held owned active
    rw [read, Option.map_eq_some_iff] at held
    obtain ⟨before, there, same⟩ := held
    split at same
    · rw [← same] at active
      cases active
    · rename_i passed
      subst same
      have apart : id ≠ credentialId := by
        rintro rfl
        rw [fresh] at there
        cases there
      apply passed
      rw [List.contains_iff_mem.mpr (rotated id before there owned active), isActiveOf_iff.mpr ⟨owned, active⟩, decide_eq_true apart]
      rfl

theorem safe_rotateOthers (new : SensorCredential) (keeps : Keeps held prior tables) (same : ∀ tables, (prior tables).sensorCredentials = tables.sensorCredentials)
    (locked : .agent new.sensorId ∈ held) (own : .sensorCredential credentialId ∈ held)
    (fresh : tables.sensorCredentials.get? credentialId = none)
    (stored : ∀ later, Meantime held tables later → ∃ agent, (prior later).agents.get? new.sensorId = some agent)
    (rest : ∀ later more changes, held ⊆ more → Meantime held tables later → Keeps more changes later →
      (∀ tables, (changes tables).sensorEnrollments = (prior tables).sensorEnrollments) → SafeSession next more changes later) :
    SafeSession (rotateOthers new.sensorId credentialId next) held
      ((sensorCredentialTable.modify fun rows => rows.set credentialId new) ∘ prior) tables := by
  apply safe_updateWhere
  intro snapshot later count goes goesOn
  apply rest later _ _ held_subset_withRows (goes.trans goesOn)
  · intro last goesLast
    have whole : Meantime held snapshot last := goesOn.trans (goesLast.anti held_subset_withRows)
    have since : Meantime held tables last := goes.trans whole
    have now := keeps last since
    obtain ⟨agent, agentStored⟩ := stored last since
    have absent : last.sensorCredentials.get? credentialId = none := (sensorCredential_unchanged since own).trans fresh
    apply (now.mono held_subset_withRows).trans
    apply moves_replaceSensorCredential now.consistent (held_subset_withRows own) (held_subset_withRows locked)
      (fun id listed => key_mem_withRows listed) _ agentStored
    · intro id row held owned active
      rw [same] at held
      obtain ⟨before, there, owned', active'⟩ := sensor_active_before whole locked held owned active
      have apart : id ≠ credentialId := by
        rintro rfl
        rw [absent] at held
        cases held
      refine TableOf.mem_ids.mpr ⟨before, ?_, ?_⟩
      · show ((prior snapshot).sensorCredentials.set credentialId new).get? id = some before
        rw [Dict.get?_set, if_neg apart, same]
        exact there
      · rw [isActiveOf_iff.mpr ⟨owned', active'⟩, decide_eq_true apart]
        rfl
    · rw [same]
      exact absent
  · intro tables
    rfl

theorem safe_rotateSensorCredential (issued : IssuedCredential) (now : Time) :
    SafeSession (rotateSensorCredential sensorId issued now) held id tables := by
  apply safe_selectForUpdate
  intro first second goesFirst goesSecond
  split
  · exact safe_raise fun _ _ => trivial
  · rename_i key sensor others selected
    have chosen : (key, sensor) ∈ agentTable.selected _ _ _ := selected ▸ List.mem_cons_self
    obtain ⟨listed, stored, matching⟩ := TableOf.mem_selected.mp chosen
    have same : key = sensorId := of_decide_eq_true matching
    subst same
    have locked : IdentityKey.agent key ∈ withRows agentTable _ held := key_mem_withRows listed
    split
    · exact safe_raise fun _ _ => trivial
    · split
      · exact safe_raise fun _ _ => trivial
      · apply safe_selectForUpdate
        intro third fourth goesThird goesFourth
        simp only
        split
        · exact safe_raise fun _ _ => trivial
        · have locked' : _ ∈ withRows sensorCredentialTable (sensorCredentialTable.ids (isActiveOf key) (id third)) _ :=
            held_subset_withRows locked
          apply safe_insertRow goesFourth.consistent
          · intro later keys _
            exact safe_raise fun _ _ => trivial
          · intro fifth goesFifth fresh
            apply safe_rotateOthers
              { sensorId := key, siteId := _, sensorType := _, tokenLookupId := _, credentialDigest := _, status := .active, createdAt := now }
              keeps_id (fun _ => rfl) (Or.inr locked') (Or.inl List.mem_cons_self) fresh
            · intro later goes
              have between : Meantime _ second later := (goesThird.trans (goesFourth.trans ((goesFifth.trans (goes.anti
                Set.subset_union_right)).anti held_subset_withRows)))
              exact ⟨sensor, (agent_unchanged between locked).trans stored⟩
            · intro later more changes _ _ keeps _
              exact safe_silent keeps fun _ _ => trivial

end Replace

end OpenAssetWatch.Identity

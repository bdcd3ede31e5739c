import OpenAssetWatch.Identity.SensorSafe

namespace OpenAssetWatch.Identity

open Library ReadCommitted Discipline

section Frames

variable {held : Set IdentityKey} {tables later : IdentityTables} {id : String}

theorem agentCredential_unchanged (goes : Meantime held tables later) (locked : .agentCredential id ∈ held) :
    later.agentCredentials.get? id = tables.agentCredentials.get? id :=
  goes.change.agentCredentials.frame id (not_not.mpr locked)

theorem agentEnrollment_unchanged (goes : Meantime held tables later) (locked : .agentEnrollment id ∈ held) :
    later.agentEnrollments.get? id = tables.agentEnrollments.get? id :=
  goes.change.agentEnrollments.frame id (not_not.mpr locked)

theorem agent_active_before (goes : Meantime held tables later) {agentId : String} (locked : .agent agentId ∈ held)
    {row : AgentCredential} (stored : later.agentCredentials.get? id = some row) (owned : row.agentId = agentId)
    (active : row.status = .active) :
    ∃ row', tables.agentCredentials.get? id = some row' ∧ row'.agentId = agentId ∧ row'.status = .active :=
  goes.change.agentCredentials.active_before (not_not.mpr locked) stored owned active

end Frames

section Agent

variable {held : Set IdentityKey} {changes : IdentityTables → IdentityTables} {tables : IdentityTables}

theorem isActiveOfAgent_iff {agentId id : String} {row : AgentCredential} :
    isActiveOfAgent agentId id row = true ↔ row.agentId = agentId ∧ row.status = .active := by
  rw [isActiveOfAgent, Bool.and_eq_true, decide_eq_true_eq, decide_eq_true_eq]

theorem safe_recordExchangeRejection (row : Option (String × AgentEnrollment)) (reason : RejectionReason) :
    SafeSession (recordExchangeRejection row reason) held id tables := by
  have rejected {held : Set IdentityKey} {changes : IdentityTables → IdentityTables} {tables : IdentityTables}
      (keeps : Keeps held changes tables) : SafeSession (.commit .agentEnrollmentRejected) held changes tables :=
    safe_silent keeps fun _ _ => trivial
  unfold recordExchangeRejection
  split
  · exact rejected keeps_id
  · split
    · apply safe_selectForUpdate
      intro snapshot later goes goesOn
      split
      · exact rejected keeps_id
      · split
        · split
          · apply keeps_id.safe_updateWhere
            · intro ids more between locked consistent
              exact moves_updateAgentEnrollments consistent locked fun _ status => by cases status
            · intro _ _ _ _ keeps
              exact rejected keeps
          all_goals try exact rejected keeps_id
          all_goals
            apply keeps_id.safe_updateWhere
            · intro ids more between locked consistent
              apply moves_updateAgentEnrollments consistent locked
              intro row pending
              simp only at pending
              split at pending
              · cases pending
              · exact pending
            · intro _ _ _ _ keeps
              exact rejected keeps
        · exact rejected keeps_id
    · exact rejected keeps_id

theorem safe_selectWithAgent {qualifies : String → AgentCredential → Bool}
    {next : Option (String × AgentCredential × AgentRow) → IdentitySession}
    (absent : ∀ later more, SafeSession (next none) more id later)
    (rest : ∀ later more credentialId row agent, held ⊆ more → Meantime held tables later →
      .agentCredential credentialId ∈ more → later.agentCredentials.get? credentialId = some row →
      SafeSession (next (some (credentialId, row, agent))) more id later) :
    SafeSession (selectWithAgent qualifies next) held id tables := by
  intro snapshot goes _
  apply safe_lockAll goes.consistent
  intro locked waits later goesOn _
  simp only [id]
  generalize found : (joinAgents qualifies ((joinAgents qualifies (agentCredentialTable.ids qualifies snapshot) snapshot).map (·.1))
    later).head? = chosen
  cases chosen with
  | none => exact absent later _
  | some chosen =>
    obtain ⟨credentialId, row, agent⟩ := chosen
    obtain ⟨credential, selected, joined⟩ := List.mem_filterMap.mp (List.mem_of_mem_head? found)
    obtain ⟨_, -, same⟩ := Option.map_eq_some_iff.mp joined
    cases same
    obtain ⟨listed, stored, -⟩ := TableOf.mem_selected.mp selected
    obtain ⟨before, member, same⟩ := List.mem_map.mp listed
    have locked : IdentityKey.agentCredential credential.1 ∈
        (joinAgents qualifies (agentCredentialTable.ids qualifies snapshot) snapshot).flatMap
          fun row => [IdentityKey.agentCredential row.1, .agent row.2.1.agentId] := by
      rw [← same]
      exact List.mem_flatMap.mpr ⟨before, member, List.mem_cons_self⟩
    exact rest later _ _ _ _ Set.subset_union_right (goes.trans (waits.trans (goesOn.anti Set.subset_union_right))) (Or.inl locked) stored

theorem safe_authenticateAgentRequest (claim : AgentClaim) : SafeSession (authenticateAgentRequest claim) held id tables := by
  have rejected {held : Set IdentityKey} {changes : IdentityTables → IdentityTables} {tables : IdentityTables}
      (keeps : Keeps held changes tables) : SafeSession (.commit .agentAuthenticationRejected) held changes tables :=
    safe_silent keeps fun _ _ => trivial
  unfold authenticateAgentRequest
  split
  · split
    · exact safe_silent keeps_id fun _ _ => trivial
    · exact rejected keeps_id
  · exact rejected keeps_id
  · apply safe_selectWithAgent
    · intro later more
      exact rejected keeps_id
    · intro later more credentialId row agent _ _ locked stored
      simp only
      split
      · rename_i expired
        rw [Bool.and_eq_true] at expired
        apply keeps_id.safe_updateWhere
        · intro ids more between locked consistent
          exact moves_updateAgentCredentials consistent locked (fun _ => rfl) fun _ status => by cases status
        · intro _ _ _ _ keeps
          rw [expired.1, if_neg (by simp)]
          exact rejected keeps
      · split
        · rename_i accepted
          apply safe_commit keeps_id
          intro last goesLast
          refine ⟨row, (agentCredential_unchanged goesLast locked).trans stored, ?_⟩
          simp only [Bool.and_eq_true, decide_eq_true_eq] at accepted
          exact accepted.1.2.1.1
        · exact rejected keeps_id

theorem safe_revokeAgentCredential (agentId credentialId : String) :
    SafeSession (revokeAgentCredential agentId credentialId) held id tables := by
  have done {held : Set IdentityKey} {changes : IdentityTables → IdentityTables} {tables : IdentityTables} {status : CredentialStatus}
      (keeps : Keeps held changes tables) : SafeSession (.commit (.agentCredentialRevoked credentialId status)) held changes tables :=
    safe_silent keeps fun _ _ => trivial
  apply safe_selectWithAgent
  · intro later more
    exact safe_raise fun _ _ => trivial
  · intro later more _ row agent _ _ _ _
    simp only
    split
    · apply keeps_id.safe_updateWhere
      · intro ids more between locked consistent
        exact moves_updateAgentCredentials consistent locked (fun _ => rfl) fun _ status => by cases status
      · intro _ _ _ _ keeps last goesLast _
        simp only
        split
        · exact done (keeps.onward goesLast)
        · apply (keeps.onward goesLast).safe_updateWhere
          · intro ids more between locked consistent
            exact moves_updateAgents consistent locked (fun _ => rfl) fun _ => rfl
          · intro _ _ _ _ keeps
            exact done keeps
    · exact done keeps_id

theorem agent_inactive_after {agentId : String} (status : CredentialStatus) (inactive : status ≠ .active) {first final : IdentityTables}
    (goes : Meantime held first final) (locked : .agent agentId ∈ held) {id : String} {row : AgentCredential}
    (stored : (agentCredentialTable.updateRows (isActiveOfAgent agentId) (agentCredentialTable.ids (isActiveOfAgent agentId) first)
      (fun row => { row with status }) final).agentCredentials.get? id = some row) (owned : row.agentId = agentId) :
    row.status ≠ .active := by
  intro active
  have stored : (agentCredentialTable.rows (agentCredentialTable.updateRows (isActiveOfAgent agentId)
      (agentCredentialTable.ids (isActiveOfAgent agentId) first) (fun row => { row with status }) final)).get? id = some row := stored
  rw [TableOf.get?_updateRows, Option.map_eq_some_iff] at stored
  obtain ⟨before, held, same⟩ := stored
  split at same
  · rw [← same] at active
    exact inactive active
  · rename_i passed
    subst same
    obtain ⟨earlier, stored, owned', active'⟩ := agent_active_before goes locked held owned active
    have listed : id ∈ agentCredentialTable.ids (isActiveOfAgent agentId) first :=
      TableOf.mem_ids.mpr ⟨earlier, stored, isActiveOfAgent_iff.mpr ⟨owned', active'⟩⟩
    apply passed
    rw [Bool.and_eq_true, List.contains_iff_mem]
    exact ⟨listed, isActiveOfAgent_iff.mpr ⟨owned, active⟩⟩

theorem safe_revokeAgent (agentId : String) (now : Time) : SafeSession (revokeAgent agentId now) held id tables := by
  apply safe_selectForUpdate
  intro snapshot later goes goesOn
  split
  · exact safe_raise fun _ _ => trivial
  · rename_i key agent others selected
    have chosen : (key, agent) ∈ agentTable.selected _ _ _ := selected ▸ List.mem_cons_self
    obtain ⟨listed, -, matching⟩ := TableOf.mem_selected.mp chosen
    have same : key = agentId := of_decide_eq_true matching
    have locked : IdentityKey.agent agentId ∈ withRows agentTable _ held := same ▸ key_mem_withRows listed
    split
    · exact safe_raise fun _ _ => trivial
    · apply keeps_id.safe_update
      · intro ids more between locked consistent
        exact moves_updateAgentCredentials consistent locked (fun _ => rfl) fun _ status => by cases status
      · intro first second more count grows goesFirst goesSecond keeps
        apply keeps.safe_update
        · intro ids more between locked consistent
          exact moves_updateAgents consistent locked (fun _ => rfl) fun _ => rfl
        · intro third last most count' grows' goesThird goesLast keeps
          apply safe_commit keeps
          intro final goesFinal id row stored owned active
          have goes : Meantime _ first final :=
            (goesSecond.trans ((goesThird.trans goesLast).anti grows)).trans (goesFinal.anti (grows.trans grows'))
          exact agent_inactive_after .revoked nofun goes locked stored owned active

theorem safe_rotateAgentCredential (agentId : String) (issued : IssuedCredential) (now : Time) :
    SafeSession (rotateAgentCredential agentId issued now) held id tables := by
  apply safe_selectForUpdate
  intro snapshot seen goesSnapshot goesSeen
  split
  · exact safe_raise fun _ _ => trivial
  · rename_i key agent others selected
    have chosen : (key, agent) ∈ agentTable.selected _ _ _ := selected ▸ List.mem_cons_self
    obtain ⟨listed, stored, matching⟩ := TableOf.mem_selected.mp chosen
    have same : key = agentId := of_decide_eq_true matching
    subst same
    have locked : IdentityKey.agent key ∈ withRows agentTable _ held := key_mem_withRows listed
    split
    · exact safe_raise fun _ _ => trivial
    · split
      · exact safe_raise fun _ _ => trivial
      · apply safe_selectForUpdate
        intro third fourth goesThird goesFourth
        split
        · exact safe_raise fun _ _ => trivial
        · have owner : _ ∈ withRows agentCredentialTable (agentCredentialTable.ids (isActiveOfAgent key) (id third)) _ :=
            held_subset_withRows locked
          apply keeps_id.safe_update
          · intro ids more between locked consistent
            exact moves_updateAgentCredentials consistent locked (fun _ => rfl) fun _ status => by cases status
          · intro first second more count grows goesFirst goesSecond keeps
            apply safe_insertRow goesSecond.consistent
            · intro later keys _
              exact safe_raise fun _ _ => trivial
            · intro later goesLater fresh
              have own : IdentityKey.agentCredential issued.credentialId ∈
                {key | key ∈ [agentCredentialTable.key issued.credentialId, .agentToken issued.lookupId]} ∪ more :=
                  Or.inl List.mem_cons_self
              refine Keeps.safe_updateWhere (fun last goesLast => ?_) ?_ ?_
              · have goes : Meantime more second last := goesLater.trans (goesLast.anti Set.subset_union_right)
                have moved := (keeps last goes).mono (Set.subset_union_right
                  (s := {key | key ∈ [agentCredentialTable.key issued.credentialId, .agentToken issued.lookupId]}))
                have whole : Meantime _ seen last := goesThird.trans (goesFourth.trans
                  ((goesFirst.trans (goesSecond.trans (goes.anti grows))).anti held_subset_withRows))
                refine moved.trans (moves_setAgentCredential agent moved.consistent own (Or.inr (grows owner)) ?_ ?_ ?_)
                · have free : (agentCredentialTable.rows ((agentCredentialTable.updateRows (isActiveOfAgent key)
                      (agentCredentialTable.ids (isActiveOfAgent key) (id first)) fun row => { row with status := .rotated }) later)).get?
                        issued.credentialId = none := fresh
                  rw [TableOf.get?_updateRows, Option.map_eq_none_iff] at free
                  show (agentCredentialTable.rows ((agentCredentialTable.updateRows (isActiveOfAgent key)
                    (agentCredentialTable.ids (isActiveOfAgent key) (id first)) fun row => { row with status := .rotated }) last)).get?
                      issued.credentialId = none
                  rw [TableOf.get?_updateRows, Option.map_eq_none_iff]
                  exact (agentCredential_unchanged goesLast own).trans free
                · exact (agent_unchanged whole locked).trans stored
                · intro other before there owned
                  exact agent_inactive_after .rotated nofun (goesSecond.trans (goes.anti grows)) owner there owned
              · intro ids more between locked consistent
                exact moves_updateAgentCredentials consistent locked (fun _ => rfl) fun _ status => status
              · intro _ _ _ _ keeps
                exact safe_silent keeps fun _ _ => trivial

variable {enrollmentId credentialId : String} {row : AgentEnrollment} {result : IdentityResult}

theorem safe_completeAgent (keeps : Keeps held changes tables)
    (same : ∀ tables, (changes tables).agentEnrollments = tables.agentEnrollments)
    (locked : .agentEnrollment enrollmentId ∈ held) (stored : tables.agentEnrollments.get? enrollmentId = some row)
    (pending : row.status = .pending) (silent : Silent result) :
    SafeSession (updateWhere agentEnrollmentTable (fun id _ => id = enrollmentId) (fun row => { row with status := .used }) fun _ =>
      .write (fun tables => { tables with agentCompletions := tables.agentCompletions ++ [⟨enrollmentId, credentialId⟩] })
        (.commit result)) held changes tables := by
  apply safe_updateWhere
  intro snapshot later count goes goesOn
  apply safe_silent _ silent
  intro last goesLast
  have since := goes.trans (goesOn.trans (goesLast.anti held_subset_withRows))
  have now := keeps last since
  have listed : enrollmentId ∈ agentEnrollmentTable.ids (fun id _ => id = enrollmentId) (changes snapshot) := by
    refine TableOf.mem_ids.mpr ⟨row, ?_, decide_eq_true rfl⟩
    show (changes snapshot).agentEnrollments.get? enrollmentId = some row
    rw [same, agentEnrollment_unchanged goes locked]
    exact stored
  have still : (changes last).agentEnrollments.get? enrollmentId = some row := by
    rw [same, agentEnrollment_unchanged since locked]
    exact stored
  exact (now.mono held_subset_withRows).trans
    (moves_completeAgent now.consistent (fun id listed => key_mem_withRows listed) listed still pending (decide_eq_true rfl))

theorem exchangeReason_pending {call : AgentExchange} {token : ParsedToken} (accepted : exchangeReason call token row = none) :
    row.status = .pending := by
  unfold exchangeReason at accepted
  split at accepted
  · cases accepted
  · split at accepted
    · cases accepted
    · split at accepted
      · cases accepted
      · rename_i pending
        exact not_not.mp pending

theorem safe_enrollAgent {call : AgentExchange} (consistent : ConsistentTables tables) (locked : .agentEnrollment enrollmentId ∈ held)
    (stored : tables.agentEnrollments.get? enrollmentId = some row) (pending : row.status = .pending) :
    SafeSession (enrollAgent call enrollmentId row) held id tables := by
  apply safe_insertRow consistent
  · intro later keys _
    exact safe_raise fun _ _ => trivial
  · intro first goesFirst fresh
    have absent : first.agents.get? call.agentId = none := fresh
    have owner : IdentityKey.agent call.agentId ∈ {key | key ∈ [agentTable.key call.agentId]} ∪ held := Or.inl List.mem_cons_self
    have keeps : Keeps ({key | key ∈ [agentTable.key call.agentId]} ∪ held) ((agentTable.modify fun rows => rows.set call.agentId
        { siteId := row.siteId, agentType := .endpointAgent, identityStatus := .active }) ∘ id) first := by
      intro later goes
      apply moves_setAgent goes.consistent owner
      intro before there
      rw [agent_unchanged goes owner, absent] at there
      cases there
    apply safe_insertRow goesFirst.consistent
    · intro later keys _
      exact safe_raise fun _ _ => trivial
    · intro second goesSecond fresh
      have own : IdentityKey.agentCredential call.issued.credentialId ∈
        {key | key ∈ [agentCredentialTable.key call.issued.credentialId, .agentToken call.issued.lookupId]} ∪
          ({key | key ∈ [agentTable.key call.agentId]} ∪ held) := Or.inl List.mem_cons_self
      have enrollment : second.agentEnrollments.get? enrollmentId = some row := by
        rw [agentEnrollment_unchanged (goesFirst.trans (goesSecond.anti Set.subset_union_right)) locked]
        exact stored
      refine safe_completeAgent (fun last goesLast => ?_) (fun _ => rfl) (Or.inr (Or.inr locked)) enrollment pending fun _ _ => trivial
      have goes : Meantime _ first last := goesSecond.trans (goesLast.anti Set.subset_union_right)
      have moved := (keeps last goes).mono (Set.subset_union_right
        (s := {key | key ∈ [agentCredentialTable.key call.issued.credentialId, .agentToken call.issued.lookupId]}))
      refine moved.trans (moves_setAgentCredential { siteId := row.siteId, agentType := .endpointAgent, identityStatus := .active }
        moved.consistent own (Or.inr owner) ?_ ?_ ?_)
      · exact (agentCredential_unchanged goesLast own).trans fresh
      · exact Dict.get?_update_self _ _ _
      · intro other before there owned active
        obtain ⟨earlier, held, owned', -⟩ := agent_active_before goes owner there owned active
        obtain ⟨agent, stored⟩ := goesFirst.consistent.agentOwned other earlier held
        have stored : first.agents.get? earlier.agentId = some agent := stored
        rw [owned', absent] at stored
        cases stored

theorem safe_exchangeAgentEnrollment (call : AgentExchange) : SafeSession (exchangeAgentEnrollment call) held id tables := by
  unfold exchangeAgentEnrollment
  split
  · exact safe_silent keeps_id fun _ _ => trivial
  · apply safe_selectForUpdate
    intro first second goesFirst goesSecond
    split
    · intro later _
      exact safe_recordExchangeRejection _ _
    · rename_i enrollmentId row others selected
      have chosen : (enrollmentId, row) ∈ agentEnrollmentTable.selected _ _ _ := selected ▸ List.mem_cons_self
      obtain ⟨listed, stored, -⟩ := TableOf.mem_selected.mp chosen
      split
      · intro later _
        exact safe_recordExchangeRejection _ _
      · rename_i accepted
        exact safe_enrollAgent goesSecond.consistent (key_mem_withRows listed) stored (exchangeReason_pending accepted)

end Agent

end OpenAssetWatch.Identity

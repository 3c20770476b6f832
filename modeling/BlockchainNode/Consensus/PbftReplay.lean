import BlockchainNode.Consensus.PbftSafety

namespace BlockchainNode

theorem insertCert_idem (certs : Nat × Nat × Hash → Bool) (c : Nat × Nat × Hash) :
    insertCert (insertCert certs c) c = insertCert certs c := by
  funext x; simp only [insertCert]; cases x == c <;> rfl

namespace PbftEngine

variable (C : Codec) (st : PbftEngine)

theorem recordProposal_idem (block : Block) (sequence view : Nat) :
    (st.recordProposal C block sequence view).recordProposal C block sequence view =
      st.recordProposal C block sequence view := by
  simp only [recordProposal, Function.update_same, Option.getD_some, AList.insert_insert, Function.update_idem]

section StoreVote

variable {t : VoteType} {phase : PbftPhase} {blockHash : Hash} {sequence view : Nat} {validatorId : NodeId}
  {signature : Signature}

theorem storeVote_of_entry {e : PbftLogEntry} (he : st.messageLog (view, sequence) = some e)
    (hb : e.blockHash = blockHash) :
    st.storeVote t phase blockHash sequence view validatorId signature =
      { st with messageLog := Function.update st.messageLog (view, sequence) (some { e with
          messages := e.messages.insert validatorId (.vote blockHash t sequence view validatorId signature),
          phase }) } := by
  simp [storeVote, he, hb]

theorem storeVote_idem :
    (st.storeVote t phase blockHash sequence view validatorId signature).storeVote t phase blockHash sequence view
        validatorId signature =
      st.storeVote t phase blockHash sequence view validatorId signature := by
  unfold storeVote
  cases h : st.messageLog (view, sequence) with
  | none => simp [h]
  | some e =>
      by_cases hb : e.blockHash = blockHash
      · simp [h, hb, AList.insert_insert]
      · simp [h, hb]

theorem storeVote_messageLog_congr {st' : PbftEngine} (h : st.messageLog = st'.messageLog) :
    (st.storeVote t phase blockHash sequence view validatorId signature).messageLog =
      (st'.storeVote t phase blockHash sequence view validatorId signature).messageLog := by
  unfold storeVote
  rw [h]
  split <;> (try split) <;> first | rfl | exact h

theorem storeVote_of_stored {st' : PbftEngine}
    (h : st'.messageLog = (st.storeVote t phase blockHash sequence view validatorId signature).messageLog) :
    st'.storeVote t phase blockHash sequence view validatorId signature = st' := by
  rw [storeVote_eq, storeVote_messageLog_congr st' h, storeVote_idem, ← h]

theorem storeVote_withPrepared (certs : Nat × Nat × Hash → Bool) :
    ({ st.storeVote t phase blockHash sequence view validatorId signature with
        preparedCertificates := certs }).storeVote t phase blockHash sequence view validatorId signature =
      { st.storeVote t phase blockHash sequence view validatorId signature with preparedCertificates := certs } :=
  storeVote_of_stored st rfl

theorem entry_of_countMessages_storeVote {t' : VoteType}
    (h : 0 < (st.storeVote t phase blockHash sequence view validatorId signature).countMessages t' view sequence
      blockHash) :
    ∃ e, st.messageLog (view, sequence) = some e ∧ e.blockHash = blockHash := by
  cases he : st.messageLog (view, sequence) with
  | none => simp [storeVote, countMessages, he] at h
  | some e =>
      by_cases hb : e.blockHash = blockHash
      · exact ⟨e, rfl, hb⟩
      · simp [storeVote, countMessages, he, hb] at h

end StoreVote

section Handlers

variable {st' : PbftEngine} {out : List ConsensusMessage}

theorem handlePrePrepare_idem {block : Block} {sequence view : Nat}
    (h : st.handlePrePrepare C block sequence view = .ok (st', out)) :
    st'.handlePrePrepare C block sequence view = .ok (st', out) := by
  have h₀ := h
  dsimp only [handlePrePrepare] at h
  split_ifs at h with h₁ h₂ h₃ <;> cases h <;> try exact h₀
  all_goals clear h₀; dsimp only [handlePrePrepare]
  all_goals simp_all [recordProposal_idem, isPrimary]

theorem handlePrepare_idem {blockHash : Hash} {sequence view : Nat} {validatorId : NodeId} {signature : Signature}
    (h : st.handlePrepare blockHash sequence view validatorId signature = .ok (st', out)) :
    st'.handlePrepare blockHash sequence view validatorId signature = .ok (st', out) := by
  have h₀ := h
  dsimp only [handlePrepare] at h
  split_ifs at h with h₁ h₂ h₃ h₄ <;> cases h <;> try exact h₀
  all_goals clear h₀; dsimp only [handlePrepare]
  rotate_right
  · simp only [storeVote_currentView, storeVote_config, storeVote_idem, if_neg h₁, h₂, if_neg h₃, not_true_eq_false,
      if_false]
  all_goals
    rw [storeVote_withPrepared]
    simp_all [insertCert_idem, countPrepareMessages, countMessages, byzantineThreshold]

theorem handleCommit_idem {blockHash : Hash} {sequence view : Nat} {validatorId : NodeId} {signature : Signature}
    (h : st.handleCommit blockHash sequence view validatorId signature = .ok (st', out)) :
    st'.handleCommit blockHash sequence view validatorId signature = .ok (st', out) := by
  have h₀ := h
  dsimp only [handleCommit] at h
  split_ifs at h with h₁ h₂ h₃ <;> cases h <;> try exact h₀
  all_goals clear h₀; dsimp only [handleCommit]
  · obtain ⟨e, he, hb⟩ := entry_of_countMessages_storeVote st (Nat.lt_of_lt_of_le (quorumSize_pos _) h₃)
    simp only [storeVote_of_entry st he hb] at h₃ ⊢
    simp_all [storeVote, markCommitted, countCommitMessages, countMessages, byzantineThreshold,
      PbftLogEntry.countVotes, AList.insert_insert, insertCert_idem]
  · simp only [storeVote_currentView, storeVote_config, storeVote_idem, if_neg h₁, h₂, if_neg h₃, not_true_eq_false,
      if_false]

theorem handleViewChange_idem (newView : Nat) (validatorId : NodeId) (signature : Signature)
    (h : st.handleViewChange newView validatorId signature = .ok (st', out)) :
    st'.handleViewChange newView validatorId signature = .ok (st', out) := by
  have h₀ := h
  dsimp only [handleViewChange] at h
  split_ifs at h with h₁ h₂ h₃ <;> cases h <;> try exact h₀
  all_goals clear h₀; dsimp only [handleViewChange]
  all_goals simp_all [List.insert_of_mem, byzantineThreshold, isPrimary]

theorem handleNewView_idem (view : Nat) (viewChangeMessages : List ConsensusMessage)
    (h : st.handleNewView view viewChangeMessages = .ok (st', out)) :
    st'.handleNewView view viewChangeMessages = .ok (st', out) := by
  simp only [handleNewView, Except.ok.injEq, Prod.mk.injEq] at h ⊢
  obtain ⟨rfl, rfl⟩ := h
  simp

theorem processMessage_replay {m : ConsensusMessage} (h : st.processMessage C m = .ok (st', out)) :
    st'.processMessage C m = .ok (st', out) := by
  cases m with
  | propose block round view => exact handlePrePrepare_idem C st h
  | vote blockHash t round view validatorId signature =>
      cases t
      · exact handlePrepare_idem st h
      · exact handleCommit_idem st h
  | viewChange newView validatorId signature => exact handleViewChange_idem st newView validatorId signature h
  | newView view viewChangeMessages => exact handleNewView_idem st view viewChangeMessages h

end Handlers

theorem process_message_idempotent (m : ConsensusMessage) :
    (st.apply C (.process m)).apply C (.process m) = st.apply C (.process m) := by
  rcases apply_process_cases C st m with h | ⟨out, h⟩
  · rw [h, h]
  · generalize st.apply C (.process m) = st' at h ⊢
    simp only [apply, processMessage_replay C st h]

end PbftEngine

end BlockchainNode

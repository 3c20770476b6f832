import BlockchainNode.Consensus.Pbft

namespace BlockchainNode

def LogGrows (log log' : Nat × Nat → Option PbftLogEntry) : Prop :=
  ∀ key e, log key = some e → ∃ e', log' key = some e' ∧ e'.blockHash = e.blockHash

theorem LogGrows.refl (log : Nat × Nat → Option PbftLogEntry) : LogGrows log log :=
  fun _ e he => ⟨e, he, rfl⟩

theorem LogGrows.trans {l₁ l₂ l₃ : Nat × Nat → Option PbftLogEntry} (h₁ : LogGrows l₁ l₂)
    (h₂ : LogGrows l₂ l₃) : LogGrows l₁ l₃ := by
  intro key e he
  obtain ⟨e₂, he₂, hb₂⟩ := h₁ key e he
  obtain ⟨e₃, he₃, hb₃⟩ := h₂ key e₂ he₂
  exact ⟨e₃, he₃, hb₃.trans hb₂⟩

def EntryWF (vs : List NodeId) (view sequence : Nat) (blockHash : Hash)
    (messages : AList (fun _ : NodeId => ConsensusMessage)) : Prop :=
  ∀ k msg, messages.lookup k = some msg → k ∈ vs ∧
    ∀ t, isVoteOf t msg = true → ∃ sig, msg = .vote blockHash t sequence view k sig

def LogWF (vs : List NodeId) (log : Nat × Nat → Option PbftLogEntry) : Prop :=
  ∀ view sequence e, log (view, sequence) = some e → EntryWF vs view sequence e.blockHash e.messages

def VotesIn (R : List ConsensusMessage) (log : Nat × Nat → Option PbftLogEntry) : Prop :=
  ∀ key e k msg t, log key = some e → e.messages.lookup k = some msg → isVoteOf t msg = true → msg ∈ R

theorem EntryWF.insert {vs : List NodeId} {view sequence : Nat} {blockHash : Hash}
    {messages : AList (fun _ : NodeId => ConsensusMessage)} (he : EntryWF vs view sequence blockHash messages)
    {k : NodeId} {msg : ConsensusMessage} (hk : k ∈ vs)
    (hmsg : ∀ t, isVoteOf t msg = true → ∃ sig, msg = .vote blockHash t sequence view k sig) :
    EntryWF vs view sequence blockHash (messages.insert k msg) := by
  intro k' msg' hl
  rcases lookup_insert_iff.mp hl with ⟨rfl, rfl⟩ | ⟨-, hl⟩
  · exact ⟨hk, hmsg⟩
  · exact he k' msg' hl

theorem EntryWF.empty (vs : List NodeId) (view sequence : Nat) (blockHash : Hash) :
    EntryWF vs view sequence blockHash ∅ := by
  intro k msg hl
  simp [AList.lookup_empty] at hl

def CommitVotes (vs : List NodeId) (view sequence : Nat) (blockHash : Hash)
    (messages : AList (fun _ : NodeId => ConsensusMessage)) : Prop :=
  ∃ K : List NodeId, K.Nodup ∧ K ⊆ vs ∧ quorumSize vs.length ≤ K.length ∧
    ∀ k ∈ K, ∃ sig, messages.lookup k = some (.vote blockHash .commit sequence view k sig)

theorem EntryWF.mem_votersIn {vs : List NodeId} {view sequence : Nat} {blockHash : Hash}
    {messages : AList (fun _ : NodeId => ConsensusMessage)} (he : EntryWF vs view sequence blockHash messages)
    {t : VoteType} {k : NodeId} (hk : k ∈ votersIn messages t) :
    k ∈ vs ∧ ∃ sig, messages.lookup k = some (.vote blockHash t sequence view k sig) := by
  obtain ⟨msg, hl, ht⟩ := lookup_of_mem_votersIn hk
  obtain ⟨sig, rfl⟩ := (he k msg hl).2 t ht
  exact ⟨(he k _ hl).1, sig, hl⟩

def QuorumVotes (vs : List NodeId) (t : VoteType) (view sequence : Nat) (blockHash : Hash)
    (messages : AList (fun _ : NodeId => ConsensusMessage)) : Prop :=
  ∃ K : List NodeId, K.Nodup ∧ K ⊆ vs ∧ quorumSize vs.length ≤ K.length ∧
    ∀ k ∈ K, ∃ sig, messages.lookup k = some (.vote blockHash t sequence view k sig)

theorem EntryWF.quorumVotes {vs : List NodeId} {view sequence : Nat} {blockHash : Hash}
    {messages : AList (fun _ : NodeId => ConsensusMessage)} (he : EntryWF vs view sequence blockHash messages)
    {t : VoteType} (hq : quorumSize vs.length ≤ countVotesIn messages t) :
    QuorumVotes vs t view sequence blockHash messages :=
  ⟨votersIn messages t, votersIn_nodup _ _, fun _ hk => (he.mem_votersIn hk).1, by rwa [votersIn_length],
    fun _ hk => (he.mem_votersIn hk).2⟩

theorem EntryWF.commitVotes {vs : List NodeId} {view sequence : Nat} {blockHash : Hash}
    {messages : AList (fun _ : NodeId => ConsensusMessage)} (he : EntryWF vs view sequence blockHash messages)
    (hq : quorumSize vs.length ≤ countVotesIn messages .commit) :
    CommitVotes vs view sequence blockHash messages :=
  he.quorumVotes hq

def QuorumAt (st : PbftEngine) (t : VoteType) (c : Nat × Nat × Hash) : Prop :=
  ∃ e, st.messageLog (c.1, c.2.1) = some e ∧ e.blockHash = c.2.2 ∧ st.byzantineThreshold ≤ e.countVotes t

def PinnedBy (log : Nat × Nat → Option PbftLogEntry) (certs : Nat × Nat × Hash → Bool) : Prop :=
  ∀ c, certs c = true → ∃ e, log (c.1, c.2.1) = some e ∧ e.blockHash = c.2.2

section Update

variable {log : Nat × Nat → Option PbftLogEntry} {key : Nat × Nat} {e₀ e' : PbftLogEntry}

theorem LogGrows.update (h₀ : log key = some e₀) (hb : e'.blockHash = e₀.blockHash) :
    LogGrows log (Function.update log key (some e')) := by
  intro k e he
  by_cases hk : k = key
  · subst hk
    rw [h₀] at he
    cases he
    exact ⟨e', by simp, hb⟩
  · exact ⟨e, by simp [Function.update_noteq hk, he], rfl⟩

theorem LogWF.update {vs : List NodeId} (h : LogWF vs log)
    (he' : EntryWF vs key.1 key.2 e'.blockHash e'.messages) :
    LogWF vs (Function.update log key (some e')) := by
  intro v s e he
  by_cases hk : (v, s) = key
  · subst hk
    simp only [Function.update_same, Option.some.injEq] at he
    exact he ▸ he'
  · rw [Function.update_noteq hk] at he
    exact h v s e he

theorem VotesIn.update {R : List ConsensusMessage} (h : VotesIn R log)
    (he' : ∀ k msg t, e'.messages.lookup k = some msg → isVoteOf t msg = true → msg ∈ R) :
    VotesIn R (Function.update log key (some e')) := by
  intro k e x msg t he hl ht
  by_cases hk : k = key
  · subst hk
    simp only [Function.update_same, Option.some.injEq] at he
    exact he'  x msg t (he ▸ hl) ht
  · rw [Function.update_noteq hk] at he
    exact h k e x msg t he hl ht

theorem PinnedBy.grows {log' : Nat × Nat → Option PbftLogEntry} {certs : Nat × Nat × Hash → Bool}
    (h : PinnedBy log certs) (hg : LogGrows log log') : PinnedBy log' certs := by
  intro c hc
  obtain ⟨e, he, hb⟩ := h c hc
  obtain ⟨e₂, he₂, hb₂⟩ := hg _ e he
  exact ⟨e₂, he₂, hb₂.trans hb⟩

end Update

theorem VotesIn.mono {R R' : List ConsensusMessage} {log : Nat × Nat → Option PbftLogEntry}
    (h : VotesIn R log) (hR : R ⊆ R') : VotesIn R' log :=
  fun key e k msg t he hl ht => hR (h key e k msg t he hl ht)

structure StepEffect (st st' : PbftEngine) (m : ConsensusMessage) : Prop where
  config : st'.config = st.config
  grows : LogGrows st.messageLog st'.messageLog
  wf : LogWF st.config.validatorSet st.messageLog → LogWF st.config.validatorSet st'.messageLog
  votes : ∀ R, VotesIn R st.messageLog → VotesIn (m :: R) st'.messageLog
  prepared : ∀ c, st'.preparedCertificates c = true →
    st.preparedCertificates c = true ∨ QuorumAt st' .prepare c
  committed : ∀ c, st'.committedCertificates c = true →
    st.committedCertificates c = true ∨ QuorumAt st' .commit c

namespace StepEffect

variable {st st₁ : PbftEngine} {m : ConsensusMessage}

theorem of_eq {st' : PbftEngine} (hc : st'.config = st.config) (hl : st'.messageLog = st.messageLog)
    (hp : st'.preparedCertificates = st.preparedCertificates)
    (hk : st'.committedCertificates = st.committedCertificates) : StepEffect st st' m where
  config := hc
  grows := hl ▸ LogGrows.refl _
  wf := fun h => hl ▸ h
  votes := fun _ h => hl ▸ h.mono (List.subset_cons_self _ _)
  prepared := fun _ h => .inl (hp ▸ h)
  committed := fun _ h => .inl (hk ▸ h)

theorem insertPrepared (h : StepEffect st st₁ m) {c : Nat × Nat × Hash} (hq : QuorumAt st₁ .prepare c) :
    StepEffect st { st₁ with preparedCertificates := insertCert st₁.preparedCertificates c } m where
  config := h.config
  grows := h.grows
  wf := h.wf
  votes := h.votes
  prepared := by
    intro c' hc'
    simp only [insertCert, Bool.or_eq_true, beq_iff_eq] at hc'
    rcases hc' with rfl | hc'
    · exact .inr hq
    · exact (h.prepared c' hc').imp_right id
  committed := h.committed

theorem insertCommitted (h : StepEffect st st₁ m) {c : Nat × Nat × Hash} (hq : QuorumAt st₁ .commit c) :
    StepEffect st { st₁ with committedCertificates := insertCert st₁.committedCertificates c } m where
  config := h.config
  grows := h.grows
  wf := h.wf
  votes := h.votes
  prepared := h.prepared
  committed := by
    intro c' hc'
    simp only [insertCert, Bool.or_eq_true, beq_iff_eq] at hc'
    rcases hc' with rfl | hc'
    · exact .inr hq
    · exact (h.committed c' hc').imp_right id

theorem withSequence (h : StepEffect st st₁ m) (n : Nat) :
    StepEffect st { st₁ with currentSequence := n } m :=
  ⟨h.config, h.grows, h.wf, h.votes, h.prepared, h.committed⟩

end StepEffect

namespace PbftEngine

variable (C : Codec) (st : PbftEngine)

theorem recordProposal_messageLog (block : Block) (sequence view : Nat) :
    (st.recordProposal C block sequence view).messageLog =
      Function.update st.messageLog (view, sequence) (some
        { (st.messageLog (view, sequence)).getD
            { view, sequence, blockHash := block.hash C, phase := .prePrepare, messages := ∅ } with
          messages := ((st.messageLog (view, sequence)).getD
            { view, sequence, blockHash := block.hash C, phase := .prePrepare, messages := ∅ }).messages.insert
              block.header.proposer (.propose block sequence view) }) := rfl

theorem recordProposal_effect {block : Block} {sequence view : Nat}
    (hp : block.header.proposer ∈ st.config.validatorSet) (m : ConsensusMessage) :
    StepEffect st (st.recordProposal C block sequence view) m where
  config := rfl
  grows := by
    intro key e he
    rw [recordProposal_messageLog]
    by_cases hk : key = (view, sequence)
    · subst hk
      exact ⟨_, Function.update_same _ _ _, by simp [he]⟩
    · exact ⟨e, by rw [Function.update_noteq hk, he], rfl⟩
  wf := by
    intro hwf
    rw [recordProposal_messageLog]
    apply hwf.update
    apply EntryWF.insert _ hp (fun t ht => by simp [isVoteOf] at ht)
    rcases hold : st.messageLog (view, sequence) with _ | e₀
    · exact EntryWF.empty _ _ _ _
    · exact hwf view sequence e₀ hold
  votes := by
    intro R hR
    rw [recordProposal_messageLog]
    apply (hR.mono (List.subset_cons_self _ _)).update
    intro k msg t hl ht
    rcases lookup_insert_iff.mp hl with ⟨rfl, rfl⟩ | ⟨-, hl⟩
    · simp [isVoteOf] at ht
    · rcases hold : st.messageLog (view, sequence) with _ | e₀ <;> simp only [hold, Option.getD] at hl
      · simp [AList.lookup_empty] at hl
      · exact List.mem_cons_of_mem _ (hR _ e₀ k msg t hold hl ht)
  prepared := fun _ h => .inl h
  committed := fun _ h => .inl h

theorem storeVote_effect {t : VoteType} {phase : PbftPhase} {blockHash : Hash} {sequence view : Nat}
    {validatorId : NodeId} {signature : Signature} (hv : validatorId ∈ st.config.validatorSet) :
    StepEffect st (st.storeVote t phase blockHash sequence view validatorId signature)
      (.vote blockHash t sequence view validatorId signature) := by
  unfold storeVote
  split
  · next e₀ he₀ =>
      split
      · next hb =>
          refine ⟨rfl, LogGrows.update he₀ rfl, fun hwf => hwf.update ?_, fun R hR => ?_,
            fun _ h => .inl h, fun _ h => .inl h⟩
          · refine (hwf _ _ e₀ he₀).insert hv fun t' ht' => ⟨signature, ?_⟩
            simp only [isVoteOf, beq_iff_eq] at ht'
            rw [ht', hb]
          · apply (hR.mono (List.subset_cons_self _ _)).update
            intro k msg t' hl ht'
            rcases lookup_insert_iff.mp hl with ⟨rfl, rfl⟩ | ⟨-, hl⟩
            · exact List.mem_cons_self _ _
            · exact List.mem_cons_of_mem _ (hR _ e₀ k msg t' he₀ hl ht')
      · exact StepEffect.of_eq rfl rfl rfl rfl
  · exact StepEffect.of_eq rfl rfl rfl rfl

theorem markCommitted_messageLog (key k : Nat × Nat) :
    (st.markCommitted key).messageLog k =
      (st.messageLog k).map fun e => if k = key then { e with phase := .committed } else e := by
  unfold markCommitted
  split
  · next e he =>
      by_cases hk : k = key
      · subst hk; simp [he]
      · simp [Function.update_noteq hk, hk]
  · next he =>
      by_cases hk : k = key
      · subst hk; simp [he]
      · simp [hk]

theorem markCommitted_quorumAt {t : VoteType} {c : Nat × Nat × Hash} (key : Nat × Nat)
    (h : QuorumAt st t c) : QuorumAt (st.markCommitted key) t c := by
  obtain ⟨e, he, hb, hq⟩ := h
  refine ⟨if (c.1, c.2.1) = key then { e with phase := .committed } else e, ?_, ?_, ?_⟩
  · simp [markCommitted_messageLog, he]
  · split <;> exact hb
  · split <;> simpa [byzantineThreshold, PbftLogEntry.countVotes, countVotesIn] using hq

end PbftEngine

theorem StepEffect.markCommitted {st₀ st : PbftEngine} {m : ConsensusMessage} (h : StepEffect st₀ st m)
    (key : Nat × Nat) : StepEffect st₀ (st.markCommitted key) m where
  config := by simp [h.config]
  grows := by
    refine h.grows.trans fun k e he => ⟨_, by rw [PbftEngine.markCommitted_messageLog, he]; rfl, ?_⟩
    split <;> rfl
  wf := by
    intro hwf v s e he
    rw [PbftEngine.markCommitted_messageLog, Option.map_eq_some'] at he
    obtain ⟨e₀, he₀, rfl⟩ := he
    have := h.wf hwf v s e₀ he₀
    split <;> exact this
  votes := by
    intro R hR k e x msg t he hl ht
    rw [PbftEngine.markCommitted_messageLog, Option.map_eq_some'] at he
    obtain ⟨e₀, he₀, rfl⟩ := he
    exact h.votes R hR k e₀ x msg t he₀ (by split at hl <;> exact hl) ht
  prepared := fun c hc => (h.prepared c (by simpa using hc)).imp_right (PbftEngine.markCommitted_quorumAt _ _)
  committed := fun c hc => (h.committed c (by simpa using hc)).imp_right (PbftEngine.markCommitted_quorumAt _ _)

namespace PbftEngine

variable (C : Codec) (st : PbftEngine)

theorem quorumAt_of_count {t : VoteType} {view sequence : Nat} {blockHash : Hash}
    (h : st.byzantineThreshold ≤ st.countMessages t view sequence blockHash) :
    QuorumAt st t (view, sequence, blockHash) := by
  obtain ⟨e, he, hb, hc⟩ := st.countMessages_pos (Nat.lt_of_lt_of_le (quorumSize_pos _) h)
  exact ⟨e, he, hb, hc ▸ h⟩

theorem proposer_mem_of_isPrimary {n : NodeId} {view : Nat} (h : st.isPrimary n view = true) :
    n ∈ st.config.validatorSet :=
  roundRobin_mem (by simpa [isPrimary] using h)

theorem handlePrePrepare_effect {block : Block} {sequence view : Nat} {st' : PbftEngine}
    {out : List ConsensusMessage} (h : st.handlePrePrepare C block sequence view = .ok (st', out)) :
    StepEffect st st' (.propose block sequence view) := by
  dsimp only [handlePrePrepare] at h
  split_ifs at h with h₁ h₂ h₃ <;> cases h
  · exact StepEffect.of_eq rfl rfl rfl rfl
  all_goals exact recordProposal_effect C st (st.proposer_mem_of_isPrimary (by simpa using h₂)) _

theorem handlePrepare_effect {blockHash : Hash} {sequence view : Nat} {validatorId : NodeId}
    {signature : Signature} {st' : PbftEngine} {out : List ConsensusMessage}
    (h : st.handlePrepare blockHash sequence view validatorId signature = .ok (st', out)) :
    StepEffect st st' (.vote blockHash .prepare sequence view validatorId signature) := by
  dsimp only [handlePrepare] at h
  split_ifs at h with h₁ h₂ h₃ <;> cases h
  all_goals first
    | exact StepEffect.of_eq rfl rfl rfl rfl
    | exact (st.storeVote_effect h₂).insertPrepared (quorumAt_of_count _ h₃)
    | exact st.storeVote_effect h₂

theorem handleCommit_effect {blockHash : Hash} {sequence view : Nat} {validatorId : NodeId}
    {signature : Signature} {st' : PbftEngine} {out : List ConsensusMessage}
    (h : st.handleCommit blockHash sequence view validatorId signature = .ok (st', out)) :
    StepEffect st st' (.vote blockHash .commit sequence view validatorId signature) := by
  dsimp only [handleCommit] at h
  split_ifs at h with h₁ h₂ h₃ <;> cases h
  all_goals first
    | exact StepEffect.of_eq rfl rfl rfl rfl
    | exact (((st.storeVote_effect h₂).insertCommitted (quorumAt_of_count _ h₃)).markCommitted _).withSequence _
    | exact st.storeVote_effect h₂

theorem processMessage_effect {m : ConsensusMessage} {st' : PbftEngine} {out : List ConsensusMessage}
    (h : st.processMessage C m = .ok (st', out)) : StepEffect st st' m := by
  cases m with
  | propose block round view => exact st.handlePrePrepare_effect C h
  | vote blockHash t round view validatorId signature =>
      cases t
      · exact st.handlePrepare_effect h
      · exact st.handleCommit_effect h
  | viewChange newView validatorId signature =>
      simp only [processMessage, handleViewChange] at h
      split_ifs at h <;> cases h <;> exact StepEffect.of_eq rfl rfl rfl rfl
  | newView view msgs =>
      simp only [processMessage, handleNewView, Except.ok.injEq, Prod.mk.injEq] at h
      obtain ⟨rfl, rfl⟩ := h
      exact StepEffect.of_eq rfl rfl rfl rfl

theorem processMessage_outputs {m : ConsensusMessage} {st' : PbftEngine} {out : List ConsensusMessage}
    (h : st.processMessage C m = .ok (st', out)) {blockHash : Hash} {t : VoteType} {sequence view : Nat}
    {validatorId : NodeId} {signature : Signature}
    (hm : .vote blockHash t sequence view validatorId signature ∈ out) :
    validatorId = st.config.nodeId ∧ (t = .commit → QuorumAt st' .prepare (view, sequence, blockHash)) := by
  cases m with
  | propose block round view =>
      dsimp only [processMessage, handlePrePrepare] at h
      split_ifs at h <;> cases h <;> simp_all
  | vote blockHash t round view validatorId signature =>
      cases t
      · dsimp only [processMessage, handlePrepare] at h
        split_ifs at h with h₁ h₂ h₃ <;> cases h <;> simp at hm
        obtain ⟨rfl, rfl, rfl, rfl, rfl, rfl⟩ := hm
        exact ⟨by simp, fun _ => quorumAt_of_count _ h₃⟩
      · dsimp only [processMessage, handleCommit] at h
        split_ifs at h <;> cases h <;> simp at hm
  | viewChange newView validatorId signature =>
      dsimp only [processMessage, handleViewChange] at h
      split_ifs at h <;> cases h <;> simp at hm
  | newView view msgs =>
      simp only [processMessage, handleNewView, Except.ok.injEq, Prod.mk.injEq] at h
      obtain ⟨rfl, rfl⟩ := h
      simp at hm

theorem processMessage_viewChangeVotes {m : ConsensusMessage} {st' : PbftEngine} {out : List ConsensusMessage}
    (h : st.processMessage C m = .ok (st', out)) {view : Nat} {k : NodeId} (hk : k ∈ st'.viewChangeVotes view) :
    k ∈ st.viewChangeVotes view ∨ k ∈ st.config.validatorSet := by
  cases m with
  | propose block round v =>
      dsimp only [processMessage, handlePrePrepare] at h
      split_ifs at h <;> cases h <;> exact .inl (by simpa only [recordProposal_viewChangeVotes] using hk)
  | vote blockHash t round v validatorId signature =>
      cases t <;> dsimp only [processMessage, handlePrepare, handleCommit] at h <;> split_ifs at h <;> cases h <;>
        exact .inl (by simpa only [storeVote_viewChangeVotes, markCommitted_viewChangeVotes] using hk)
  | viewChange newView validatorId signature =>
      dsimp only [processMessage, handleViewChange] at h
      split_ifs at h with hv <;> cases h
      all_goals first
        | exact .inl hk
        | simp only [Function.update_apply] at hk
          split_ifs at hk with hn
          · subst hn
            rcases List.mem_insert_iff.mp hk with rfl | hk
            · exact .inr hv
            · exact .inl hk
          · exact .inl hk
  | newView v msgs =>
      simp only [processMessage, handleNewView, Except.ok.injEq, Prod.mk.injEq] at h
      obtain ⟨rfl, rfl⟩ := h
      simp only [Function.update_apply] at hk
      split_ifs at hk
      · exact absurd hk (List.not_mem_nil _)
      · exact .inl hk

theorem cleanupOldLogs_messageLog (k : Nat) (key : Nat × Nat) :
    (st.cleanupOldLogs k).messageLog key =
      if st.currentSequence ≤ k ∨ st.currentSequence - k ≤ key.2 then st.messageLog key else none := by
  unfold cleanupOldLogs
  by_cases h : st.currentSequence ≤ k <;> simp [h]

theorem cleanupOldLogs_certs (k : Nat) (c : Nat × Nat × Hash) :
    ((st.cleanupOldLogs k).preparedCertificates c = true → st.preparedCertificates c = true ∧
      (st.currentSequence ≤ k ∨ st.currentSequence - k ≤ c.2.1)) ∧
    ((st.cleanupOldLogs k).committedCertificates c = true → st.committedCertificates c = true ∧
      (st.currentSequence ≤ k ∨ st.currentSequence - k ≤ c.2.1)) := by
  unfold cleanupOldLogs
  by_cases h : st.currentSequence ≤ k <;> simp +contextual [h]

end PbftEngine

end BlockchainNode

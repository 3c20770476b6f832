import BlockchainNode.Consensus.PbftInvariants

namespace BlockchainNode

inductive PbftOp where
  | process (m : ConsensusMessage)
  | cleanup (keepLastN : Nat)

namespace PbftEngine

variable (C : Codec)

def apply (st : PbftEngine) : PbftOp → PbftEngine
  | .process m =>
      match st.processMessage C m with
      | .ok (st', _) => st'
      | .error _ => st
  | .cleanup k => st.cleanupOldLogs k

def run (st : PbftEngine) (ops : List PbftOp) : PbftEngine := ops.foldl (apply C) st

def Step (st st' : PbftEngine) : Prop := ∃ op, st' = st.apply C op

def Reachable (config : ConsensusConfig) (st : PbftEngine) : Prop :=
  Relation.ReflTransGen (Step C) (new config) st

def Purges (st : PbftEngine) (keepLastN sequence : Nat) : Prop :=
  keepLastN < st.currentSequence ∧ sequence < st.currentSequence - keepLastN

def KeepsStep (sequence : Nat) (st st' : PbftEngine) : Prop :=
  ∃ op, st' = st.apply C op ∧ ∀ k, op = .cleanup k → ¬ st.Purges k sequence

structure Invariant (st : PbftEngine) : Prop where
  wf : LogWF st.config.validatorSet st.messageLog
  prepared : PinnedBy st.messageLog st.preparedCertificates
  committed : PinnedBy st.messageLog st.committedCertificates

theorem invariant_new (config : ConsensusConfig) : (new config).Invariant :=
  ⟨fun _ _ _ h => (nomatch h), fun _ h => (nomatch h), fun _ h => (nomatch h)⟩

theorem apply_process_cases (st : PbftEngine) (m : ConsensusMessage) :
    st.apply C (.process m) = st ∨
      ∃ out, st.processMessage C m = .ok (st.apply C (.process m), out) := by
  simp only [apply]
  split
  · next st' out h => exact .inr ⟨out, h⟩
  · exact .inl rfl

theorem Invariant.step {st st' : PbftEngine} {m : ConsensusMessage} (hi : st.Invariant)
    (h : StepEffect st st' m) : st'.Invariant where
  wf := h.config ▸ h.wf hi.wf
  prepared := by
    intro c hc
    rcases h.prepared c hc with hc | ⟨e, he, hb, -⟩
    · exact (hi.prepared.grows h.grows) c hc
    · exact ⟨e, he, hb⟩
  committed := by
    intro c hc
    rcases h.committed c hc with hc | ⟨e, he, hb, -⟩
    · exact (hi.committed.grows h.grows) c hc
    · exact ⟨e, he, hb⟩

theorem Invariant.cleanupOldLogs {st : PbftEngine} (hi : st.Invariant) (k : Nat) :
    (st.cleanupOldLogs k).Invariant where
  wf := by
    intro v s e he
    rw [cleanupOldLogs_messageLog] at he
    split at he
    · exact (cleanupOldLogs_config st k).symm ▸ hi.wf v s e he
    · cases he
  prepared := by
    intro c hc
    obtain ⟨hc, hcut⟩ := (st.cleanupOldLogs_certs k c).1 hc
    obtain ⟨e, he, hb⟩ := hi.prepared c hc
    exact ⟨e, by rw [cleanupOldLogs_messageLog, if_pos hcut, he], hb⟩
  committed := by
    intro c hc
    obtain ⟨hc, hcut⟩ := (st.cleanupOldLogs_certs k c).2 hc
    obtain ⟨e, he, hb⟩ := hi.committed c hc
    exact ⟨e, by rw [cleanupOldLogs_messageLog, if_pos hcut, he], hb⟩

theorem Invariant.apply {st : PbftEngine} (hi : st.Invariant) (op : PbftOp) :
    (st.apply C op).Invariant := by
  cases op with
  | process m =>
      rcases apply_process_cases C st m with h | ⟨out, h⟩
      · rw [h]; exact hi
      · exact hi.step (processMessage_effect C st h)
  | cleanup k => exact hi.cleanupOldLogs k

theorem apply_new_certificate (st : PbftEngine) (op : PbftOp) (c : Nat × Nat × Hash) :
    ((st.apply C op).preparedCertificates c = true →
      st.preparedCertificates c = true ∨ QuorumAt (st.apply C op) .prepare c) ∧
    ((st.apply C op).committedCertificates c = true →
      st.committedCertificates c = true ∨ QuorumAt (st.apply C op) .commit c) := by
  cases op with
  | process m =>
      rcases apply_process_cases C st m with h | ⟨out, h⟩
      · rw [h]; exact ⟨.inl, .inl⟩
      · exact ⟨(processMessage_effect C st h).prepared c, (processMessage_effect C st h).committed c⟩
  | cleanup k =>
      exact ⟨fun h => .inl ((st.cleanupOldLogs_certs k c).1 h).1, fun h => .inl ((st.cleanupOldLogs_certs k c).2 h).1⟩

theorem Reachable.invariant {config : ConsensusConfig} {st : PbftEngine} (h : Reachable C config st) :
    st.Invariant := by
  induction h with
  | refl => exact invariant_new config
  | tail _ hs ih =>
      obtain ⟨op, rfl⟩ := hs
      exact ih.apply C op

theorem Reachable.viewChangeVotes_mem {config : ConsensusConfig} {st : PbftEngine} (h : Reachable C config st)
    {view : Nat} {k : NodeId} (hk : k ∈ st.viewChangeVotes view) : k ∈ st.config.validatorSet := by
  induction h generalizing view k with
  | refl => exact absurd hk (List.not_mem_nil _)
  | tail _ hs ih =>
      obtain ⟨op, rfl⟩ := hs
      cases op with
      | process m =>
          rcases apply_process_cases C _ m with h | ⟨out, h⟩
          · rw [h] at hk ⊢; exact ih hk
          · rw [(processMessage_effect C _ h).config]
            exact (processMessage_viewChangeVotes C _ h hk).elim ih id
      | cleanup k' =>
          rw [apply, cleanupOldLogs_config]
          exact ih (by simpa [apply] using hk)

structure ValidatorBacked (st : PbftEngine) : Prop where
  messageKeys : ∀ key e k, st.messageLog key = some e → k ∈ e.messages → k ∈ st.config.validatorSet
  viewChangeVoters : ∀ view k, k ∈ st.viewChangeVotes view → k ∈ st.config.validatorSet
  prepared : ∀ op c, st.preparedCertificates c = false → (st.apply C op).preparedCertificates c = true →
    ∃ e, (st.apply C op).messageLog (c.1, c.2.1) = some e ∧ e.blockHash = c.2.2 ∧
      QuorumVotes (st.apply C op).config.validatorSet .prepare c.1 c.2.1 c.2.2 e.messages
  committed : ∀ op c, st.committedCertificates c = false → (st.apply C op).committedCertificates c = true →
    ∃ e, (st.apply C op).messageLog (c.1, c.2.1) = some e ∧ e.blockHash = c.2.2 ∧
      QuorumVotes (st.apply C op).config.validatorSet .commit c.1 c.2.1 c.2.2 e.messages

theorem Reachable.tail {config : ConsensusConfig} {st st' : PbftEngine} (h : Reachable C config st)
    (hs : Relation.ReflTransGen (Step C) st st') : Reachable C config st' :=
  Relation.ReflTransGen.trans h hs

theorem keepsStep_entry {s : Nat} {st st' : PbftEngine} (hs : KeepsStep C s st st') {v : Nat}
    {e : PbftLogEntry} (he : st.messageLog (v, s) = some e) :
    ∃ e', st'.messageLog (v, s) = some e' ∧ e'.blockHash = e.blockHash := by
  obtain ⟨op, rfl, hkeep⟩ := hs
  cases op with
  | process m =>
      rcases apply_process_cases C st m with h | ⟨out, h⟩
      · exact ⟨e, by rw [h]; exact he, rfl⟩
      · exact (processMessage_effect C st h).grows _ e he
  | cleanup k =>
      refine ⟨e, ?_, rfl⟩
      have hk := hkeep k rfl
      rw [apply, cleanupOldLogs_messageLog, if_pos, he]
      simp only [Purges, not_and, not_lt] at hk
      omega

theorem run_steps (st : PbftEngine) (ops : List PbftOp) :
    Relation.ReflTransGen (Step C) st (st.run C ops) := by
  induction ops generalizing st with
  | nil => exact .refl
  | cons op ops ih => exact Relation.ReflTransGen.head ⟨op, rfl⟩ (ih (st.apply C op))

theorem run_append (st : PbftEngine) (ops₁ ops₂ : List PbftOp) :
    st.run C (ops₁ ++ ops₂) = (st.run C ops₁).run C ops₂ := List.foldl_append _ _ _ _

theorem keeps_entry_run {s : Nat} {st₁ st₂ : PbftEngine} (hrun : Relation.ReflTransGen (KeepsStep C s) st₁ st₂)
    {v : Nat} {e : PbftLogEntry} (he : st₁.messageLog (v, s) = some e) :
    ∃ e', st₂.messageLog (v, s) = some e' ∧ e'.blockHash = e.blockHash := by
  induction hrun with
  | refl => exact ⟨e, he, rfl⟩
  | tail _ hs ih =>
      obtain ⟨e₁, he₁, hb₁⟩ := ih
      obtain ⟨e₂, he₂, hb₂⟩ := keepsStep_entry C hs he₁
      exact ⟨e₂, he₂, hb₂.trans hb₁⟩

theorem steps_of_keeps {s : Nat} {st₁ st₂ : PbftEngine} (hrun : Relation.ReflTransGen (KeepsStep C s) st₁ st₂) :
    Relation.ReflTransGen (Step C) st₁ st₂ :=
  hrun.mono fun _ _ ⟨op, h, _⟩ => ⟨op, h⟩

theorem pinned_hash_eq {st₁ st₂ : PbftEngine} {v s : Nat} {h h' : Hash}
    (hrun : Relation.ReflTransGen (KeepsStep C s) st₁ st₂)
    (h₁ : ∃ e, st₁.messageLog (v, s) = some e ∧ e.blockHash = h)
    (h₂ : ∃ e, st₂.messageLog (v, s) = some e ∧ e.blockHash = h') : h = h' := by
  obtain ⟨e₁, he₁, rfl⟩ := h₁
  obtain ⟨e₂, he₂, rfl⟩ := h₂
  obtain ⟨e, he, hb⟩ := keeps_entry_run C hrun he₁
  rw [he₂] at he
  cases he
  exact hb.symm

theorem recorded_hash_unique {config : ConsensusConfig} {st₁ st₂ : PbftEngine} {v s : Nat} {h h' : Hash}
    (hr : Reachable C config st₁) (hrun : Relation.ReflTransGen (KeepsStep C s) st₁ st₂) :
    (st₁.isPrepared v s h = true → st₂.isPrepared v s h' = true → h = h') ∧
    (st₁.isCommitted v s h = true → st₂.isCommitted v s h' = true → h = h') := by
  have hi₁ := hr.invariant
  have hi₂ := (hr.tail C (steps_of_keeps C hrun)).invariant
  exact ⟨fun hp hp' => pinned_hash_eq C hrun (hi₁.prepared _ hp) (hi₂.prepared _ hp'),
    fun hc hc' => pinned_hash_eq C hrun (hi₁.committed _ hc) (hi₂.committed _ hc')⟩

def soloConfig : ConsensusConfig := validatorConfig "a" ["a"]

def pinFirstBlock : List PbftOp :=
  [.process (.propose (sampleBlock "a" 1 1) 0 0), .process (.vote 1 .prepare 0 0 "a" 0),
    .process (.vote 1 .commit 0 0 "a" 0)]

theorem pinned_hash_survives_reproposal :
    ((new soloConfig).run sampleCodec pinFirstBlock).isPrepared 0 0 1 = true ∧
    ∀ h', (((new soloConfig).run sampleCodec pinFirstBlock).apply sampleCodec
      (.process (.propose (sampleBlock "a" 1 2) 0 0))).isPrepared 0 0 h' = true → 1 = h' :=
  ⟨by decide, fun _ => (recorded_hash_unique sampleCodec (run_steps _ _ _)
    (.single ⟨_, rfl, fun _ h => PbftOp.noConfusion h⟩)).1 (by decide)⟩

def repinAfterCleanup : List PbftOp :=
  [.cleanup 0, .process (.propose (sampleBlock "a" 1 2) 0 0), .process (.vote 2 .prepare 0 0 "a" 0)]

theorem prepared_rehashed_after_cleanup :
    Reachable sampleCodec soloConfig ((new soloConfig).run sampleCodec pinFirstBlock) ∧
    Relation.ReflTransGen (Step sampleCodec) ((new soloConfig).run sampleCodec pinFirstBlock)
      ((new soloConfig).run sampleCodec (pinFirstBlock ++ repinAfterCleanup)) ∧
    ((new soloConfig).run sampleCodec pinFirstBlock).isPrepared 0 0 1 = true ∧
    ((new soloConfig).run sampleCodec (pinFirstBlock ++ repinAfterCleanup)).isPrepared 0 0 2 = true :=
  ⟨run_steps _ _ _, by rw [run_append]; exact run_steps _ _ _, by decide, by decide⟩

theorem certificates_backed_by_validators {config : ConsensusConfig} {st : PbftEngine} (hr : Reachable C config st) :
    ValidatorBacked C st := by
  have hi := hr.invariant
  have hquorum : ∀ {op t c}, QuorumAt (st.apply C op) t c →
      ∃ e, (st.apply C op).messageLog (c.1, c.2.1) = some e ∧ e.blockHash = c.2.2 ∧
        QuorumVotes (st.apply C op).config.validatorSet t c.1 c.2.1 c.2.2 e.messages :=
    fun ⟨e, he, hb, hq⟩ => ⟨e, he, hb, hb ▸ ((hi.apply C _).wf _ _ e he).quorumVotes hq⟩
  refine ⟨fun key e k he hk => ?_, fun _ _ hk => hr.viewChangeVotes_mem C hk, fun op c hc hc' => ?_,
    fun op c hc hc' => ?_⟩
  · obtain ⟨msg, hl⟩ := Option.isSome_iff_exists.mp (AList.lookup_isSome.mpr hk)
    exact (hi.wf key.1 key.2 e he k msg hl).1
  · exact hquorum (((apply_new_certificate C st op c).1 hc').resolve_left (by rw [hc]; decide))
  · exact hquorum (((apply_new_certificate C st op c).2 hc').resolve_left (by rw [hc]; decide))

theorem solo_run_validator_backed :
    Reachable sampleCodec soloConfig ((new soloConfig).run sampleCodec pinFirstBlock) ∧
    ValidatorBacked sampleCodec ((new soloConfig).run sampleCodec pinFirstBlock) :=
  ⟨run_steps _ _ _, certificates_backed_by_validators sampleCodec (run_steps _ _ _)⟩

def quadConfig : ConsensusConfig := validatorConfig "a" ["a", "b", "c", "d"]

def commitTwoSequences : List PbftOp :=
  [.process (.propose (sampleBlock "a" 1 10) 0 0), .process (.vote 10 .commit 0 0 "a" 0),
    .process (.vote 10 .commit 0 0 "b" 0), .process (.vote 10 .commit 0 0 "c" 0),
    .process (.propose (sampleBlock "a" 2 11) 1 0), .process (.vote 11 .commit 1 0 "a" 0),
    .process (.vote 11 .commit 1 0 "b" 0), .process (.vote 11 .commit 1 0 "c" 0)]

theorem late_commit_rewinds_sequence :
    ((new quadConfig).run sampleCodec commitTwoSequences).currentSequence = 2 ∧
    ((new quadConfig).run sampleCodec
      (commitTwoSequences ++ [.process (.vote 10 .commit 0 0 "d" 0)])).currentSequence = 1 := by
  decide

theorem new_view_without_votes :
    ((new quadConfig).apply sampleCodec (.process (.newView 5 []))).currentView = 5 ∧
    ((new quadConfig).apply sampleCodec (.process (.newView 5 []))).viewChangeVotes 5 = [] := by
  decide

theorem new_view_lowers_view :
    ((new quadConfig).run sampleCodec [.process (.newView 5 [])]).currentView = 5 ∧
    ((new quadConfig).run sampleCodec [.process (.newView 5 []), .process (.newView 2 [])]).currentView = 2 := by
  decide

theorem preprepare_prepares_unpinned_hash {st : PbftEngine} {block : Block} {sequence view : Nat} {e : PbftLogEntry}
    (he : st.messageLog (view, sequence) = some e) (hv : view = st.currentView)
    (hp : st.isPrimary block.header.proposer view = true) (hval : st.config.isValidator = true)
    (hn : st.config.nodeId ≠ block.header.proposer) :
    st.processMessage C (.propose block sequence view) =
      .ok ({ st with
          messageLog := Function.update st.messageLog (view, sequence)
            (some { e with messages := e.messages.insert block.header.proposer (.propose block sequence view) }) },
        [.vote (block.hash C) .prepare sequence view st.config.nodeId 0]) := by
  have hout : ((st.recordProposal C block sequence view).config.isValidator &&
      (st.recordProposal C block sequence view).config.nodeId != block.header.proposer) = true := by
    simp [hval, hn]
  simp only [processMessage, handlePrePrepare, if_neg (not_not.mpr hv), hp, Bool.not_true, if_neg Bool.false_ne_true, hout,
    if_true]
  simp only [recordProposal, he, Option.getD_some]

def replicaB : ConsensusConfig := validatorConfig "b" ["a", "b", "c", "d"]

theorem equivocating_primary_gets_two_prepares :
    (∃ st₁, (new replicaB).processMessage sampleCodec (.propose (sampleBlock "a" 1 1) 0 0) =
      .ok (st₁, [.vote 1 .prepare 0 0 "b" 0])) ∧
    ∃ e, ((new replicaB).apply sampleCodec (.process (.propose (sampleBlock "a" 1 1) 0 0))).messageLog (0, 0) = some e ∧
      e.blockHash = 1 ∧
      ((new replicaB).apply sampleCodec (.process (.propose (sampleBlock "a" 1 1) 0 0))).processMessage sampleCodec
        (.propose (sampleBlock "a" 1 2) 0 0) =
        .ok ({ (new replicaB).apply sampleCodec (.process (.propose (sampleBlock "a" 1 1) 0 0)) with
            messageLog := Function.update ((new replicaB).apply sampleCodec
              (.process (.propose (sampleBlock "a" 1 1) 0 0))).messageLog (0, 0)
              (some { e with messages := e.messages.insert "a" (.propose (sampleBlock "a" 1 2) 0 0) }) },
          [.vote 2 .prepare 0 0 "b" 0]) :=
  ⟨⟨_, rfl⟩, _, rfl, rfl, preprepare_prepares_unpinned_hash sampleCodec rfl rfl (by decide) rfl (by decide)⟩

def commitFirstBlock : List PbftOp :=
  [.process (.propose (sampleBlock "a" 1 10) 0 0), .process (.vote 10 .commit 0 0 "a" 0),
    .process (.vote 10 .commit 0 0 "b" 0), .process (.vote 10 .commit 0 0 "c" 0)]

theorem late_prepare_reverts_phase :
    (((new quadConfig).run sampleCodec commitFirstBlock).messageLog (0, 0)).map PbftLogEntry.phase = some .committed ∧
    (((new quadConfig).run sampleCodec (commitFirstBlock ++ [.process (.vote 10 .prepare 0 0 "d" 0)])).messageLog
      (0, 0)).map PbftLogEntry.phase = some .prepare := by
  decide

def proposeTen : ConsensusMessage := .propose (sampleBlock "a" 1 10) 0 0

def tenPrepares : List ConsensusMessage :=
  [.vote 10 .prepare 0 0 "a" 0, .vote 10 .prepare 0 0 "b" 0, .vote 10 .prepare 0 0 "c" 0]

def prepareThenCommit : List ConsensusMessage := proposeTen :: tenPrepares ++ [.vote 10 .commit 0 0 "a" 0]

def commitOverwritesPrepare : List ConsensusMessage :=
  [proposeTen, .vote 10 .prepare 0 0 "a" 0, .vote 10 .commit 0 0 "a" 0, .vote 10 .prepare 0 0 "b" 0,
    .vote 10 .prepare 0 0 "c" 0]

theorem prepared_depends_on_arrival_order :
    (proposeTen :: tenPrepares).Perm (tenPrepares ++ [proposeTen]) ∧
    ((new quadConfig).run sampleCodec ((proposeTen :: tenPrepares).map PbftOp.process)).isPrepared 0 0 10 = true ∧
    ((new quadConfig).run sampleCodec ((tenPrepares ++ [proposeTen]).map PbftOp.process)).isPrepared 0 0 10 = false ∧
    prepareThenCommit.Perm commitOverwritesPrepare ∧
    ((new quadConfig).run sampleCodec (prepareThenCommit.map .process)).isPrepared 0 0 10 = true ∧
    ((new quadConfig).run sampleCodec (commitOverwritesPrepare.map PbftOp.process)).isPrepared 0 0 10 = false := by
  decide

end PbftEngine

end BlockchainNode

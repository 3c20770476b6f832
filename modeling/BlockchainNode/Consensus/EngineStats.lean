import BlockchainNode.Consensus.EngineStorage
import BlockchainNode.Consensus.EngineAgreement
import BlockchainNode.JsonRpc

namespace BlockchainNode

structure StatsEngine where
  engine : ConsensusEngine
  stats : ConsensusStats
  mempoolStats : MempoolStats

def ConsensusMessage.isPropose : ConsensusMessage → Bool
  | .propose .. => true
  | _ => false

variable (C : Codec)

def ConsensusEngine.step (e : ConsensusEngine) : ConsensusEngine.Op → ConsensusEngine × List ConsensusMessage
  | .deliver message now =>
      let r := e.handleConsensusMessage C message now
      (r.state, r.sent)
  | .perform action => e.act C action

theorem ConsensusEngine.step_fst {C : Codec} (e : ConsensusEngine) (op : ConsensusEngine.Op) :
    (e.step C op).1 = e.apply C op := by
  cases op <;> rfl

namespace StatsEngine

def new (config : ConsensusConfig) (storage : Storage) (mempool : Mempool) (now : Timestamp) : StatsEngine :=
  ⟨ConsensusEngine.new config storage mempool now, .default, .default⟩

def getStats (s : StatsEngine) : ConsensusStats := s.stats

def mempool (s : StatsEngine) : StatsMempool := ⟨s.engine.mempool, s.mempoolStats⟩

@[simp] theorem mempool_pool (s : StatsEngine) : s.mempool.pool = s.engine.mempool := rfl

def keep (s : StatsEngine) (r : Outcome ConsensusEngine) : Outcome StatsEngine :=
  ⟨⟨r.state, s.stats, s.mempoolStats⟩, r.sent, r.result⟩

def commitBlock (s : StatsEngine) (blockHash : Hash) : Outcome StatsEngine :=
  match s.engine.pendingBlocks blockHash with
  | none => ⟨s, [], .error "Block not found in pending blocks"⟩
  | some block =>
      let e := s.engine
      let mempool := block.transactions.foldl (fun mempool tx => (mempool.removeTransaction C tx.id).1) s.mempool
      ⟨⟨{ e with
          storage := e.storage.storeBlock C block
          currentHeight := block.header.height
          mempool := mempool.pool
          pendingBlocks := Function.update e.pendingBlocks blockHash none
          state := .idle
          currentRound := wrappingAdd e.currentRound 1 },
        { s.stats with
          currentHeight := block.header.height
          totalBlocksCommitted := wrappingAdd s.stats.totalBlocksCommitted 1 },
        mempool.stats⟩, [], .ok ()⟩

def checkVoteThreshold (s : StatsEngine) (blockHash : Hash) (voteType : VoteType) (round view : Nat) :
    Outcome StatsEngine :=
  let requiredVotes := quorumSize s.engine.config.validatorSet.length
  if requiredVotes ≤ countVotesIn (s.engine.votes (view, round, blockHash)) voteType then
    match voteType with
    | .prepare => s.keep (s.engine.checkVoteThreshold C blockHash .prepare round view)
    | .commit => s.commitBlock C blockHash
  else s.keep (s.engine.checkVoteThreshold C blockHash voteType round view)

def handleVoteMessage (s : StatsEngine) (blockHash : Hash) (voteType : VoteType) (round view : Nat)
    (validatorId : NodeId) (signature : Signature) : Outcome StatsEngine :=
  if view ≠ s.engine.currentView ∨ round ≠ s.engine.currentRound then ⟨s, [], .ok ()⟩
  else if validatorId ∉ s.engine.config.validatorSet then ⟨s, [], .ok ()⟩
  else
    let voteKey := (view, round, blockHash)
    let voteMessage := ConsensusMessage.vote blockHash voteType round view validatorId signature
    checkVoteThreshold C ⟨s.engine.storeVote voteKey validatorId voteMessage, s.stats, s.mempoolStats⟩ blockHash voteType round view

def handleConsensusMessage (s : StatsEngine) (message : ConsensusMessage) (now : Timestamp) : Outcome StatsEngine :=
  match message with
  | .propose block round view => s.keep (s.engine.handleProposeMessage C block round view)
  | .vote blockHash voteType round view validatorId signature =>
      s.handleVoteMessage C blockHash voteType round view validatorId signature
  | .viewChange newView validatorId signature =>
      s.keep (s.engine.handleViewChangeMessage newView validatorId signature now)
  | .newView view viewChangeMessages => s.keep (s.engine.handleNewViewMessage view viewChangeMessages now)

def proposeBlock (s : StatsEngine) (timestamp : Timestamp) : Outcome StatsEngine :=
  let batch := s.mempool.getNextBatch C s.engine.config.maxTransactionsPerBlock s.engine.config.maxBlockSize
  let e := { s.engine with mempool := batch.1.pool }
  if batch.2.isEmpty then ⟨⟨e, s.stats, batch.1.stats⟩, [], .ok ()⟩
  else
    match e.createBlock C batch.2 (wrappingAdd e.currentHeight 1) e.currentView e.currentRound timestamp with
    | .error err => ⟨⟨e, s.stats, batch.1.stats⟩, [], .error err⟩
    | .ok block =>
        let proposal := ConsensusMessage.propose block e.currentRound e.currentView
        let e := { e with pendingBlocks := Function.update e.pendingBlocks (block.hash C) (some block) }
        ⟨⟨{ e with state := .proposing }, { s.stats with totalBlocksProposed := wrappingAdd s.stats.totalBlocksProposed 1 },
          batch.1.stats⟩, [proposal], .ok ()⟩

def consensusTick (s : StatsEngine) (now timestamp : Timestamp) : StatsEngine × List ConsensusMessage :=
  let proposed :=
    if s.engine.shouldProposeBlock now then
      let r := s.proposeBlock C timestamp
      (r.state, r.sent)
    else (s, [])
  if proposed.1.engine.shouldTriggerViewChange now then
    let r := proposed.1.keep proposed.1.engine.triggerViewChange
    (r.state, proposed.2 ++ r.sent)
  else proposed

def act (s : StatsEngine) : ConsensusEngine.LocalAction → StatsEngine × List ConsensusMessage
  | .tick now timestamp => s.consensusTick C now timestamp
  | .submitTransaction tx =>
      let mempool := (s.mempool.addTransaction C tx).1
      (⟨{ s.engine with mempool := mempool.pool }, s.stats, mempool.stats⟩, [])

def step (s : StatsEngine) : ConsensusEngine.Op → StatsEngine × List ConsensusMessage
  | .deliver message now =>
      let r := s.handleConsensusMessage C message now
      (r.state, r.sent)
  | .perform action => s.act C action

def run (s : StatsEngine) : List ConsensusEngine.Op → StatsEngine × List ConsensusMessage
  | [] => (s, [])
  | op :: ops =>
      let r := s.step C op
      let rest := r.1.run ops
      (rest.1, r.2 ++ rest.2)

def Reachable (start s : StatsEngine) : Prop :=
  Relation.ReflTransGen (fun s s' => ∃ op, s' = (s.step C op).1) start s

end StatsEngine

def Outcome.engine (r : Outcome StatsEngine) : Outcome ConsensusEngine := ⟨r.state.engine, r.sent, r.result⟩

section Refinement

namespace StatsEngine

variable {C} (s : StatsEngine)

theorem commitBlock_engine (blockHash : Hash) : (s.commitBlock C blockHash).engine = s.engine.commitBlock C blockHash := by
  unfold commitBlock ConsensusEngine.commitBlock
  cases s.engine.pendingBlocks blockHash with
  | none => rfl
  | some block =>
      dsimp only
      rw [StatsMempool.foldRemove_pool s.mempool fun tx : Transaction => tx.id]
      rfl

theorem checkVoteThreshold_engine (blockHash : Hash) (t : VoteType) (round view : Nat) :
    (s.checkVoteThreshold C blockHash t round view).engine = s.engine.checkVoteThreshold C blockHash t round view := by
  dsimp only [checkVoteThreshold]
  split
  · next hq =>
      cases t with
      | prepare => rfl
      | commit =>
          rw [commitBlock_engine]
          exact (if_pos hq).symm
  · rfl

theorem handleVoteMessage_engine (blockHash : Hash) (t : VoteType) (round view : Nat) (k : NodeId) (sig : Signature) :
    (s.handleVoteMessage C blockHash t round view k sig).engine = s.engine.handleVoteMessage C blockHash t round view k sig := by
  dsimp only [handleVoteMessage, ConsensusEngine.handleVoteMessage]
  split_ifs
  · rfl
  · exact checkVoteThreshold_engine _ blockHash t round view
  · rfl

theorem handleConsensusMessage_engine (m : ConsensusMessage) (now : Timestamp) :
    (s.handleConsensusMessage C m now).engine = s.engine.handleConsensusMessage C m now := by
  cases m with
  | vote blockHash t round view k sig => exact handleVoteMessage_engine s blockHash t round view k sig
  | _ => rfl

theorem proposeBlock_engine (timestamp : Timestamp) : (s.proposeBlock C timestamp).engine = s.engine.proposeBlock C timestamp := by
  unfold proposeBlock ConsensusEngine.proposeBlock
  rw [StatsMempool.getNextBatch_eq, mempool_pool]
  cases s.engine.mempool.getNextBatch C s.engine.config.maxTransactionsPerBlock s.engine.config.maxBlockSize with
  | mk mempool transactions =>
      dsimp only
      cases transactions.isEmpty
      · cases ({ s.engine with mempool } : ConsensusEngine).createBlock C transactions
          (wrappingAdd s.engine.currentHeight 1) s.engine.currentView s.engine.currentRound timestamp <;> rfl
      · rfl

theorem consensusTick_engine (now timestamp : Timestamp) :
    ((s.consensusTick C now timestamp).1.engine, (s.consensusTick C now timestamp).2) =
      s.engine.consensusTick C now timestamp := by
  have hp := @proposeBlock_engine C s timestamp
  have hs : (s.proposeBlock C timestamp).state.engine = (s.engine.proposeBlock C timestamp).state :=
    congrArg Outcome.state hp
  have ht : (s.proposeBlock C timestamp).sent = (s.engine.proposeBlock C timestamp).sent := congrArg Outcome.sent hp
  dsimp only [consensusTick, ConsensusEngine.consensusTick]
  split
  · dsimp only
    rw [hs, ht]
    split
    · rfl
    · exact Prod.ext hs rfl
  · split <;> rfl

theorem step_engine (op : ConsensusEngine.Op) : ((s.step C op).1.engine, (s.step C op).2) = s.engine.step C op := by
  cases op with
  | deliver m now =>
      have h := @handleConsensusMessage_engine C s m now
      exact Prod.ext (congrArg Outcome.state h) (congrArg Outcome.sent h)
  | perform a =>
      cases a with
      | tick now timestamp => exact consensusTick_engine s now timestamp
      | submitTransaction tx =>
          exact congrArg (fun m => (({ s.engine with mempool := m } : ConsensusEngine), ([] : List ConsensusMessage)))
            (congrArg Prod.fst (StatsMempool.addTransaction_pool s.mempool tx))

theorem apply_engine (op : ConsensusEngine.Op) : (s.step C op).1.engine = s.engine.apply C op := by
  rw [← ConsensusEngine.step_fst, ← step_engine]

theorem Reachable.engine {start : StatsEngine} (h : Reachable C start s) :
    ConsensusEngine.Reachable C start.engine s.engine := by
  induction h with
  | refl => exact .refl
  | tail _ hs ih =>
      obtain ⟨op, rfl⟩ := hs
      exact ih.tail ⟨op, apply_engine _ op⟩

theorem reachable_run (ops : List ConsensusEngine.Op) : Reachable C s (s.run C ops).1 := by
  induction ops generalizing s with
  | nil => exact .refl
  | cons op ops ih => exact .head ⟨op, rfl⟩ (ih _)

end StatsEngine

end Refinement

section Steps

namespace StatsEngine

structure Quiet (s s' : StatsEngine) (sent : List ConsensusMessage) : Prop where
  stats : s'.stats = s.stats
  round : s'.engine.currentRound = s.engine.currentRound
  height : s'.engine.currentHeight = s.engine.currentHeight
  sent : sent.countP ConsensusMessage.isPropose = 0

inductive StatsStep (s : StatsEngine) : StatsEngine → List ConsensusMessage → Prop
  | quiet {s' : StatsEngine} {sent : List ConsensusMessage} : Quiet s s' sent → StatsStep s s' sent
  | commit {s' : StatsEngine} {sent : List ConsensusMessage} (block : Block) :
      s'.stats = { s.stats with
        currentHeight := block.header.height
        totalBlocksCommitted := wrappingAdd s.stats.totalBlocksCommitted 1 } →
      s'.engine.currentRound = wrappingAdd s.engine.currentRound 1 → s'.engine.currentHeight = block.header.height →
      sent.countP ConsensusMessage.isPropose = 0 → StatsStep s s' sent
  | propose {s' : StatsEngine} {sent : List ConsensusMessage} :
      s'.stats = { s.stats with totalBlocksProposed := wrappingAdd s.stats.totalBlocksProposed 1 } →
      s'.engine.currentRound = s.engine.currentRound → s'.engine.currentHeight = s.engine.currentHeight →
      sent.countP ConsensusMessage.isPropose = 1 → StatsStep s s' sent

variable {C} {s : StatsEngine}

theorem countP_isPropose_eq_zero {sent : List ConsensusMessage}
    (h : ∀ block round view, .propose block round view ∉ sent) : sent.countP ConsensusMessage.isPropose = 0 :=
  List.countP_eq_zero.mpr fun x hx => by
    cases x with
    | propose block round view => exact absurd hx (h block round view)
    | _ => exact Bool.false_ne_true

theorem Quiet.refl (s : StatsEngine) : Quiet s s [] := ⟨rfl, rfl, rfl, rfl⟩

theorem StatsStep.append_quiet {s₁ s₂ : StatsEngine} {out₁ out₂ : List ConsensusMessage} (h : StatsStep s s₁ out₁)
    (hq : Quiet s₁ s₂ out₂) : StatsStep s s₂ (out₁ ++ out₂) := by
  cases h with
  | quiet h =>
      exact .quiet ⟨hq.stats.trans h.stats, hq.round.trans h.round, hq.height.trans h.height,
        by rw [List.countP_append, h.sent, hq.sent]⟩
  | commit block hs hr hh hc =>
      exact .commit block (hq.stats.trans hs) (hq.round.trans hr) (hq.height.trans hh)
        (by rw [List.countP_append, hc, hq.sent])
  | propose hs hr hh hc =>
      exact .propose (hq.stats.trans hs) (hq.round.trans hr) (hq.height.trans hh)
        (by rw [List.countP_append, hc, hq.sent])

theorem StatsStep.of_base {b s' : StatsEngine} {sent : List ConsensusMessage} (h : StatsStep b s' sent)
    (hs : b.stats = s.stats) (hr : b.engine.currentRound = s.engine.currentRound)
    (hh : b.engine.currentHeight = s.engine.currentHeight) : StatsStep s s' sent := by
  cases h with
  | quiet h => exact .quiet ⟨h.stats.trans hs, h.round.trans hr, h.height.trans hh, h.sent⟩
  | commit block h₁ h₂ h₃ h₄ => exact .commit block (by rw [h₁, hs]) (by rw [h₂, hr]) h₃ h₄
  | propose h₁ h₂ h₃ h₄ => exact .propose (by rw [h₁, hs]) (by rw [h₂, hr]) (by rw [h₃, hh]) h₄

theorem commitBlock_step (blockHash : Hash) : StatsStep s (s.commitBlock C blockHash).state (s.commitBlock C blockHash).sent := by
  unfold commitBlock
  split
  · exact .quiet (Quiet.refl s)
  · next block _ => exact .commit block rfl rfl rfl rfl

theorem checkVoteThreshold_step (blockHash : Hash) (t : VoteType) (round view : Nat) :
    StatsStep s (s.checkVoteThreshold C blockHash t round view).state (s.checkVoteThreshold C blockHash t round view).sent := by
  dsimp only [checkVoteThreshold, keep, ConsensusEngine.checkVoteThreshold]
  split
  · next hq =>
      cases t with
      | prepare =>
          rw [if_pos hq]
          exact .quiet ⟨rfl, rfl, rfl, rfl⟩
      | commit => exact commitBlock_step blockHash
  · exact .quiet (Quiet.refl s)

theorem handleVoteMessage_step (blockHash : Hash) (t : VoteType) (round view : Nat) (k : NodeId) (sig : Signature) :
    StatsStep s (s.handleVoteMessage C blockHash t round view k sig).state
      (s.handleVoteMessage C blockHash t round view k sig).sent := by
  dsimp only [handleVoteMessage]
  split_ifs
  · exact .quiet (Quiet.refl s)
  · exact (checkVoteThreshold_step blockHash t round view).of_base rfl rfl rfl
  · exact .quiet (Quiet.refl s)

theorem handleConsensusMessage_step (m : ConsensusMessage) (now : Timestamp) :
    StatsStep s (s.handleConsensusMessage C m now).state (s.handleConsensusMessage C m now).sent := by
  have hsent : (s.handleConsensusMessage C m now).sent.countP ConsensusMessage.isPropose = 0 := by
    have he : (s.handleConsensusMessage C m now).sent = (s.engine.handleConsensusMessage C m now).sent :=
      congrArg Outcome.sent (@handleConsensusMessage_engine C s m now)
    rw [he]
    exact countP_isPropose_eq_zero (ConsensusEngine.handleConsensusMessage_no_propose s.engine m now)
  cases m with
  | propose block round view =>
      refine .quiet ⟨rfl, (ConsensusEngine.handleProposeMessage_frame block round view).2.2, ?_, hsent⟩
      dsimp only [handleConsensusMessage, keep, ConsensusEngine.handleProposeMessage]
      split_ifs <;> rfl
  | vote blockHash t round view k sig => exact handleVoteMessage_step blockHash t round view k sig
  | viewChange newView k sig => exact .quiet ⟨rfl, rfl, rfl, hsent⟩
  | newView view msgs => exact .quiet ⟨rfl, rfl, rfl, hsent⟩

theorem proposeBlock_step (timestamp : Timestamp) :
    StatsStep s (s.proposeBlock C timestamp).state (s.proposeBlock C timestamp).sent := by
  dsimp only [proposeBlock]
  split
  · exact .quiet ⟨rfl, rfl, rfl, rfl⟩
  · split
    · exact .quiet ⟨rfl, rfl, rfl, rfl⟩
    · exact .propose rfl rfl rfl rfl

theorem triggerViewChange_quiet : Quiet s (s.keep s.engine.triggerViewChange).state (s.keep s.engine.triggerViewChange).sent :=
  ⟨rfl, ConsensusEngine.triggerViewChange_frame.2.2,
    by dsimp only [keep, ConsensusEngine.triggerViewChange]; split <;> rfl,
    countP_isPropose_eq_zero fun _ _ _ hx => by cases ConsensusEngine.triggerViewChange_sent hx⟩

theorem consensusTick_step (now timestamp : Timestamp) :
    StatsStep s (s.consensusTick C now timestamp).1 (s.consensusTick C now timestamp).2 := by
  have hview : ∀ {s₁ : StatsEngine} {out : List ConsensusMessage}, StatsStep s s₁ out →
      StatsStep s (if s₁.engine.shouldTriggerViewChange now then
        ((s₁.keep s₁.engine.triggerViewChange).state, out ++ (s₁.keep s₁.engine.triggerViewChange).sent)
        else (s₁, out)).1
      (if s₁.engine.shouldTriggerViewChange now then
        ((s₁.keep s₁.engine.triggerViewChange).state, out ++ (s₁.keep s₁.engine.triggerViewChange).sent)
        else (s₁, out)).2 := by
    intro s₁ out h
    split
    · exact h.append_quiet triggerViewChange_quiet
    · exact h
  dsimp only [consensusTick]
  split
  · exact hview (proposeBlock_step timestamp)
  · exact hview (.quiet (Quiet.refl s))

theorem step_cases (op : ConsensusEngine.Op) : StatsStep s (s.step C op).1 (s.step C op).2 := by
  cases op with
  | deliver m now => exact handleConsensusMessage_step m now
  | perform a =>
      cases a with
      | tick now timestamp => exact consensusTick_step now timestamp
      | submitTransaction tx => exact .quiet ⟨rfl, rfl, rfl, rfl⟩

end StatsEngine

end Steps

section Track

namespace StatsEngine

structure StatsTrack (s : StatsEngine) : Prop where
  currentView : s.stats.currentView = 0
  currentRound : s.stats.currentRound = 0
  totalViewChanges : s.stats.totalViewChanges = 0
  currentLeader : s.stats.currentLeader = none
  totalBlocksCommitted : s.stats.totalBlocksCommitted = s.engine.currentRound
  currentHeight : s.stats.currentHeight = s.engine.currentHeight ∨
    s.stats.currentHeight = 0 ∧ s.stats.totalBlocksCommitted = 0

variable {C} {s : StatsEngine}

theorem statsTrack_new (config : ConsensusConfig) (storage : Storage) (mempool : Mempool) (now : Timestamp) :
    (new config storage mempool now).StatsTrack :=
  ⟨rfl, rfl, rfl, rfl, rfl, .inr ⟨rfl, rfl⟩⟩

theorem StatsTrack.of_step (h : s.StatsTrack) {s' : StatsEngine} {sent : List ConsensusMessage}
    (hs : StatsStep s s' sent) : s'.StatsTrack := by
  cases hs with
  | quiet hq =>
      have hst := hq.stats
      exact ⟨hst ▸ h.currentView, hst ▸ h.currentRound, hst ▸ h.totalViewChanges, hst ▸ h.currentLeader,
        hst ▸ h.totalBlocksCommitted.trans hq.round.symm,
        hst ▸ h.currentHeight.imp_left fun hh => hh.trans hq.height.symm⟩
  | commit block hst hr hh _ =>
      exact ⟨hst ▸ h.currentView, hst ▸ h.currentRound, hst ▸ h.totalViewChanges, hst ▸ h.currentLeader,
        hst ▸ (congrArg (wrappingAdd · 1) h.totalBlocksCommitted).trans hr.symm, .inl (hst ▸ hh.symm)⟩
  | propose hst hr hh _ =>
      exact ⟨hst ▸ h.currentView, hst ▸ h.currentRound, hst ▸ h.totalViewChanges, hst ▸ h.currentLeader,
        hst ▸ h.totalBlocksCommitted.trans hr.symm, hst ▸ h.currentHeight.imp_left fun hh' => hh'.trans hh.symm⟩

theorem Reachable.statsTrack {config : ConsensusConfig} {storage : Storage} {mempool : Mempool} {now : Timestamp}
    (hr : Reachable C (new config storage mempool now) s) : s.StatsTrack := by
  induction hr with
  | refl => exact statsTrack_new config storage mempool now
  | tail _ hs ih =>
      obtain ⟨op, rfl⟩ := hs
      exact ih.of_step (step_cases op)

theorem StatsStep.proposals {s' : StatsEngine} {sent : List ConsensusMessage} (h : StatsStep s s' sent)
    (hs : s.stats.totalBlocksProposed < u64Size) :
    s'.stats.totalBlocksProposed = (s.stats.totalBlocksProposed + sent.countP ConsensusMessage.isPropose) % u64Size := by
  cases h with
  | quiet hq => rw [hq.stats, hq.sent, Nat.add_zero, Nat.mod_eq_of_lt hs]
  | commit block hst _ _ hc =>
      rw [hst, hc, Nat.add_zero]
      exact (Nat.mod_eq_of_lt hs).symm
  | propose hst _ _ hc =>
      rw [hst, hc]
      rfl

theorem run_proposals (s : StatsEngine) (hs : s.stats.totalBlocksProposed < u64Size) (ops : List ConsensusEngine.Op) :
    (s.run C ops).1.stats.totalBlocksProposed =
      (s.stats.totalBlocksProposed + (s.run C ops).2.countP ConsensusMessage.isPropose) % u64Size := by
  induction ops generalizing s with
  | nil => exact (Nat.mod_eq_of_lt hs).symm
  | cons op ops ih =>
      have h₁ := (@step_cases C s op).proposals hs
      have hlt : (s.step C op).1.stats.totalBlocksProposed < u64Size := h₁ ▸ Nat.mod_lt _ (by decide)
      show ((s.step C op).1.run C ops).1.stats.totalBlocksProposed =
        (s.stats.totalBlocksProposed + ((s.step C op).2 ++ ((s.step C op).1.run C ops).2).countP
          ConsensusMessage.isPropose) % u64Size
      rw [ih _ hlt, h₁, List.countP_append, Nat.mod_add_mod, Nat.add_assoc]

end StatsEngine

end Track

section SharedMempool

namespace StatsEngine

variable {C} {s : StatsEngine}

theorem consensusTick_preserves (R : StatsEngine → Prop) {now timestamp : Timestamp} (h₀ : R s)
    (hpropose : s.engine.shouldProposeBlock now = true → R (s.proposeBlock C timestamp).state)
    (htrigger : ∀ s₁, R s₁ → R (s₁.keep s₁.engine.triggerViewChange).state) : R (s.consensusTick C now timestamp).1 := by
  have hview : ∀ {s₁ : StatsEngine} (out : List ConsensusMessage), R s₁ →
      R (if s₁.engine.shouldTriggerViewChange now then
        ((s₁.keep s₁.engine.triggerViewChange).state, out ++ (s₁.keep s₁.engine.triggerViewChange).sent)
        else (s₁, out)).1 := by
    intro s₁ out h
    split
    exacts [htrigger s₁ h, h]
  dsimp only [consensusTick]
  split
  exacts [hview _ (hpropose ‹_›), hview _ h₀]

theorem keep_mempool {r : Outcome ConsensusEngine} (h : r.state.mempool = s.engine.mempool) :
    StatsMempool.Steps C s.mempool (s.keep r).state.mempool := by
  rw [show (s.keep r).state.mempool = s.mempool from congrArg (fun m => (⟨m, s.mempoolStats⟩ : StatsMempool)) h]
  exact .refl

theorem Steps.of_mempool_eq {b : StatsEngine} {m : StatsMempool} (h : StatsMempool.Steps C b.mempool m)
    (hb : b.mempool = s.mempool) : StatsMempool.Steps C s.mempool m :=
  hb ▸ h

theorem commitBlock_mempool (blockHash : Hash) : StatsMempool.Steps C s.mempool (s.commitBlock C blockHash).state.mempool := by
  unfold commitBlock
  split
  · exact .refl
  · exact StatsMempool.steps_foldRemove _ (fun tx : Transaction => tx.id) _

theorem checkVoteThreshold_mempool (blockHash : Hash) (t : VoteType) (round view : Nat) :
    StatsMempool.Steps C s.mempool (s.checkVoteThreshold C blockHash t round view).state.mempool := by
  dsimp only [checkVoteThreshold, keep, ConsensusEngine.checkVoteThreshold]
  split
  · next hq =>
      cases t with
      | prepare =>
          rw [if_pos hq]
          exact .refl
      | commit => exact commitBlock_mempool blockHash
  · exact .refl

theorem handleConsensusMessage_mempool (m : ConsensusMessage) (now : Timestamp) :
    StatsMempool.Steps C s.mempool (s.handleConsensusMessage C m now).state.mempool := by
  cases m with
  | propose block round view =>
      exact keep_mempool (by dsimp only [ConsensusEngine.handleProposeMessage]; split_ifs <;> rfl)
  | vote blockHash t round view k sig =>
      dsimp only [handleConsensusMessage, handleVoteMessage]
      split_ifs
      · exact .refl
      · exact Steps.of_mempool_eq (checkVoteThreshold_mempool blockHash t round view) rfl
      · exact .refl
  | viewChange newView k sig => exact .refl
  | newView view msgs => exact .refl

theorem proposeBlock_mempool (timestamp : Timestamp) :
    StatsMempool.Steps C s.mempool (s.proposeBlock C timestamp).state.mempool := by
  refine .single ⟨.getNextBatch s.engine.config.maxTransactionsPerBlock s.engine.config.maxBlockSize, ?_⟩
  dsimp only [proposeBlock]
  split
  · rfl
  · split <;> rfl

theorem step_mempool (op : ConsensusEngine.Op) : StatsMempool.Steps C s.mempool (s.step C op).1.mempool := by
  cases op with
  | deliver m now => exact handleConsensusMessage_mempool m now
  | perform a =>
      cases a with
      | tick now timestamp =>
          exact consensusTick_preserves (fun s' => StatsMempool.Steps C s.mempool s'.mempool) .refl
            (fun _ => proposeBlock_mempool timestamp) fun s₁ h₁ => h₁.trans
              (keep_mempool (by dsimp only [ConsensusEngine.triggerViewChange]; split <;> rfl))
      | submitTransaction tx => exact .single ⟨.addTransaction tx, rfl⟩

theorem Reachable.mempool {start : StatsEngine} (h : Reachable C start s) : StatsMempool.Steps C start.mempool s.mempool := by
  induction h with
  | refl => exact .refl
  | tail _ hs ih =>
      obtain ⟨op, rfl⟩ := hs
      exact ih.trans (step_mempool op)

theorem Reachable.mempool_reachable {config : ConsensusConfig} {storage : Storage} {mempoolConfig : MempoolConfig}
    {now : Timestamp} (h : Reachable C (new config storage (Mempool.new mempoolConfig) now) s) :
    StatsMempool.Reachable C mempoolConfig s.mempool :=
  h.mempool

end StatsEngine

end SharedMempool

namespace StatsEngine

variable {C}

theorem node_status_from_stats {config : ConsensusConfig} {storage : Storage} {mempool : Mempool} {now : Timestamp}
    {s : StatsEngine} (hr : Reachable C (new config storage mempool now) s) (handlerStorage : ColumnStorage)
    (statsMempool : StatsMempool) (jsonrpc : String) (params id : Option JsonValue) :
    ∃ status, (JsonRpcHandler.handleRequest C ⟨handlerStorage, statsMempool, s.getStats⟩
        ⟨jsonrpc, "blockchain_getNodeStatus", params, id⟩).result = some (.nodeStatus status) ∧
      status.currentView = 0 ∧ status.currentRound = 0 ∧
      (status.currentHeight = s.engine.storage.getLatestHeight.getD 0 ∨
        status.currentHeight = 0 ∧ s.engine.currentRound = 0) := by
  have ht := hr.statsTrack
  have hs : ConsensusEngine.HeightSynced s.engine :=
    (ConsensusEngine.heightSynced_new config storage mempool now).reachable C hr.engine
  refine ⟨_, rfl, ht.currentView, ht.currentRound, ?_⟩
  exact ht.currentHeight.imp (fun h => h.trans hs) fun ⟨h₀, hc⟩ => ⟨h₀, ht.totalBlocksCommitted.symm.trans hc⟩

def sampleCommitted : StatsEngine :=
  ((new PbftEngine.quadConfig .empty (Mempool.new .default) 0).run sampleCodec
    (ConsensusEngine.commitAt (sampleBlock "a" 7 5) 0)).1

theorem sample_node_status :
    sampleCommitted.engine.currentRound = 1 ∧
      ∃ status, (JsonRpcHandler.handleRequest sampleCodec ⟨ColumnStorage.empty, StatsMempool.new .default,
          sampleCommitted.getStats⟩ ⟨"2.0", "blockchain_getNodeStatus", none, none⟩).result = some (.nodeStatus status) ∧
        status.currentView = 0 ∧ status.currentRound = 0 ∧
        (status.currentHeight = sampleCommitted.engine.storage.getLatestHeight.getD 0 ∨
          status.currentHeight = 0 ∧ sampleCommitted.engine.currentRound = 0) :=
  ⟨by decide, node_status_from_stats (reachable_run _ _) _ _ _ _ _⟩

theorem stats_count_proposals_and_commits (config : ConsensusConfig) (storage : Storage) (mempool : Mempool)
    (now : Timestamp) (ops : List ConsensusEngine.Op) :
    ((new config storage mempool now).run C ops).1.stats.totalBlocksProposed =
        ((new config storage mempool now).run C ops).2.countP ConsensusMessage.isPropose % u64Size ∧
      ((new config storage mempool now).run C ops).1.stats.totalBlocksCommitted =
        ((new config storage mempool now).run C ops).1.engine.currentRound :=
  ⟨(run_proposals (new config storage mempool now) (show 0 < u64Size by decide) ops).trans (congrArg (· % u64Size) (Nat.zero_add _)),
    (reachable_run _ ops).statsTrack.totalBlocksCommitted⟩

end StatsEngine

end BlockchainNode

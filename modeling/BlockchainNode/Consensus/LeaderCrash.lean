import BlockchainNode.Node

namespace BlockchainNode

namespace ConsensusEngine

structure ViewFrozen (e : ConsensusEngine) : Prop where
  currentView : e.currentView = 0
  viewTimeout : e.viewTimeout = none
  leader : LeaderFixed e

section Steps

variable {C : Codec} {e : ConsensusEngine}

theorem viewFrozen_new (config : ConsensusConfig) (storage : Storage) (mempool : Mempool) (now : Timestamp) :
    (new config storage mempool now).ViewFrozen :=
  ⟨rfl, rfl, rfl⟩

structure ClockFrame (e e' : ConsensusEngine) : Prop where
  currentView : e'.currentView = e.currentView
  viewTimeout : e'.viewTimeout = e.viewTimeout
  lastBlockTime : e'.lastBlockTime = e.lastBlockTime

theorem ClockFrame.trans {e₁ e₂ : ConsensusEngine} (h₁ : ClockFrame e e₁) (h₂ : ClockFrame e₁ e₂) : ClockFrame e e₂ :=
  ⟨h₂.1.trans h₁.1, h₂.2.trans h₁.2, h₂.3.trans h₁.3⟩

theorem commitBlock_clock (blockHash : Hash) : ClockFrame e (e.commitBlock C blockHash).state := by
  unfold commitBlock
  split <;> exact ⟨rfl, rfl, rfl⟩

theorem handleConsensusMessage_clock (m : ConsensusMessage) (now : Timestamp) :
    ClockFrame e (e.handleConsensusMessage C m now).state := by
  cases m with
  | propose block round view =>
      dsimp only [handleConsensusMessage, handleProposeMessage]
      split_ifs <;> exact ⟨rfl, rfl, rfl⟩
  | vote blockHash t round view k sig =>
      dsimp only [handleConsensusMessage, handleVoteMessage, checkVoteThreshold]
      split_ifs
      · exact ⟨rfl, rfl, rfl⟩
      · cases t
        · exact ⟨rfl, rfl, rfl⟩
        · exact @ClockFrame.trans e (e.storeVote _ _ _) _ ⟨rfl, rfl, rfl⟩ (commitBlock_clock blockHash)
      · exact ⟨rfl, rfl, rfl⟩
      · exact ⟨rfl, rfl, rfl⟩
  | viewChange newView k sig => exact ⟨rfl, rfl, rfl⟩
  | newView view msgs => exact ⟨rfl, rfl, rfl⟩

theorem proposeBlock_clock (timestamp : Timestamp) : ClockFrame e (e.proposeBlock C timestamp).state := by
  dsimp only [proposeBlock]
  split
  · exact ⟨rfl, rfl, rfl⟩
  · split <;> exact ⟨rfl, rfl, rfl⟩

theorem consensusTick_clock (hv : e.viewTimeout = none) (now timestamp : Timestamp) :
    ClockFrame e (e.consensusTick C now timestamp).1 :=
  consensusTick_preserves (ClockFrame e) ⟨rfl, rfl, rfl⟩ (fun _ => proposeBlock_clock timestamp) fun _ h₁ ht => by
    rw [shouldTriggerViewChange, h₁.viewTimeout.trans hv] at ht
    exact absurd ht Bool.false_ne_true

theorem apply_clock (hv : e.viewTimeout = none) (op : Op) : ClockFrame e (e.apply C op) := by
  cases op with
  | deliver m now => exact handleConsensusMessage_clock m now
  | perform a =>
      cases a with
      | tick now timestamp => exact consensusTick_clock hv now timestamp
      | submitTransaction tx => exact ⟨rfl, rfl, rfl⟩

theorem ViewFrozen.apply (h : e.ViewFrozen) (op : Op) : (e.apply C op).ViewFrozen :=
  have hc := apply_clock h.viewTimeout op
  ⟨hc.currentView.trans h.currentView, hc.viewTimeout.trans h.viewTimeout, h.leader.apply op⟩

theorem leader_of_shouldProposeBlock {now : Timestamp} (h : e.shouldProposeBlock now = true) :
    e.leaderElection.getLeader e.currentView = e.config.nodeId := by
  unfold shouldProposeBlock at h
  by_contra hne
  rw [if_pos hne] at h
  exact Bool.false_ne_true h

theorem ViewFrozen.shouldProposeBlock (h : e.ViewFrozen)
    (hne : e.config.nodeId ≠ (LeaderElection.new e.config.validatorSet).getLeader 0) (now : Timestamp) :
    e.shouldProposeBlock now = false := by
  cases hp : e.shouldProposeBlock now with
  | false => rfl
  | true =>
      have hl := leader_of_shouldProposeBlock hp
      rw [h.leader, h.currentView] at hl
      exact absurd hl.symm hne

theorem Reachable.viewFrozen {start : ConsensusEngine} (h₀ : start.ViewFrozen) (hr : Reachable C start e) :
    e.ViewFrozen ∧ e.config = start.config ∧ e.lastBlockTime = start.lastBlockTime := by
  induction hr with
  | refl => exact ⟨h₀, rfl, rfl⟩
  | tail _ hst ih =>
      obtain ⟨op, rfl⟩ := hst
      exact ⟨ih.1.apply op, (apply_votes op).1.trans ih.2.1, (apply_clock ih.1.viewTimeout op).lastBlockTime.trans ih.2.2⟩

theorem view_never_changes {config : ConsensusConfig} {storage : Storage} {mempool : Mempool} {now : Timestamp}
    (hr : Reachable C (new config storage mempool now) e) :
    e.currentView = 0 ∧ e.viewTimeout = none ∧
      ∀ op block round view, .propose block round view ∈ (e.step C op).2 →
        view = 0 ∧ block.header.proposer = config.nodeId ∧
          config.nodeId = (LeaderElection.new config.validatorSet).getLeader 0 := by
  obtain ⟨hf, hc, -⟩ := hr.viewFrozen (viewFrozen_new config storage mempool now)
  refine ⟨hf.currentView, hf.viewTimeout, fun op block round view hx => ?_⟩
  obtain ⟨_, timestamp, -, hs, hx⟩ := step_propose hx
  have hspec := proposeBlock_spec timestamp hx
  have hl := leader_of_shouldProposeBlock hs
  rw [hf.leader, hf.currentView, hc] at hl
  exact ⟨hspec.2.1.trans hf.currentView, hspec.2.2.2.2.1.trans (congrArg ConsensusConfig.nodeId hc), hl.symm⟩

def leaderAfterTick : ConsensusEngine :=
  (new (quadReplica "a") .empty (Mempool.new .default) 0).run sampleCodec
    [.perform (.submitTransaction (sampleTransfer 1 1)), .perform (.tick 2000 2000)]

theorem leader_view_stays_zero :
    leaderAfterTick.currentView = 0 ∧ leaderAfterTick.viewTimeout = none ∧
      ∀ op block round view, .propose block round view ∈ (leaderAfterTick.step sampleCodec op).2 →
        view = 0 ∧ block.header.proposer = "a" ∧
          "a" = (LeaderElection.new (quadReplica "a").validatorSet).getLeader 0 :=
  view_never_changes (reachable_run _ _ _)

theorem block_timer_never_resets {config : ConsensusConfig} {storage : Storage} {mempool : Mempool} {t₀ : Timestamp}
    (hr : Reachable C (new config storage mempool t₀) e) (now : Timestamp) :
    e.lastBlockTime = t₀ ∧ (e.shouldProposeBlock now = true ↔
      config.nodeId = (LeaderElection.new config.validatorSet).getLeader 0 ∧ e.state = .idle ∧
        config.blockTimeMs ≤ now - t₀) := by
  obtain ⟨hf, hc, ht⟩ := hr.viewFrozen (viewFrozen_new config storage mempool t₀)
  have hc : e.config = config := hc
  have ht : e.lastBlockTime = t₀ := ht
  refine ⟨ht, ?_⟩
  unfold shouldProposeBlock
  rw [hf.leader, hf.currentView, hc, ht]
  split_ifs with h₁ h₂ h₃
  · exact iff_of_false not_false fun h => h₁ h.1.symm
  · exact iff_of_false not_false fun h => h₂ h.2.1
  · exact iff_of_false not_false fun h => absurd h.2.2 (Nat.not_le.mpr h₃)
  · exact iff_of_true rfl ⟨(not_not.mp h₁).symm, not_not.mp h₂, Nat.not_lt.mp h₃⟩

theorem leader_timer_from_start :
    leaderAfterTick.lastBlockTime = 0 ∧ (leaderAfterTick.shouldProposeBlock 5000 = true ↔
      (quadReplica "a").nodeId = (LeaderElection.new (quadReplica "a").validatorSet).getLeader 0 ∧
        leaderAfterTick.state = .idle ∧ (quadReplica "a").blockTimeMs ≤ 5000 - 0) :=
  block_timer_never_resets (reachable_run _ _ _) 5000

end Steps

section Network

variable {C : Codec}

structure NodeHalted (config : ConsensusConfig) (storage : Storage) (e : ConsensusEngine) : Prop where
  config : e.config = config
  frozen : e.ViewFrozen
  storage : e.storage = storage
  pendingBlocks : ∀ blockHash, e.pendingBlocks blockHash = none

theorem nodeHalted_new (config : ConsensusConfig) (storage : Storage) (mempool : Mempool) (now : Timestamp) :
    NodeHalted config storage (new config storage mempool now) :=
  ⟨rfl, viewFrozen_new config storage mempool now, rfl, fun _ => rfl⟩

theorem NodeHalted.step {config : ConsensusConfig} {storage : Storage} {e : ConsensusEngine}
    (h : NodeHalted config storage e) (op : Op) (hop : ∀ block round view now, op ≠ .deliver (.propose block round view) now)
    (hout : ∀ block round view, .propose block round view ∉ (e.step C op).2) :
    NodeHalted config storage (e.step C op).1 := by
  have ha := @step_fst C e op
  refine ⟨?_, ?_, (step_storageFrame h.pendingBlocks op).1.trans h.storage,
    step_pendingBlocks h.pendingBlocks op hop hout⟩
  · rw [ha]
    exact (apply_votes op).1.trans h.config
  · rw [ha]
    exact h.frozen.apply op

theorem crashed_leader_halts_chain {F : Faults ConsensusEngine LocalAction} {vs : List NodeId}
    {cfg : NodeId → ConsensusConfig} (hcfg : ∀ i, (cfg i).validatorSet = vs ∧ (cfg i).nodeId = i)
    (hcrash : F.honest ((LeaderElection.new vs).getLeader 0) = false)
    (hforge : ∀ m, F.forge m = true → m.isPropose = false)
    {storage : NodeId → Storage} {mempool : NodeId → Mempool} {t₀ now : Timestamp} {w : Network ConsensusEngine}
    (hw : Network.Reachable (engineProtocol C now) F (fun i => new (cfg i) (storage i) (mempool i) t₀) w) :
    (∀ i, (w.node i).storage = storage i) ∧ ∀ m ∈ w.sent, m.isPropose = false := by
  have hP : ∀ i e op, F.honest i = true → NodeHalted (cfg i) (storage i) e →
      (∀ block round view now, op ≠ .deliver (.propose block round view) now) →
      NodeHalted (cfg i) (storage i) (e.step C op).1 ∧ ∀ block round view, .propose block round view ∉ (e.step C op).2 := by
    intro i e op hi h hop
    have hne : e.config.nodeId ≠ (LeaderElection.new e.config.validatorSet).getLeader 0 := by
      rw [h.config, (hcfg i).1, (hcfg i).2]
      rintro rfl
      exact Bool.false_ne_true (hcrash.symm.trans hi)
    have hout := @step_no_propose C e (h.frozen.shouldProposeBlock hne) op
    exact ⟨h.step op hop hout, hout⟩
  have hs := NoProposals.reachable hP hforge (fun i => nodeHalted_new (cfg i) (storage i) (mempool i) t₀) hw
  exact ⟨fun i => (hs.nodes i).storage, hs.sent⟩

end Network

def crashedLeader : Faults ConsensusEngine LocalAction := ⟨fun i => decide (i ≠ "a"), fun _ => false, fun _ _ => true⟩

def genesisStorage : Storage := Storage.empty.storeBlock sampleCodec (sampleBlock "a" 0 0)

def followerTicks : List (Event LocalAction) :=
  [.perform "b" (.submitTransaction (sampleTransfer 1 1)), .perform "b" (.tick 2000 2000)]

theorem follower_waits_for_crashed_leader :
    (∃ w, Network.Reachable (engineProtocol sampleCodec 0) noForgery
        (fun i => new (quadReplica i) genesisStorage (Mempool.new .default) 0) w ∧ ∃ m ∈ w.sent, m.isPropose = true) ∧
    ∃ w, Network.Reachable (engineProtocol sampleCodec 0) crashedLeader
        (fun i => new (quadReplica i) genesisStorage (Mempool.new .default) 0) w ∧
      (w.node "b").mempool.size = 1 ∧ (∀ i, (w.node i).storage = genesisStorage) ∧ ∀ m ∈ w.sent, m.isPropose = false := by
  have hlive : (Network.exec (engineProtocol sampleCodec 0) noForgery
      (Network.init fun i => new (quadReplica i) genesisStorage (Mempool.new .default) 0) leaderReady).map
      (fun w => w.sent.any ConsensusMessage.isPropose) = some true := by
    decide
  have hrun : (Network.exec (engineProtocol sampleCodec 0) crashedLeader
      (Network.init fun i => new (quadReplica i) genesisStorage (Mempool.new .default) 0) followerTicks).map
      (fun w => decide ((w.node "b").mempool.size = 1)) = some true := by
    decide
  obtain ⟨w', hw', hp⟩ := Network.exists_of_exec _ _ hlive
  obtain ⟨w, hw, hm⟩ := Network.exists_of_exec _ _ hrun
  exact ⟨⟨w', hw', List.any_eq_true.mp hp⟩, w, hw, of_decide_eq_true hm,
    @crashed_leader_halts_chain sampleCodec crashedLeader quadValidators quadReplica (fun _ => ⟨rfl, rfl⟩) (by decide)
      (fun _ h => absurd h Bool.false_ne_true) (fun _ => genesisStorage) _ 0 0 w hw⟩

end ConsensusEngine

end BlockchainNode

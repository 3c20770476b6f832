import BlockchainNode.Cli
import BlockchainNode.NetworkManager
import BlockchainNode.Consensus.Genesis

namespace BlockchainNode

def parseValidatorSet (_config : Cli) : List NodeId := ["validator-1", "validator-2", "validator-3", "validator-4"]

def parseBootstrapPeer {α : Type} (parse : String → Except String α) (peerStr : String) : Except String α :=
  match parse peerStr with
  | .ok addr => .ok addr
  | .error e => .error ("Invalid bootstrap peer address '" ++ peerStr ++ "': " ++ e)

def parseBootstrapPeers {α : Type} (parse : String → Except String α) (config : Cli) : Except String (List α) :=
  config.getBootstrapPeers.mapM (parseBootstrapPeer parse)

def mempoolConfig (config : Cli) : MempoolConfig := ⟨config.mempoolSize, 100, 1, 1024 * 1024⟩

def consensusConfig (config : Cli) : ConsensusConfig :=
  ⟨config.nodeId, config.isValidator, parseValidatorSet config, config.blockTimeMs, 1024 * 1024 * 10, 1000⟩

def networkConfig (config : Cli) : NetworkConfig := ⟨config.nodeId, config.maxPeers⟩

structure Node where
  config : Cli
  consensus : StatsEngine
  network : NetworkManager

structure NodeState where
  currentHeight : BlockHeight
  currentView : Nat
  currentRound : Nat
  isLeader : Bool
  connectedPeers : Nat
  mempoolSize : Nat
  deriving DecidableEq, Repr

inductive NodeOp where
  | consensus (op : ConsensusEngine.Op)
  | network (event : NetworkEvent)

variable (C : Codec) (W : WireFormat)

namespace Node

def new {α : Type} (parse : String → Except String α) (config : Cli) (storage : Storage) (now : Timestamp) :
    Except String Node := do
  let _bootstrapPeers ← parseBootstrapPeers parse config
  pure
    { config
      consensus := StatsEngine.new (consensusConfig config) storage (Mempool.new (mempoolConfig config)) now
      network := NetworkManager.new (networkConfig config) }

def getNodeState (n : Node) : NodeState :=
  let consensusStats := n.consensus.getStats
  let mempoolStats := n.consensus.mempool.getStats
  { currentHeight := n.consensus.engine.storage.getLatestHeight.getD 0
    currentView := consensusStats.currentView
    currentRound := consensusStats.currentRound
    isLeader := consensusStats.currentLeader == some n.config.nodeId
    connectedPeers := n.network.stats.connectedPeers
    mempoolSize := mempoolStats.totalTransactions }

def apply (n : Node) : NodeOp → Node
  | .consensus op => { n with consensus := (n.consensus.step C op).1 }
  | .network event => { n with network := (n.network.step W event).1 }

def Reachable (start n : Node) : Prop :=
  Relation.ReflTransGen (fun n n' => ∃ op, n' = n.apply C W op) start n

end Node

section Construction

variable {α : Type} {parse : String → Except String α} {config : Cli} {storage : Storage} {now : Timestamp}

theorem parseBootstrapPeers_error {e : String} (h : parseBootstrapPeers parse config = .error e) :
    ∃ peer ∈ config.getBootstrapPeers, ∃ e', parse peer = .error e' ∧
      e = "Invalid bootstrap peer address '" ++ peer ++ "': " ++ e' := by
  unfold parseBootstrapPeers at h
  generalize config.getBootstrapPeers = peers at h ⊢
  induction peers with
  | nil => exact nomatch h
  | cons peer peers ih =>
      rw [List.mapM_cons] at h
      cases hp : parse peer with
      | error e' =>
          rw [parseBootstrapPeer, hp] at h
          exact ⟨peer, List.mem_cons_self _ _, e', hp, (Except.error.inj h).symm⟩
      | ok addr =>
          rw [parseBootstrapPeer, hp] at h
          cases hr : peers.mapM (parseBootstrapPeer parse) with
          | error e'' =>
              rw [hr] at h
              obtain ⟨q, hq, e', hq', rfl⟩ := ih (by rw [hr]; exact h)
              exact ⟨q, List.mem_cons_of_mem _ hq, e', hq', rfl⟩
          | ok rest => rw [hr] at h; exact nomatch h

theorem new_ok {n : Node} (h : Node.new parse config storage now = .ok n) :
    n.config = config ∧
      n.consensus = StatsEngine.new (consensusConfig config) storage (Mempool.new (mempoolConfig config)) now ∧
      n.network = NetworkManager.new (networkConfig config) := by
  unfold Node.new at h
  cases hp : parseBootstrapPeers parse config with
  | error e => rw [hp] at h; exact nomatch h
  | ok addrs =>
      rw [hp] at h
      cases h
      exact ⟨rfl, rfl, rfl⟩

end Construction

namespace ConsensusEngine

section Leader

variable {C} {e : ConsensusEngine}

theorem commitBlock_leaderElection (blockHash : Hash) :
    (e.commitBlock C blockHash).state.leaderElection = e.leaderElection := by
  unfold commitBlock
  split <;> rfl

theorem handleConsensusMessage_leaderElection (m : ConsensusMessage) (now : Timestamp) :
    (e.handleConsensusMessage C m now).state.leaderElection = e.leaderElection := by
  cases m with
  | propose block round view =>
      dsimp only [handleConsensusMessage, handleProposeMessage]
      split_ifs <;> rfl
  | vote blockHash t round view k sig =>
      dsimp only [handleConsensusMessage, handleVoteMessage, checkVoteThreshold]
      split_ifs
      · rfl
      · cases t
        · rfl
        · exact commitBlock_leaderElection blockHash
      · rfl
      · rfl
  | viewChange newView k sig => rfl
  | newView view msgs => rfl

theorem consensusTick_leaderElection (now timestamp : Timestamp) :
    (e.consensusTick C now timestamp).1.leaderElection = e.leaderElection := by
  refine consensusTick_preserves (fun e₁ => e₁.leaderElection = e.leaderElection) rfl (fun _ => ?_) fun e₁ h₁ _ => ?_
  · dsimp only [proposeBlock]
    split
    · rfl
    · split <;> rfl
  · dsimp only [triggerViewChange]
    split <;> exact h₁

theorem apply_leaderElection (op : Op) : (e.apply C op).leaderElection = e.leaderElection := by
  cases op with
  | deliver m now => exact handleConsensusMessage_leaderElection m now
  | perform a =>
      cases a with
      | tick now timestamp => exact consensusTick_leaderElection now timestamp
      | submitTransaction tx => rfl

def LeaderFixed (e : ConsensusEngine) : Prop := e.leaderElection = LeaderElection.new e.config.validatorSet

theorem LeaderFixed.apply (h : LeaderFixed e) (op : Op) : LeaderFixed (e.apply C op) := by
  rw [LeaderFixed, apply_leaderElection, (apply_votes op).1]
  exact h

theorem shouldProposeBlock_of_not_mem (hl : LeaderFixed e) (hne : e.config.validatorSet ≠ [])
    (hn : e.config.nodeId ∉ e.config.validatorSet) (now : Timestamp) : e.shouldProposeBlock now = false := by
  have hmem : e.leaderElection.getLeader e.currentView ∈ e.config.validatorSet := by
    rw [hl, LeaderElection.getLeader_of_pos _ _ (List.length_pos.mpr hne)]
    exact List.get_mem _ _ _
  have hne' : e.leaderElection.getLeader e.currentView ≠ e.config.nodeId := fun h => hn (h ▸ hmem)
  unfold shouldProposeBlock
  rw [if_pos hne']

theorem step_no_propose (hp : ∀ now, e.shouldProposeBlock now = false) (op : Op) (block : Block) (round view : Nat) :
    .propose block round view ∉ (e.step C op).2 := fun hx => by
  obtain ⟨now, -, -, hs, -⟩ := step_propose hx
  exact Bool.false_ne_true ((hp now).symm.trans hs)

end Leader

end ConsensusEngine

theorem ConsensusEngine.Reachable.committed_writes {start e : ConsensusEngine} (hr : ConsensusEngine.Reachable C start e) :
    ∃ blocks : List Block, e.storage = start.storage.writeAll C (blocks.map .storeBlock) := by
  induction hr with
  | refl => exact ⟨[], rfl⟩
  | tail _ hst ih =>
      obtain ⟨blocks, hb⟩ := ih
      obtain ⟨op, rfl⟩ := hst
      rcases @ConsensusEngine.apply_storage_cases C _ op with ⟨hs, -⟩ | ⟨-, block, -, hc⟩
      · exact ⟨blocks, hs.trans hb⟩
      · refine ⟨blocks ++ [block], ?_⟩
        rw [hc.1, hb, List.map_append, Storage.writeAll, Storage.writeAll, List.foldl_append]
        rfl

namespace Node

section Run

variable {C W} {n : Node}

structure Invariant (n : Node) : Prop where
  config : n.consensus.engine.config = consensusConfig n.config
  leader : ConsensusEngine.LeaderFixed n.consensus.engine
  height : ConsensusEngine.HeightSynced n.consensus.engine
  stats : n.consensus.StatsTrack
  network : n.network.Consistent

theorem invariant_new {α : Type} {parse : String → Except String α} {config : Cli} {storage : Storage}
    {now : Timestamp} (hn : Node.new parse config storage now = .ok n) : n.Invariant := by
  obtain ⟨hc, he, hw⟩ := new_ok hn
  have hcfg : n.consensus.engine.config = consensusConfig n.config := by rw [he, hc]; rfl
  have hlead : ConsensusEngine.LeaderFixed n.consensus.engine := by rw [he]; rfl
  have hheight : ConsensusEngine.HeightSynced n.consensus.engine := by rw [he]; rfl
  exact ⟨hcfg, hlead, hheight, he ▸ StatsEngine.statsTrack_new _ _ _ _, hw ▸ NetworkManager.consistent_new _⟩

theorem Invariant.apply (h : n.Invariant) (op : NodeOp) : (n.apply C W op).Invariant := by
  cases op with
  | consensus op =>
      have he := @StatsEngine.apply_engine C n.consensus op
      refine ⟨?_, ?_, ?_, h.stats.of_step (StatsEngine.step_cases op), h.network⟩
      · show (n.consensus.step C op).1.engine.config = _
        rw [he, (ConsensusEngine.apply_votes op).1]
        exact h.config
      · show ConsensusEngine.LeaderFixed (n.consensus.step C op).1.engine
        rw [he]
        exact h.leader.apply op
      · show ConsensusEngine.HeightSynced (n.consensus.step C op).1.engine
        rw [he]
        exact h.height.apply op
  | network event => exact ⟨h.config, h.leader, h.height, h.stats, h.network.step event⟩

theorem Reachable.config {start : Node} (hr : Reachable C W start n) : n.config = start.config := by
  induction hr with
  | refl => rfl
  | tail _ hst ih =>
      obtain ⟨op, rfl⟩ := hst
      cases op <;> exact ih

theorem Invariant.no_propose (h : n.Invariant) (hid : n.config.nodeId ∉ parseValidatorSet n.config)
    (op : ConsensusEngine.Op) (block : Block) (round view : Nat) :
    .propose block round view ∉ (n.consensus.step C op).2 := by
  have hs : ∀ now, n.consensus.engine.shouldProposeBlock now = false :=
    ConsensusEngine.shouldProposeBlock_of_not_mem h.leader (by rw [h.config]; exact List.cons_ne_nil _ _)
      (by rw [h.config]; exact hid)
  rw [show (n.consensus.step C op).2 = (n.consensus.engine.step C op).2 from
    congrArg Prod.snd (StatsEngine.step_engine n.consensus op)]
  exact ConsensusEngine.step_no_propose hs op block round view

theorem Reachable.consensus {start : Node} (hr : Reachable C W start n) :
    StatsEngine.Reachable C start.consensus n.consensus := by
  induction hr with
  | refl => exact .refl
  | tail _ hst ih =>
      obtain ⟨op, rfl⟩ := hst
      cases op with
      | consensus op => exact ih.tail ⟨op, rfl⟩
      | network event => exact ih

theorem Reachable.engine {start : Node} (hr : Reachable C W start n) :
    ConsensusEngine.Reachable C start.consensus.engine n.consensus.engine :=
  hr.consensus.engine

theorem Reachable.mempool {α : Type} {parse : String → Except String α} {config : Cli} {storage : Storage}
    {now : Timestamp} {n₀ : Node} (hn : Node.new parse config storage now = .ok n₀) (hr : Reachable C W n₀ n) :
    StatsMempool.Reachable C (mempoolConfig config) n.consensus.mempool := by
  have h := hr.consensus
  rw [(new_ok hn).2.1] at h
  exact h.mempool_reachable

theorem Invariant.reachable {start : Node} (hs : start.Invariant) (hr : Reachable C W start n) : n.Invariant := by
  induction hr with
  | refl => exact hs
  | tail _ hst ih =>
      obtain ⟨op, rfl⟩ := hst
      exact ih.apply op

end Run

theorem node_state_reports {α : Type} {parse : String → Except String α} {config : Cli} {storage : Storage}
    {now : Timestamp} {n₀ n : Node} (hn : Node.new parse config storage now = .ok n₀) (hr : Reachable C W n₀ n) :
    n.getNodeState.isLeader = false ∧ n.getNodeState.currentView = 0 ∧ n.getNodeState.currentRound = 0 ∧
      n.getNodeState.currentHeight = n.consensus.engine.currentHeight ∧
      n.getNodeState.connectedPeers = n.network.connectedPeers.entries.length ∧
      n.getNodeState.mempoolSize = n.consensus.engine.mempool.size := by
  have h := (invariant_new hn).reachable hr
  refine ⟨?_, h.stats.currentView, h.stats.currentRound, h.height.symm, h.network.count,
    (hr.mempool hn).statsExact.totalTransactions⟩
  show (n.consensus.stats.currentLeader == some n.config.nodeId) = false
  rw [h.stats.currentLeader]
  rfl

def sampleLeaderNode : Node :=
  ⟨{ Cli.default with nodeId := "validator-1" },
    StatsEngine.new (consensusConfig { Cli.default with nodeId := "validator-1" }) .empty
      (Mempool.new (mempoolConfig { Cli.default with nodeId := "validator-1" })) 0,
    NetworkManager.new (networkConfig { Cli.default with nodeId := "validator-1" })⟩

theorem sample_leader_not_reported :
    sampleLeaderNode.consensus.engine.leaderElection.getLeader sampleLeaderNode.consensus.engine.currentView =
        sampleLeaderNode.config.nodeId ∧
      sampleLeaderNode.getNodeState.isLeader = false ∧ sampleLeaderNode.getNodeState.currentView = 0 ∧
      sampleLeaderNode.getNodeState.currentRound = 0 ∧
      sampleLeaderNode.getNodeState.currentHeight = sampleLeaderNode.consensus.engine.currentHeight ∧
      sampleLeaderNode.getNodeState.connectedPeers = sampleLeaderNode.network.connectedPeers.entries.length ∧
      sampleLeaderNode.getNodeState.mempoolSize = sampleLeaderNode.consensus.engine.mempool.size :=
  ⟨rfl, node_state_reports sampleCodec NetworkManager.sampleWire
    (show Node.new (fun s => Except.ok s) { Cli.default with nodeId := "validator-1" } .empty 0 = .ok sampleLeaderNode
      from rfl) .refl⟩

theorem outside_validator_set_never_proposes {α : Type} {parse : String → Except String α} {config : Cli}
    {storage : Storage} {now : Timestamp} {n₀ n : Node} (hn : Node.new parse config storage now = .ok n₀)
    (hid : config.nodeId ∉ parseValidatorSet config) (hr : Reachable C W n₀ n) :
    n.consensus.stats.totalBlocksProposed = 0 ∧
      ∀ op block round view, .propose block round view ∉ (n.consensus.step C op).2 := by
  have quiet : ∀ {n : Node}, Reachable C W n₀ n →
      ∀ op block round view, .propose block round view ∉ (n.consensus.step C op).2 := fun hr =>
    ((invariant_new hn).reachable hr).no_propose (by rw [hr.config, (new_ok hn).1]; exact hid)
  refine ⟨?_, quiet hr⟩
  induction hr with
  | refl =>
      rw [(new_ok hn).2.1]
      rfl
  | tail hr₁ hst ih =>
      obtain ⟨op, rfl⟩ := hst
      cases op with
      | consensus op =>
          have hp := (@StatsEngine.step_cases C _ op).proposals (ih ▸ (show 0 < u64Size by decide))
          show (StatsEngine.step C _ op).1.stats.totalBlocksProposed = 0
          rw [hp, ih, StatsEngine.countP_isPropose_eq_zero (quiet hr₁ op)]
          rfl
      | network event => exact ih

def defaultNode : Node :=
  ⟨Cli.default, StatsEngine.new (consensusConfig Cli.default) .empty (Mempool.new (mempoolConfig Cli.default)) 0,
    NetworkManager.new (networkConfig Cli.default)⟩

theorem default_node_never_proposes :
    Cli.default.nodeId ∉ parseValidatorSet Cli.default ∧ defaultNode.consensus.stats.totalBlocksProposed = 0 ∧
      ∀ op block round view, .propose block round view ∉ (defaultNode.consensus.step sampleCodec op).2 :=
  ⟨by decide, outside_validator_set_never_proposes sampleCodec NetworkManager.sampleWire
    (show Node.new (fun s => Except.ok s) Cli.default .empty 0 = .ok defaultNode from rfl) (by decide) .refl⟩

theorem rpc_serves_committed_blocks (hC : C.HashesFit) {α : Type} {parse : String → Except String α} {config : Cli}
    {now : Timestamp} {n₀ n : Node} (hn : Node.new parse config .empty now = .ok n₀) (hr : Reachable C W n₀ n) :
    ∃ blocks : List Block, n.consensus.engine.storage = Storage.empty.writeAll C (blocks.map .storeBlock) ∧
      ((∀ block ∈ blocks, (StorageWrite.storeBlock block).fits = true) → ∀ mempool : StatsMempool,
        JsonRpcHandler.AnswersFrom C ⟨ColumnStorage.empty.writeAll C (blocks.map .storeBlock), mempool,
          n.consensus.getStats⟩ n.consensus.engine.storage) := by
  obtain ⟨blocks, hb⟩ := hr.engine.committed_writes
  rw [(new_ok hn).2.1] at hb
  refine ⟨blocks, hb, fun hfit mempool => ?_⟩
  have hw : ∀ w ∈ blocks.map StorageWrite.storeBlock, w.fits = true := by
    simpa only [List.forall_mem_map] using hfit
  rw [hb]
  exact JsonRpcHandler.answersFrom_of_agrees C _ (ColumnStorage.refines_empty.writeAll hC hw).agrees

theorem sample_rpc_serves_committed :
    ∃ blocks : List Block, sampleLeaderNode.consensus.engine.storage =
        Storage.empty.writeAll sampleCodec.truncate (blocks.map .storeBlock) ∧
      ((∀ block ∈ blocks, (StorageWrite.storeBlock block).fits = true) → ∀ mempool : StatsMempool,
        JsonRpcHandler.AnswersFrom sampleCodec.truncate
          ⟨ColumnStorage.empty.writeAll sampleCodec.truncate (blocks.map .storeBlock), mempool,
            sampleLeaderNode.consensus.getStats⟩ sampleLeaderNode.consensus.engine.storage) :=
  rpc_serves_committed_blocks sampleCodec.truncate NetworkManager.sampleWire (Codec.truncate_hashesFit _)
    (show Node.new (fun s => Except.ok s) { Cli.default with nodeId := "validator-1" } .empty 0 = .ok sampleLeaderNode
      from rfl) .refl

end Node

end BlockchainNode

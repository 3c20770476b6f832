import BlockchainNode.Consensus.EngineStats

namespace BlockchainNode

namespace ConsensusEngine

variable (C : Codec)

structure Barren (e : ConsensusEngine) : Prop where
  storage : e.storage = Storage.empty
  currentHeight : e.currentHeight = 0
  pendingBlocks : ∀ blockHash, e.pendingBlocks blockHash = none

section Steps

variable {C} {e : ConsensusEngine}

theorem barren_new (config : ConsensusConfig) (mempool : Mempool) (now : Timestamp) :
    (new config .empty mempool now).Barren :=
  ⟨rfl, rfl, fun _ => rfl⟩

theorem consensusTick_sent_of_cases {now timestamp : Timestamp} {e₁ : ConsensusEngine} {out : List ConsensusMessage}
    (h : e.consensusTick C now timestamp = (e₁, out) ∨ e₁.shouldTriggerViewChange now = true ∧
      e.consensusTick C now timestamp = (e₁.triggerViewChange.state, out ++ e₁.triggerViewChange.sent))
    {block : Block} {round view : Nat} :
    .propose block round view ∈ (e.consensusTick C now timestamp).2 ↔ .propose block round view ∈ out := by
  rcases h with h | ⟨-, h⟩ <;> rw [h]
  exact ⟨fun hx => (List.mem_append.mp hx).resolve_right fun h => (nomatch triggerViewChange_sent h),
    List.mem_append_left _⟩

theorem step_propose {op : Op} {block : Block} {round view : Nat} (hx : .propose block round view ∈ (e.step C op).2) :
    ∃ now timestamp, op = .perform (.tick now timestamp) ∧ e.shouldProposeBlock now = true ∧
      .propose block round view ∈ (e.proposeBlock C timestamp).sent := by
  cases op with
  | deliver m now => exact absurd hx (handleConsensusMessage_no_propose e m now block round view)
  | perform a =>
      cases a with
      | submitTransaction tx => exact absurd hx (List.not_mem_nil _)
      | tick now timestamp =>
          obtain ⟨e₁, out, hpro, htick⟩ := @consensusTick_cases C e now timestamp
          have hout := (consensusTick_sent_of_cases htick).mp hx
          rcases hpro with ⟨hs, h⟩ | h <;> cases h
          · exact ⟨now, timestamp, rfl, hs, hout⟩
          · exact absurd hout (List.not_mem_nil _)

theorem step_storageFrame (hp : ∀ blockHash, e.pendingBlocks blockHash = none) (op : Op) :
    StorageFrame e (e.step C op).1 := by
  rw [step_fst]
  rcases apply_storage_cases op with hs | ⟨blockHash, block, hb, -⟩
  · exact hs
  · exact nomatch (hp blockHash).symm.trans hb

theorem proposeBlock_pendingBlocks (hp : ∀ blockHash, e.pendingBlocks blockHash = none) (timestamp : Timestamp)
    (hout : ∀ block round view, .propose block round view ∉ (e.proposeBlock C timestamp).sent) (blockHash : Hash) :
    (e.proposeBlock C timestamp).state.pendingBlocks blockHash = none := by
  revert hout
  dsimp only [ConsensusEngine.proposeBlock]
  split
  · exact fun _ => hp blockHash
  · split
    · exact fun _ => hp blockHash
    · exact fun hout => absurd (List.mem_singleton_self _) (hout _ _ _)

theorem step_pendingBlocks (hp : ∀ blockHash, e.pendingBlocks blockHash = none) (op : Op)
    (hop : ∀ block round view now, op ≠ .deliver (.propose block round view) now)
    (hout : ∀ block round view, .propose block round view ∉ (e.step C op).2) (blockHash : Hash) :
    (e.step C op).1.pendingBlocks blockHash = none := by
  cases op with
  | deliver m now =>
      cases m with
      | propose block round view => exact absurd rfl (hop block round view now)
      | vote h t round view k sig =>
          show (e.handleVoteMessage C h t round view k sig).state.pendingBlocks blockHash = none
          dsimp only [handleVoteMessage, ConsensusEngine.checkVoteThreshold]
          split_ifs
          · exact hp blockHash
          · cases t with
            | prepare => exact hp blockHash
            | commit =>
                unfold ConsensusEngine.commitBlock
                rw [show (e.storeVote _ _ _).pendingBlocks h = none from hp h]
                exact hp blockHash
          · exact hp blockHash
          · exact hp blockHash
      | viewChange newView k sig => exact hp blockHash
      | newView view msgs => exact hp blockHash
  | perform a =>
      cases a with
      | submitTransaction tx => exact hp blockHash
      | tick now timestamp =>
          obtain ⟨e₁, out, hpro, htick⟩ := @consensusTick_cases C e now timestamp
          have h₁ : ∀ b, e₁.pendingBlocks b = none := by
            rcases hpro with ⟨-, h⟩ | h <;> cases h
            · exact proposeBlock_pendingBlocks hp timestamp fun block round view hx =>
                hout block round view ((consensusTick_sent_of_cases htick).mpr hx)
            · exact hp
          show (e.consensusTick C now timestamp).1.pendingBlocks blockHash = none
          rcases htick with h | ⟨-, h⟩ <;> rw [h]
          · exact h₁ blockHash
          · dsimp only [triggerViewChange]
            split <;> exact h₁ blockHash

theorem Barren.createBlock (h : e.Barren) (transactions : List Transaction) (view round : Nat) (timestamp : Timestamp) :
    e.createBlock C transactions (wrappingAdd e.currentHeight 1) view round timestamp = .error "Previous block not found" := by
  unfold ConsensusEngine.createBlock
  rw [h.storage, h.currentHeight]
  rfl

theorem Barren.proposeBlock_sent (h : e.Barren) (timestamp : Timestamp) : (e.proposeBlock C timestamp).sent = [] := by
  have h' : ({ e with mempool := (e.mempool.getNextBatch C e.config.maxTransactionsPerBlock
      e.config.maxBlockSize).1 } : ConsensusEngine).Barren := ⟨h.storage, h.currentHeight, h.pendingBlocks⟩
  dsimp only [ConsensusEngine.proposeBlock]
  split
  · rfl
  · rw [h'.createBlock]

theorem Barren.step (h : e.Barren) (op : Op) (hop : ∀ block round view now, op ≠ .deliver (.propose block round view) now) :
    (e.step C op).1.Barren ∧ ∀ block round view, .propose block round view ∉ (e.step C op).2 := by
  have hout : ∀ block round view, .propose block round view ∉ (e.step C op).2 := fun block round view hx => by
    obtain ⟨_, timestamp, -, -, hx⟩ := step_propose hx
    rw [h.proposeBlock_sent timestamp] at hx
    exact List.not_mem_nil _ hx
  have hs := @step_storageFrame C e h.pendingBlocks op
  exact ⟨⟨hs.1.trans h.storage, hs.2.trans h.currentHeight, step_pendingBlocks h.pendingBlocks op hop hout⟩, hout⟩

end Steps

section Network

variable {C}

theorem isPropose_eq_false_of_not_mem {sent : List ConsensusMessage}
    (h : ∀ block round view, .propose block round view ∉ sent) : ∀ m ∈ sent, m.isPropose = false
  | .propose block round view, hm => absurd hm (h block round view)
  | .vote .., _ | .viewChange .., _ | .newView .., _ => rfl

structure NoProposals (P : NodeId → ConsensusEngine → Prop) (w : Network ConsensusEngine) : Prop where
  nodes : ∀ i, P i (w.node i)
  sent : ∀ m ∈ w.sent, m.isPropose = false

variable {P : NodeId → ConsensusEngine → Prop} {F : Faults ConsensusEngine LocalAction}

theorem NoProposals.update {w : Network ConsensusEngine} (hs : NoProposals P w) {i : NodeId} {e : ConsensusEngine}
    (he : P i e) {out : List ConsensusMessage} (hout : ∀ block round view, .propose block round view ∉ out)
    (received : NodeId → List ConsensusMessage) : NoProposals P ⟨Function.update w.node i e, received, w.sent ++ out⟩ :=
  ⟨(Function.forall_update_iff w.node P).mpr ⟨he, fun j _ => hs.nodes j⟩,
    fun m hm => (List.mem_append.mp hm).elim (hs.sent m) (isPropose_eq_false_of_not_mem hout m)⟩

theorem NoProposals.reachable {now : Timestamp} {start : NodeId → ConsensusEngine}
    (hP : ∀ i e op, F.honest i = true → P i e → (∀ block round view now, op ≠ .deliver (.propose block round view) now) →
      P i (e.step C op).1 ∧ ∀ block round view, .propose block round view ∉ (e.step C op).2)
    (hforge : ∀ m, F.forge m = true → m.isPropose = false) (h₀ : ∀ i, P i (start i)) {w : Network ConsensusEngine}
    (hw : Network.Reachable (engineProtocol C now) F start w) : NoProposals P w := by
  induction hw with
  | refl => exact ⟨h₀, fun m hm => absurd hm (List.not_mem_nil m)⟩
  | tail _ hst hs =>
      cases hst with
      | deliver i m hi hm =>
          have hp : m.isPropose = false := hm.elim (hs.sent m) (hforge m)
          have hi := hP i _ (.deliver m now) hi (hs.nodes i) fun block round view t he => by
            cases he
            cases hp
          exact hs.update hi.1 hi.2 _
      | perform i a hi =>
          have hi := hP i _ (.perform a) hi (hs.nodes i) fun _ _ _ _ he => by cases he
          exact hs.update hi.1 hi.2 _

theorem empty_databases_never_start (hforge : ∀ m, F.forge m = true → m.isPropose = false)
    {cfg : NodeId → ConsensusConfig} {mempool : NodeId → Mempool} {t₀ now : Timestamp} {w : Network ConsensusEngine}
    (hw : Network.Reachable (engineProtocol C now) F (fun i => new (cfg i) .empty (mempool i) t₀) w) :
    (∀ i, (w.node i).storage = Storage.empty ∧ (w.node i).currentHeight = 0) ∧ ∀ m ∈ w.sent, m.isPropose = false :=
  have hs := NoProposals.reachable (fun _ _ op _ h hop => h.step op hop) hforge
    (fun i => barren_new (cfg i) (mempool i) t₀) hw
  ⟨fun i => ⟨(hs.nodes i).storage, (hs.nodes i).currentHeight⟩, hs.sent⟩

end Network

def noForgery : Faults ConsensusEngine LocalAction := ⟨fun _ => true, fun _ => false, fun _ _ => true⟩

def leaderReady : List (Event LocalAction) :=
  [.perform "a" (.submitTransaction (sampleTransfer 1 1)), .perform "a" (.tick 2000 2000)]

theorem leader_with_transactions_never_proposes :
    ∃ w, Network.Reachable (engineProtocol sampleCodec 0) noForgery
        (fun i => new (quadReplica i) .empty (Mempool.new .default) 0) w ∧
      (w.node "a").shouldProposeBlock 3000 = true ∧ (w.node "a").mempool.size = 1 ∧
      (∀ i, (w.node i).storage = Storage.empty ∧ (w.node i).currentHeight = 0) ∧
      ∀ m ∈ w.sent, m.isPropose = false := by
  have hrun : (Network.exec (engineProtocol sampleCodec 0) noForgery
      (Network.init fun i => new (quadReplica i) .empty (Mempool.new .default) 0) leaderReady).map
      (fun w => (w.node "a").shouldProposeBlock 3000 && decide ((w.node "a").mempool.size = 1)) = some true := by
    decide
  obtain ⟨w, hw, hp⟩ := Network.exists_of_exec _ _ hrun
  obtain ⟨hl, hm⟩ := Bool.and_eq_true_iff.mp hp
  exact ⟨w, hw, hl, of_decide_eq_true hm, empty_databases_never_start (fun _ h => absurd h Bool.false_ne_true) hw⟩

end ConsensusEngine

end BlockchainNode

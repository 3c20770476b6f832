import BlockchainNode.Consensus.EngineSafety

namespace BlockchainNode

theorem foldl_removeTransaction_lookup (C : Codec) (txs : List Transaction) (m : Mempool) (x : Uuid) :
    (txs.foldl (fun mempool tx => (mempool.removeTransaction C tx.id).1) m).transactions.lookup x =
      if x ∈ txs.map (·.id) then none else m.transactions.lookup x := by
  induction txs generalizing m with
  | nil => simp
  | cons tx txs ih =>
      rw [List.foldl_cons, ih, Mempool.removeTransaction_lookup]
      by_cases hx : x = tx.id <;> simp [hx]

namespace ConsensusEngine

variable (C : Codec)

def HeightSynced (e : ConsensusEngine) : Prop := e.currentHeight = e.storage.getLatestHeight.getD 0

def StorageFrame (e e' : ConsensusEngine) : Prop := e'.storage = e.storage ∧ e'.currentHeight = e.currentHeight

def Commits (e e' : ConsensusEngine) (block : Block) : Prop :=
  e'.storage = e.storage.storeBlock C block ∧ e'.currentHeight = block.header.height ∧
    e'.mempool = block.transactions.foldl (fun mempool tx => (mempool.removeTransaction C tx.id).1) e.mempool

section Steps

variable {C} {e : ConsensusEngine}

theorem StorageFrame.refl (e : ConsensusEngine) : StorageFrame e e := ⟨rfl, rfl⟩

theorem StorageFrame.trans {e₁ e₂ : ConsensusEngine} (h₁ : StorageFrame e e₁) (h₂ : StorageFrame e₁ e₂) :
    StorageFrame e e₂ :=
  ⟨h₂.1.trans h₁.1, h₂.2.trans h₁.2⟩

theorem commitBlock_storage (blockHash : Hash) :
    StorageFrame e (e.commitBlock C blockHash).state ∨
      ∃ block, e.pendingBlocks blockHash = some block ∧ Commits C e (e.commitBlock C blockHash).state block := by
  unfold commitBlock
  split
  · exact .inl (StorageFrame.refl _)
  · next block hb => exact .inr ⟨block, hb, rfl, rfl, rfl⟩

theorem checkVoteThreshold_storage (blockHash : Hash) (t : VoteType) (round view : Nat) :
    StorageFrame e (e.checkVoteThreshold C blockHash t round view).state ∨
      ∃ block, e.pendingBlocks blockHash = some block ∧
        Commits C e (e.checkVoteThreshold C blockHash t round view).state block := by
  dsimp only [checkVoteThreshold]
  split
  · cases t with
    | prepare => exact .inl ⟨rfl, rfl⟩
    | commit => exact commitBlock_storage blockHash
  · exact .inl (StorageFrame.refl _)

theorem handleVoteMessage_storage (blockHash : Hash) (t : VoteType) (round view : Nat) (k : NodeId)
    (sig : Signature) :
    StorageFrame e (e.handleVoteMessage C blockHash t round view k sig).state ∨
      ∃ block, e.pendingBlocks blockHash = some block ∧
        Commits C e (e.handleVoteMessage C blockHash t round view k sig).state block := by
  dsimp only [handleVoteMessage]
  split_ifs
  · exact .inl (StorageFrame.refl _)
  · exact checkVoteThreshold_storage blockHash t round view
  · exact .inl (StorageFrame.refl _)

theorem consensusTick_cases (now timestamp : Timestamp) :
    ∃ e₁ out, (e.shouldProposeBlock now = true ∧
        (e₁, out) = ((e.proposeBlock C timestamp).state, (e.proposeBlock C timestamp).sent) ∨ (e₁, out) = (e, [])) ∧
      (e.consensusTick C now timestamp = (e₁, out) ∨ e₁.shouldTriggerViewChange now = true ∧
        e.consensusTick C now timestamp = (e₁.triggerViewChange.state, out ++ e₁.triggerViewChange.sent)) := by
  have htrigger : ∀ (e₁ : ConsensusEngine) (out : List ConsensusMessage),
      (if e₁.shouldTriggerViewChange now then (e₁.triggerViewChange.state, out ++ e₁.triggerViewChange.sent)
        else (e₁, out)) = (e₁, out) ∨ e₁.shouldTriggerViewChange now = true ∧
      (if e₁.shouldTriggerViewChange now then (e₁.triggerViewChange.state, out ++ e₁.triggerViewChange.sent)
        else (e₁, out)) = (e₁.triggerViewChange.state, out ++ e₁.triggerViewChange.sent) := by
    intro e₁ out
    split
    · next ht => exact .inr ⟨ht, rfl⟩
    · exact .inl rfl
  dsimp only [consensusTick]
  split
  · next hs => exact ⟨_, _, .inl ⟨hs, rfl⟩, htrigger _ _⟩
  · exact ⟨_, _, .inr rfl, htrigger _ _⟩

theorem consensusTick_preserves (R : ConsensusEngine → Prop) {now timestamp : Timestamp} (h₀ : R e)
    (hpropose : e.shouldProposeBlock now = true → R (e.proposeBlock C timestamp).state)
    (htrigger : ∀ e₁, R e₁ → e₁.shouldTriggerViewChange now = true → R e₁.triggerViewChange.state) :
    R (e.consensusTick C now timestamp).1 := by
  obtain ⟨e₁, out, hpro, htick⟩ := @consensusTick_cases C e now timestamp
  have h₁ : R e₁ := by
    rcases hpro with ⟨hs, h⟩ | h <;> cases h
    exacts [hpropose hs, h₀]
  rcases htick with h | ⟨ht, h⟩ <;> rw [h]
  exacts [h₁, htrigger e₁ h₁ ht]

theorem proposeBlock_storage (timestamp : Timestamp) : StorageFrame e (e.proposeBlock C timestamp).state := by
  dsimp only [proposeBlock]
  split
  · exact ⟨rfl, rfl⟩
  · split <;> exact ⟨rfl, rfl⟩

theorem triggerViewChange_storage : StorageFrame e e.triggerViewChange.state := by
  dsimp only [triggerViewChange]
  split <;> exact ⟨rfl, rfl⟩

theorem act_storage (a : LocalAction) : StorageFrame e (e.act C a).1 := by
  cases a with
  | tick now timestamp =>
      exact consensusTick_preserves (StorageFrame e) (.refl e) (fun _ => proposeBlock_storage timestamp)
        fun _ h₁ _ => h₁.trans triggerViewChange_storage
  | submitTransaction tx => exact ⟨rfl, rfl⟩

theorem apply_storage_cases (op : Op) :
    StorageFrame e (e.apply C op) ∨
      ∃ blockHash block, e.pendingBlocks blockHash = some block ∧ Commits C e (e.apply C op) block := by
  cases op with
  | perform a => exact .inl (act_storage a)
  | deliver message now =>
      cases message with
      | propose block round view =>
          refine .inl ?_
          show StorageFrame e (e.handleProposeMessage C block round view).state
          dsimp only [handleProposeMessage]
          split_ifs <;> exact ⟨rfl, rfl⟩
      | vote blockHash t round view k sig =>
          exact (handleVoteMessage_storage blockHash t round view k sig).imp_right
            fun ⟨block, hb, hc⟩ => ⟨blockHash, block, hb, hc⟩
      | viewChange newView k sig => exact .inl ⟨rfl, rfl⟩
      | newView view msgs => exact .inl ⟨rfl, rfl⟩

theorem Commits.getBlock {e' : ConsensusEngine} {block : Block} (hc : Commits C e e' block) :
    e'.storage.getBlock block.header.height = some block := by
  rw [hc.1, Storage.storeBlock_getBlock, if_pos rfl]

theorem Commits.getLatestHeight {e' : ConsensusEngine} {block : Block} (hc : Commits C e e' block) :
    e'.storage.getLatestHeight = some block.header.height := by
  rw [hc.1, Storage.storeBlock_latestHeight]

theorem Commits.evicts {e' : ConsensusEngine} {block : Block} (hc : Commits C e e' block) {tx : Transaction}
    (htx : tx ∈ block.transactions) : e'.mempool.getTransaction tx.id = none := by
  rw [Mempool.getTransaction, hc.2.2, foldl_removeTransaction_lookup, if_pos (List.mem_map_of_mem _ htx)]

theorem HeightSynced.apply (hs : HeightSynced e) (op : Op) : HeightSynced (e.apply C op) := by
  rcases apply_storage_cases op with ⟨hst, hh⟩ | ⟨_, block, -, hc⟩
  · rw [HeightSynced, hst, hh]
    exact hs
  · rw [HeightSynced, hc.getLatestHeight, hc.2.1]
    rfl

end Steps

theorem reachable_run (e : ConsensusEngine) (ops : List Op) : Reachable C e (e.run C ops) := by
  induction ops generalizing e with
  | nil => exact .refl
  | cons op ops ih => exact .head ⟨op, rfl⟩ (ih _)

theorem heightSynced_new (config : ConsensusConfig) (storage : Storage) (mempool : Mempool) (now : Timestamp) :
    HeightSynced (new config storage mempool now) := rfl

theorem HeightSynced.reachable {start e : ConsensusEngine} (hs : HeightSynced start) (h : Reachable C start e) :
    HeightSynced e := by
  induction h with
  | refl => exact hs
  | tail _ hst ih =>
      obtain ⟨op, rfl⟩ := hst
      exact ih.apply op

theorem engine_height_tracks_storage {config : ConsensusConfig} {storage : Storage} {mempool : Mempool}
    {now : Timestamp} {e : ConsensusEngine} (h : Reachable C (new config storage mempool now) e) :
    e.currentHeight = e.storage.getLatestHeight.getD 0 :=
  (heightSynced_new config storage mempool now).reachable C h

theorem sample_height_tracks_storage :
    ((new PbftEngine.quadConfig .empty (Mempool.new .default) 0).run sampleCodec
      (commitAt (sampleBlock "a" 7 5) 0 ++ commitAt (sampleBlock "a" 3 6) 1)).currentHeight =
    ((new PbftEngine.quadConfig .empty (Mempool.new .default) 0).run sampleCodec
      (commitAt (sampleBlock "a" 7 5) 0 ++ commitAt (sampleBlock "a" 3 6) 1)).storage.getLatestHeight.getD 0 :=
  engine_height_tracks_storage sampleCodec (reachable_run sampleCodec _ _)

theorem step_commits_pending_block (e : ConsensusEngine) (op : Op) :
    ((e.apply C op).storage = e.storage ∧ (e.apply C op).currentHeight = e.currentHeight) ∨
      ∃ blockHash block, e.pendingBlocks blockHash = some block ∧
        (e.apply C op).storage.getBlock block.header.height = some block ∧
        (∀ height ≠ block.header.height, (e.apply C op).storage.getBlock height = e.storage.getBlock height) ∧
        (e.apply C op).storage.getLatestHeight = some block.header.height ∧
        (e.apply C op).currentHeight = block.header.height ∧
        ∀ tx ∈ block.transactions, (e.apply C op).mempool.getTransaction tx.id = none :=
  (apply_storage_cases op).imp id fun ⟨blockHash, block, hb, hc⟩ =>
    ⟨blockHash, block, hb, hc.getBlock, fun height hh => by rw [hc.1, Storage.storeBlock_getBlock, if_neg hh],
      hc.getLatestHeight, hc.2.1, fun _ => hc.evicts⟩

end ConsensusEngine

end BlockchainNode

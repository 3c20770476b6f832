import BlockchainNode.Consensus.Engine
import BlockchainNode.Consensus.PbftSafety

namespace BlockchainNode

namespace ConsensusEngine

variable (C : Codec)

inductive LocalAction where
  | tick (now timestamp : Timestamp)
  | submitTransaction (tx : Transaction)

def act (e : ConsensusEngine) : LocalAction → ConsensusEngine × List ConsensusMessage
  | .tick now timestamp => e.consensusTick C now timestamp
  | .submitTransaction tx => ({ e with mempool := (e.mempool.addTransaction C tx).1 }, [])

inductive Op where
  | deliver (message : ConsensusMessage) (now : Timestamp)
  | perform (action : LocalAction)

def apply (e : ConsensusEngine) : Op → ConsensusEngine
  | .deliver message now => (e.handleConsensusMessage C message now).state
  | .perform action => (e.act C action).1

def run (e : ConsensusEngine) (ops : List Op) : ConsensusEngine := ops.foldl (apply C) e

def Reachable (start e : ConsensusEngine) : Prop :=
  Relation.ReflTransGen (fun e e' => ∃ op, e' = e.apply C op) start e

def VotesWF (e : ConsensusEngine) : Prop :=
  ∀ view round blockHash, EntryWF e.config.validatorSet view round blockHash (e.votes (view, round, blockHash))

def Frame (e e' : ConsensusEngine) : Prop :=
  e'.config = e.config ∧ e'.votes = e.votes ∧ e'.currentRound = e.currentRound

section Steps

variable {C} {e : ConsensusEngine}

theorem Frame.refl (e : ConsensusEngine) : Frame e e := ⟨rfl, rfl, rfl⟩

theorem Frame.trans {e₁ e₂ : ConsensusEngine} (h₁ : Frame e e₁) (h₂ : Frame e₁ e₂) : Frame e e₂ :=
  ⟨h₂.1.trans h₁.1, h₂.2.1.trans h₁.2.1, h₂.2.2.trans h₁.2.2⟩

theorem handleProposeMessage_frame (block : Block) (round view : Nat) :
    Frame e (e.handleProposeMessage C block round view).state := by
  dsimp only [handleProposeMessage]
  split_ifs <;> exact Frame.refl _

theorem commitBlock_cases (blockHash : Hash) :
    (e.commitBlock C blockHash).state = e ∨ ∃ block, e.pendingBlocks blockHash = some block ∧
      (e.commitBlock C blockHash).state.storage = e.storage.storeBlock C block ∧
      (e.commitBlock C blockHash).state.config = e.config ∧ (e.commitBlock C blockHash).state.votes = e.votes ∧
      (e.commitBlock C blockHash).state.currentRound = wrappingAdd e.currentRound 1 := by
  unfold commitBlock
  split
  · exact .inl rfl
  · next block hb => exact .inr ⟨block, hb, rfl, rfl, rfl, rfl⟩

theorem checkVoteThreshold_cases (blockHash : Hash) (t : VoteType) (round view : Nat) :
    Frame e (e.checkVoteThreshold C blockHash t round view).state ∨
      (t = .commit ∧ quorumSize e.config.validatorSet.length ≤ countVotesIn (e.votes (view, round, blockHash)) .commit ∧
        ∃ block, e.pendingBlocks blockHash = some block ∧
          (e.checkVoteThreshold C blockHash t round view).state.storage = e.storage.storeBlock C block ∧
          Frame e { (e.checkVoteThreshold C blockHash t round view).state with currentRound := e.currentRound }) := by
  dsimp only [checkVoteThreshold]
  split
  · next hq =>
      cases t with
      | prepare => exact .inl (Frame.refl _)
      | commit =>
          rcases @commitBlock_cases C e blockHash with h | ⟨block, hb, hs, hc, hv, -⟩
          · exact .inl (by rw [h]; exact Frame.refl _)
          · exact .inr ⟨rfl, hq, block, hb, hs, hc, hv, rfl⟩
  · exact .inl (Frame.refl _)

theorem proposeBlock_frame (timestamp : Timestamp) : Frame e (e.proposeBlock C timestamp).state := by
  dsimp only [proposeBlock]
  split
  · exact Frame.refl _
  · split <;> exact Frame.refl _

theorem createBlock_spec {transactions : List Transaction} {height : BlockHeight} {view round : Nat}
    {timestamp : Timestamp} {block : Block}
    (h : e.createBlock C transactions height view round timestamp = .ok block) :
    block.header.height = height ∧ block.transactions = transactions ∧
      block.header.proposer = e.config.nodeId ∧ block.header.merkleRoot = block.calculateMerkleRoot C ∧
      (height = 0 ∧ block.header.previousHash = 0 ∨
        ∃ prev, e.storage.getBlock (height - 1) = some prev ∧ block.header.previousHash = prev.hash C) := by
  unfold createBlock at h
  split at h
  · next h0 => cases h; exact ⟨rfl, rfl, rfl, rfl, .inl ⟨h0, rfl⟩⟩
  · split at h
    · next prev hp => cases h; exact ⟨rfl, rfl, rfl, rfl, .inr ⟨prev, hp, rfl⟩⟩
    · cases h

theorem proposeBlock_spec (timestamp : Timestamp) {block : Block} {round view : Nat}
    (hx : .propose block round view ∈ (e.proposeBlock C timestamp).sent) :
    round = e.currentRound ∧ view = e.currentView ∧
      (e.proposeBlock C timestamp).state.pendingBlocks (block.hash C) = some block ∧
      block.header.height = wrappingAdd e.currentHeight 1 ∧ block.header.proposer = e.config.nodeId ∧
      block.header.merkleRoot = block.calculateMerkleRoot C ∧
      (wrappingAdd e.currentHeight 1 = 0 ∧ block.header.previousHash = 0 ∨
        ∃ prev, e.storage.getBlock (wrappingAdd e.currentHeight 1 - 1) = some prev ∧
          block.header.previousHash = prev.hash C) := by
  dsimp only [proposeBlock] at hx ⊢
  split_ifs at hx ⊢
  · cases hx
  · split at hx
    · cases hx
    · next b hb =>
        obtain ⟨hh, -, hp, hm, hprev⟩ := createBlock_spec hb
        obtain ⟨⟩ := List.mem_singleton.mp hx
        exact ⟨rfl, rfl, Function.update_same _ _ _, hh, hp, hm, hprev⟩

theorem triggerViewChange_frame : Frame e e.triggerViewChange.state := by
  dsimp only [triggerViewChange]
  split <;> exact Frame.refl _

theorem act_frame (a : LocalAction) : Frame e (e.act C a).1 := by
  cases a with
  | tick now timestamp =>
      dsimp only [act, consensusTick]
      have hview : ∀ e₁ : ConsensusEngine, Frame e e₁ → ∀ out : List ConsensusMessage,
          Frame e (if e₁.shouldTriggerViewChange now then (e₁.triggerViewChange.state, out ++ e₁.triggerViewChange.sent)
            else (e₁, out)).1 := by
        intro e₁ h₁ out
        split
        · exact h₁.trans triggerViewChange_frame
        · exact h₁
      split
      · exact hview _ (proposeBlock_frame timestamp) _
      · exact hview _ (Frame.refl _) _
  | submitTransaction tx => exact Frame.refl _

theorem VotesWF.of_eq {e' : ConsensusEngine} (hw : VotesWF e) (hc : e'.config = e.config) (hv : e'.votes = e.votes) :
    VotesWF e' := by
  intro view round blockHash
  rw [hc, hv]
  exact hw view round blockHash

theorem VotesWF.frame {e' : ConsensusEngine} (hw : VotesWF e) (h : Frame e e') : VotesWF e' :=
  hw.of_eq h.1 h.2.1

theorem handleVoteMessage_cases (blockHash : Hash) (t : VoteType) (round view : Nat) (k : NodeId) (sig : Signature) :
    Frame e (e.handleVoteMessage C blockHash t round view k sig).state ∨
      (round = e.currentRound ∧ view = e.currentView ∧ k ∈ e.config.validatorSet ∧
        e.handleVoteMessage C blockHash t round view k sig =
          (e.storeVote (view, round, blockHash) k (.vote blockHash t round view k sig)).checkVoteThreshold C
            blockHash t round view) := by
  dsimp only [handleVoteMessage]
  split
  · exact .inl (Frame.refl _)
  · next hcur =>
      split
      · exact .inl (Frame.refl _)
      · next hk =>
          push_neg at hcur
          exact .inr ⟨hcur.2, hcur.1, by simpa using hk, rfl⟩

theorem VotesWF.insertVote (hw : VotesWF e) {blockHash : Hash} {t : VoteType} {round view : Nat} {k : NodeId}
    {sig : Signature} (hk : k ∈ e.config.validatorSet) :
    VotesWF (e.storeVote (view, round, blockHash) k (.vote blockHash t round view k sig)) := by
  intro view' round' blockHash'
  dsimp only [storeVote]
  rw [Function.update_apply]
  split
  · next heq =>
      cases heq
      refine (hw view round blockHash).insert hk fun t' ht => ⟨sig, ?_⟩
      cases t <;> cases t' <;> first | rfl | cases ht
  · exact hw view' round' blockHash'

theorem apply_cases (op : Op) :
    Frame e (e.apply C op) ∨
      ∃ blockHash t k sig now, op = .deliver (.vote blockHash t e.currentRound e.currentView k sig) now ∧
        k ∈ e.config.validatorSet ∧
        e.apply C op = ((e.storeVote (e.currentView, e.currentRound, blockHash) k
          (.vote blockHash t e.currentRound e.currentView k sig)).checkVoteThreshold C blockHash t e.currentRound
            e.currentView).state := by
  cases op with
  | perform a => exact .inl (act_frame a)
  | deliver message now =>
      cases message with
      | propose block round view => exact .inl (handleProposeMessage_frame block round view)
      | vote blockHash t round view k sig =>
          rcases @handleVoteMessage_cases C e blockHash t round view k sig with h | ⟨rfl, rfl, hk, h⟩
          · exact .inl h
          · exact .inr ⟨blockHash, t, k, sig, now, rfl, hk, congrArg Outcome.state h⟩
      | viewChange newView k sig => exact .inl ⟨rfl, rfl, rfl⟩
      | newView view msgs => exact .inl ⟨rfl, rfl, rfl⟩

theorem apply_votes (op : Op) :
    (e.apply C op).config = e.config ∧ ((e.apply C op).votes = e.votes ∨
      ∃ blockHash t round view k sig now, op = .deliver (.vote blockHash t round view k sig) now ∧
        k ∈ e.config.validatorSet ∧
        (e.apply C op).votes = (e.storeVote (view, round, blockHash) k (.vote blockHash t round view k sig)).votes) := by
  rcases @apply_cases C e op with h | ⟨blockHash, t, k, sig, now, rfl, hk, h⟩
  · exact ⟨h.1, .inl h.2.1⟩
  · rw [h]
    rcases @checkVoteThreshold_cases C _ blockHash t e.currentRound e.currentView with h' | ⟨-, -, -, -, -, h'⟩
    all_goals exact ⟨h'.1, .inr ⟨blockHash, t, _, _, k, sig, now, rfl, hk, h'.2.1⟩⟩

theorem VotesWF.apply (hw : VotesWF e) (op : Op) : VotesWF (e.apply C op) := by
  obtain ⟨hc, hv | ⟨_, _, _, _, _, _, _, -, hk, hv⟩⟩ := @apply_votes C e op
  · exact hw.of_eq hc hv
  · exact (hw.insertVote hk).of_eq hc hv

theorem commit_of_round_change {op : Op} (h : (e.apply C op).currentRound ≠ e.currentRound) :
    ∃ blockHash block, e.pendingBlocks blockHash = some block ∧
      (e.apply C op).storage = e.storage.storeBlock C block ∧ (e.apply C op).config = e.config ∧
      quorumSize e.config.validatorSet.length ≤
        countVotesIn ((e.apply C op).votes (e.currentView, e.currentRound, blockHash)) .commit := by
  rcases @apply_cases C e op with hf | ⟨blockHash, t, k, sig, now, rfl, -, heq⟩
  · exact absurd hf.2.2 h
  · rw [heq] at h ⊢
    rcases @checkVoteThreshold_cases C _ blockHash t e.currentRound e.currentView with
      hf | ⟨-, hq, block, hb, hs, hc, hv, -⟩
    · exact absurd hf.2.2 h
    · exact ⟨blockHash, block, hb, hs, hc, hv ▸ hq⟩

theorem votesWF_new (config : ConsensusConfig) (storage : Storage) (mempool : Mempool) (now : Timestamp) :
    VotesWF (new config storage mempool now) :=
  fun view round blockHash => EntryWF.empty _ view round blockHash

theorem Reachable.votesWF {config : ConsensusConfig} {storage : Storage} {mempool : Mempool} {now : Timestamp}
    (h : Reachable C (new config storage mempool now) e) : VotesWF e := by
  induction h with
  | refl => exact votesWF_new config storage mempool now
  | tail _ hs ih => obtain ⟨op, rfl⟩ := hs; exact ih.apply op

end Steps

theorem commit_requires_commit_quorum :
    (∀ {config : ConsensusConfig} {st st' : PbftEngine} {m : ConsensusMessage} {out : List ConsensusMessage}
        {c : Nat × Nat × Hash}, PbftEngine.Reachable C config st → st.processMessage C m = .ok (st', out) →
      st.committedCertificates c = false → st'.committedCertificates c = true →
      ∃ entry, st'.messageLog (c.1, c.2.1) = some entry ∧ entry.blockHash = c.2.2 ∧
        CommitVotes st'.config.validatorSet c.1 c.2.1 c.2.2 entry.messages) ∧
    (∀ {config : ConsensusConfig} {storage : Storage} {mempool : Mempool} {now : Timestamp} {e : ConsensusEngine}
        {op : Op}, Reachable C (new config storage mempool now) e → (e.apply C op).currentRound ≠ e.currentRound →
      ∃ blockHash block, e.pendingBlocks blockHash = some block ∧
        (e.apply C op).storage = e.storage.storeBlock C block ∧
        CommitVotes e.config.validatorSet e.currentView e.currentRound blockHash
          ((e.apply C op).votes (e.currentView, e.currentRound, blockHash))) := by
  refine ⟨fun hr hm hc hc' => ?_, @fun _ _ _ _ e op hr h => ?_⟩
  · have E := PbftEngine.processMessage_effect C _ hm
    have hi := (PbftEngine.Reachable.invariant C hr).step E
    rcases E.committed _ hc' with hold | ⟨entry, he, hb, hq⟩
    · rw [hc] at hold
      cases hold
    · exact ⟨entry, he, hb, hb ▸ (hi.wf _ _ entry he).commitVotes hq⟩
  · obtain ⟨blockHash, block, hb, hs, hc, hq⟩ := commit_of_round_change h
    have hw := @VotesWF.apply C e hr.votesWF op
    refine ⟨blockHash, block, hb, hs, ?_⟩
    have hwf := hw e.currentView e.currentRound blockHash
    rw [hc] at hwf
    exact hwf.commitVotes hq

def commitWithoutPrepare : List PbftOp :=
  [.process (.propose (sampleBlock "a" 1 10) 0 0), .process (.vote 10 .commit 0 0 "a" 0),
    .process (.vote 10 .commit 0 0 "b" 0), .process (.vote 10 .commit 0 0 "c" 0)]

def commitAt (block : Block) (round : Nat) : List Op :=
  .deliver (.propose block round 0) 0 ::
    ["a", "b", "c"].map fun k => .deliver (.vote (block.hash sampleCodec) .commit round 0 k 0) 0

theorem commit_without_prepare_quorum :
    ((PbftEngine.new PbftEngine.quadConfig).run sampleCodec commitWithoutPrepare).isCommitted 0 0 10 = true ∧
    ((PbftEngine.new PbftEngine.quadConfig).run sampleCodec commitWithoutPrepare).isPrepared 0 0 10 = false ∧
    ((new PbftEngine.quadConfig .empty (Mempool.new .default) 0).run sampleCodec
      (commitAt (sampleBlock "a" 1 10) 0)).storage.getBlock 1 = some (sampleBlock "a" 1 10) ∧
    countVotesIn (((new PbftEngine.quadConfig .empty (Mempool.new .default) 0).run sampleCodec
      (commitAt (sampleBlock "a" 1 10) 0)).votes (0, 0, 10)) .prepare = 0 := by
  decide

theorem commit_ignores_height_order :
    (new PbftEngine.quadConfig .empty (Mempool.new .default) 0).currentHeight = 0 ∧
    ((new PbftEngine.quadConfig .empty (Mempool.new .default) 0).run sampleCodec
      (commitAt (sampleBlock "a" 7 5) 0)).storage.getBlock 7 = some (sampleBlock "a" 7 5) ∧
    ((new PbftEngine.quadConfig .empty (Mempool.new .default) 0).run sampleCodec
      (commitAt (sampleBlock "a" 7 5) 0)).currentHeight = 7 ∧
    ((new PbftEngine.quadConfig .empty (Mempool.new .default) 0).run sampleCodec
      (commitAt (sampleBlock "a" 7 5) 0 ++ commitAt (sampleBlock "a" 3 6) 1)).storage.getBlock 3 =
        some (sampleBlock "a" 3 6) ∧
    ((new PbftEngine.quadConfig .empty (Mempool.new .default) 0).run sampleCodec
      (commitAt (sampleBlock "a" 7 5) 0 ++ commitAt (sampleBlock "a" 3 6) 1)).currentHeight = 3 := by
  decide

end ConsensusEngine

end BlockchainNode

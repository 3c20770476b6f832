import BlockchainNode.Consensus.EngineSafety
import BlockchainNode.Consensus.PbftAgreement

namespace BlockchainNode

namespace ConsensusEngine

variable (C : Codec)

def engineProtocol (now : Timestamp) : Protocol ConsensusEngine LocalAction where
  handle e m :=
    let r := e.handleConsensusMessage C m now
    (r.state, r.sent)
  act e a := e.act C a

section Outputs

variable {C} {e : ConsensusEngine}

theorem handleProposeMessage_sent {block : Block} {round view : Nat} {x : ConsensusMessage}
    (hx : x ∈ (e.handleProposeMessage C block round view).sent) :
    block.verify C = true ∧ x = .vote (block.hash C) .prepare round view e.config.nodeId 0 := by
  dsimp only [handleProposeMessage] at hx
  split_ifs at hx with h₁ h₂
  · cases hx
  · cases hx
  · exact ⟨by simpa [validateProposedBlock] using h₂, List.mem_singleton.mp hx⟩

theorem checkVoteThreshold_sent {blockHash : Hash} {t : VoteType} {round view : Nat} {x : ConsensusMessage}
    (hx : x ∈ (e.checkVoteThreshold C blockHash t round view).sent) :
    t = .prepare ∧ quorumSize e.config.validatorSet.length ≤ countVotesIn (e.votes (view, round, blockHash)) .prepare ∧
      x = .vote blockHash .commit round view e.config.nodeId 0 ∧
      (e.checkVoteThreshold C blockHash t round view).state.votes = e.votes := by
  cases t with
  | prepare =>
      dsimp only [checkVoteThreshold] at hx ⊢
      split_ifs at hx ⊢ with hq
      · exact ⟨rfl, hq, List.mem_singleton.mp hx, rfl⟩
      · cases hx
  | commit =>
      dsimp only [checkVoteThreshold, commitBlock] at hx
      split_ifs at hx
      · split at hx <;> simp at hx
      · cases hx

theorem handleVoteMessage_sent {blockHash : Hash} {t : VoteType} {round view : Nat} {k : NodeId} {sig : Signature}
    {x : ConsensusMessage} (hx : x ∈ (e.handleVoteMessage C blockHash t round view k sig).sent) :
    e.handleVoteMessage C blockHash t round view k sig =
      (e.storeVote (view, round, blockHash) k (.vote blockHash t round view k sig)).checkVoteThreshold C
        blockHash t round view := by
  dsimp only [handleVoteMessage] at hx ⊢
  split_ifs at hx ⊢
  all_goals first | exact absurd hx (List.not_mem_nil _) | rfl

theorem handleConsensusMessage_sent (m : ConsensusMessage) (now : Timestamp) {h : Hash} {t : VoteType}
    {r v : Nat} {k : NodeId} {sig : Signature} (hm : .vote h t r v k sig ∈ (e.handleConsensusMessage C m now).sent) :
    k = e.config.nodeId ∧
      (t = .prepare → ∃ block, m = .propose block r v ∧ block.verify C = true ∧ block.hash C = h) ∧
      (t = .commit → quorumSize e.config.validatorSet.length ≤
        countVotesIn ((e.handleConsensusMessage C m now).state.votes (v, r, h)) .prepare) := by
  cases m with
  | propose block round view =>
      obtain ⟨hb, hx⟩ := handleProposeMessage_sent hm
      cases hx
      exact ⟨rfl, fun _ => ⟨block, rfl, hb, rfl⟩, fun ht => nomatch ht⟩
  | vote blockHash t' round view validatorId signature =>
      have heq := handleVoteMessage_sent hm
      have hx : _ ∈ (e.handleVoteMessage C blockHash t' round view validatorId signature).sent := hm
      rw [heq] at hx
      obtain ⟨rfl, hq, hx, hv⟩ := checkVoteThreshold_sent hx
      cases hx
      refine ⟨rfl, (fun ht => nomatch ht), fun _ => ?_⟩
      simp only [handleConsensusMessage, heq, hv]
      exact hq
  | viewChange newView validatorId signature =>
      have hx : _ ∈ (e.viewChangeManager.handleViewChange newView validatorId signature now).sent := hm
      obtain ⟨_, hx⟩ := ViewChangeManager.handleViewChange_sent _ _ _ _ hx
      cases hx
  | newView view msgs =>
      have hx : _ ∈ (e.viewChangeManager.handleNewView view msgs now).sent := hm
      rw [ViewChangeManager.handleNewView_sent] at hx
      cases hx

theorem proposeBlock_sent (timestamp : Timestamp) {x : ConsensusMessage} (hx : x ∈ (e.proposeBlock C timestamp).sent) :
    ∃ block round view, x = .propose block round view := by
  dsimp only [proposeBlock] at hx
  split at hx
  · cases hx
  · split at hx
    · cases hx
    · exact ⟨_, _, _, List.mem_singleton.mp hx⟩

theorem triggerViewChange_sent {x : ConsensusMessage} (hx : x ∈ e.triggerViewChange.sent) :
    x = .viewChange (wrappingAdd e.currentView 1) e.viewChangeManager.config.nodeId 0 := by
  dsimp only [triggerViewChange] at hx
  split at hx <;> exact ViewChangeManager.triggerViewChange_sent _ hx

theorem act_sent (a : LocalAction) {h : Hash} {t : VoteType} {r v : Nat} {k : NodeId} {sig : Signature} :
    .vote h t r v k sig ∉ (e.act C a).2 := by
  cases a with
  | submitTransaction tx => exact List.not_mem_nil _
  | tick now timestamp =>
      dsimp only [act, consensusTick]
      have hview : ∀ (e₁ : ConsensusEngine) (out : List ConsensusMessage), .vote h t r v k sig ∉ out →
          .vote h t r v k sig ∉ (if e₁.shouldTriggerViewChange now then
            (e₁.triggerViewChange.state, out ++ e₁.triggerViewChange.sent) else (e₁, out)).2 := by
        intro e₁ out hout
        split
        · exact List.not_mem_append hout fun hx => by cases triggerViewChange_sent hx
        · exact hout
      split
      · exact hview _ _ fun hx => by obtain ⟨_, _, _, hx⟩ := proposeBlock_sent timestamp hx; cases hx
      · exact hview _ _ (List.not_mem_nil _)

theorem apply_lookup (m : ConsensusMessage) (now : Timestamp) {key : Nat × Nat × Hash} {k : NodeId}
    {msg : ConsensusMessage} (h : ((e.apply C (.deliver m now)).votes key).lookup k = some msg) :
    (e.votes key).lookup k = some msg ∨ msg = m := by
  obtain ⟨-, hv | ⟨blockHash, t, round, view, k', sig, now', heq, -, hv⟩⟩ := @apply_votes C e (.deliver m now)
  · rw [hv] at h
    exact .inl h
  · cases heq
    rw [hv] at h
    simp only [storeVote, Function.update_apply] at h
    split at h
    · next hkey =>
        subst hkey
        rcases lookup_insert_iff.mp h with ⟨-, rfl⟩ | ⟨-, h⟩
        · exact .inr rfl
        · exact .inl h
    · exact .inl h

theorem VotesWF.voteQuorum {R : List ConsensusMessage} (hw : VotesWF e)
    (hR : ∀ key k msg, (e.votes key).lookup k = some msg → msg ∈ R) {t : VoteType} {r v : Nat} {h : Hash}
    (hq : quorumSize e.config.validatorSet.length ≤ countVotesIn (e.votes (v, r, h)) t) :
    VoteQuorum e.config.validatorSet R t r v h :=
  ⟨votersIn _ t, votersIn_nodup _ _, fun _ hk => ((hw v r h).mem_votersIn hk).1, by rwa [votersIn_length],
    fun _ hk => ((hw v r h).mem_votersIn hk).2.imp fun _ hl => hR _ _ _ hl⟩

end Outputs

section Agreement

variable (vs byz : List NodeId) (cfg : NodeId → ConsensusConfig) (keep : ConsensusEngine → LocalAction → Bool)

structure Safe (w : Network ConsensusEngine) : Prop where
  config : ∀ i, replicaHonest vs byz i = true → (w.node i).config = cfg i
  votesWF : ∀ i, replicaHonest vs byz i = true → VotesWF (w.node i)
  votes : ∀ i, replicaHonest vs byz i = true → ∀ key k msg, ((w.node i).votes key).lookup k = some msg →
    msg ∈ w.received i
  received : ∀ i, replicaHonest vs byz i = true → ∀ m ∈ w.received i,
    m ∈ w.sent ∨ (authenticatedFaults vs byz keep).forge m = true
  sent : ∀ h t r v k sig, .vote h t r v k sig ∈ w.sent → replicaHonest vs byz k = true ∧
    (t = .prepare → ∃ block, .propose block r v ∈ w.received k ∧ block.verify C = true ∧ block.hash C = h) ∧
    (t = .commit → VoteQuorum vs (w.received k) .prepare r v h)

variable {C vs byz cfg keep}

theorem safe_init (storage : NodeId → Storage) (mempool : NodeId → Mempool) (t₀ : Timestamp) :
    Safe C vs byz cfg keep (Network.init fun i => new (cfg i) (storage i) (mempool i) t₀) where
  config _ _ := rfl
  votesWF _ _ := votesWF_new _ _ _ _
  votes _ _ _ _ _ hl := (nomatch hl)
  received _ _ _ hm := (nomatch hm)
  sent _ _ _ _ _ _ hm := (nomatch hm)

theorem Safe.deliver (hcfg : ∀ i, replicaHonest vs byz i = true → (cfg i).validatorSet = vs ∧ (cfg i).nodeId = i)
    {now : Timestamp} {w : Network ConsensusEngine} (hs : Safe C vs byz cfg keep w) {i : NodeId}
    {m : ConsensusMessage} (hi : replicaHonest vs byz i = true)
    (hm : m ∈ w.sent ∨ (authenticatedFaults vs byz keep).forge m = true) :
    Safe C vs byz cfg keep (w.deliver (engineProtocol C now) i m) := by
  set e' := (w.node i).apply C (.deliver m now)
  have hnode : ∀ j, (w.deliver (engineProtocol C now) i m).node j = if j = i then e' else w.node j :=
    fun j => Network.deliver_node _ w i j m
  have hrecv : ∀ j, (w.deliver (engineProtocol C now) i m).received j =
      if j = i then m :: w.received i else w.received j := fun j => Network.deliver_received _ w i j m
  have hsent : w.sent ⊆ (w.deliver (engineProtocol C now) i m).sent := List.subset_append_left _ _
  have hrecv_mono : ∀ j, w.received j ⊆ (w.deliver (engineProtocol C now) i m).received j := by
    intro j
    rw [hrecv]
    split
    · next hji => subst hji; exact List.subset_cons_self _ _
    · exact List.Subset.refl _
  have hconf : e'.config = cfg i := (@apply_votes C (w.node i) (.deliver m now)).1.trans (hs.config i hi)
  have hwf : VotesWF e' := (hs.votesWF i hi).apply _
  have hvotes : ∀ key k msg, (e'.votes key).lookup k = some msg → msg ∈ m :: w.received i := by
    intro key k msg hl
    rcases apply_lookup m now hl with hl | rfl
    · exact List.mem_cons_of_mem _ (hs.votes i hi key k msg hl)
    · exact List.mem_cons_self _ _
  constructor
  · intro j hj
    rw [hnode]
    split
    · next hji => subst hji; exact hconf
    · exact hs.config j hj
  · intro j hj
    rw [hnode]
    split
    · next hji => subst hji; exact hwf
    · exact hs.votesWF j hj
  · intro j hj key k msg hl
    rw [hnode] at hl
    rw [hrecv]
    split at hl
    · next hji => subst hji; rw [if_pos rfl]; exact hvotes key k msg hl
    · next hji => rw [if_neg hji]; exact hs.votes j hj key k msg hl
  · intro j hj x hx
    rw [hrecv] at hx
    split at hx
    · next hji =>
        subst hji
        rcases List.mem_cons.mp hx with rfl | hx
        · exact hm.imp_left fun h => hsent h
        · exact (hs.received j hj x hx).imp_left fun h => hsent h
    · exact (hs.received j hj x hx).imp_left fun h => hsent h
  · intro h t r v k sig hmem
    rw [Network.deliver_sent, List.mem_append] at hmem
    rcases hmem with hmem | hmem
    · obtain ⟨hk, hprep, hcomm⟩ := hs.sent h t r v k sig hmem
      exact ⟨hk, fun ht => (hprep ht).imp fun _ hb => ⟨hrecv_mono k hb.1, hb.2⟩,
        fun ht => (hcomm ht).mono (hrecv_mono k)⟩
    · obtain ⟨hk, hprep, hcomm⟩ := handleConsensusMessage_sent m now hmem
      have hki : k = i := hk.trans ((congrArg ConsensusConfig.nodeId (hs.config i hi)).trans (hcfg i hi).2)
      have hR : (w.deliver (engineProtocol C now) i m).received i = m :: w.received i := by rw [hrecv, if_pos rfl]
      rw [hki, hR]
      refine ⟨hi, fun ht => ?_, fun ht => ?_⟩
      · obtain ⟨block, rfl, hb, hh⟩ := hprep ht
        exact ⟨block, List.mem_cons_self _ _, hb, hh⟩
      · have hq : quorumSize e'.config.validatorSet.length ≤ countVotesIn (e'.votes (v, r, h)) .prepare := by
          rw [hconf, ← hs.config i hi]
          exact hcomm ht
        rw [← (hcfg i hi).1, ← hconf]
        exact hwf.voteQuorum hvotes hq

theorem Safe.perform {now : Timestamp} {w : Network ConsensusEngine} (hs : Safe C vs byz cfg keep w) (i : NodeId)
    (a : LocalAction) : Safe C vs byz cfg keep (w.perform (engineProtocol C now) i a) := by
  have F := @act_frame C (w.node i) a
  have hnode : ∀ j, (w.perform (engineProtocol C now) i a).node j = if j = i then ((w.node i).act C a).1 else w.node j :=
    fun j => Network.perform_node _ w i j a
  constructor
  · intro j hj
    rw [hnode]
    split
    · next hji => subst hji; exact F.1.trans (hs.config j hj)
    · exact hs.config j hj
  · intro j hj
    rw [hnode]
    split
    · next hji => subst hji; exact (hs.votesWF j hj).frame F
    · exact hs.votesWF j hj
  · intro j hj key k msg hl
    rw [hnode] at hl
    split at hl
    · next hji => subst hji; rw [F.2.1] at hl; exact hs.votes j hj key k msg hl
    · exact hs.votes j hj key k msg hl
  · intro j hj x hx
    exact (hs.received j hj x hx).imp_left fun h => List.subset_append_left _ _ h
  · intro h t r v k sig hmem
    rw [Network.perform_sent, List.mem_append] at hmem
    exact hmem.elim (hs.sent h t r v k sig) fun hmem => absurd hmem (act_sent a)

theorem Safe.step (hcfg : ∀ i, replicaHonest vs byz i = true → (cfg i).validatorSet = vs ∧ (cfg i).nodeId = i)
    {now : Timestamp} {w w' : Network ConsensusEngine} (hs : Safe C vs byz cfg keep w)
    (h : Network.Step (engineProtocol C now) (authenticatedFaults vs byz keep) w w') : Safe C vs byz cfg keep w' := by
  cases h with
  | deliver i m hi hm => exact hs.deliver hcfg hi hm
  | perform i a => exact hs.perform i a

theorem safe_of_steps (hcfg : ∀ i, replicaHonest vs byz i = true → (cfg i).validatorSet = vs ∧ (cfg i).nodeId = i)
    {now : Timestamp} {w w' : Network ConsensusEngine} (hs : Safe C vs byz cfg keep w)
    (h : Relation.ReflTransGen (Network.Step (engineProtocol C now) (authenticatedFaults vs byz keep)) w w') :
    Safe C vs byz cfg keep w' := by
  induction h with
  | refl => exact hs
  | tail _ hst ih => exact ih.step hcfg hst

theorem Safe.honest_vote_sent {w : Network ConsensusEngine} (hs : Safe C vs byz cfg keep w) {i k : NodeId}
    {h : Hash} {t : VoteType} {r v : Nat} {sig : Signature} (hi : replicaHonest vs byz i = true)
    (hk : replicaHonest vs byz k = true) (hm : .vote h t r v k sig ∈ w.received i) :
    .vote h t r v k sig ∈ w.sent := by
  refine (hs.received i hi _ hm).resolve_right ?_
  simp [authenticatedFaults, voteSender, hk]

theorem Safe.voteQuorum (hcfg : ∀ i, replicaHonest vs byz i = true → (cfg i).validatorSet = vs ∧ (cfg i).nodeId = i)
    {w : Network ConsensusEngine} (hs : Safe C vs byz cfg keep w) {i : NodeId} (hi : replicaHonest vs byz i = true)
    {t : VoteType} {r v : Nat} {h : Hash} (hq : quorumSize vs.length ≤ countVotesIn ((w.node i).votes (v, r, h)) t) :
    VoteQuorum vs (w.received i) t r v h := by
  have hvs : (w.node i).config.validatorSet = vs := by rw [hs.config i hi, (hcfg i hi).1]
  rw [← hvs] at hq ⊢
  exact (hs.votesWF i hi).voteQuorum (hs.votes i hi) hq

theorem commit_agreement_of_unique_proposals {f : Nat} {now t₀ : Timestamp} {storage : NodeId → Storage}
    {mempool : NodeId → Mempool} (hvs : vs.Nodup) (hn : vs.length = 3 * f + 1)
    (hbyz : (vs.filter (· ∈ byz)).length ≤ f)
    (hcfg : ∀ i, replicaHonest vs byz i = true → (cfg i).validatorSet = vs ∧ (cfg i).nodeId = i)
    {w₁ w₂ : Network ConsensusEngine}
    (h₁ : Network.Reachable (engineProtocol C now) (authenticatedFaults vs byz keep)
      (fun i => new (cfg i) (storage i) (mempool i) t₀) w₁)
    (h₂ : Relation.ReflTransGen (Network.Step (engineProtocol C now) (authenticatedFaults vs byz keep)) w₁ w₂)
    (hprop : ∀ k, replicaHonest vs byz k = true → ∀ b b' r v, .propose b r v ∈ w₂.received k →
      .propose b' r v ∈ w₂.received k → b.verify C = true → b'.verify C = true → b.hash C = b'.hash C)
    {i j : NodeId} (hi : replicaHonest vs byz i = true) (hj : replicaHonest vs byz j = true) {v r : Nat}
    {h h' : Hash} (hc : quorumSize vs.length ≤ countVotesIn ((w₁.node i).votes (v, r, h)) .commit)
    (hc' : quorumSize vs.length ≤ countVotesIn ((w₂.node j).votes (v, r, h')) .commit) : h = h' := by
  have hs₁ := safe_of_steps hcfg (safe_init storage mempool t₀) h₁
  have hs₂ := safe_of_steps hcfg hs₁ h₂
  have hq₁ := hs₁.voteQuorum hcfg hi hc
  have hq₂ := hs₂.voteQuorum hcfg hj hc'
  obtain ⟨k₁, hk₁, ⟨sig₁, hm₁⟩, -⟩ := hq₁.common_honest hvs hn hbyz hq₁
  obtain ⟨k₂, hk₂, ⟨sig₂, hm₂⟩, -⟩ := hq₂.common_honest hvs hn hbyz hq₂
  obtain ⟨-, -, hp₁⟩ := hs₂.sent _ _ _ _ _ _ (Network.steps_sent _ _ h₂ (hs₁.honest_vote_sent hi hk₁ hm₁))
  obtain ⟨-, -, hp₂⟩ := hs₂.sent _ _ _ _ _ _ (hs₂.honest_vote_sent hj hk₂ hm₂)
  obtain ⟨k, hk, ⟨sig₃, hv₁⟩, sig₄, hv₂⟩ := (hp₁ rfl).common_honest hvs hn hbyz (hp₂ rfl)
  obtain ⟨-, hpr₁, -⟩ := hs₂.sent _ _ _ _ _ _ (hs₂.honest_vote_sent hk₁ hk hv₁)
  obtain ⟨-, hpr₂, -⟩ := hs₂.sent _ _ _ _ _ _ (hs₂.honest_vote_sent hk₂ hk hv₂)
  obtain ⟨b₁, hr₁, hb₁, rfl⟩ := hpr₁ rfl
  obtain ⟨b₂, hr₂, hb₂, rfl⟩ := hpr₂ rfl
  exact hprop k hk b₁ b₂ r v hr₁ hr₂ hb₁ hb₂

end Agreement

def proposalsAgree (R : List ConsensusMessage) : Bool :=
  R.all fun m => R.all fun m' =>
    match m, m' with
    | .propose b r v, .propose b' r' v' =>
        !(decide (r = r') && decide (v = v') && b.verify C && b'.verify C) || decide (b.hash C = b'.hash C)
    | _, _ => true

theorem proposalsAgree_spec {R : List ConsensusMessage} (h : proposalsAgree C R = true) {b b' : Block} {r v : Nat}
    (hb : .propose b r v ∈ R) (hb' : .propose b' r v ∈ R) (hv : b.verify C = true) (hv' : b'.verify C = true) :
    b.hash C = b'.hash C := by
  have := List.all_eq_true.mp (List.all_eq_true.mp h _ hb) _ hb'
  simpa [hv, hv'] using this

theorem agreement_after_single_proposal :
    ∃ w, Network.Reachable (engineProtocol sampleCodec 0) (authenticatedFaults quadValidators ["d"] fun _ _ => true)
        (fun i => new (quadReplica i) .empty (Mempool.new .default) 0) w ∧
      quorumSize 4 ≤ countVotesIn ((w.node "a").votes (0, 0, 1)) .commit ∧
      ∀ w' j h', Relation.ReflTransGen
          (Network.Step (engineProtocol sampleCodec 0) (authenticatedFaults quadValidators ["d"] fun _ _ => true)) w w' →
        (∀ k, replicaHonest quadValidators ["d"] k = true → proposalsAgree sampleCodec (w'.received k) = true) →
        replicaHonest quadValidators ["d"] j = true →
        quorumSize 4 ≤ countVotesIn ((w'.node j).votes (0, 0, h')) .commit → 1 = h' := by
  have hrun : (Network.exec (engineProtocol sampleCodec 0) (authenticatedFaults quadValidators ["d"] fun _ _ => true)
      (Network.init fun i => new (quadReplica i) .empty (Mempool.new .default) 0)
      (broadcastTo honestReplicas [.propose (sampleBlock "d" 1 1) 0 0] ++
        broadcastTo honestReplicas (votesFrom .prepare 1 0 0 honestReplicas) ++
        broadcastTo ["a"] (votesFrom .commit 1 0 0 honestReplicas))).map
      (fun w => decide (quorumSize 4 ≤ countVotesIn ((w.node "a").votes (0, 0, 1)) .commit)) = some true := by
    decide
  obtain ⟨w, hr, hc⟩ := Network.exists_of_exec _ _ hrun
  exact ⟨w, hr, of_decide_eq_true hc, fun w' j h' hst hagree hj hc' =>
    commit_agreement_of_unique_proposals (by decide) (show quadValidators.length = 3 * 1 + 1 from rfl) (by decide)
      (fun _ _ => ⟨rfl, rfl⟩) hr hst (fun k hk _ _ _ _ => proposalsAgree_spec sampleCodec (hagree k hk))
      (by decide) hj (of_decide_eq_true hc) hc'⟩

def conflictingProposals : List (Event LocalAction) :=
  broadcastTo honestReplicas [.propose (sampleBlock "d" 1 1) 0 0, .propose (sampleBlock "d" 1 2) 0 0] ++
    broadcastTo honestReplicas (votesFrom .prepare 1 0 0 honestReplicas ++ votesFrom .prepare 2 0 0 honestReplicas) ++
    broadcastTo ["a"] (votesFrom .commit 1 0 0 honestReplicas) ++
    broadcastTo ["b"] (votesFrom .commit 2 0 0 honestReplicas)

theorem honest_nodes_commit_conflicting_blocks :
    ∃ w, Network.Reachable (engineProtocol sampleCodec 0) (authenticatedFaults quadValidators [] fun _ _ => true)
        (fun i => new (quadReplica i) .empty (Mempool.new .default) 0) w ∧
      quorumSize 4 ≤ countVotesIn ((w.node "a").votes (0, 0, 1)) .commit ∧
      quorumSize 4 ≤ countVotesIn ((w.node "b").votes (0, 0, 2)) .commit ∧
      (w.node "a").storage.getBlock 1 = some (sampleBlock "d" 1 1) ∧
      (w.node "b").storage.getBlock 1 = some (sampleBlock "d" 1 2) := by
  have hrun : (Network.exec (engineProtocol sampleCodec 0) (authenticatedFaults quadValidators [] fun _ _ => true)
      (Network.init fun i => new (quadReplica i) .empty (Mempool.new .default) 0) conflictingProposals).map
      (fun w => decide (quorumSize 4 ≤ countVotesIn ((w.node "a").votes (0, 0, 1)) .commit ∧
        quorumSize 4 ≤ countVotesIn ((w.node "b").votes (0, 0, 2)) .commit ∧
        (w.node "a").storage.getBlock 1 = some (sampleBlock "d" 1 1) ∧
        (w.node "b").storage.getBlock 1 = some (sampleBlock "d" 1 2))) = some true := by
    decide
  obtain ⟨w, hr, hp⟩ := Network.exists_of_exec _ _ hrun
  exact ⟨w, hr, of_decide_eq_true hp⟩

section Observer

variable {C}

theorem handleConsensusMessage_current_propose (e : ConsensusEngine) {block : Block} (now : Timestamp)
    (hb : block.verify C = true) :
    e.handleConsensusMessage C (.propose block e.currentRound e.currentView) now =
      ⟨{ e with pendingBlocks := Function.update e.pendingBlocks (block.hash C) (some block), state := .preparing },
        [.vote (block.hash C) .prepare e.currentRound e.currentView e.config.nodeId 0], .ok ()⟩ := by
  simp [handleConsensusMessage, handleProposeMessage, validateProposedBlock, hb, sendVote]

theorem proposals_prepared_unconditionally {e : ConsensusEngine} {block : Block} {round view : Nat}
    (now : Timestamp) (hv : view = e.currentView) (hr : round = e.currentRound) (hb : block.verify C = true) :
    e.handleConsensusMessage C (.propose block round view) now =
      ⟨{ e with pendingBlocks := Function.update e.pendingBlocks (block.hash C) (some block), state := .preparing },
        [.vote (block.hash C) .prepare round view e.config.nodeId 0], .ok ()⟩ := by
  subst hv hr
  exact handleConsensusMessage_current_propose e now hb

def quadEngine : ConsensusEngine := new PbftEngine.quadConfig .empty (Mempool.new .default) 0

def proposedByB : ConsensusEngine :=
  (quadEngine.handleConsensusMessage sampleCodec (.propose (sampleBlock "b" 1 1) 0 0) 0).state

theorem non_leader_equivocation_prepared :
    quadEngine.leaderElection.getLeader 0 ≠ (sampleBlock "b" 1 1).header.proposer ∧
    quadEngine.leaderElection.getLeader 0 ≠ (sampleBlock "c" 1 2).header.proposer ∧
    (quadEngine.handleConsensusMessage sampleCodec (.propose (sampleBlock "b" 1 1) 0 0) 0).sent =
      [.vote 1 .prepare 0 0 "a" 0] ∧
    proposedByB.handleConsensusMessage sampleCodec (.propose (sampleBlock "c" 1 2) 0 0) 0 =
      ⟨{ proposedByB with
          pendingBlocks := Function.update proposedByB.pendingBlocks ((sampleBlock "c" 1 2).hash sampleCodec)
            (some (sampleBlock "c" 1 2))
          state := .preparing },
        [.vote ((sampleBlock "c" 1 2).hash sampleCodec) .prepare 0 0 proposedByB.config.nodeId 0], .ok ()⟩ :=
  ⟨by decide, by decide, by decide, proposals_prepared_unconditionally 0 rfl rfl (by decide)⟩

theorem handleConsensusMessage_no_propose (e : ConsensusEngine) (m : ConsensusMessage) (now : Timestamp)
    (block : Block) (round view : Nat) : .propose block round view ∉ (e.handleConsensusMessage C m now).sent := by
  intro hm
  cases m with
  | propose b r v => cases (handleProposeMessage_sent hm).2
  | vote blockHash t round view validatorId signature =>
      have hx : _ ∈ (e.handleVoteMessage C blockHash t round view validatorId signature).sent := hm
      rw [handleVoteMessage_sent hx] at hx
      cases (checkVoteThreshold_sent hx).2.2.1
  | viewChange newView validatorId signature =>
      obtain ⟨_, hx⟩ := ViewChangeManager.handleViewChange_sent _ _ _ _ hm
      cases hx
  | newView view msgs =>
      have hx : _ ∈ (e.viewChangeManager.handleNewView view msgs now).sent := hm
      rw [ViewChangeManager.handleNewView_sent] at hx
      cases hx

theorem processMessages_cons (e : ConsensusEngine) (message : ConsensusMessage) (now : Timestamp)
    (rest : List (ConsensusMessage × Timestamp)) :
    e.processMessages C ((message, now) :: rest) =
      (((e.handleConsensusMessage C message now).state.processMessages C rest).1,
        (e.handleConsensusMessage C message now).sent ++
          ((e.handleConsensusMessage C message now).state.processMessages C rest).2) := rfl

theorem processMessages_no_propose (block : Block) (round view : Nat) :
    ∀ (e : ConsensusEngine) (inbound : List (ConsensusMessage × Timestamp)),
      .propose block round view ∉ (e.processMessages C inbound).2
  | _, [] => List.not_mem_nil _
  | e, (message, now) :: rest => by
      rw [processMessages_cons]
      exact List.not_mem_append (handleConsensusMessage_no_propose e message now block round view)
        (processMessages_no_propose block round view _ rest)

theorem observer_broadcasts_prepare (e : ConsensusEngine) :
    e.config.isValidator = false → ∀ block : Block, block.verify C = true →
      ∀ (now : Timestamp) (inbound : List (ConsensusMessage × Timestamp)),
        .vote (block.hash C) .prepare e.currentRound e.currentView e.config.nodeId 0 ∈
          (e.startObserverMode C ((.propose block e.currentRound e.currentView, now) :: inbound)).2 := by
  intro _ block hb now inbound
  rw [startObserverMode, processMessages_cons, handleConsensusMessage_current_propose e now hb]
  exact List.mem_append_left _ (List.mem_singleton_self _)

def observerEngine : ConsensusEngine :=
  new { PbftEngine.quadConfig with nodeId := "e", isValidator := false } .empty (Mempool.new .default) 0

theorem observer_votes_on_proposal :
    observerEngine.config.isValidator = false ∧ (sampleBlock "a" 1 1).verify sampleCodec = true ∧
    .vote ((sampleBlock "a" 1 1).hash sampleCodec) .prepare observerEngine.currentRound observerEngine.currentView
        observerEngine.config.nodeId 0 ∈
      (observerEngine.startObserverMode sampleCodec
        ((.propose (sampleBlock "a" 1 1) observerEngine.currentRound observerEngine.currentView, 0) :: [])).2 :=
  ⟨rfl, by decide, observer_broadcasts_prepare observerEngine rfl _ (by decide) 0 []⟩

end Observer

end ConsensusEngine

end BlockchainNode

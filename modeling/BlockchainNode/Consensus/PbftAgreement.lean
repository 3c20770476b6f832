import BlockchainNode.Consensus.Network
import BlockchainNode.Consensus.PbftSafety

namespace BlockchainNode

def pbftProtocol (C : Codec) : Protocol PbftEngine Nat where
  handle st m :=
    match st.processMessage C m with
    | .ok r => r
    | .error _ => (st, [])
  act st keepLastN := (st.cleanupOldLogs keepLastN, [])

def replicaHonest (vs byz : List NodeId) (i : NodeId) : Bool := decide (i ∈ vs) && decide (i ∉ byz)

def voteSender : ConsensusMessage → Option NodeId
  | .vote _ _ _ _ k _ => some k
  | .viewChange _ k _ => some k
  | _ => none

def anyMessageFaults (vs byz : List NodeId) : Faults PbftEngine Nat where
  honest := replicaHonest vs byz
  forge _ := true
  enabled _ _ := true

def authenticatedFaults {σ α : Type} (vs byz : List NodeId) (keep : σ → α → Bool) : Faults σ α where
  honest := replicaHonest vs byz
  forge m :=
    match voteSender m with
    | some k => !replicaHonest vs byz k
    | none => true
  enabled := keep

def keepsSequence (s : Nat) (st : PbftEngine) (keepLastN : Nat) : Bool :=
  !decide (keepLastN < st.currentSequence ∧ s < st.currentSequence - keepLastN)

theorem pbftProtocol_handle_cases (C : Codec) (st : PbftEngine) (m : ConsensusMessage) :
    ((pbftProtocol C).handle st m = (st, [])) ∨
      st.processMessage C m = .ok ((pbftProtocol C).handle st m) := by
  simp only [pbftProtocol]
  split
  · next r h => exact .inr (by rw [h])
  · exact .inl rfl

theorem VotesIn.cleanupOldLogs {R : List ConsensusMessage} {st : PbftEngine} (h : VotesIn R st.messageLog)
    (k : Nat) : VotesIn R (st.cleanupOldLogs k).messageLog := by
  intro key e x msg t he hl ht
  rw [PbftEngine.cleanupOldLogs_messageLog] at he
  split at he
  · exact h key e x msg t he hl ht
  · cases he

theorem entry_of_keepsSequence {s : Nat} {st : PbftEngine} {k v : Nat} (hk : keepsSequence s st k = true)
    {e : PbftLogEntry} (he : st.messageLog (v, s) = some e) : (st.cleanupOldLogs k).messageLog (v, s) = some e := by
  simp only [keepsSequence, Bool.not_eq_true', decide_eq_false_iff_not, not_and, not_lt] at hk
  rw [PbftEngine.cleanupOldLogs_messageLog, if_pos (by omega), he]

section Agreement

variable (C : Codec) (vs byz : List NodeId) (s : Nat) (cfg : NodeId → ConsensusConfig)

def VoteQuorum (R : List ConsensusMessage) (t : VoteType) (round view : Nat) (blockHash : Hash) : Prop :=
  ∃ K : List NodeId, K.Nodup ∧ K ⊆ vs ∧ quorumSize vs.length ≤ K.length ∧
    ∀ k ∈ K, ∃ sig, .vote blockHash t round view k sig ∈ R

structure Safe (w : Network PbftEngine) : Prop where
  config : ∀ i, replicaHonest vs byz i = true → (w.node i).config = cfg i
  invariant : ∀ i, replicaHonest vs byz i = true → (w.node i).Invariant
  votes : ∀ i, replicaHonest vs byz i = true → VotesIn (w.received i) (w.node i).messageLog
  received : ∀ i, replicaHonest vs byz i = true → ∀ m ∈ w.received i,
    m ∈ w.sent ∨ (authenticatedFaults vs byz (keepsSequence s)).forge m = true
  quorum : ∀ i, replicaHonest vs byz i = true → ∀ v h,
    (w.node i).committedCertificates (v, s, h) = true → VoteQuorum vs (w.received i) .commit s v h
  sent : ∀ h t s' v k sig, .vote h t s' v k sig ∈ w.sent → replicaHonest vs byz k = true ∧
    (t = .commit → s' = s → ∃ e, (w.node k).messageLog (v, s) = some e ∧ e.blockHash = h)

variable {C vs byz s cfg}

theorem VoteQuorum.mono {R R' : List ConsensusMessage} {t : VoteType} {r v : Nat} {h : Hash}
    (hq : VoteQuorum vs R t r v h) (hR : R ⊆ R') : VoteQuorum vs R' t r v h := by
  obtain ⟨K, hnd, hsub, hlen, hK⟩ := hq
  exact ⟨K, hnd, hsub, hlen, fun k hk => (hK k hk).imp fun _ hm => hR hm⟩

theorem VoteQuorum.common_honest {f : Nat} (hvs : vs.Nodup) (hn : vs.length = 3 * f + 1)
    (hbyz : (vs.filter (· ∈ byz)).length ≤ f) {R₁ R₂ : List ConsensusMessage} {t₁ t₂ : VoteType}
    {r₁ r₂ v₁ v₂ : Nat} {h₁ h₂ : Hash} (hq₁ : VoteQuorum vs R₁ t₁ r₁ v₁ h₁) (hq₂ : VoteQuorum vs R₂ t₂ r₂ v₂ h₂) :
    ∃ k, replicaHonest vs byz k = true ∧ (∃ sig, .vote h₁ t₁ r₁ v₁ k sig ∈ R₁) ∧ ∃ sig, .vote h₂ t₂ r₂ v₂ k sig ∈ R₂ := by
  obtain ⟨K₁, hnd₁, hsub₁, hlen₁, hK₁⟩ := hq₁
  obtain ⟨K₂, hnd₂, hsub₂, hlen₂, hK₂⟩ := hq₂
  have hq : vs.length + (vs.filter (· ∈ byz)).length < K₁.length + K₂.length := by
    have := quorumSize_bft f
    rw [hn] at hlen₁ hlen₂ ⊢
    omega
  obtain ⟨k, hk₁, hk₂, hkb⟩ := exists_common_honest hvs hnd₁ hnd₂ hsub₁ hsub₂ hq
  exact ⟨k, by simp [replicaHonest, hsub₁ hk₁, hkb], hK₁ k hk₁, hK₂ k hk₂⟩

theorem voteQuorum_of_quorumAt {st : PbftEngine} {R : List ConsensusMessage} {t : VoteType} {v : Nat} {h : Hash}
    (hi : st.Invariant) (hv : VotesIn R st.messageLog) (hvs : st.config.validatorSet = vs)
    (hq : QuorumAt st t (v, s, h)) : VoteQuorum vs R t s v h := by
  obtain ⟨e, he, rfl, hc⟩ := hq
  have hwf := hi.wf v s e he
  refine ⟨votersIn e.messages t, votersIn_nodup _ _, fun k hk => hvs ▸ (hwf.mem_votersIn hk).1, ?_, fun k hk => ?_⟩
  · rw [votersIn_length, ← hvs]
    exact hc
  · obtain ⟨sig, hl⟩ := (hwf.mem_votersIn hk).2
    exact ⟨sig, hv (v, s) e k _ t he hl (by cases t <;> rfl)⟩

theorem handle_effect (st : PbftEngine) (m : ConsensusMessage) :
    StepEffect st ((pbftProtocol C).handle st m).1 m ∧
    ∀ h t s' v k sig, .vote h t s' v k sig ∈ ((pbftProtocol C).handle st m).2 →
      k = st.config.nodeId ∧ (t = .commit → QuorumAt ((pbftProtocol C).handle st m).1 .prepare (v, s', h)) := by
  rcases pbftProtocol_handle_cases C st m with hh | hh
  · rw [hh]
    exact ⟨StepEffect.of_eq rfl rfl rfl rfl, fun _ _ _ _ _ _ hm => absurd hm (List.not_mem_nil _)⟩
  · exact ⟨PbftEngine.processMessage_effect C st hh,
      fun _ _ _ _ _ _ hm => PbftEngine.processMessage_outputs C st hh hm⟩

theorem safe_init : Safe vs byz s cfg (Network.init fun i => PbftEngine.new (cfg i)) where
  config _ _ := rfl
  invariant _ _ := PbftEngine.invariant_new _
  votes _ _ := fun _ _ _ _ _ he => (nomatch he)
  received _ _ _ hm := (nomatch hm)
  quorum _ _ _ _ hc := (nomatch hc)
  sent _ _ _ _ _ _ hm := (nomatch hm)

theorem Safe.deliver (hcfg : ∀ i, replicaHonest vs byz i = true → (cfg i).validatorSet = vs ∧ (cfg i).nodeId = i)
    {w : Network PbftEngine} (hs : Safe vs byz s cfg w) {i : NodeId} {m : ConsensusMessage}
    (hi : replicaHonest vs byz i = true)
    (hm : m ∈ w.sent ∨ (authenticatedFaults vs byz (keepsSequence s)).forge m = true) :
    Safe vs byz s cfg (w.deliver (pbftProtocol C) i m) := by
  obtain ⟨E, hout⟩ := @handle_effect C (w.node i) m
  have hsent : w.sent ⊆ (w.deliver (pbftProtocol C) i m).sent := List.subset_append_left _ _
  constructor
  · intro j hj
    rw [Network.deliver_node]
    split
    · next hji => subst hji; exact E.config.trans (hs.config j hj)
    · exact hs.config j hj
  · intro j hj
    rw [Network.deliver_node]
    split
    · next hji => subst hji; exact (hs.invariant j hj).step E
    · exact hs.invariant j hj
  · intro j hj
    rw [Network.deliver_node, Network.deliver_received]
    split
    · next hji => subst hji; exact E.votes _ (hs.votes j hj)
    · exact hs.votes j hj
  · intro j hj x hx
    rw [Network.deliver_received] at hx
    split at hx
    · next hji =>
        subst hji
        rcases List.mem_cons.mp hx with rfl | hx
        · exact hm.imp_left (fun h => hsent h)
        · exact (hs.received j hj x hx).imp_left (fun h => hsent h)
    · exact (hs.received j hj x hx).imp_left (fun h => hsent h)
  · intro j hj v h hc
    rw [Network.deliver_node] at hc
    rw [Network.deliver_received]
    split at hc
    · next hji =>
        subst hji
        rw [if_pos rfl]
        rcases E.committed _ hc with hc | hq
        · exact (hs.quorum j hj v h hc).mono (List.subset_cons_self _ _)
        · exact voteQuorum_of_quorumAt ((hs.invariant j hj).step E) (E.votes _ (hs.votes j hj))
            (by rw [E.config, hs.config j hj, (hcfg j hj).1]) hq
    · next hji => rw [if_neg hji]; exact hs.quorum j hj v h hc
  · intro h t s' v k sig hmem
    rw [Network.deliver_sent, List.mem_append] at hmem
    rcases hmem with hmem | hmem
    · obtain ⟨hk, hpin⟩ := hs.sent h t s' v k sig hmem
      refine ⟨hk, fun ht hs' => ?_⟩
      obtain ⟨e, he, hb⟩ := hpin ht hs'
      rw [Network.deliver_node]
      split
      · next hki => subst hki; obtain ⟨e', he', hb'⟩ := E.grows _ e he; exact ⟨e', he', hb'.trans hb⟩
      · exact ⟨e, he, hb⟩
    · obtain ⟨hk, hq⟩ := hout h t s' v k sig hmem
      have hki : k = i := hk.trans ((hs.config i hi).trans rfl ▸ (hcfg i hi).2)
      subst hki
      refine ⟨hi, fun ht hs' => ?_⟩
      obtain ⟨e, he, hb, -⟩ := hq ht
      rw [Network.deliver_node, if_pos rfl]
      exact ⟨e, hs' ▸ he, hb⟩

theorem Safe.perform {w : Network PbftEngine} (hs : Safe vs byz s cfg w) {i : NodeId} {k : Nat}
    (hi : replicaHonest vs byz i = true) (hk : keepsSequence s (w.node i) k = true) :
    Safe vs byz s cfg (w.perform (pbftProtocol C) i k) := by
  have hsent : (w.perform (pbftProtocol C) i k).sent = w.sent := List.append_nil _
  have hnode : ∀ j, (w.perform (pbftProtocol C) i k).node j =
      if j = i then (w.node i).cleanupOldLogs k else w.node j := fun j => Network.perform_node _ w i j k
  constructor
  · intro j hj
    rw [hnode]
    split
    · next hji => subst hji; exact (PbftEngine.cleanupOldLogs_config _ k).trans (hs.config j hj)
    · exact hs.config j hj
  · intro j hj
    rw [hnode]
    split
    · next hji => subst hji; exact (hs.invariant j hj).cleanupOldLogs k
    · exact hs.invariant j hj
  · intro j hj
    rw [hnode, Network.perform_received]
    split
    · next hji => subst hji; exact (hs.votes j hj).cleanupOldLogs k
    · exact hs.votes j hj
  · intro j hj
    rw [Network.perform_received, hsent]
    exact hs.received j hj
  · intro j hj v h hc
    rw [hnode] at hc
    split at hc
    · next hji => subst hji; exact hs.quorum j hj v h ((PbftEngine.cleanupOldLogs_certs _ k _).2 hc).1
    · exact hs.quorum j hj v h hc
  · intro h t s' v k' sig hmem
    rw [hsent] at hmem
    obtain ⟨hk', hpin⟩ := hs.sent h t s' v k' sig hmem
    refine ⟨hk', fun ht hs' => ?_⟩
    obtain ⟨e, he, hb⟩ := hpin ht hs'
    rw [hnode]
    split
    · next hki => subst hki; exact ⟨e, entry_of_keepsSequence hk he, hb⟩
    · exact ⟨e, he, hb⟩

theorem Safe.step (hcfg : ∀ i, replicaHonest vs byz i = true → (cfg i).validatorSet = vs ∧ (cfg i).nodeId = i)
    {w w' : Network PbftEngine} (hs : Safe vs byz s cfg w)
    (h : Network.Step (pbftProtocol C) (authenticatedFaults vs byz (keepsSequence s)) w w') :
    Safe vs byz s cfg w' := by
  cases h with
  | deliver i m hi hm => exact hs.deliver hcfg hi hm
  | perform i k hi hk => exact hs.perform hi hk

theorem safe_of_steps (hcfg : ∀ i, replicaHonest vs byz i = true → (cfg i).validatorSet = vs ∧ (cfg i).nodeId = i)
    {w w' : Network PbftEngine} (hs : Safe vs byz s cfg w)
    (h : Relation.ReflTransGen (Network.Step (pbftProtocol C) (authenticatedFaults vs byz (keepsSequence s))) w w') :
    Safe vs byz s cfg w' := by
  induction h with
  | refl => exact hs
  | tail _ hst ih => exact ih.step hcfg hst

theorem Safe.honest_vote_sent {w : Network PbftEngine} (hs : Safe vs byz s cfg w) {i k : NodeId}
    {h : Hash} {t : VoteType} {s' v : Nat} {sig : Signature} (hi : replicaHonest vs byz i = true)
    (hk : replicaHonest vs byz k = true) (hm : .vote h t s' v k sig ∈ w.received i) :
    .vote h t s' v k sig ∈ w.sent := by
  refine (hs.received i hi _ hm).resolve_right ?_
  simp [authenticatedFaults, voteSender, hk]

theorem committed_agreement_in_view {f : Nat} (hvs : vs.Nodup) (hn : vs.length = 3 * f + 1)
    (hbyz : (vs.filter (· ∈ byz)).length ≤ f)
    (hcfg : ∀ i, replicaHonest vs byz i = true → (cfg i).validatorSet = vs ∧ (cfg i).nodeId = i)
    {w₁ w₂ : Network PbftEngine}
    (h₁ : Network.Reachable (pbftProtocol C) (authenticatedFaults vs byz (keepsSequence s))
      (fun i => PbftEngine.new (cfg i)) w₁)
    (h₂ : Relation.ReflTransGen (Network.Step (pbftProtocol C) (authenticatedFaults vs byz (keepsSequence s)))
      w₁ w₂)
    {i j : NodeId} (hi : replicaHonest vs byz i = true) (hj : replicaHonest vs byz j = true) {v : Nat}
    {h h' : Hash} (hc : (w₁.node i).isCommitted v s h = true) (hc' : (w₂.node j).isCommitted v s h' = true) :
    h = h' := by
  have hs₁ := safe_of_steps hcfg safe_init h₁
  have hs₂ := safe_of_steps hcfg hs₁ h₂
  obtain ⟨k, hk, ⟨sig₁, hm₁⟩, sig₂, hm₂⟩ :=
    (hs₁.quorum i hi v h hc).common_honest hvs hn hbyz (hs₂.quorum j hj v h' hc')
  have hsent₁ := Network.steps_sent _ _ h₂ (hs₁.honest_vote_sent hi hk hm₁)
  obtain ⟨-, hpin₁⟩ := hs₂.sent _ _ _ _ _ _ hsent₁
  obtain ⟨-, hpin₂⟩ := hs₂.sent _ _ _ _ _ _ (hs₂.honest_vote_sent hj hk hm₂)
  obtain ⟨e₁, he₁, rfl⟩ := hpin₁ rfl rfl
  obtain ⟨e₂, he₂, rfl⟩ := hpin₂ rfl rfl
  rw [he₁] at he₂
  cases he₂
  rfl

end Agreement

def quadValidators : List NodeId := ["a", "b", "c", "d"]

def quadReplica (i : NodeId) : ConsensusConfig := validatorConfig i quadValidators

def honestReplicas : List NodeId := ["a", "b", "c"]

def broadcastTo {α : Type} (targets : List NodeId) (msgs : List ConsensusMessage) : List (Event α) :=
  msgs.flatMap fun m => targets.map fun i => .deliver i m

def votesFrom (t : VoteType) (blockHash : Hash) (sequence view : Nat) (voters : List NodeId) :
    List ConsensusMessage :=
  voters.map fun k => .vote blockHash t sequence view k 0

def agreeOn (block : Block) (sequence view : Nat) (prepareVoters commitTargets : List NodeId) :
    List (Event Nat) :=
  broadcastTo honestReplicas [.propose block sequence view] ++
    broadcastTo honestReplicas (votesFrom .prepare (block.hash sampleCodec) sequence view prepareVoters) ++
    broadcastTo commitTargets (votesFrom .commit (block.hash sampleCodec) sequence view honestReplicas)

theorem agreement_after_quorum_commit :
    ∃ w, Network.Reachable (pbftProtocol sampleCodec) (authenticatedFaults quadValidators ["d"] (keepsSequence 0))
        (fun i => PbftEngine.new (quadReplica i)) w ∧
      (w.node "a").isCommitted 0 0 1 = true ∧
      ∀ w' h', Relation.ReflTransGen
          (Network.Step (pbftProtocol sampleCodec) (authenticatedFaults quadValidators ["d"] (keepsSequence 0))) w w' →
        (w'.node "b").isCommitted 0 0 h' = true → 1 = h' := by
  have hrun : (Network.exec (pbftProtocol sampleCodec) (authenticatedFaults quadValidators ["d"] (keepsSequence 0))
      (Network.init fun i => PbftEngine.new (quadReplica i))
      (agreeOn (sampleBlock "a" 0 1) 0 0 ["b", "c", "d"] ["a"])).map
      (fun w => (w.node "a").isCommitted 0 0 1) = some true := by decide
  obtain ⟨w, hr, hc⟩ := Network.exists_of_exec _ _ hrun
  exact ⟨w, hr, hc, fun _ _ hst hc' => committed_agreement_in_view (by decide)
    (show quadValidators.length = 3 * 1 + 1 from rfl) (by decide) (fun _ _ => ⟨rfl, rfl⟩) hr hst
    (by decide) (by decide) hc hc'⟩

def forgedCommit (target : NodeId) (block : Block) : List (Event Nat) :=
  broadcastTo [target] (.propose block 0 0 :: votesFrom .commit (block.hash sampleCodec) 0 0 honestReplicas)

theorem honest_commits_disagree :
    (∃ w₁ w₂, Network.Reachable (pbftProtocol sampleCodec) (anyMessageFaults quadValidators ["d"])
        (fun i => PbftEngine.new (quadReplica i)) w₁ ∧
      Relation.ReflTransGen (Network.Step (pbftProtocol sampleCodec) (anyMessageFaults quadValidators ["d"])) w₁ w₂ ∧
      (w₁.node "a").isCommitted 0 0 1 = true ∧ (w₂.node "b").isCommitted 0 0 2 = true) ∧
    (∃ w₁ w₂, Network.Reachable (pbftProtocol sampleCodec) (authenticatedFaults quadValidators ["d"] fun _ _ => true)
        (fun i => PbftEngine.new (quadReplica i)) w₁ ∧
      Relation.ReflTransGen
        (Network.Step (pbftProtocol sampleCodec) (authenticatedFaults quadValidators ["d"] fun _ _ => true)) w₁ w₂ ∧
      (w₁.node "a").isCommitted 0 0 1 = true ∧ (w₂.node "b").isCommitted 1 0 2 = true) ∧
    (∃ w₁ w₂, Network.Reachable (pbftProtocol sampleCodec) (authenticatedFaults quadValidators ["d"] fun _ _ => true)
        (fun i => PbftEngine.new (quadReplica i)) w₁ ∧
      Relation.ReflTransGen
        (Network.Step (pbftProtocol sampleCodec) (authenticatedFaults quadValidators ["d"] fun _ _ => true)) w₁ w₂ ∧
      (w₁.node "a").isCommitted 0 0 1 = true ∧ (w₂.node "a").isCommitted 0 0 2 = true) := by
  exact ⟨@Network.exists_of_exec_two _ _ _ _ _ (forgedCommit "a" (sampleBlock "a" 0 1))
      (forgedCommit "b" (sampleBlock "a" 0 2)) _ _ (by decide),
    @Network.exists_of_exec_two _ _ _ _ _ (agreeOn (sampleBlock "a" 0 1) 0 0 ["b", "c", "d"] ["a"])
      (broadcastTo honestReplicas [.newView 1 []] ++ agreeOn (sampleBlock "b" 0 2) 0 1 ["a", "c", "d"] ["b"]) _ _
      (by decide),
    @Network.exists_of_exec_two _ _ _ _ _ (agreeOn (sampleBlock "a" 0 1) 0 0 ["b", "c", "d"] honestReplicas)
      (honestReplicas.map (fun i => .perform i 0) ++ agreeOn (sampleBlock "a" 0 2) 0 0 ["b", "c", "d"] ["a"]) _ _
      (by decide)⟩

end BlockchainNode

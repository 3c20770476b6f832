import BlockchainNode.Consensus.LeaderElection

namespace BlockchainNode

inductive PbftPhase where
  | prePrepare
  | prepare
  | commit
  | committed
  deriving DecidableEq, Repr

structure PbftLogEntry where
  view : Nat
  sequence : Nat
  blockHash : Hash
  phase : PbftPhase
  messages : AList (fun _ : NodeId => ConsensusMessage)

structure PbftEngine where
  config : ConsensusConfig
  currentView : Nat
  currentSequence : Nat
  messageLog : Nat × Nat → Option PbftLogEntry
  preparedCertificates : Nat × Nat × Hash → Bool
  committedCertificates : Nat × Nat × Hash → Bool
  viewChangeVotes : Nat → List NodeId

def isVoteOf (t : VoteType) : ConsensusMessage → Bool
  | .vote _ t' .. => t' == t
  | _ => false

def countVotesIn (messages : AList (fun _ : NodeId => ConsensusMessage)) (t : VoteType) : Nat :=
  (messages.entries.filter fun m => isVoteOf t m.2).length

def votersIn (messages : AList (fun _ : NodeId => ConsensusMessage)) (t : VoteType) : List NodeId :=
  (messages.entries.filter fun m => isVoteOf t m.2).keys

theorem votersIn_nodup (messages : AList (fun _ : NodeId => ConsensusMessage)) (t : VoteType) :
    (votersIn messages t).Nodup :=
  messages.nodupKeys.sublist (List.filter_sublist _)

theorem votersIn_length (messages : AList (fun _ : NodeId => ConsensusMessage)) (t : VoteType) :
    (votersIn messages t).length = countVotesIn messages t := by
  simp [votersIn, countVotesIn, List.keys]

theorem lookup_of_mem_votersIn {messages : AList (fun _ : NodeId => ConsensusMessage)} {t : VoteType}
    {k : NodeId} (h : k ∈ votersIn messages t) : ∃ msg, messages.lookup k = some msg ∧ isVoteOf t msg = true := by
  obtain ⟨⟨k', msg⟩, hm, rfl⟩ := List.mem_map.mp h
  obtain ⟨hm, ht⟩ := List.mem_filter.mp hm
  exact ⟨msg, AList.mem_lookup_iff.mpr hm, ht⟩

def PbftLogEntry.countVotes (e : PbftLogEntry) (t : VoteType) : Nat := countVotesIn e.messages t

def insertCert (certs : Nat × Nat × Hash → Bool) (c : Nat × Nat × Hash) : Nat × Nat × Hash → Bool :=
  fun x => x == c || certs x

variable (C : Codec)

namespace PbftEngine

def new (config : ConsensusConfig) : PbftEngine where
  config := config
  currentView := 0
  currentSequence := 0
  messageLog := fun _ => none
  preparedCertificates := fun _ => false
  committedCertificates := fun _ => false
  viewChangeVotes := fun _ => []

def isPrimary (st : PbftEngine) (nodeId : NodeId) (view : Nat) : Bool :=
  roundRobin st.config.validatorSet view == some nodeId

def byzantineThreshold (st : PbftEngine) : Nat := quorumSize st.config.validatorSet.length

def countMessages (st : PbftEngine) (t : VoteType) (view sequence : Nat) (blockHash : Hash) : Nat :=
  match st.messageLog (view, sequence) with
  | some e => if e.blockHash = blockHash then e.countVotes t else 0
  | none => 0

def countPrepareMessages (st : PbftEngine) := st.countMessages .prepare

def countCommitMessages (st : PbftEngine) := st.countMessages .commit

def recordProposal (st : PbftEngine) (block : Block) (sequence view : Nat) : PbftEngine :=
  let entry := (st.messageLog (view, sequence)).getD
    { view, sequence, blockHash := block.hash C, phase := .prePrepare, messages := ∅ }
  let entry := { entry with
    messages := entry.messages.insert block.header.proposer (.propose block sequence view) }
  { st with messageLog := Function.update st.messageLog (view, sequence) (some entry) }

def storeVote (st : PbftEngine) (t : VoteType) (phase : PbftPhase) (blockHash : Hash)
    (sequence view : Nat) (validatorId : NodeId) (signature : Signature) : PbftEngine :=
  match st.messageLog (view, sequence) with
  | some e =>
      if e.blockHash = blockHash then
        { st with messageLog := Function.update st.messageLog (view, sequence) (some { e with
            messages := e.messages.insert validatorId (.vote blockHash t sequence view validatorId signature),
            phase }) }
      else st
  | none => st

def markCommitted (st : PbftEngine) (key : Nat × Nat) : PbftEngine :=
  match st.messageLog key with
  | some e => { st with messageLog := Function.update st.messageLog key (some { e with phase := .committed }) }
  | none => st

def handlePrePrepare (st : PbftEngine) (block : Block) (sequence view : Nat) :
    Except String (PbftEngine × List ConsensusMessage) :=
  if view ≠ st.currentView then .ok (st, [])
  else if !st.isPrimary block.header.proposer view then .error s!"Invalid proposer for view {view}"
  else
    let st := st.recordProposal C block sequence view
    if st.config.isValidator && st.config.nodeId != block.header.proposer then
      .ok (st, [.vote (block.hash C) .prepare sequence view st.config.nodeId 0])
    else .ok (st, [])

def handlePrepare (st : PbftEngine) (blockHash : Hash) (sequence view : Nat) (validatorId : NodeId)
    (signature : Signature) : Except String (PbftEngine × List ConsensusMessage) :=
  if view ≠ st.currentView then .ok (st, [])
  else if validatorId ∉ st.config.validatorSet then .ok (st, [])
  else
    let st := st.storeVote .prepare .prepare blockHash sequence view validatorId signature
    if st.byzantineThreshold ≤ st.countPrepareMessages view sequence blockHash then
      let st := { st with
        preparedCertificates := insertCert st.preparedCertificates (view, sequence, blockHash) }
      if st.config.isValidator then
        .ok (st, [.vote blockHash .commit sequence view st.config.nodeId 0])
      else .ok (st, [])
    else .ok (st, [])

def handleCommit (st : PbftEngine) (blockHash : Hash) (sequence view : Nat) (validatorId : NodeId)
    (signature : Signature) : Except String (PbftEngine × List ConsensusMessage) :=
  if view ≠ st.currentView then .ok (st, [])
  else if validatorId ∉ st.config.validatorSet then .ok (st, [])
  else
    let st := st.storeVote .commit .commit blockHash sequence view validatorId signature
    if st.byzantineThreshold ≤ st.countCommitMessages view sequence blockHash then
      let st := { st with
        committedCertificates := insertCert st.committedCertificates (view, sequence, blockHash) }
      let st := st.markCommitted (view, sequence)
      .ok ({ st with currentSequence := wrappingAdd sequence 1 }, [])
    else .ok (st, [])

def handleViewChange (st : PbftEngine) (newView : Nat) (validatorId : NodeId) (_signature : Signature) :
    Except String (PbftEngine × List ConsensusMessage) :=
  if validatorId ∉ st.config.validatorSet then .ok (st, [])
  else
    let votes := (st.viewChangeVotes newView).insert validatorId
    let st := { st with viewChangeVotes := Function.update st.viewChangeVotes newView votes }
    if st.byzantineThreshold ≤ (st.viewChangeVotes newView).length then
      let st := { st with currentView := newView }
      if st.isPrimary st.config.nodeId newView then .ok (st, [.newView newView []])
      else .ok (st, [])
    else .ok (st, [])

def handleNewView (st : PbftEngine) (view : Nat) (_viewChangeMessages : List ConsensusMessage) :
    Except String (PbftEngine × List ConsensusMessage) :=
  .ok ({ st with currentView := view, viewChangeVotes := Function.update st.viewChangeVotes view [] }, [])

def processMessage (st : PbftEngine) : ConsensusMessage → Except String (PbftEngine × List ConsensusMessage)
  | .propose block round view => st.handlePrePrepare C block round view
  | .vote blockHash .prepare round view validatorId signature =>
      st.handlePrepare blockHash round view validatorId signature
  | .vote blockHash .commit round view validatorId signature =>
      st.handleCommit blockHash round view validatorId signature
  | .viewChange newView validatorId signature => st.handleViewChange newView validatorId signature
  | .newView view viewChangeMessages => st.handleNewView view viewChangeMessages

def isPrepared (st : PbftEngine) (view sequence : Nat) (blockHash : Hash) : Bool :=
  st.preparedCertificates (view, sequence, blockHash)

def isCommitted (st : PbftEngine) (view sequence : Nat) (blockHash : Hash) : Bool :=
  st.committedCertificates (view, sequence, blockHash)

def getCurrentView (st : PbftEngine) : Nat := st.currentView

def getCurrentSequence (st : PbftEngine) : Nat := st.currentSequence

def cleanupOldLogs (st : PbftEngine) (keepLastN : Nat) : PbftEngine :=
  if st.currentSequence ≤ keepLastN then st
  else
    let cutoff := st.currentSequence - keepLastN
    { st with
      messageLog := fun key => if cutoff ≤ key.2 then st.messageLog key else none
      preparedCertificates := fun c => st.preparedCertificates c && decide (cutoff ≤ c.2.1)
      committedCertificates := fun c => st.committedCertificates c && decide (cutoff ≤ c.2.1) }

end PbftEngine

namespace PbftEngine

variable (st : PbftEngine)

section Frame

variable (block : Block) (t : VoteType) (phase : PbftPhase) (blockHash : Hash) (sequence view : Nat)
  (validatorId : NodeId) (signature : Signature) (key : Nat × Nat)

@[simp] theorem recordProposal_config : (st.recordProposal C block sequence view).config = st.config := rfl
@[simp] theorem recordProposal_currentView :
    (st.recordProposal C block sequence view).currentView = st.currentView := rfl
@[simp] theorem recordProposal_currentSequence :
    (st.recordProposal C block sequence view).currentSequence = st.currentSequence := rfl
@[simp] theorem recordProposal_preparedCertificates :
    (st.recordProposal C block sequence view).preparedCertificates = st.preparedCertificates := rfl
@[simp] theorem recordProposal_committedCertificates :
    (st.recordProposal C block sequence view).committedCertificates = st.committedCertificates := rfl
@[simp] theorem recordProposal_viewChangeVotes :
    (st.recordProposal C block sequence view).viewChangeVotes = st.viewChangeVotes := rfl

theorem storeVote_eq : st.storeVote t phase blockHash sequence view validatorId signature =
    { st with messageLog := (st.storeVote t phase blockHash sequence view validatorId signature).messageLog } := by
  unfold storeVote; split
  · split <;> rfl
  · rfl

@[simp] theorem storeVote_config :
    (st.storeVote t phase blockHash sequence view validatorId signature).config = st.config := by
  rw [storeVote_eq]
@[simp] theorem storeVote_currentView :
    (st.storeVote t phase blockHash sequence view validatorId signature).currentView = st.currentView := by
  rw [storeVote_eq]
@[simp] theorem storeVote_currentSequence :
    (st.storeVote t phase blockHash sequence view validatorId signature).currentSequence =
      st.currentSequence := by
  rw [storeVote_eq]
@[simp] theorem storeVote_preparedCertificates :
    (st.storeVote t phase blockHash sequence view validatorId signature).preparedCertificates =
      st.preparedCertificates := by
  rw [storeVote_eq]
@[simp] theorem storeVote_committedCertificates :
    (st.storeVote t phase blockHash sequence view validatorId signature).committedCertificates =
      st.committedCertificates := by
  rw [storeVote_eq]
@[simp] theorem storeVote_viewChangeVotes :
    (st.storeVote t phase blockHash sequence view validatorId signature).viewChangeVotes =
      st.viewChangeVotes := by
  rw [storeVote_eq]

theorem markCommitted_eq :
    st.markCommitted key = { st with messageLog := (st.markCommitted key).messageLog } := by
  unfold markCommitted; split <;> rfl

@[simp] theorem markCommitted_config : (st.markCommitted key).config = st.config := by
  rw [markCommitted_eq]
@[simp] theorem markCommitted_currentView : (st.markCommitted key).currentView = st.currentView := by
  rw [markCommitted_eq]
@[simp] theorem markCommitted_currentSequence :
    (st.markCommitted key).currentSequence = st.currentSequence := by
  rw [markCommitted_eq]
@[simp] theorem markCommitted_preparedCertificates :
    (st.markCommitted key).preparedCertificates = st.preparedCertificates := by
  rw [markCommitted_eq]
@[simp] theorem markCommitted_committedCertificates :
    (st.markCommitted key).committedCertificates = st.committedCertificates := by
  rw [markCommitted_eq]
@[simp] theorem markCommitted_viewChangeVotes : (st.markCommitted key).viewChangeVotes = st.viewChangeVotes := by
  rw [markCommitted_eq]

end Frame

theorem countMessages_pos {t : VoteType} {view sequence : Nat} {blockHash : Hash}
    (h : 0 < st.countMessages t view sequence blockHash) :
    ∃ e, st.messageLog (view, sequence) = some e ∧ e.blockHash = blockHash ∧
      st.countMessages t view sequence blockHash = e.countVotes t := by
  unfold countMessages at h ⊢
  split at h
  · next e he =>
      split at h
      · next hb => exact ⟨e, he, hb, by simp [he, hb]⟩
      · exact absurd h (Nat.lt_irrefl 0)
  · exact absurd h (Nat.lt_irrefl 0)

@[simp] theorem cleanupOldLogs_config (k : Nat) : (st.cleanupOldLogs k).config = st.config := by
  unfold cleanupOldLogs; split <;> rfl

@[simp] theorem cleanupOldLogs_viewChangeVotes (k : Nat) :
    (st.cleanupOldLogs k).viewChangeVotes = st.viewChangeVotes := by
  unfold cleanupOldLogs; split <;> rfl

end PbftEngine

end BlockchainNode

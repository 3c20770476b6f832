import BlockchainNode.Consensus.Pbft
import BlockchainNode.Consensus.ViewChange
import BlockchainNode.Mempool
import BlockchainNode.Storage

namespace BlockchainNode

inductive ConsensusState where
  | idle
  | proposing
  | preparing
  | committing
  | viewChanging
  deriving DecidableEq, Repr

structure ConsensusEngine where
  config : ConsensusConfig
  state : ConsensusState
  currentView : Nat
  currentRound : Nat
  currentHeight : BlockHeight
  leaderElection : LeaderElection
  viewChangeManager : ViewChangeManager
  storage : Storage
  mempool : Mempool
  pendingBlocks : Hash → Option Block
  votes : Nat × Nat × Hash → AList (fun _ : NodeId => ConsensusMessage)
  lastBlockTime : Timestamp
  viewTimeout : Option Timestamp

variable (C : Codec)

namespace ConsensusEngine

def new (config : ConsensusConfig) (storage : Storage) (mempool : Mempool) (now : Timestamp) : ConsensusEngine where
  config := config
  state := .idle
  currentView := 0
  currentRound := 0
  currentHeight := storage.getLatestHeight.getD 0
  leaderElection := LeaderElection.new config.validatorSet
  viewChangeManager := ViewChangeManager.new config now
  storage := storage
  mempool := mempool
  pendingBlocks := fun _ => none
  votes := fun _ => ∅
  lastBlockTime := now
  viewTimeout := none

def sendVote (e : ConsensusEngine) (blockHash : Hash) (voteType : VoteType) (round view : Nat) :
    List ConsensusMessage :=
  [.vote blockHash voteType round view e.config.nodeId 0]

def validateProposedBlock (block : Block) : Bool := block.verify C

def handleProposeMessage (e : ConsensusEngine) (block : Block) (round view : Nat) : Outcome ConsensusEngine :=
  if view ≠ e.currentView ∨ round ≠ e.currentRound then ⟨e, [], .ok ()⟩
  else if !validateProposedBlock C block then ⟨e, [], .ok ()⟩
  else
    let blockHash := block.hash C
    let e := { e with pendingBlocks := Function.update e.pendingBlocks blockHash (some block) }
    ⟨{ e with state := .preparing }, e.sendVote blockHash .prepare round view, .ok ()⟩

def commitBlock (e : ConsensusEngine) (blockHash : Hash) : Outcome ConsensusEngine :=
  match e.pendingBlocks blockHash with
  | none => ⟨e, [], .error "Block not found in pending blocks"⟩
  | some block =>
      let mempool := block.transactions.foldl (fun mempool tx => (mempool.removeTransaction C tx.id).1) e.mempool
      ⟨{ e with
        storage := e.storage.storeBlock C block
        currentHeight := block.header.height
        mempool := mempool
        pendingBlocks := Function.update e.pendingBlocks blockHash none
        state := .idle
        currentRound := wrappingAdd e.currentRound 1 }, [], .ok ()⟩

def storeVote (e : ConsensusEngine) (voteKey : Nat × Nat × Hash) (validatorId : NodeId)
    (voteMessage : ConsensusMessage) : ConsensusEngine :=
  { e with votes := Function.update e.votes voteKey ((e.votes voteKey).insert validatorId voteMessage) }

def checkVoteThreshold (e : ConsensusEngine) (blockHash : Hash) (voteType : VoteType) (round view : Nat) :
    Outcome ConsensusEngine :=
  let requiredVotes := quorumSize e.config.validatorSet.length
  if requiredVotes ≤ countVotesIn (e.votes (view, round, blockHash)) voteType then
    match voteType with
    | .prepare => ⟨{ e with state := .committing }, e.sendVote blockHash .commit round view, .ok ()⟩
    | .commit => e.commitBlock C blockHash
  else ⟨e, [], .ok ()⟩

def handleVoteMessage (e : ConsensusEngine) (blockHash : Hash) (voteType : VoteType) (round view : Nat)
    (validatorId : NodeId) (signature : Signature) : Outcome ConsensusEngine :=
  if view ≠ e.currentView ∨ round ≠ e.currentRound then ⟨e, [], .ok ()⟩
  else if validatorId ∉ e.config.validatorSet then ⟨e, [], .ok ()⟩
  else
    let voteKey := (view, round, blockHash)
    let voteMessage := ConsensusMessage.vote blockHash voteType round view validatorId signature
    (e.storeVote voteKey validatorId voteMessage).checkVoteThreshold C blockHash voteType round view

def handleViewChangeMessage (e : ConsensusEngine) (newView : Nat) (validatorId : NodeId) (signature : Signature)
    (now : Timestamp) : Outcome ConsensusEngine :=
  let r := e.viewChangeManager.handleViewChange newView validatorId signature now
  ⟨{ e with viewChangeManager := r.state }, r.sent, r.result⟩

def handleNewViewMessage (e : ConsensusEngine) (view : Nat) (viewChangeMessages : List ConsensusMessage)
    (now : Timestamp) : Outcome ConsensusEngine :=
  let r := e.viewChangeManager.handleNewView view viewChangeMessages now
  ⟨{ e with viewChangeManager := r.state }, r.sent, r.result⟩

def handleConsensusMessage (e : ConsensusEngine) (message : ConsensusMessage) (now : Timestamp) :
    Outcome ConsensusEngine :=
  match message with
  | .propose block round view => e.handleProposeMessage C block round view
  | .vote blockHash voteType round view validatorId signature =>
      e.handleVoteMessage C blockHash voteType round view validatorId signature
  | .viewChange newView validatorId signature => e.handleViewChangeMessage newView validatorId signature now
  | .newView view viewChangeMessages => e.handleNewViewMessage view viewChangeMessages now

def processMessages (e : ConsensusEngine) :
    List (ConsensusMessage × Timestamp) → ConsensusEngine × List ConsensusMessage
  | [] => (e, [])
  | (message, now) :: rest =>
      let r := e.handleConsensusMessage C message now
      let (e', sent) := r.state.processMessages rest
      (e', r.sent ++ sent)

def startObserverMode (e : ConsensusEngine) (inbound : List (ConsensusMessage × Timestamp)) :
    ConsensusEngine × List ConsensusMessage :=
  e.processMessages C inbound

def shouldProposeBlock (e : ConsensusEngine) (now : Timestamp) : Bool :=
  if e.leaderElection.getLeader e.currentView ≠ e.config.nodeId then false
  else if e.state ≠ .idle then false
  else if now - e.lastBlockTime < e.config.blockTimeMs then false
  else true

def createBlock (e : ConsensusEngine) (transactions : List Transaction) (height : BlockHeight) (view round : Nat)
    (timestamp : Timestamp) : Except String Block := do
  let previousHash ←
    if height = 0 then pure 0
    else
      match e.storage.getBlock (height - 1) with
      | some prevBlock => pure (prevBlock.hash C)
      | none => throw "Previous block not found"
  let block : Block :=
    { header := ⟨height, previousHash, 0, 0, timestamp, e.config.nodeId, round, view⟩
      transactions := transactions
      signatures := [] }
  pure { block with header := { block.header with merkleRoot := block.calculateMerkleRoot C } }

def proposeBlock (e : ConsensusEngine) (timestamp : Timestamp) : Outcome ConsensusEngine :=
  let (mempool, transactions) := e.mempool.getNextBatch C e.config.maxTransactionsPerBlock e.config.maxBlockSize
  let e := { e with mempool := mempool }
  if transactions.isEmpty then ⟨e, [], .ok ()⟩
  else
    match e.createBlock C transactions (wrappingAdd e.currentHeight 1) e.currentView e.currentRound timestamp with
    | .error err => ⟨e, [], .error err⟩
    | .ok block =>
        let proposal := ConsensusMessage.propose block e.currentRound e.currentView
        let e := { e with pendingBlocks := Function.update e.pendingBlocks (block.hash C) (some block) }
        ⟨{ e with state := .proposing }, [proposal], .ok ()⟩

def shouldTriggerViewChange (e : ConsensusEngine) (now : Timestamp) : Bool :=
  match e.viewTimeout with
  | some timeout => decide (timeout < now)
  | none => false

def triggerViewChange (e : ConsensusEngine) : Outcome ConsensusEngine :=
  let newView := wrappingAdd e.currentView 1
  let r := e.viewChangeManager.triggerViewChange newView
  let e := { e with viewChangeManager := r.state }
  match r.result with
  | .error err => ⟨e, r.sent, .error err⟩
  | .ok () => ⟨{ e with currentView := newView, state := .viewChanging }, r.sent, .ok ()⟩

def consensusTick (e : ConsensusEngine) (now timestamp : Timestamp) : ConsensusEngine × List ConsensusMessage :=
  let (e, proposed) :=
    if e.shouldProposeBlock now then
      let r := e.proposeBlock C timestamp
      (r.state, r.sent)
    else (e, [])
  if e.shouldTriggerViewChange now then
    let r := e.triggerViewChange
    (r.state, proposed ++ r.sent)
  else (e, proposed)

end ConsensusEngine

end BlockchainNode

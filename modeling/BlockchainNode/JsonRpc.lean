import BlockchainNode.StorageRefinement
import BlockchainNode.MempoolStats

namespace BlockchainNode

inductive JsonValue where
  | u64 (n : Nat)
  | string (s : String)
  | other
  deriving DecidableEq, Repr

def JsonValue.asU64 : JsonValue → Option Nat
  | .u64 n => some n
  | _ => none

def JsonValue.asStr : JsonValue → Option String
  | .string s => some s
  | _ => none

structure JsonRpcRequest where
  jsonrpc : String
  method : String
  params : Option JsonValue
  id : Option JsonValue
  deriving DecidableEq, Repr

structure JsonRpcError where
  code : Int
  message : String
  data : Option JsonValue
  deriving DecidableEq, Repr

structure BlockInfo where
  height : BlockHeight
  hash : String
  previousHash : String
  timestamp : Timestamp
  proposer : String
  transactionCount : Nat
  size : Nat
  deriving DecidableEq, Repr

structure TransactionInfo where
  id : String
  «from» : String
  «to» : String
  amount : Nat
  fee : Nat
  nonce : Nat
  timestamp : Timestamp
  status : String
  deriving DecidableEq, Repr

structure NodeStatus where
  nodeId : String
  isValidator : Bool
  currentHeight : BlockHeight
  currentView : Nat
  currentRound : Nat
  connectedPeers : Nat
  mempoolSize : Nat
  isSyncing : Bool
  deriving DecidableEq, Repr

structure ConsensusStats where
  currentHeight : BlockHeight
  currentView : Nat
  currentRound : Nat
  totalBlocksProposed : Nat
  totalBlocksCommitted : Nat
  totalViewChanges : Nat
  currentLeader : Option NodeId
  deriving DecidableEq, Repr

def ConsensusStats.default : ConsensusStats := ⟨0, 0, 0, 0, 0, 0, none⟩

inductive RpcResult where
  | block (info : BlockInfo)
  | transaction (info : TransactionInfo)
  | balance (amount : Nat)
  | nodeStatus (status : NodeStatus)
  | peers (peers : List String)
  | mempoolInfo (stats : MempoolStats)
  deriving DecidableEq, Repr

structure JsonRpcResponse where
  jsonrpc : String
  result : Option RpcResult
  error : Option JsonRpcError
  id : Option JsonValue
  deriving DecidableEq, Repr

structure JsonRpcHandler where
  storage : ColumnStorage
  mempool : StatsMempool
  consensusStats : ConsensusStats

def debugHex (bytes : List Nat) : String :=
  "[" ++ ", ".intercalate (bytes.map fun b => ⟨Nat.toDigits 16 b⟩) ++ "]"

variable (C : Codec)

namespace JsonRpcHandler

def blockToInfo (block : Block) : BlockInfo where
  height := block.header.height
  hash := debugHex (hashBytes (block.hash C))
  previousHash := debugHex (hashBytes block.header.previousHash)
  timestamp := block.header.timestamp
  proposer := block.header.proposer
  transactionCount := block.transactions.length
  size := C.serializedBlockSize block

def transactionToInfo (tx : Transaction) (status : String) : TransactionInfo where
  id := uuidHyphenated tx.id
  «from» := debugHex (addressBytes tx.from)
  «to» := debugHex (addressBytes tx.to)
  amount := tx.amount
  fee := tx.fee
  nonce := tx.nonce
  timestamp := tx.timestamp
  status := status

def internalError (e : String) : JsonRpcError := ⟨-32603, "Internal error: " ++ e, none⟩

def requireParam {α : Type} (read : JsonValue → Option α) (message : String) (params : Option JsonValue) :
    Except JsonRpcError α :=
  match params.bind read with
  | some a => .ok a
  | none => .error ⟨-32602, message, none⟩

def blockResponse (notFound : String) : Except String (Option Block) → Except JsonRpcError RpcResult
  | .ok (some block) => .ok (.block (blockToInfo C block))
  | .ok none => .error ⟨-32000, notFound, none⟩
  | .error e => .error (internalError e)

def getBlockByHeight (h : JsonRpcHandler) (params : Option JsonValue) : Except JsonRpcError RpcResult := do
  let height ← requireParam JsonValue.asU64 "Invalid params: height required" params
  blockResponse C "Block not found" (h.storage.blocks.getBlock height)

def parseHash (_hashStr : String) : Except JsonRpcError Hash := .ok 0

def getBlockByHash (h : JsonRpcHandler) (params : Option JsonValue) : Except JsonRpcError RpcResult := do
  let hashStr ← requireParam JsonValue.asStr "Invalid params: hash required" params
  let hash ← parseHash hashStr
  blockResponse C "Block not found" (h.storage.blocks.getBlockByHash hash)

def getLatestBlock (h : JsonRpcHandler) : Except JsonRpcError RpcResult :=
  blockResponse C "No blocks found" h.storage.blocks.getLatestBlock

def getTransaction (h : JsonRpcHandler) (params : Option JsonValue) : Except JsonRpcError RpcResult := do
  let txIdStr ← requireParam JsonValue.asStr "Invalid params: transaction ID required" params
  let txId ← (uuidParseStr txIdStr).elim (.error ⟨-32602, "Invalid transaction ID format", none⟩) .ok
  match h.storage.transactions.getTransaction txId with
  | .ok (some tx) => .ok (.transaction (transactionToInfo tx "confirmed"))
  | .ok none =>
      match h.mempool.pool.getTransaction txId with
      | some tx => .ok (.transaction (transactionToInfo tx "pending"))
      | none => .error ⟨-32000, "Transaction not found", none⟩
  | .error e => .error (internalError e)

def sendTransaction (_params : Option JsonValue) : Except JsonRpcError RpcResult :=
  .error ⟨-32601, "Method not implemented", none⟩

def getBalance (_params : Option JsonValue) : Except JsonRpcError RpcResult := .ok (.balance 0)

def getNodeStatus (h : JsonRpcHandler) : Except JsonRpcError RpcResult :=
  .ok (.nodeStatus
    { nodeId := "blockchain-node"
      isValidator := true
      currentHeight := h.consensusStats.currentHeight
      currentView := h.consensusStats.currentView
      currentRound := h.consensusStats.currentRound
      connectedPeers := 0
      mempoolSize := h.mempool.getStats.totalTransactions
      isSyncing := false })

def getPeers : Except JsonRpcError RpcResult := .ok (.peers [])

def getMempoolInfo (h : JsonRpcHandler) : Except JsonRpcError RpcResult := .ok (.mempoolInfo h.mempool.getStats)

def dispatch (h : JsonRpcHandler) (request : JsonRpcRequest) : Except JsonRpcError RpcResult :=
  match request.method with
  | "blockchain_getBlockByHeight" => h.getBlockByHeight C request.params
  | "blockchain_getBlockByHash" => h.getBlockByHash C request.params
  | "blockchain_getLatestBlock" => h.getLatestBlock C
  | "blockchain_getTransaction" => h.getTransaction request.params
  | "blockchain_sendTransaction" => sendTransaction request.params
  | "blockchain_getBalance" => getBalance request.params
  | "blockchain_getNodeStatus" => h.getNodeStatus
  | "blockchain_getPeers" => getPeers
  | "blockchain_getMempoolInfo" => h.getMempoolInfo
  | _ => .error ⟨-32601, "Method not found", none⟩

def respond (id : Option JsonValue) : Except JsonRpcError RpcResult → JsonRpcResponse
  | .ok result => ⟨"2.0", some result, none, id⟩
  | .error error => ⟨"2.0", none, some error, id⟩

def handleRequest (h : JsonRpcHandler) (request : JsonRpcRequest) : JsonRpcResponse :=
  respond request.id (h.dispatch C request)

end JsonRpcHandler

def JsonRpcError.Reserved (e : JsonRpcError) : Prop := e.code ∈ [-32000, -32601, -32602, -32603] ∧ e.data = none

def ErrorsReserved {α : Type} (r : Except JsonRpcError α) : Prop := ∀ e, r = .error e → e.Reserved

structure JsonRpcResponse.WellFormed (id : Option JsonValue) (r : JsonRpcResponse) : Prop where
  jsonrpc : r.jsonrpc = "2.0"
  id : r.id = id
  exclusive : r.result.isSome = !r.error.isSome
  reserved : ∀ e, r.error = some e → e.Reserved

section Errors

variable {α β : Type}

@[simp] theorem Except.ok_bind {ε : Type} (a : α) (f : α → Except ε β) : (Except.ok a >>= f) = f a := rfl

theorem errorsReserved_ok (a : α) : ErrorsReserved (.ok a : Except JsonRpcError α) := fun _ h => nomatch h

theorem errorsReserved_error {e : JsonRpcError} (he : e.Reserved) : ErrorsReserved (.error e : Except _ α) :=
  fun _ h => by cases h; exact he

theorem ErrorsReserved.bind {x : Except JsonRpcError α} {f : α → Except JsonRpcError β} (hx : ErrorsReserved x)
    (hf : ∀ a, ErrorsReserved (f a)) : ErrorsReserved (x >>= f) := by
  cases x with
  | error e => exact fun e' h => Except.error.inj h ▸ hx e rfl
  | ok a => exact hf a

end Errors

namespace JsonRpcHandler

variable (h : JsonRpcHandler)

theorem requireParam_reserved {α : Type} (read : JsonValue → Option α) (message : String) (params : Option JsonValue) :
    ErrorsReserved (requireParam read message params) := by
  unfold requireParam
  split
  · exact errorsReserved_ok _
  · exact errorsReserved_error ⟨by simp [internalError], rfl⟩

theorem blockResponse_reserved (notFound : String) (r : Except String (Option Block)) :
    ErrorsReserved (blockResponse C notFound r) := by
  rcases r with e | _ | block
  · exact errorsReserved_error ⟨by simp [internalError], rfl⟩
  · exact errorsReserved_error ⟨by simp [internalError], rfl⟩
  · exact errorsReserved_ok _

theorem getTransaction_reserved (params : Option JsonValue) : ErrorsReserved (h.getTransaction params) := by
  refine (requireParam_reserved _ _ _).bind fun txIdStr => ?_
  refine ErrorsReserved.bind ?_ fun txId => ?_
  · cases uuidParseStr txIdStr
    · exact errorsReserved_error ⟨by simp [internalError], rfl⟩
    · exact errorsReserved_ok _
  · split
    · exact errorsReserved_ok _
    · split
      · exact errorsReserved_ok _
      · exact errorsReserved_error ⟨by simp [internalError], rfl⟩
    · exact errorsReserved_error ⟨by simp [internalError], rfl⟩

theorem dispatch_reserved (request : JsonRpcRequest) : ErrorsReserved (h.dispatch C request) := by
  unfold dispatch
  split
  · exact (requireParam_reserved _ _ _).bind fun _ => blockResponse_reserved C _ _
  · exact (requireParam_reserved _ _ _).bind fun _ => (errorsReserved_ok _).bind fun _ => blockResponse_reserved C _ _
  · exact blockResponse_reserved C _ _
  · exact h.getTransaction_reserved _
  · exact errorsReserved_error ⟨by simp [internalError], rfl⟩
  · exact errorsReserved_ok _
  · exact errorsReserved_ok _
  · exact errorsReserved_ok _
  · exact errorsReserved_ok _
  · exact errorsReserved_error ⟨by simp [internalError], rfl⟩

theorem handleRequest_wellFormed (request : JsonRpcRequest) : (h.handleRequest C request).WellFormed request.id := by
  have hd := h.dispatch_reserved C request
  unfold handleRequest
  cases hr : h.dispatch C request with
  | ok result => exact ⟨rfl, rfl, rfl, fun _ he => nomatch he⟩
  | error e => exact ⟨rfl, rfl, rfl, fun e' he => Option.some.inj he ▸ hd e hr⟩

structure AnswersFrom (h : JsonRpcHandler) (s : Storage) : Prop where
  getBlockByHeight : ∀ height, h.getBlockByHeight C (some (.u64 height)) =
    blockResponse C "Block not found" (.ok (s.getBlock height))
  getBlockByHash : ∀ hashStr, h.getBlockByHash C (some (.string hashStr)) =
    blockResponse C "Block not found" (.ok (s.getBlockByHash 0))
  getTransaction : ∀ txId < 2 ^ 128, h.getTransaction (some (.string (uuidHyphenated txId))) =
    match s.getTransaction txId, h.mempool.pool.getTransaction txId with
    | some tx, _ => .ok (.transaction (transactionToInfo tx "confirmed"))
    | none, some tx => .ok (.transaction (transactionToInfo tx "pending"))
    | none, none => .error ⟨-32000, "Transaction not found", none⟩

theorem answersFrom_of_agrees {s : Storage} (ha : h.storage.Agrees s) : AnswersFrom C h s := by
  refine ⟨fun height => congrArg (blockResponse C _) (ha.getBlock height),
    fun _ => congrArg (blockResponse C _) (ha.getBlockByHash 0 (by norm_num)), fun txId hlt => ?_⟩
  simp only [getTransaction, requireParam, Option.some_bind, JsonValue.asStr, uuidParseStr_uuidHyphenated hlt,
    Option.elim, ha.getTransaction txId hlt, Except.ok_bind]
  rcases s.getTransaction txId with _ | tx <;> rcases h.mempool.pool.getTransaction txId with _ | tx' <;> rfl

theorem rpc_reads_follow_writes (hC : C.HashesFit) {writes : List StorageWrite} (hw : ∀ w ∈ writes, w.fits = true)
    (mempool : StatsMempool) (consensusStats : ConsensusStats) :
    AnswersFrom C ⟨ColumnStorage.empty.writeAll C writes, mempool, consensusStats⟩
      (Storage.empty.writeAll C writes) :=
  answersFrom_of_agrees C _ (ColumnStorage.refines_empty.writeAll hC hw).agrees

theorem sample_rpc_reads :
    sampleCodec.truncate.HashesFit ∧ (∀ w ∈ ColumnStorage.sampleWrites, w.fits = true) ∧
      AnswersFrom sampleCodec.truncate
        ⟨ColumnStorage.empty.writeAll sampleCodec.truncate ColumnStorage.sampleWrites, StatsMempool.new .default,
          ConsensusStats.default⟩
        (Storage.empty.writeAll sampleCodec.truncate ColumnStorage.sampleWrites) :=
  ⟨Codec.truncate_hashesFit _, by decide,
    rpc_reads_follow_writes _ (Codec.truncate_hashesFit _) (by decide) _ _⟩

theorem rpc_reports_mempool_size {config : MempoolConfig} {mempool : StatsMempool}
    (hr : StatsMempool.Reachable C config mempool) (storage : ColumnStorage) (consensusStats : ConsensusStats)
    (jsonrpc : String) (params id : Option JsonValue) :
    (∃ status, (handleRequest C ⟨storage, mempool, consensusStats⟩
        ⟨jsonrpc, "blockchain_getNodeStatus", params, id⟩).result = some (.nodeStatus status) ∧
      status.mempoolSize = mempool.pool.size) ∧
    ∃ stats, (handleRequest C ⟨storage, mempool, consensusStats⟩
        ⟨jsonrpc, "blockchain_getMempoolInfo", params, id⟩).result = some (.mempoolInfo stats) ∧
      stats.totalTransactions = mempool.pool.size ∧ stats.avgFee = 0 ∧ stats.pendingByFee = [] :=
  have hs := hr.statsExact
  ⟨⟨_, rfl, hs.totalTransactions⟩, _, rfl, hs.totalTransactions, hs.avgFee, hs.pendingByFee⟩

theorem sample_rpc_mempool_size :
    StatsMempool.Reachable sampleCodec .default
        ((StatsMempool.new .default).apply sampleCodec (.addTransaction (sampleTransfer 1 1))) ∧
      (∃ status, (handleRequest sampleCodec ⟨ColumnStorage.empty,
          (StatsMempool.new .default).apply sampleCodec (.addTransaction (sampleTransfer 1 1)), ConsensusStats.default⟩
          ⟨"2.0", "blockchain_getNodeStatus", none, none⟩).result = some (.nodeStatus status) ∧
        status.mempoolSize = ((StatsMempool.new .default).apply sampleCodec (.addTransaction (sampleTransfer 1 1))).pool.size) ∧
      ∃ stats, (handleRequest sampleCodec ⟨ColumnStorage.empty,
          (StatsMempool.new .default).apply sampleCodec (.addTransaction (sampleTransfer 1 1)), ConsensusStats.default⟩
          ⟨"2.0", "blockchain_getMempoolInfo", none, none⟩).result = some (.mempoolInfo stats) ∧
        stats.totalTransactions = ((StatsMempool.new .default).apply sampleCodec (.addTransaction (sampleTransfer 1 1))).pool.size ∧
        stats.avgFee = 0 ∧ stats.pendingByFee = [] :=
  have hr : StatsMempool.Reachable sampleCodec .default
      ((StatsMempool.new .default).apply sampleCodec (.addTransaction (sampleTransfer 1 1))) := .tail .refl ⟨_, rfl⟩
  ⟨hr, rpc_reports_mempool_size sampleCodec hr _ _ _ _ _⟩

end JsonRpcHandler

end BlockchainNode

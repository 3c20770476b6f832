import BlockchainNode.Mempool

namespace BlockchainNode

structure MempoolStats where
  totalTransactions : Nat
  totalAdded : Nat
  totalRemoved : Nat
  totalRejected : Nat
  avgFee : Nat
  pendingByFee : List (Nat × Nat)
  deriving DecidableEq, Repr

def MempoolStats.default : MempoolStats := ⟨0, 0, 0, 0, 0, []⟩

structure StatsMempool where
  pool : Mempool
  stats : MempoolStats

variable (C : Codec)

namespace StatsMempool

def new (config : MempoolConfig) : StatsMempool := ⟨Mempool.new config, .default⟩

def getStats (m : StatsMempool) : MempoolStats := m.stats

def incrementRejected (m : StatsMempool) : StatsMempool :=
  { m with stats := { m.stats with totalRejected := wrappingAdd m.stats.totalRejected 1 } }

def removeTransaction (m : StatsMempool) (txId : Uuid) : StatsMempool × Option Transaction :=
  match m.pool.removeTransaction C txId with
  | (pool, some tx) =>
      (⟨pool, { m.stats with totalTransactions := pool.size, totalRemoved := wrappingAdd m.stats.totalRemoved 1 }⟩,
        some tx)
  | (pool, none) => (⟨pool, m.stats⟩, none)

def cleanupLowPriority (m : StatsMempool) : StatsMempool :=
  let targetSize := m.pool.config.maxSize * 9 / 10
  let currentSize := m.pool.size
  if currentSize ≤ targetSize then m
  else
    let toRemove := currentSize - targetSize
    let m' := (m.pool.priorityQueue.take toRemove).foldl
      (fun m priorityTx => (m.removeTransaction C priorityTx.transaction.id).1) m
    { m' with pool := { m'.pool with priorityQueue := m.pool.priorityQueue.drop toRemove } }

def addTransaction (m : StatsMempool) (tx : Transaction) : StatsMempool × Bool :=
  if !m.pool.validateTransaction C tx then (m.incrementRejected, false)
  else if m.pool.txHashes (tx.hash C) then (m, false)
  else if m.pool.isFull && !m.pool.shouldReplace tx then (m.incrementRejected, false)
  else
    let insertionTime := wrappingAdd m.pool.insertionCounter 1
    let priorityTx : PriorityTransaction := ⟨tx, Mempool.calculatePriority tx, insertionTime⟩
    let senderTxs := (m.pool.bySender tx.from).getD [] ++ [tx.id]
    let pool := { m.pool with
      insertionCounter := insertionTime
      transactions := m.pool.transactions.insert tx.id tx
      txHashes := Function.update m.pool.txHashes (tx.hash C) true
      priorityQueue := m.pool.priorityQueue.orderedInsert PriorityTransaction.popsBefore priorityTx
      bySender := Function.update m.pool.bySender tx.from (some senderTxs) }
    let m : StatsMempool :=
      ⟨pool, { m.stats with totalTransactions := pool.size, totalAdded := wrappingAdd m.stats.totalAdded 1 }⟩
    if pool.isFull then (m.cleanupLowPriority C, true) else (m, true)

def getNextBatch (m : StatsMempool) (maxCount maxSize : Nat) : StatsMempool × List Transaction :=
  let (pool, batch) := m.pool.getNextBatch C maxCount maxSize
  ({ m with pool }, batch)

def clear (m : StatsMempool) : StatsMempool := ⟨m.pool.clear, { m.stats with totalTransactions := 0 }⟩

def apply (m : StatsMempool) : Mempool.Op → StatsMempool
  | .addTransaction tx => (m.addTransaction C tx).1
  | .removeTransaction txId => (m.removeTransaction C txId).1
  | .getNextBatch maxCount maxSize => (m.getNextBatch C maxCount maxSize).1
  | .clear => m.clear

def run (m : StatsMempool) (ops : List Mempool.Op) : StatsMempool := ops.foldl (apply C) m

def Reachable (config : MempoolConfig) (m : StatsMempool) : Prop :=
  Relation.ReflTransGen (fun m m' => ∃ op, m' = m.apply C op) (new config) m

def Steps (m m' : StatsMempool) : Prop := Relation.ReflTransGen (fun m m' => ∃ op, m' = m.apply C op) m m'

end StatsMempool

section Pool

theorem Mempool.removeTransaction_of_snd_none {m : Mempool} {txId : Uuid} {pool : Mempool}
    (h : m.removeTransaction C txId = (pool, none)) : pool = m := by
  unfold Mempool.removeTransaction at h
  split at h
  · cases h
  · exact (Prod.mk.inj h).1.symm

namespace StatsMempool

variable {C} (m : StatsMempool)

theorem removeTransaction_pool (txId : Uuid) :
    (m.removeTransaction C txId).1.pool = (m.pool.removeTransaction C txId).1 := by
  unfold removeTransaction
  rcases m.pool.removeTransaction C txId with ⟨pool, _ | tx⟩ <;> rfl

theorem foldRemove_pool {α : Type} (f : α → Uuid) (l : List α) :
    (l.foldl (fun m a => (m.removeTransaction C (f a)).1) m).pool =
      l.foldl (fun m a => (m.removeTransaction C (f a)).1) m.pool := by
  induction l generalizing m with
  | nil => rfl
  | cons a l ih => rw [List.foldl_cons, ih, removeTransaction_pool, List.foldl_cons]

theorem cleanupLowPriority_pool : (m.cleanupLowPriority C).pool = m.pool.cleanupLowPriority C := by
  dsimp only [cleanupLowPriority, Mempool.cleanupLowPriority]
  split_ifs
  · rfl
  · rw [foldRemove_pool m fun p : PriorityTransaction => p.transaction.id]

theorem addTransaction_pool (tx : Transaction) :
    ((m.addTransaction C tx).1.pool, (m.addTransaction C tx).2) = m.pool.addTransaction C tx := by
  dsimp only [addTransaction, Mempool.addTransaction]
  split_ifs <;> first | rfl | exact congrArg (·, true) (cleanupLowPriority_pool _)

theorem getNextBatch_eq (maxCount maxSize : Nat) :
    m.getNextBatch C maxCount maxSize =
      (⟨(m.pool.getNextBatch C maxCount maxSize).1, m.stats⟩, (m.pool.getNextBatch C maxCount maxSize).2) :=
  rfl

theorem apply_pool (op : Mempool.Op) : (m.apply C op).pool = m.pool.apply C op := by
  cases op with
  | addTransaction tx => exact congrArg Prod.fst (addTransaction_pool m tx)
  | removeTransaction txId => exact removeTransaction_pool m txId
  | getNextBatch maxCount maxSize => rfl
  | clear => rfl

theorem Reachable.pool {config : MempoolConfig} {m : StatsMempool} (h : Reachable C config m) :
    Mempool.Reachable C config m.pool := by
  induction h with
  | refl => exact .refl
  | tail _ hs ih =>
      obtain ⟨op, rfl⟩ := hs
      exact ih.tail ⟨op, (apply_pool _ op)⟩

theorem Reachable.steps {config : MempoolConfig} {m m' : StatsMempool} (h : Reachable C config m) (h' : Steps C m m') :
    Reachable C config m' :=
  Relation.ReflTransGen.trans h h'

theorem steps_foldRemove {α : Type} (f : α → Uuid) (l : List α) :
    Steps C m (l.foldl (fun m a => (m.removeTransaction C (f a)).1) m) := by
  induction l generalizing m with
  | nil => exact .refl
  | cons a l ih => exact .head ⟨.removeTransaction (f a), rfl⟩ (ih _)

end StatsMempool

end Pool

namespace StatsMempool

structure StatsExact (m : StatsMempool) : Prop where
  totalTransactions : m.stats.totalTransactions = m.pool.size
  avgFee : m.stats.avgFee = 0
  pendingByFee : m.stats.pendingByFee = []

section Exact

variable {C} {m : StatsMempool}

theorem statsExact_new (config : MempoolConfig) : (new config).StatsExact := ⟨rfl, rfl, rfl⟩

theorem StatsExact.removeTransaction (h : m.StatsExact) (txId : Uuid) : (m.removeTransaction C txId).1.StatsExact := by
  unfold StatsMempool.removeTransaction
  rcases hr : m.pool.removeTransaction C txId with ⟨pool, _ | tx⟩
  · rw [Mempool.removeTransaction_of_snd_none C hr]
    exact h
  · exact ⟨rfl, h.avgFee, h.pendingByFee⟩

theorem StatsExact.foldRemove {α : Type} (h : m.StatsExact) (f : α → Uuid) (l : List α) :
    (l.foldl (fun m a => (m.removeTransaction C (f a)).1) m).StatsExact := by
  induction l generalizing m with
  | nil => exact h
  | cons a l ih => exact ih (h.removeTransaction _)

theorem StatsExact.cleanupLowPriority (h : m.StatsExact) : (m.cleanupLowPriority C).StatsExact := by
  dsimp only [StatsMempool.cleanupLowPriority]
  split_ifs
  · exact h
  · have h' := @StatsExact.foldRemove C m _ h (fun p : PriorityTransaction => p.transaction.id)
      (m.pool.priorityQueue.take (m.pool.size - m.pool.config.maxSize * 9 / 10))
    exact ⟨h'.totalTransactions, h'.avgFee, h'.pendingByFee⟩

theorem StatsExact.addTransaction (h : m.StatsExact) (tx : Transaction) : (m.addTransaction C tx).1.StatsExact := by
  have hr : m.incrementRejected.StatsExact := ⟨h.totalTransactions, h.avgFee, h.pendingByFee⟩
  dsimp only [StatsMempool.addTransaction]
  split_ifs
  · exact hr
  · exact h
  · exact hr
  · exact StatsExact.cleanupLowPriority ⟨rfl, h.avgFee, h.pendingByFee⟩
  · exact ⟨rfl, h.avgFee, h.pendingByFee⟩

theorem StatsExact.apply (h : m.StatsExact) (op : Mempool.Op) : (m.apply C op).StatsExact := by
  cases op with
  | addTransaction tx => exact h.addTransaction tx
  | removeTransaction txId => exact h.removeTransaction txId
  | getNextBatch maxCount maxSize => exact ⟨h.totalTransactions, h.avgFee, h.pendingByFee⟩
  | clear => exact ⟨rfl, h.avgFee, h.pendingByFee⟩

theorem Reachable.statsExact {config : MempoolConfig} (hr : Reachable C config m) : m.StatsExact := by
  induction hr with
  | refl => exact statsExact_new config
  | tail _ hs ih =>
      obtain ⟨op, rfl⟩ := hs
      exact ih.apply op

end Exact

end StatsMempool

end BlockchainNode

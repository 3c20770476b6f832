import BlockchainNode.Types
import Mathlib.Data.List.Sort

namespace BlockchainNode

structure PriorityTransaction where
  transaction : Transaction
  priorityScore : Nat
  insertionTime : Nat
  deriving DecidableEq, Repr

def PriorityTransaction.popsBefore (a b : PriorityTransaction) : Prop :=
  b.priorityScore < a.priorityScore ∨ (a.priorityScore = b.priorityScore ∧ a.insertionTime ≤ b.insertionTime)

instance : DecidableRel PriorityTransaction.popsBefore := fun a b =>
  inferInstanceAs (Decidable (b.priorityScore < a.priorityScore ∨
    (a.priorityScore = b.priorityScore ∧ a.insertionTime ≤ b.insertionTime)))

structure MempoolConfig where
  maxSize : Nat
  maxPerAccount : Nat
  minFee : Nat
  maxTxSize : Nat
  deriving DecidableEq, Repr

def MempoolConfig.default : MempoolConfig where
  maxSize := 10000
  maxPerAccount := 100
  minFee := 1
  maxTxSize := 1024 * 1024

structure Mempool where
  config : MempoolConfig
  priorityQueue : List PriorityTransaction
  transactions : AList (fun _ : Uuid => Transaction)
  bySender : Address → Option (List Uuid)
  txHashes : Hash → Bool
  insertionCounter : Nat

variable (C : Codec)

namespace Mempool

def new (config : MempoolConfig) : Mempool where
  config := config
  priorityQueue := []
  transactions := ∅
  bySender := fun _ => none
  txHashes := fun _ => false
  insertionCounter := 0

def size (m : Mempool) : Nat := m.transactions.entries.length

def isFull (m : Mempool) : Bool := decide (m.config.maxSize ≤ m.size)

def contains (m : Mempool) (txId : Uuid) : Bool := decide (txId ∈ m.transactions)

def getTransaction (m : Mempool) (txId : Uuid) : Option Transaction := m.transactions.lookup txId

def getTransactionsBySender (m : Mempool) (sender : Address) : List Transaction :=
  match m.bySender sender with
  | some txIds => txIds.filterMap m.transactions.lookup
  | none => []

def validateTransaction (m : Mempool) (tx : Transaction) : Bool :=
  if tx.fee < m.config.minFee then false
  else if m.config.maxTxSize < C.serializedSize tx then false
  else if (match m.bySender tx.from with
      | some senderTxs => decide (m.config.maxPerAccount ≤ senderTxs.length)
      | none => false) then false
  else tx.verify

def calculatePriority (tx : Transaction) : Nat := tx.fee

def shouldReplace (m : Mempool) (tx : Transaction) : Bool := decide (wrappingMul m.config.minFee 2 < tx.fee)

def isValidNonceOrder (tx : Transaction) (processedSenders : List Address) : Bool :=
  decide (tx.from ∉ processedSenders)

def removeTransaction (m : Mempool) (txId : Uuid) : Mempool × Option Transaction :=
  match m.transactions.lookup txId with
  | some tx =>
      let bySender :=
        match m.bySender tx.from with
        | some senderTxs =>
            let senderTxs := senderTxs.filter (· != txId)
            if senderTxs.isEmpty then Function.update m.bySender tx.from none
            else Function.update m.bySender tx.from (some senderTxs)
        | none => m.bySender
      ({ m with
        transactions := m.transactions.erase txId
        txHashes := Function.update m.txHashes (tx.hash C) false
        bySender := bySender }, some tx)
  | none => (m, none)

def cleanupLowPriority (m : Mempool) : Mempool :=
  let targetSize := m.config.maxSize * 9 / 10
  let currentSize := m.size
  if currentSize ≤ targetSize then m
  else
    let toRemove := currentSize - targetSize
    let m' := (m.priorityQueue.take toRemove).foldl
      (fun m priorityTx => (m.removeTransaction C priorityTx.transaction.id).1) m
    { m' with priorityQueue := m.priorityQueue.drop toRemove }

def addTransaction (m : Mempool) (tx : Transaction) : Mempool × Bool :=
  if !m.validateTransaction C tx then (m, false)
  else if m.txHashes (tx.hash C) then (m, false)
  else if m.isFull && !m.shouldReplace tx then (m, false)
  else
    let insertionTime := wrappingAdd m.insertionCounter 1
    let priorityTx : PriorityTransaction := ⟨tx, calculatePriority tx, insertionTime⟩
    let senderTxs := (m.bySender tx.from).getD [] ++ [tx.id]
    let m := { m with
      insertionCounter := insertionTime
      transactions := m.transactions.insert tx.id tx
      txHashes := Function.update m.txHashes (tx.hash C) true
      priorityQueue := m.priorityQueue.orderedInsert PriorityTransaction.popsBefore priorityTx
      bySender := Function.update m.bySender tx.from (some senderTxs) }
    if m.isFull then (m.cleanupLowPriority C, true) else (m, true)

def nextBatchLoop (m : Mempool) (maxCount maxSize : Nat) :
    List PriorityTransaction → List Transaction → Nat → List Address → List PriorityTransaction →
      List Transaction × List PriorityTransaction
  | [], batch, _, _, kept => (batch, kept)
  | priorityTx :: rest, batch, totalSize, processedSenders, kept =>
      let tx := priorityTx.transaction
      if tx.id ∉ m.transactions then nextBatchLoop m maxCount maxSize rest batch totalSize processedSenders kept
      else
        let txSize := C.serializedSize tx
        if maxCount ≤ batch.length ∨ maxSize < totalSize + txSize then (batch, kept ++ priorityTx :: rest)
        else if isValidNonceOrder tx processedSenders then
          nextBatchLoop m maxCount maxSize rest (batch ++ [tx]) (totalSize + txSize) (tx.from :: processedSenders)
            (kept ++ [priorityTx])
        else nextBatchLoop m maxCount maxSize rest batch totalSize processedSenders (kept ++ [priorityTx])

def getNextBatch (m : Mempool) (maxCount maxSize : Nat) : Mempool × List Transaction :=
  let (batch, queue) := m.nextBatchLoop C maxCount maxSize m.priorityQueue [] 0 [] []
  ({ m with priorityQueue := queue }, batch)

def clear (m : Mempool) : Mempool :=
  { m with transactions := ∅, priorityQueue := [], bySender := fun _ => none, txHashes := fun _ => false }

inductive Op where
  | addTransaction (tx : Transaction)
  | removeTransaction (txId : Uuid)
  | getNextBatch (maxCount maxSize : Nat)
  | clear

def apply (m : Mempool) : Op → Mempool
  | .addTransaction tx => (m.addTransaction C tx).1
  | .removeTransaction txId => (m.removeTransaction C txId).1
  | .getNextBatch maxCount maxSize => (m.getNextBatch C maxCount maxSize).1
  | .clear => m.clear

def run (m : Mempool) (ops : List Op) : Mempool := ops.foldl (apply C) m

def Reachable (config : MempoolConfig) (m : Mempool) : Prop :=
  Relation.ReflTransGen (fun m m' => ∃ op, m' = m.apply C op) (new config) m

def Op.reusesId (m : Mempool) : Op → Bool
  | .addTransaction tx => m.contains tx.id
  | _ => false

def FreshStep (m m' : Mempool) : Prop := ∃ op, op.reusesId m = false ∧ m' = m.apply C op

def freshRun (m : Mempool) : List Op → Bool
  | [] => true
  | op :: ops => !op.reusesId m && freshRun (m.apply C op) ops

section Effects

variable {C}

theorem removeTransaction_of_none {m : Mempool} {txId : Uuid} (hl : m.transactions.lookup txId = none) :
    m.removeTransaction C txId = (m, none) := by
  simp only [Mempool.removeTransaction, hl]

theorem removeTransaction_of_lookup {m : Mempool} {txId : Uuid} {tx : Transaction} {ids : List Uuid}
    (hl : m.transactions.lookup txId = some tx) (hids : m.bySender tx.from = some ids) :
    (m.removeTransaction C txId).1 = { m with
      transactions := m.transactions.erase txId
      txHashes := Function.update m.txHashes (tx.hash C) false
      bySender := Function.update m.bySender tx.from
        (if (ids.filter (· != txId)).isEmpty then none else some (ids.filter (· != txId))) } := by
  simp only [Mempool.removeTransaction, hl, hids]
  split <;> rfl

@[simp] theorem removeTransaction_config (m : Mempool) (txId : Uuid) :
    (m.removeTransaction C txId).1.config = m.config := by
  unfold removeTransaction; split <;> rfl

@[simp] theorem removeTransaction_priorityQueue (m : Mempool) (txId : Uuid) :
    (m.removeTransaction C txId).1.priorityQueue = m.priorityQueue := by
  unfold removeTransaction; split <;> rfl

theorem removeTransaction_lookup (m : Mempool) (txId x : Uuid) :
    (m.removeTransaction C txId).1.transactions.lookup x =
      if x = txId then none else m.transactions.lookup x := by
  unfold removeTransaction
  split
  · split_ifs with hx
    · subst hx; exact AList.lookup_erase _ _
    · exact AList.lookup_erase_ne hx
  · next hl => split_ifs with hx <;> [exact hx ▸ hl; rfl]

theorem removeTransaction_lookup_some {m : Mempool} {txId x : Uuid} {tx : Transaction}
    (h : (m.removeTransaction C txId).1.transactions.lookup x = some tx) :
    x ≠ txId ∧ m.transactions.lookup x = some tx := by
  rw [removeTransaction_lookup] at h
  split_ifs at h with hx
  exact ⟨hx, h⟩

theorem removeTransaction_cases (m : Mempool) (txId : Uuid) :
    m.transactions.lookup txId = none ∧ (m.removeTransaction C txId).1 = m ∨
      ∃ tx, m.transactions.lookup txId = some tx ∧
      (m.removeTransaction C txId).1 = { m with
        transactions := m.transactions.erase txId
        txHashes := Function.update m.txHashes (tx.hash C) false
        bySender := Function.update m.bySender tx.from ((m.bySender tx.from).bind fun ids =>
          if (ids.filter (· != txId)).isEmpty then none else some (ids.filter (· != txId))) } := by
  unfold removeTransaction
  split
  · next tx hl =>
      refine .inr ⟨tx, hl, ?_⟩
      split
      · next ids hs => simp only [hs, Option.some_bind]; split <;> rfl
      · next hs => simp [hs]
  · next hl => exact .inl ⟨hl, rfl⟩

theorem addTransaction_cases (m : Mempool) (tx : Transaction) :
    (m.addTransaction C tx).1 = m ∨
      m.validateTransaction C tx = true ∧ m.txHashes (tx.hash C) = false ∧
        (m.isFull && !m.shouldReplace tx) = false ∧
      ∃ m₁ : Mempool, m₁ = { m with
          insertionCounter := wrappingAdd m.insertionCounter 1
          transactions := m.transactions.insert tx.id tx
          txHashes := Function.update m.txHashes (tx.hash C) true
          priorityQueue := m.priorityQueue.orderedInsert PriorityTransaction.popsBefore
            ⟨tx, calculatePriority tx, wrappingAdd m.insertionCounter 1⟩
          bySender := Function.update m.bySender tx.from (some ((m.bySender tx.from).getD [] ++ [tx.id])) } ∧
        (m₁.isFull = true ∧ (m.addTransaction C tx).1 = m₁.cleanupLowPriority C ∨
          m₁.isFull = false ∧ (m.addTransaction C tx).1 = m₁) := by
  dsimp only [addTransaction]
  split_ifs with h₁ h₂ h₃ h₄
  all_goals first
    | exact .inl rfl
    | exact .inr ⟨by simpa using h₁, by simpa using h₂, by simpa using h₃, _, rfl, .inl ⟨h₄, rfl⟩⟩
    | exact .inr ⟨by simpa using h₁, by simpa using h₂, by simpa using h₃, _, rfl, .inr ⟨by simpa using h₄, rfl⟩⟩

theorem cleanupLowPriority_cases (m : Mempool) :
    m.size ≤ m.config.maxSize * 9 / 10 ∧ m.cleanupLowPriority C = m ∨
      m.config.maxSize * 9 / 10 < m.size ∧ m.cleanupLowPriority C =
      { (m.priorityQueue.take (m.size - m.config.maxSize * 9 / 10)).foldl
          (fun m p => (m.removeTransaction C p.transaction.id).1) m with
        priorityQueue := m.priorityQueue.drop (m.size - m.config.maxSize * 9 / 10) } := by
  dsimp only [cleanupLowPriority]
  split
  · next h => exact .inl ⟨h, rfl⟩
  · next h => exact .inr ⟨Nat.lt_of_not_le h, rfl⟩

theorem foldRemove_lookup (l : List PriorityTransaction) (m : Mempool) (x : Uuid) :
    (l.foldl (fun m p => (m.removeTransaction C p.transaction.id).1) m).transactions.lookup x =
      if x ∈ l.map (·.transaction.id) then none else m.transactions.lookup x := by
  induction l generalizing m with
  | nil => simp
  | cons p l ih =>
      rw [List.foldl_cons, ih, removeTransaction_lookup]
      by_cases hx : x = p.transaction.id <;> simp [hx]

@[simp] theorem foldRemove_config (l : List PriorityTransaction) (m : Mempool) :
    (l.foldl (fun m p => (m.removeTransaction C p.transaction.id).1) m).config = m.config := by
  induction l generalizing m with
  | nil => rfl
  | cons p l ih => rw [List.foldl_cons, ih, removeTransaction_config]

theorem foldRemove_induction {P : Mempool → Prop} (hrem : ∀ m txId, P m → P (m.removeTransaction C txId).1)
    (l : List PriorityTransaction) {m : Mempool} (h : P m) :
    P (l.foldl (fun m p => (m.removeTransaction C p.transaction.id).1) m) := by
  induction l generalizing m with
  | nil => exact h
  | cons p l ih => exact ih (hrem _ _ h)

@[simp] theorem cleanupLowPriority_config (m : Mempool) : (m.cleanupLowPriority C).config = m.config := by
  rcases cleanupLowPriority_cases m with ⟨-, h⟩ | ⟨-, h⟩ <;> rw [h]
  exact foldRemove_config _ _

theorem cleanupLowPriority_induction {P : Mempool → Prop} (hrem : ∀ m txId, P m → P (m.removeTransaction C txId).1)
    (hq : ∀ m (q : List PriorityTransaction), P m → P { m with priorityQueue := q }) {m : Mempool} (h : P m) :
    P (m.cleanupLowPriority C) := by
  rcases cleanupLowPriority_cases m with ⟨-, hc⟩ | ⟨-, hc⟩ <;> rw [hc]
  · exact h
  · exact hq _ _ (foldRemove_induction hrem _ h)

theorem addTransaction_induction {P : Mempool → Prop} {m : Mempool} {tx : Transaction}
    (hclean : ∀ m, P m → P (m.cleanupLowPriority C))
    (hinsert : ∀ m₁ : Mempool, m.validateTransaction C tx = true → m.txHashes (tx.hash C) = false →
      m₁.config = m.config → m₁.transactions = m.transactions.insert tx.id tx →
      m₁.txHashes = Function.update m.txHashes (tx.hash C) true →
      m₁.bySender = Function.update m.bySender tx.from (some ((m.bySender tx.from).getD [] ++ [tx.id])) →
      m₁.priorityQueue = m.priorityQueue.orderedInsert PriorityTransaction.popsBefore
        ⟨tx, calculatePriority tx, wrappingAdd m.insertionCounter 1⟩ → P m₁)
    (h : P m) : P (m.addTransaction C tx).1 := by
  rcases addTransaction_cases m tx with h' | ⟨hv, hnew, -, m₁, hm₁, hc⟩
  · rw [h']; exact h
  have h₁ : P m₁ := by subst hm₁; exact hinsert _ hv hnew rfl rfl rfl rfl rfl
  rcases hc with ⟨-, h'⟩ | ⟨-, h'⟩ <;> rw [h']
  exacts [hclean _ h₁, h₁]

theorem cleanupLowPriority_lookup_some {m : Mempool} {x : Uuid} {tx : Transaction}
    (h : (m.cleanupLowPriority C).transactions.lookup x = some tx) : m.transactions.lookup x = some tx := by
  rcases cleanupLowPriority_cases m with ⟨-, hc⟩ | ⟨-, hc⟩ <;> rw [hc] at h
  · exact h
  · rw [foldRemove_lookup] at h
    split_ifs at h
    exact h

theorem cleanupLowPriority_keeps {m : Mempool} {p : PriorityTransaction} (hp : p ∈ m.priorityQueue)
    (hl : p.transaction.id ∈ (m.cleanupLowPriority C).transactions) :
    p ∈ (m.cleanupLowPriority C).priorityQueue := by
  rw [← AList.lookup_isSome] at hl
  rcases cleanupLowPriority_cases m with ⟨-, hc⟩ | ⟨-, hc⟩ <;> rw [hc] at hl ⊢
  · exact hp
  · rw [foldRemove_lookup] at hl
    split_ifs at hl with hk
    · cases hl
    rw [← List.take_append_drop (m.size - m.config.maxSize * 9 / 10) m.priorityQueue] at hp
    exact (List.mem_append.mp hp).resolve_left fun ht => hk (List.mem_map_of_mem _ ht)

theorem getNextBatch_fst (m : Mempool) (maxCount maxSize : Nat) :
    (m.getNextBatch C maxCount maxSize).1 =
      { m with priorityQueue := (m.nextBatchLoop C maxCount maxSize m.priorityQueue [] 0 [] []).2 } := rfl

theorem nextBatchLoop_keeps (m : Mempool) (maxCount maxSize : Nat) {p : PriorityTransaction}
    (queue : List PriorityTransaction) (batch : List Transaction) (totalSize : Nat) (senders : List Address)
    (kept : List PriorityTransaction) (hp : p ∈ kept ∨ p ∈ queue ∧ p.transaction.id ∈ m.transactions) :
    p ∈ (m.nextBatchLoop C maxCount maxSize queue batch totalSize senders kept).2 := by
  induction queue generalizing batch totalSize senders kept with
  | nil => simpa [nextBatchLoop] using hp
  | cons q rest ih =>
      dsimp only [nextBatchLoop]
      by_cases h₁ : q.transaction.id ∈ m.transactions
      · have hnext : p ∈ kept ++ [q] ∨ p ∈ rest ∧ p.transaction.id ∈ m.transactions := by
          rcases hp with hp | ⟨hp, hm⟩
          · exact .inl (List.mem_append_left _ hp)
          · rcases List.mem_cons.mp hp with rfl | hp
            · exact .inl (List.mem_append_right _ (List.mem_singleton_self _))
            · exact .inr ⟨hp, hm⟩
        rw [if_neg (not_not.mpr h₁)]
        split_ifs
        · exact List.mem_append.mpr (hp.imp id And.left)
        · exact ih _ _ _ _ hnext
        · exact ih _ _ _ _ hnext
      · rw [if_pos h₁]
        refine ih _ _ _ _ (hp.imp id fun ⟨hp, hm⟩ => ⟨?_, hm⟩)
        rcases List.mem_cons.mp hp with rfl | hp
        · exact absurd hm h₁
        · exact hp

theorem nextBatchLoop_sublist (m : Mempool) (maxCount maxSize : Nat) (queue : List PriorityTransaction)
    (batch : List Transaction) (totalSize : Nat) (senders : List Address) (kept : List PriorityTransaction) :
    List.Sublist (m.nextBatchLoop C maxCount maxSize queue batch totalSize senders kept).2 (kept ++ queue) := by
  induction queue generalizing batch totalSize senders kept with
  | nil => simp [nextBatchLoop]
  | cons q rest ih =>
      have hkeep : kept ++ [q] ++ rest = kept ++ q :: rest := by simp
      dsimp only [nextBatchLoop]
      split_ifs
      · exact List.Sublist.refl _
      · exact hkeep ▸ ih _ _ _ _
      · exact hkeep ▸ ih _ _ _ _
      · exact (ih _ _ _ _).trans ((List.sublist_cons_self q rest).append_left kept)

end Effects

structure IndexConsistent (m : Mempool) : Prop where
  hashes : ∀ h, m.txHashes h = true ↔ ∃ txId tx, m.transactions.lookup txId = some tx ∧ tx.hash C = h
  senders : ∀ a, (m.bySender a).isSome = true ↔ ∃ txId tx, m.transactions.lookup txId = some tx ∧ tx.from = a
  senderIds : ∀ a txIds, m.bySender a = some txIds →
    txIds.Nodup ∧ ∀ txId, txId ∈ txIds ↔ ∃ tx, m.transactions.lookup txId = some tx ∧ tx.from = a

def HashInjective (m : Mempool) : Prop :=
  ∀ txId₁ txId₂ tx₁ tx₂, m.transactions.lookup txId₁ = some tx₁ → m.transactions.lookup txId₂ = some tx₂ →
    tx₁.hash C = tx₂.hash C → txId₁ = txId₂

theorem HashInjective.insert {C : Codec} {m m₁ : Mempool} {tx : Transaction} (hi : HashInjective C m)
    (hfresh : ∀ x t, m.transactions.lookup x = some t → t.hash C ≠ tx.hash C)
    (ht : m₁.transactions = m.transactions.insert tx.id tx) : HashInjective C m₁ := by
  intro x₁ x₂ t₁ t₂ h₁ h₂ he
  rw [ht] at h₁ h₂
  rcases lookup_insert_iff.mp h₁ with ⟨rfl, rfl⟩ | ⟨-, h₁⟩ <;>
    rcases lookup_insert_iff.mp h₂ with ⟨rfl, rfl⟩ | ⟨-, h₂⟩
  · rfl
  · exact absurd he.symm (hfresh _ _ h₂)
  · exact absurd he (hfresh _ _ h₁)
  · exact hi x₁ x₂ t₁ t₂ h₁ h₂ he

structure Invariant (m : Mempool) : Prop where
  consistent : IndexConsistent C m
  injective : HashInjective C m

section Preservation

variable {C}

theorem Invariant.removeTransaction {m : Mempool} (hi : Invariant C m) (txId : Uuid) :
    Invariant C (m.removeTransaction C txId).1 := by
  cases hl : m.transactions.lookup txId with
  | none => rw [removeTransaction_of_none hl]; exact hi
  | some tx =>
      obtain ⟨ids, hids⟩ := Option.isSome_iff_exists.mp
        ((hi.consistent.senders tx.from).mpr ⟨txId, tx, hl, rfl⟩)
      obtain ⟨hnd, hmem⟩ := hi.consistent.senderIds tx.from ids hids
      rw [removeTransaction_of_lookup hl hids]
      have hpool : ∀ {β : Type} (f : Transaction → β) (b : β) x,
          (∃ t, (m.transactions.erase txId).lookup x = some t ∧ f t = b) ↔
            x ≠ txId ∧ ∃ t, m.transactions.lookup x = some t ∧ f t = b := by
        intro β f b x
        simp only [lookup_erase_iff]
        exact ⟨fun ⟨t, ⟨hx, hl⟩, hf⟩ => ⟨hx, t, hl, hf⟩, fun ⟨hx, t, hl, hf⟩ => ⟨t, ⟨hx, hl⟩, hf⟩⟩
      have hkeep : ∀ {β : Type} (f : Transaction → β) {b : β}, f tx ≠ b → ∀ x,
          (∃ t, m.transactions.lookup x = some t ∧ f t = b) ↔
            ∃ t, (m.transactions.erase txId).lookup x = some t ∧ f t = b := by
        intro β f b hb x
        rw [hpool]
        refine ⟨fun h => ⟨?_, h⟩, And.right⟩
        rintro rfl
        obtain ⟨t, hlx, rfl⟩ := h
        rw [hl] at hlx
        cases hlx
        exact hb rfl
      have hfilter : ∀ x, x ∈ ids.filter (· != txId) ↔
          ∃ t, (m.transactions.erase txId).lookup x = some t ∧ t.from = tx.from := by
        intro x
        rw [hpool, List.mem_filter, hmem, bne_iff_ne, and_comm]
      refine ⟨⟨fun h => ?_, fun a => ?_, fun a ids' hb => ?_⟩, fun x₁ x₂ t₁ t₂ h₁ h₂ ht => ?_⟩
      · dsimp only
        rw [Function.update_apply]
        split_ifs with hh
        · subst hh
          refine ⟨False.elim, fun ⟨x, hx⟩ => ?_⟩
          obtain ⟨hne, t, hlx, ht⟩ := (hpool _ _ x).mp hx
          exact hne (hi.injective x txId t tx hlx hl ht)
        · rw [hi.consistent.hashes h]
          exact exists_congr (hkeep _ (Ne.symm hh))
      · dsimp only
        rw [Function.update_apply]
        split_ifs with ha hE
        · subst ha
          refine ⟨fun h => absurd h (by simp), fun ⟨x, hx⟩ => ?_⟩
          exact absurd ((hfilter x).mpr hx) (by simp [List.isEmpty_iff.mp hE])
        · subst ha
          obtain ⟨x, hx⟩ := List.exists_mem_of_ne_nil _ (fun h => hE (List.isEmpty_iff.mpr h))
          exact ⟨fun _ => ⟨x, (hfilter x).mp hx⟩, fun _ => rfl⟩
        · rw [hi.consistent.senders a]
          exact exists_congr (hkeep _ (Ne.symm ha))
      · dsimp only at hb ⊢
        rw [Function.update_apply] at hb
        split_ifs at hb with ha
        · subst ha
          cases hb
          exact ⟨hnd.filter _, hfilter⟩
        · obtain ⟨hnd', hmem'⟩ := hi.consistent.senderIds a ids' hb
          exact ⟨hnd', fun x => (hmem' x).trans (hkeep _ (Ne.symm ha) x)⟩
      · exact hi.injective x₁ x₂ t₁ t₂ (lookup_erase_iff.mp h₁).2 (lookup_erase_iff.mp h₂).2 ht

theorem Invariant.congr {m m₁ : Mempool} (hi : Invariant C m) (ht : m₁.transactions = m.transactions)
    (hh : m₁.txHashes = m.txHashes) (hs : m₁.bySender = m.bySender) : Invariant C m₁ := by
  obtain ⟨⟨h₁, h₂, h₃⟩, h₄⟩ := hi
  exact ⟨⟨by rwa [ht, hh], by rwa [ht, hs], by rwa [ht, hs]⟩, by unfold HashInjective; rwa [ht]⟩

theorem Invariant.cleanupLowPriority {m : Mempool} (hi : Invariant C m) : Invariant C (m.cleanupLowPriority C) :=
  cleanupLowPriority_induction (fun _ txId hi => hi.removeTransaction txId) (fun _ _ hi => hi.congr rfl rfl rfl) hi

theorem Invariant.insert {m m₁ : Mempool} {tx : Transaction} (hi : Invariant C m)
    (hfresh : m.transactions.lookup tx.id = none) (hnew : m.txHashes (tx.hash C) = false)
    (ht : m₁.transactions = m.transactions.insert tx.id tx)
    (hh : m₁.txHashes = Function.update m.txHashes (tx.hash C) true)
    (hs : m₁.bySender = Function.update m.bySender tx.from (some ((m.bySender tx.from).getD [] ++ [tx.id]))) :
    Invariant C m₁ := by
  have hpool : ∀ x t, m₁.transactions.lookup x = some t ↔ (x = tx.id ∧ tx = t) ∨ m.transactions.lookup x = some t := by
    intro x t
    rw [ht, lookup_insert_iff]
    refine or_congr_right ⟨And.right, fun h => ⟨?_, h⟩⟩
    rintro rfl
    rw [hfresh] at h
    cases h
  have hold : ∀ x t, m.transactions.lookup x = some t → x ≠ tx.id := by
    rintro x t h rfl
    rw [hfresh] at h
    cases h
  have hother : ∀ {β : Type} (f : Transaction → β) {b : β}, f tx ≠ b → ∀ x,
      (∃ t, m.transactions.lookup x = some t ∧ f t = b) ↔ ∃ t, m₁.transactions.lookup x = some t ∧ f t = b := by
    intro β f b hb x
    simp only [hpool]
    exact ⟨fun ⟨t, hl, he⟩ => ⟨t, .inr hl, he⟩,
      fun ⟨t, hl, he⟩ => hl.elim (fun ⟨_, ht⟩ => absurd (ht ▸ he) hb) fun hl => ⟨t, hl, he⟩⟩
  refine ⟨⟨fun h => ?_, fun a => ?_, fun a ids hb => ?_⟩, fun x₁ x₂ t₁ t₂ h₁ h₂ heq => ?_⟩
  · rw [hh, Function.update_apply]
    split_ifs with hx
    · exact ⟨fun _ => ⟨tx.id, tx, (hpool _ _).2 (.inl ⟨rfl, rfl⟩), hx.symm⟩, fun _ => rfl⟩
    · rw [hi.consistent.hashes h]
      exact exists_congr (hother _ (Ne.symm hx))
  · rw [hs, Function.update_apply]
    split_ifs with ha
    · exact ⟨fun _ => ⟨tx.id, tx, (hpool _ _).2 (.inl ⟨rfl, rfl⟩), ha.symm⟩, fun _ => rfl⟩
    · rw [hi.consistent.senders a]
      exact exists_congr (hother _ (Ne.symm ha))
  · rw [hs, Function.update_apply] at hb
    split_ifs at hb with ha
    · subst ha
      cases hb
      have hprev : ((m.bySender tx.from).getD []).Nodup ∧ ∀ x, x ∈ (m.bySender tx.from).getD [] ↔
          ∃ t, m.transactions.lookup x = some t ∧ t.from = tx.from := by
        cases hbs : m.bySender tx.from with
        | none =>
            refine ⟨List.nodup_nil, fun x => ⟨fun h => absurd h (List.not_mem_nil _), fun ⟨t, hl, he⟩ => ?_⟩⟩
            have hsome := (hi.consistent.senders tx.from).mpr ⟨x, t, hl, he⟩
            rw [hbs] at hsome
            cases hsome
        | some ids => exact hi.consistent.senderIds tx.from ids hbs
      refine ⟨hprev.1.append (List.nodup_singleton _) (List.disjoint_singleton.mpr fun hx => ?_), fun x => ?_⟩
      · obtain ⟨t, hl, -⟩ := (hprev.2 tx.id).mp hx
        exact hold _ _ hl rfl
      · rw [List.mem_append, hprev.2, List.mem_singleton]
        simp only [hpool]
        constructor
        · rintro (⟨t, hl, he⟩ | rfl)
          · exact ⟨t, .inr hl, he⟩
          · exact ⟨tx, .inl ⟨rfl, rfl⟩, rfl⟩
        · rintro ⟨t, ⟨rfl, rfl⟩ | hl, he⟩
          · exact .inr rfl
          · exact .inl ⟨t, hl, he⟩
    · obtain ⟨hnd, hmem⟩ := hi.consistent.senderIds a ids hb
      exact ⟨hnd, fun x => (hmem x).trans (hother _ (Ne.symm ha) x)⟩
  · refine hi.injective.insert (fun x t hl he => ?_) ht x₁ x₂ t₁ t₂ h₁ h₂ heq
    have := (hi.consistent.hashes (tx.hash C)).mpr ⟨x, t, hl, he⟩
    rw [hnew] at this
    cases this

theorem Invariant.addTransaction {m : Mempool} (hi : Invariant C m) {tx : Transaction}
    (hfresh : m.transactions.lookup tx.id = none) : Invariant C (m.addTransaction C tx).1 :=
  addTransaction_induction (fun _ hi => hi.cleanupLowPriority)
    (fun _ _ hnew _ ht hh hs _ => hi.insert hfresh hnew ht hh hs) hi

theorem getNextBatch_indices (m : Mempool) (maxCount maxSize : Nat) :
    (m.getNextBatch C maxCount maxSize).1.transactions = m.transactions ∧
      (m.getNextBatch C maxCount maxSize).1.txHashes = m.txHashes ∧
      (m.getNextBatch C maxCount maxSize).1.bySender = m.bySender := by
  unfold Mempool.getNextBatch
  split
  exact ⟨rfl, rfl, rfl⟩

theorem invariant_new (config : MempoolConfig) : Invariant C (new config) := by
  refine ⟨⟨fun h => ?_, fun a => ?_, fun a ids hb => (nomatch hb)⟩, fun _ _ _ _ h => (nomatch h)⟩
  · simp [new, AList.lookup_empty]
  · simp [new, AList.lookup_empty]

theorem invariant_clear (m : Mempool) : Invariant C m.clear :=
  (@invariant_new C m.config).congr rfl rfl rfl

theorem Invariant.apply {m : Mempool} (hi : Invariant C m) {op : Op} (hop : op.reusesId m = false) :
    Invariant C (m.apply C op) := by
  cases op with
  | addTransaction tx =>
      refine hi.addTransaction (AList.lookup_eq_none.mpr ?_)
      simpa [Op.reusesId, contains] using hop
  | removeTransaction txId => exact hi.removeTransaction txId
  | getNextBatch maxCount maxSize =>
      obtain ⟨ht, hh, hs⟩ := @getNextBatch_indices C m maxCount maxSize
      exact hi.congr ht hh hs
  | clear => exact invariant_clear m

end Preservation

theorem steps_of_freshRun {m : Mempool} {ops : List Op} (h : freshRun C m ops = true) :
    Relation.ReflTransGen (FreshStep C) m (m.run C ops) := by
  induction ops generalizing m with
  | nil => exact .refl
  | cons op ops ih =>
      simp only [freshRun, Bool.and_eq_true, Bool.not_eq_true'] at h
      exact .head ⟨op, h.1, rfl⟩ (ih h.2)

theorem steps_run (m : Mempool) (ops : List Op) :
    Relation.ReflTransGen (fun m m' => ∃ op, m' = m.apply C op) m (m.run C ops) := by
  induction ops generalizing m with
  | nil => exact .refl
  | cons op ops ih => exact .head ⟨op, rfl⟩ (ih (m.apply C op))

theorem index_consistent_of_fresh_run {config : MempoolConfig} {m : Mempool}
    (h : Relation.ReflTransGen (FreshStep C) (new config) m) : IndexConsistent C m := by
  suffices hi : Invariant C m from hi.consistent
  induction h with
  | refl => exact invariant_new config
  | tail _ hs ih =>
      obtain ⟨op, hop, rfl⟩ := hs
      exact ih.apply hop

def freshIdOps : List Op :=
  [.addTransaction (sampleTransfer 1 1), .addTransaction (sampleTransfer 2 1), .removeTransaction 1,
    .getNextBatch 10 1048576, .addTransaction (sampleTransfer 1 3)]

example : IndexConsistent sampleCodec ((new .default).run sampleCodec freshIdOps) :=
  index_consistent_of_fresh_run sampleCodec (steps_of_freshRun sampleCodec (by decide))

def sameIdOps : List Op := [.addTransaction (sampleTransfer 1 1), .addTransaction (sampleTransfer 1 3)]

theorem reused_id_breaks_indices :
    Reachable sampleCodec .default ((new .default).run sampleCodec sameIdOps) ∧
      ¬ IndexConsistent sampleCodec ((new .default).run sampleCodec sameIdOps) ∧
      ((new .default).run sampleCodec sameIdOps).getTransactionsBySender 1 = [sampleTransfer 1 3] := by
  refine ⟨steps_run sampleCodec _ _, fun hc => ?_, by decide⟩
  obtain ⟨x, t, hl, hf⟩ := (hc.senders 1).mp (by decide)
  have hentries : ((new .default).run sampleCodec sameIdOps).transactions.entries = [⟨1, sampleTransfer 1 3⟩] := by
    decide
  have hmem := AList.mem_lookup_iff.mp hl
  rw [hentries, List.mem_singleton, Sigma.mk.inj_iff] at hmem
  rw [eq_of_heq hmem.2] at hf
  cases hf

end Mempool

end BlockchainNode

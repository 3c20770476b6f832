import BlockchainNode.Mempool

namespace BlockchainNode

namespace Mempool

variable {C : Codec}

section Runs

variable {config : MempoolConfig} {P : Mempool → Prop}

theorem Reachable.induction (hnew : P (new config)) (hadd : ∀ m tx, P m → P (m.addTransaction C tx).1)
    (hremove : ∀ m txId, P m → P (m.removeTransaction C txId).1)
    (hbatch : ∀ m maxCount maxSize, P m → P (m.getNextBatch C maxCount maxSize).1) (hclear : ∀ m, P m → P m.clear)
    {m : Mempool} (h : Reachable C config m) : P m := by
  induction h with
  | refl => exact hnew
  | tail _ hs ih =>
      obtain ⟨op, rfl⟩ := hs
      cases op with
      | addTransaction tx => exact hadd _ tx ih
      | removeTransaction txId => exact hremove _ txId ih
      | getNextBatch maxCount maxSize => exact hbatch _ maxCount maxSize ih
      | clear => exact hclear _ ih

theorem addTransaction_config (m : Mempool) (tx : Transaction) : (m.addTransaction C tx).1.config = m.config :=
  @addTransaction_induction C (fun m' => m'.config = m.config) m tx (fun _ h => (cleanupLowPriority_config _).trans h)
    (fun _ _ _ hc _ _ _ _ => hc) rfl

theorem Reachable.config_eq {m : Mempool} (h : Reachable C config m) : m.config = config :=
  @Reachable.induction C config (fun m => m.config = config) rfl (fun m tx h => (addTransaction_config m tx).trans h)
    (fun m txId h => (removeTransaction_config m txId).trans h) (fun _ _ _ h => h) (fun _ h => h) m h

end Runs

structure QueueCovers (m : Mempool) : Prop where
  keyed : ∀ txId tx, m.transactions.lookup txId = some tx → tx.id = txId
  queued : ∀ txId tx, m.transactions.lookup txId = some tx → ∃ p ∈ m.priorityQueue, p.transaction = tx

namespace QueueCovers

variable {m : Mempool}

theorem of_empty (h : m.transactions = ∅) : QueueCovers m :=
  ⟨fun _ _ hl => by simp [h, AList.lookup_empty] at hl, fun _ _ hl => by simp [h, AList.lookup_empty] at hl⟩

theorem mem_of_lookup (hi : QueueCovers m) {txId : Uuid} {tx : Transaction}
    (hl : m.transactions.lookup txId = some tx) : tx.id ∈ m.transactions := by
  rw [hi.keyed txId tx hl, ← AList.lookup_isSome, hl]
  rfl

theorem removeTransaction (hi : QueueCovers m) (txId : Uuid) : QueueCovers (m.removeTransaction C txId).1 where
  keyed x t hl := hi.keyed x t (removeTransaction_lookup_some hl).2
  queued x t hl := by
    rw [removeTransaction_priorityQueue]
    exact hi.queued x t (removeTransaction_lookup_some hl).2

theorem cleanupLowPriority (hi : QueueCovers m) : QueueCovers (m.cleanupLowPriority C) where
  keyed x t hl := hi.keyed x t (cleanupLowPriority_lookup_some hl)
  queued x t hl := by
    have hl₀ := cleanupLowPriority_lookup_some hl
    obtain ⟨p, hp, rfl⟩ := hi.queued x _ hl₀
    refine ⟨p, cleanupLowPriority_keeps hp ?_, rfl⟩
    rw [hi.keyed x _ hl₀, ← AList.lookup_isSome, hl]
    rfl

theorem insert {m₁ : Mempool} {tx : Transaction} (hi : QueueCovers m)
    (ht : m₁.transactions = m.transactions.insert tx.id tx) (hq : ∃ p ∈ m₁.priorityQueue, p.transaction = tx)
    (hsub : ∀ p ∈ m.priorityQueue, p ∈ m₁.priorityQueue) : QueueCovers m₁ where
  keyed x t hl := by
    rw [ht] at hl
    rcases lookup_insert_iff.mp hl with ⟨rfl, rfl⟩ | ⟨-, hl⟩
    · rfl
    · exact hi.keyed x t hl
  queued x t hl := by
    rw [ht] at hl
    rcases lookup_insert_iff.mp hl with ⟨rfl, rfl⟩ | ⟨-, hl⟩
    · exact hq
    · obtain ⟨p, hp, rfl⟩ := hi.queued x t hl
      exact ⟨p, hsub p hp, rfl⟩

theorem addTransaction (hi : QueueCovers m) (tx : Transaction) : QueueCovers (m.addTransaction C tx).1 :=
  addTransaction_induction (fun _ hi => hi.cleanupLowPriority) (fun _ _ _ _ ht _ _ hq => hi.insert ht
    ⟨_, hq ▸ (List.mem_orderedInsert _).mpr (.inl rfl), rfl⟩ fun _ hp => hq ▸ (List.mem_orderedInsert _).mpr (.inr hp)) hi

theorem getNextBatch (hi : QueueCovers m) (maxCount maxSize : Nat) :
    QueueCovers (m.getNextBatch C maxCount maxSize).1 := by
  rw [getNextBatch_fst]
  refine ⟨hi.keyed, fun x t hl => ?_⟩
  obtain ⟨p, hp, rfl⟩ := hi.queued x t hl
  exact ⟨p, nextBatchLoop_keeps m maxCount maxSize _ _ _ _ _ (.inr ⟨hp, hi.mem_of_lookup hl⟩), rfl⟩

end QueueCovers

theorem Reachable.queueCovers {config : MempoolConfig} {m : Mempool} (h : Reachable C config m) : QueueCovers m :=
  h.induction (.of_empty rfl) (fun _ tx hi => hi.addTransaction tx) (fun _ txId hi => hi.removeTransaction txId)
    (fun _ maxCount maxSize hi => hi.getNextBatch maxCount maxSize) (fun _ _ => .of_empty rfl)

theorem pooled_transactions_stay_queued :
    (∀ {config : MempoolConfig} {m : Mempool}, Reachable C config m → ∀ txId tx,
      m.transactions.lookup txId = some tx → ∃ p ∈ m.priorityQueue, p.transaction = tx) ∧
    (∀ (m : Mempool) (maxCount maxSize : Nat) (p : PriorityTransaction), p ∈ m.priorityQueue →
      p.transaction.id ∈ m.transactions → p ∈ (m.getNextBatch C maxCount maxSize).1.priorityQueue) ∧
    (∀ (m : Mempool) (p : PriorityTransaction), p ∈ m.priorityQueue →
      p.transaction.id ∈ (m.cleanupLowPriority C).transactions → p ∈ (m.cleanupLowPriority C).priorityQueue) ∧
    (∀ (m : Mempool) (maxCount maxSize : Nat),
      (m.getNextBatch C maxCount maxSize).1.transactions = m.transactions ∧
      (m.getNextBatch C maxCount maxSize).1.txHashes = m.txHashes ∧
      (m.getNextBatch C maxCount maxSize).1.bySender = m.bySender) :=
  ⟨fun h => h.queueCovers.queued,
    fun m maxCount maxSize _ hp hl => nextBatchLoop_keeps m maxCount maxSize _ _ _ _ _ (.inr ⟨hp, hl⟩),
    fun _ _ hp hl => cleanupLowPriority_keeps hp hl, getNextBatch_indices⟩

structure HashesUnique (C : Codec) (m : Mempool) : Prop where
  tracked : ∀ txId tx, m.transactions.lookup txId = some tx → m.txHashes (tx.hash C) = true
  injective : HashInjective C m

namespace HashesUnique

variable {m : Mempool}

theorem of_empty (h : m.transactions = ∅) : HashesUnique C m :=
  ⟨fun _ _ hl => by simp [h, AList.lookup_empty] at hl, fun _ _ _ _ hl => by simp [h, AList.lookup_empty] at hl⟩

theorem withQueue (hi : HashesUnique C m) (q : List PriorityTransaction) :
    HashesUnique C { m with priorityQueue := q } :=
  ⟨hi.tracked, hi.injective⟩

theorem removeTransaction (hi : HashesUnique C m) (txId : Uuid) :
    HashesUnique C (m.removeTransaction C txId).1 := by
  rcases removeTransaction_cases m txId with ⟨-, h⟩ | ⟨tx, hl, h⟩ <;> rw [h]
  · exact hi
  refine ⟨fun x t hx => ?_, fun x₁ x₂ t₁ t₂ h₁ h₂ he =>
    hi.injective x₁ x₂ t₁ t₂ (lookup_erase_iff.mp h₁).2 (lookup_erase_iff.mp h₂).2 he⟩
  obtain ⟨hne, hx⟩ := lookup_erase_iff.mp hx
  show Function.update m.txHashes (tx.hash C) false (t.hash C) = true
  rw [Function.update_noteq fun he => hne (hi.injective x txId t tx hx hl he)]
  exact hi.tracked x t hx

theorem insert {m₁ : Mempool} {tx : Transaction} (hi : HashesUnique C m) (hnew : m.txHashes (tx.hash C) = false)
    (ht : m₁.transactions = m.transactions.insert tx.id tx)
    (hh : m₁.txHashes = Function.update m.txHashes (tx.hash C) true) : HashesUnique C m₁ := by
  have hold : ∀ x t, m.transactions.lookup x = some t → t.hash C ≠ tx.hash C := by
    intro x t hl he
    have := hi.tracked x t hl
    rw [he, hnew] at this
    cases this
  refine ⟨fun x t hl => ?_, hi.injective.insert hold ht⟩
  rw [hh, Function.update_apply]
  split_ifs with hx
  · rfl
  · rw [ht] at hl
    rcases lookup_insert_iff.mp hl with ⟨-, rfl⟩ | ⟨-, hl⟩
    · exact absurd rfl hx
    · exact hi.tracked x t hl

theorem cleanupLowPriority (hi : HashesUnique C m) : HashesUnique C (m.cleanupLowPriority C) :=
  cleanupLowPriority_induction (fun _ txId hi => hi.removeTransaction txId) (fun _ q hi => hi.withQueue q) hi

theorem addTransaction (hi : HashesUnique C m) (tx : Transaction) : HashesUnique C (m.addTransaction C tx).1 :=
  addTransaction_induction (fun _ hi => hi.cleanupLowPriority) (fun _ _ hnew _ ht hh _ _ => hi.insert hnew ht hh) hi

end HashesUnique

theorem Reachable.hashesUnique {config : MempoolConfig} {m : Mempool} (h : Reachable C config m) :
    HashesUnique C m :=
  h.induction (.of_empty rfl) (fun _ tx hi => hi.addTransaction tx) (fun _ txId hi => hi.removeTransaction txId)
    (fun _ _ _ hi => hi.withQueue _) (fun _ _ => .of_empty rfl)

theorem pooled_hashes_distinct {config : MempoolConfig} {m : Mempool} (h : Reachable C config m) :
    HashInjective C m :=
  h.hashesUnique.injective

theorem reused_id_hashes_distinct :
    Reachable sampleCodec .default ((new .default).run sampleCodec
      [.addTransaction (sampleTransfer 1 1), .addTransaction (sampleTransfer 1 3)]) ∧
    HashInjective sampleCodec ((new .default).run sampleCodec
      [.addTransaction (sampleTransfer 1 1), .addTransaction (sampleTransfer 1 3)]) :=
  ⟨steps_run sampleCodec _ _, pooled_hashes_distinct (steps_run sampleCodec _ _)⟩

def senderCount (m : Mempool) (sender : Address) : Nat :=
  (m.transactions.entries.filter fun e => e.2.from = sender).length

structure SenderLimit (m : Mempool) : Prop where
  listed : ∀ txId tx, m.transactions.lookup txId = some tx → ∃ ids, m.bySender tx.from = some ids ∧ txId ∈ ids
  bounded : ∀ a ids, m.bySender a = some ids → ids.length ≤ max 1 m.config.maxPerAccount

theorem validateTransaction_sender {m : Mempool} {tx : Transaction} (h : m.validateTransaction C tx = true)
    {ids : List Uuid} (hs : m.bySender tx.from = some ids) : ids.length < m.config.maxPerAccount := by
  unfold validateTransaction at h
  split_ifs at h with h₁ h₂ h₃
  simpa [hs] using h₃

namespace SenderLimit

variable {m : Mempool}

theorem of_empty (ht : m.transactions = ∅) (hs : m.bySender = fun _ => none) : SenderLimit m :=
  ⟨fun _ _ hl => by simp [ht, AList.lookup_empty] at hl, fun _ _ hb => by simp [hs] at hb⟩

theorem withQueue (hi : SenderLimit m) (q : List PriorityTransaction) : SenderLimit { m with priorityQueue := q } :=
  ⟨hi.listed, hi.bounded⟩

theorem removeTransaction (hi : SenderLimit m) (txId : Uuid) : SenderLimit (m.removeTransaction C txId).1 := by
  rcases removeTransaction_cases m txId with ⟨-, h⟩ | ⟨tx, -, h⟩ <;> rw [h]
  · exact hi
  constructor
  · intro x t hx
    obtain ⟨hne, hx⟩ := lookup_erase_iff.mp hx
    obtain ⟨ids, hs, hmem⟩ := hi.listed x t hx
    have hkeep : x ∈ ids.filter (· != txId) := List.mem_filter.mpr ⟨hmem, bne_iff_ne.mpr hne⟩
    show ∃ ids', Function.update m.bySender tx.from _ t.from = some ids' ∧ x ∈ ids'
    rw [Function.update_apply]
    split_ifs with hf
    · rw [← hf, hs, Option.some_bind, if_neg (by simpa [List.isEmpty_iff] using List.ne_nil_of_mem hkeep)]
      exact ⟨_, rfl, hkeep⟩
    · exact ⟨ids, hs, hmem⟩
  · intro a ids' hb
    change Function.update m.bySender tx.from _ a = some ids' at hb
    rw [Function.update_apply] at hb
    split_ifs at hb with ha
    · obtain ⟨ids, hs, hf⟩ := Option.bind_eq_some.mp hb
      split_ifs at hf
      cases hf
      exact (List.length_filter_le _ _).trans (hi.bounded _ ids hs)
    · exact hi.bounded a ids' hb

theorem insert {m₁ : Mempool} {tx : Transaction} (hi : SenderLimit m) (hv : m.validateTransaction C tx = true)
    (hc : m₁.config = m.config) (ht : m₁.transactions = m.transactions.insert tx.id tx)
    (hs : m₁.bySender = Function.update m.bySender tx.from (some ((m.bySender tx.from).getD [] ++ [tx.id]))) :
    SenderLimit m₁ := by
  constructor
  · intro x t hl
    rw [ht] at hl
    rw [hs, Function.update_apply]
    rcases lookup_insert_iff.mp hl with ⟨rfl, rfl⟩ | ⟨-, hl⟩
    · exact ⟨_, if_pos rfl, List.mem_append_right _ (List.mem_singleton_self _)⟩
    · obtain ⟨ids, hids, hmem⟩ := hi.listed x t hl
      split_ifs with hf
      · rw [← hf, hids]
        exact ⟨_, rfl, List.mem_append_left _ hmem⟩
      · exact ⟨ids, hids, hmem⟩
  · intro a ids hb
    rw [hs, Function.update_apply] at hb
    rw [hc]
    split_ifs at hb with ha
    · cases hb
      cases hids : m.bySender tx.from with
      | none => simp
      | some ids =>
          have := validateTransaction_sender hv hids
          simp only [Option.getD_some, List.length_append, List.length_singleton]
          omega
    · exact hi.bounded a ids hb

theorem cleanupLowPriority (hi : SenderLimit m) : SenderLimit (m.cleanupLowPriority C) :=
  cleanupLowPriority_induction (fun _ txId hi => hi.removeTransaction txId) (fun _ q hi => hi.withQueue q) hi

theorem addTransaction (hi : SenderLimit m) (tx : Transaction) : SenderLimit (m.addTransaction C tx).1 :=
  addTransaction_induction (fun _ hi => hi.cleanupLowPriority) (fun _ hv _ hc ht _ hs _ => hi.insert hv hc ht hs) hi

theorem senderCount_le (hi : SenderLimit m) (sender : Address) :
    m.senderCount sender ≤ max 1 m.config.maxPerAccount := by
  have hsub : (m.transactions.entries.filter fun e => e.2.from = sender).keys ⊆ (m.bySender sender).getD [] := by
    intro x hx
    obtain ⟨t, ht⟩ := List.mem_keys.mp hx
    obtain ⟨ht, hf⟩ := List.mem_filter.mp ht
    obtain ⟨ids, hs, hmem⟩ := hi.listed x t (AList.mem_lookup_iff.mpr ht)
    rw [← of_decide_eq_true hf, hs]
    exact hmem
  calc m.senderCount sender = (m.transactions.entries.filter fun e => e.2.from = sender).keys.length := by
        simp [senderCount, List.keys]
    _ ≤ ((m.bySender sender).getD []).length :=
        (List.subperm_of_subset (m.transactions.nodupKeys.sublist (List.filter_sublist _)) hsub).length_le
    _ ≤ max 1 m.config.maxPerAccount := by
        cases hb : m.bySender sender with
        | none => simp
        | some ids => exact hi.bounded sender ids hb

end SenderLimit

theorem Reachable.senderLimit {config : MempoolConfig} {m : Mempool} (h : Reachable C config m) : SenderLimit m :=
  h.induction (.of_empty rfl rfl) (fun _ tx hi => hi.addTransaction tx) (fun _ txId hi => hi.removeTransaction txId)
    (fun _ _ _ hi => hi.withQueue _) (fun _ _ => .of_empty rfl rfl)

theorem sender_count_bounded {config : MempoolConfig} {m : Mempool} (h : Reachable C config m) (sender : Address) :
    m.senderCount sender ≤ max 1 config.maxPerAccount :=
  h.config_eq ▸ h.senderLimit.senderCount_le sender

def noSenderLimit : MempoolConfig := { MempoolConfig.default with maxPerAccount := 0 }

example : ((new noSenderLimit).run sampleCodec [.addTransaction (sampleTransfer 1 1)]).senderCount 1 ≤
    max 1 noSenderLimit.maxPerAccount :=
  sender_count_bounded (steps_run sampleCodec _ _) 1

theorem zero_limit_admits_transaction :
    Reachable sampleCodec noSenderLimit ((new noSenderLimit).run sampleCodec [.addTransaction (sampleTransfer 1 1)]) ∧
    noSenderLimit.maxPerAccount <
      ((new noSenderLimit).run sampleCodec [.addTransaction (sampleTransfer 1 1)]).senderCount 1 :=
  ⟨steps_run sampleCodec _ _, by decide⟩

section Capacity

variable {m : Mempool}

@[simp] theorem size_withQueue (m : Mempool) (q : List PriorityTransaction) :
    ({ m with priorityQueue := q } : Mempool).size = m.size := rfl

theorem size_eq_keys_length (m : Mempool) : m.size = m.transactions.keys.length := by
  simp only [size, AList.keys, List.keys, List.length_map]

theorem removeTransaction_mem {txId x : Uuid} :
    x ∈ (m.removeTransaction C txId).1.transactions ↔ x ≠ txId ∧ x ∈ m.transactions := by
  rw [← AList.lookup_isSome, ← AList.lookup_isSome, removeTransaction_lookup]
  split_ifs with hx <;> simp [hx]

theorem removeTransaction_size {txId : Uuid} (hx : txId ∈ m.transactions) :
    (m.removeTransaction C txId).1.size + 1 = m.size := by
  rcases removeTransaction_cases m txId with ⟨hl, -⟩ | ⟨tx, -, h⟩
  · exact absurd (AList.lookup_isSome.mpr hx) (by simp [hl])
  · have hk := AList.mem_keys.mp hx
    rw [h, size_eq_keys_length, size_eq_keys_length]
    show (m.transactions.erase txId).keys.length + 1 = _
    rw [AList.keys_erase, List.length_erase_of_mem hk, Nat.sub_add_cancel (List.length_pos_of_mem hk)]

theorem foldRemove_size (l : List PriorityTransaction) (hd : (l.map (·.transaction.id)).Nodup)
    (hl : ∀ p ∈ l, p.transaction.id ∈ m.transactions) :
    (l.foldl (fun m p => (m.removeTransaction C p.transaction.id).1) m).size + l.length = m.size := by
  induction l generalizing m with
  | nil => rfl
  | cons p l ih =>
      rw [List.map_cons, List.nodup_cons] at hd
      have hrest : ∀ q ∈ l, q.transaction.id ∈ (m.removeTransaction C p.transaction.id).1.transactions :=
        fun q hq => removeTransaction_mem.mpr
          ⟨fun he => hd.1 (he ▸ List.mem_map_of_mem _ hq), hl q (List.mem_cons_of_mem _ hq)⟩
      rw [List.foldl_cons, List.length_cons, ← Nat.add_assoc, ih hd.2 hrest,
        removeTransaction_size (hl p (List.mem_cons_self _ _))]

structure QueueExact (m : Mempool) : Prop where
  covers : QueueCovers m
  distinct : (m.priorityQueue.map (·.transaction.id)).Nodup
  live : ∀ p ∈ m.priorityQueue, p.transaction.id ∈ m.transactions

namespace QueueExact

theorem of_empty (ht : m.transactions = ∅) (hq : m.priorityQueue = []) : QueueExact m :=
  ⟨.of_empty ht, by simp [hq], by simp [hq]⟩

theorem size_le_length (hq : QueueExact m) : m.size ≤ m.priorityQueue.length := by
  rw [size_eq_keys_length, ← m.priorityQueue.length_map (·.transaction.id)]
  refine (List.subperm_of_subset m.transactions.keys_nodup fun x hx => ?_).length_le
  obtain ⟨t, hl⟩ := Option.isSome_iff_exists.mp (AList.lookup_isSome.mpr (AList.mem_keys.mpr hx))
  obtain ⟨p, hp, rfl⟩ := hq.covers.queued x t hl
  exact List.mem_map.mpr ⟨p, hp, hq.covers.keyed x _ hl⟩

theorem cleanupLowPriority_size (hq : QueueExact m) :
    (m.cleanupLowPriority C).size = min m.size (m.config.maxSize * 9 / 10) := by
  rcases cleanupLowPriority_cases m with ⟨hle, h⟩ | ⟨hlt, h⟩ <;> rw [h]
  · exact (min_eq_left hle).symm
  · have hlen := hq.size_le_length
    have hfold := @foldRemove_size C m (m.priorityQueue.take (m.size - m.config.maxSize * 9 / 10))
      (hq.distinct.sublist ((List.take_sublist _ _).map _)) fun p hp => hq.live p (List.mem_of_mem_take hp)
    rw [List.length_take] at hfold
    rw [size_withQueue]
    omega

theorem cleanupLowPriority (hq : QueueExact m) : QueueExact (m.cleanupLowPriority C) := by
  rcases cleanupLowPriority_cases m with ⟨-, h⟩ | ⟨-, h⟩
  · rw [h]; exact hq
  have hcov : QueueCovers (m.cleanupLowPriority C) := hq.covers.cleanupLowPriority
  rw [h] at hcov ⊢
  refine ⟨hcov, hq.distinct.sublist ((List.drop_sublist _ _).map _), fun p hp => ?_⟩
  have hd := hq.distinct
  rw [← List.take_append_drop (m.size - m.config.maxSize * 9 / 10) m.priorityQueue, List.map_append] at hd
  rw [← AList.lookup_isSome, foldRemove_lookup,
    if_neg fun hmem => List.disjoint_of_nodup_append hd hmem (List.mem_map_of_mem _ hp)]
  exact AList.lookup_isSome.mpr (hq.live p (List.mem_of_mem_drop hp))

theorem insert {m₁ : Mempool} {tx : Transaction} (hq : QueueExact m) (hfresh : tx.id ∉ m.transactions)
    (ht : m₁.transactions = m.transactions.insert tx.id tx)
    (hqueue : m₁.priorityQueue = m.priorityQueue.orderedInsert PriorityTransaction.popsBefore
      ⟨tx, calculatePriority tx, wrappingAdd m.insertionCounter 1⟩) : QueueExact m₁ := by
  refine ⟨hq.covers.insert ht ⟨_, hqueue ▸ (List.mem_orderedInsert _).mpr (.inl rfl), rfl⟩
    fun _ hp => hqueue ▸ (List.mem_orderedInsert _).mpr (.inr hp), ?_, fun p hp => ?_⟩
  · rw [hqueue, ((List.perm_orderedInsert _ _ _).map _).nodup_iff, List.map_cons, List.nodup_cons]
    refine ⟨fun hmem => ?_, hq.distinct⟩
    obtain ⟨p, hp, he⟩ := List.mem_map.mp hmem
    exact hfresh (he ▸ hq.live p hp)
  · rw [ht, AList.mem_insert]
    rw [hqueue, List.mem_orderedInsert] at hp
    rcases hp with rfl | hp
    exacts [.inl rfl, .inr (hq.live p hp)]

theorem addTransaction (hq : QueueExact m) {tx : Transaction} (hfresh : tx.id ∉ m.transactions) :
    QueueExact (m.addTransaction C tx).1 :=
  addTransaction_induction (fun _ h => h.cleanupLowPriority) (fun _ _ _ _ ht _ _ hqueue => hq.insert hfresh ht hqueue)
    hq

theorem getNextBatch (hq : QueueExact m) (maxCount maxSize : Nat) :
    QueueExact (m.getNextBatch C maxCount maxSize).1 := by
  have hsub := @nextBatchLoop_sublist C m maxCount maxSize m.priorityQueue [] 0 [] []
  have hcov : QueueCovers (m.getNextBatch C maxCount maxSize).1 := hq.covers.getNextBatch maxCount maxSize
  rw [List.nil_append] at hsub
  rw [getNextBatch_fst] at hcov ⊢
  exact ⟨hcov, hq.distinct.sublist (hsub.map _), fun p hp => hq.live p (hsub.subset hp)⟩

theorem addTransaction_size_le (hq : QueueExact m) (hb : m.size ≤ m.config.maxSize) {tx : Transaction}
    (hfresh : tx.id ∉ m.transactions) : (m.addTransaction C tx).1.size ≤ m.config.maxSize := by
  rcases addTransaction_cases m tx with h | ⟨-, -, -, m₁, hm₁, hc⟩
  · rw [h]; exact hb
  have hq₁ : QueueExact m₁ := hq.insert hfresh (by rw [hm₁]) (by rw [hm₁])
  have hconf : m₁.config = m.config := by rw [hm₁]
  rcases hc with ⟨-, h⟩ | ⟨hfull, h⟩ <;> rw [h]
  · rw [hq₁.cleanupLowPriority_size, hconf]
    omega
  · simp only [isFull, decide_eq_false_iff_not, not_le] at hfull
    exact hconf ▸ hfull.le

end QueueExact

def Op.keepsQueueLive (m : Mempool) : Op → Bool
  | .addTransaction tx => !m.contains tx.id
  | .removeTransaction _ => false
  | _ => true

def LiveStep (C : Codec) (m m' : Mempool) : Prop := ∃ op, op.keepsQueueLive m = true ∧ m' = m.apply C op

theorem LiveStep.preserves {m m' : Mempool} (hs : LiveStep C m m') (hq : QueueExact m)
    (hb : m.size ≤ m.config.maxSize) : QueueExact m' ∧ m'.size ≤ m'.config.maxSize ∧ m'.config = m.config := by
  obtain ⟨op, hop, rfl⟩ := hs
  cases op with
  | addTransaction tx =>
      have hfresh : tx.id ∉ m.transactions := by simpa [Op.keepsQueueLive, contains] using hop
      exact ⟨hq.addTransaction hfresh, (addTransaction_config m tx).symm ▸ hq.addTransaction_size_le hb hfresh,
        addTransaction_config m tx⟩
  | removeTransaction => cases hop
  | getNextBatch maxCount maxSize => exact ⟨hq.getNextBatch maxCount maxSize, hb, rfl⟩
  | clear => exact ⟨.of_empty rfl rfl, Nat.zero_le _, rfl⟩

theorem liveRun_invariant {config : MempoolConfig} {m : Mempool}
    (h : Relation.ReflTransGen (LiveStep C) (new config) m) :
    QueueExact m ∧ m.size ≤ m.config.maxSize ∧ m.config = config := by
  induction h with
  | refl => exact ⟨.of_empty rfl rfl, Nat.zero_le _, rfl⟩
  | tail _ hs ih =>
      obtain ⟨hq, hb, hc⟩ := hs.preserves ih.1 ih.2.1
      exact ⟨hq, hb, hc.trans ih.2.2⟩

theorem liveRun_reachable {config : MempoolConfig} {m : Mempool}
    (h : Relation.ReflTransGen (LiveStep C) (new config) m) : Reachable C config m :=
  h.mono fun _ _ ⟨op, _, he⟩ => ⟨op, he⟩

theorem size_bounded_on_live_runs {config : MempoolConfig} {m : Mempool}
    (h : Relation.ReflTransGen (LiveStep C) (new config) m) : m.size ≤ config.maxSize := by
  obtain ⟨-, hb, hc⟩ := liveRun_invariant h
  exact hc ▸ hb

end Capacity

def smallPool : MempoolConfig := { MempoolConfig.default with maxSize := 2 }

def staleTopOps : List Op :=
  [.addTransaction (sampleTransfer 1 1), .removeTransaction 1, .addTransaction (sampleTransfer 2 2),
    .removeTransaction 2, .addTransaction (sampleTransfer 3 3), .removeTransaction 3,
    .addTransaction (sampleTransfer 4 4), .addTransaction (sampleTransfer 5 5), .addTransaction (sampleTransfer 6 6)]

theorem cleanup_counts_stale_entries :
    Reachable sampleCodec smallPool ((new smallPool).run sampleCodec staleTopOps) ∧
    smallPool.maxSize < ((new smallPool).run sampleCodec staleTopOps).size :=
  ⟨steps_run sampleCodec _ _, by decide⟩

end Mempool

end BlockchainNode

import BlockchainNode.MempoolInvariants
import Mathlib.Algebra.BigOperators.Group.List

namespace BlockchainNode

instance : IsTotal PriorityTransaction PriorityTransaction.popsBefore :=
  ⟨fun a b => by unfold PriorityTransaction.popsBefore; omega⟩

instance : IsTrans PriorityTransaction PriorityTransaction.popsBefore :=
  ⟨fun a b c h₁ h₂ => by unfold PriorityTransaction.popsBefore at *; omega⟩

namespace Mempool

variable {C : Codec}

structure QueueOrdered (m : Mempool) : Prop where
  sorted : m.priorityQueue.Sorted PriorityTransaction.popsBefore
  scored : ∀ p ∈ m.priorityQueue, p.priorityScore = p.transaction.fee

namespace QueueOrdered

variable {m : Mempool}

theorem of_empty (h : m.priorityQueue = []) : QueueOrdered m :=
  ⟨by rw [h]; exact List.sorted_nil, by simp [h]⟩

theorem sublist {m₁ : Mempool} (ho : QueueOrdered m) (h : List.Sublist m₁.priorityQueue m.priorityQueue) :
    QueueOrdered m₁ :=
  ⟨ho.sorted.sublist h, fun p hp => ho.scored p (h.subset hp)⟩

theorem cleanupLowPriority (ho : QueueOrdered m) : QueueOrdered (m.cleanupLowPriority C) := by
  rcases cleanupLowPriority_cases m with ⟨-, h⟩ | ⟨-, h⟩
  · rw [h]; exact ho
  · exact ho.sublist (by rw [h]; exact List.drop_sublist _ _)

theorem addTransaction (ho : QueueOrdered m) (tx : Transaction) : QueueOrdered (m.addTransaction C tx).1 :=
  addTransaction_induction (fun _ h => h.cleanupLowPriority) (fun _ _ _ _ _ _ _ hq => by
    refine ⟨hq ▸ ho.sorted.orderedInsert _ _, fun p hp => ?_⟩
    rw [hq] at hp
    rcases (List.mem_orderedInsert _).mp hp with rfl | hp
    exacts [rfl, ho.scored p hp]) ho

theorem getNextBatch (ho : QueueOrdered m) (maxCount maxSize : Nat) :
    QueueOrdered (m.getNextBatch C maxCount maxSize).1 := by
  refine ho.sublist ?_
  rw [getNextBatch_fst]
  simpa using nextBatchLoop_sublist m maxCount maxSize m.priorityQueue [] 0 [] []

end QueueOrdered

theorem Reachable.queueOrdered {config : MempoolConfig} {m : Mempool} (h : Reachable C config m) :
    QueueOrdered m :=
  h.induction (.of_empty rfl) (fun _ tx ho => ho.addTransaction tx)
    (fun _ txId ho => ho.sublist (by rw [removeTransaction_priorityQueue]))
    (fun _ maxCount maxSize ho => ho.getNextBatch maxCount maxSize) (fun _ _ => .of_empty rfl)

theorem QueueExact.entry_eq {m : Mempool} (hq : QueueExact m) {p : PriorityTransaction} {tx : Transaction}
    (hp : p ∈ m.priorityQueue) (hl : m.transactions.lookup p.transaction.id = some tx) : p.transaction = tx := by
  obtain ⟨p', hp', rfl⟩ := hq.covers.queued _ _ hl
  have hid : p'.transaction.id = p.transaction.id := hq.covers.keyed _ _ hl
  rw [List.inj_on_of_nodup_map hq.distinct hp' hp hid]

theorem cleanup_removes_top {m : Mempool} (hq : QueueExact m) (ho : QueueOrdered m) {r t : Transaction}
    (hr : m.transactions.lookup r.id = some r) (hgone : (m.cleanupLowPriority C).transactions.lookup r.id = none)
    (ht : (m.cleanupLowPriority C).transactions.lookup t.id = some t) : t.fee ≤ r.fee := by
  rcases cleanupLowPriority_cases m with ⟨-, h⟩ | ⟨-, h⟩ <;> rw [h] at hgone ht
  · rw [hr] at hgone
    cases hgone
  set k := m.size - m.config.maxSize * 9 / 10
  rw [foldRemove_lookup] at hgone ht
  have hrk : r.id ∈ (m.priorityQueue.take k).map (·.transaction.id) := by
    by_contra hrk
    rw [if_neg hrk, hr] at hgone
    cases hgone
  have htk : t.id ∉ (m.priorityQueue.take k).map (·.transaction.id) := by
    intro htk
    rw [if_pos htk] at ht
    cases ht
  rw [if_neg htk] at ht
  obtain ⟨p, hp, hpr⟩ := List.mem_map.mp hrk
  obtain ⟨p', hp', rfl⟩ := hq.covers.queued _ _ ht
  have hsplit : ∀ a ∈ m.priorityQueue.take k, ∀ b ∈ m.priorityQueue.drop k, a.popsBefore b :=
    (List.pairwise_append.mp ((List.take_append_drop k m.priorityQueue).symm ▸ ho.sorted)).2.2
  have hp'drop : p' ∈ m.priorityQueue.drop k := by
    have hmem := hp'
    rw [← List.take_append_drop k m.priorityQueue, List.mem_append] at hmem
    exact hmem.resolve_left fun hk => htk (List.mem_map_of_mem _ hk)
  have hpr' : p.transaction = r := hq.entry_eq (List.mem_of_mem_take hp) (hpr ▸ hr)
  have hbefore := hsplit p hp p' hp'drop
  unfold PriorityTransaction.popsBefore at hbefore
  rw [ho.scored p (List.mem_of_mem_take hp), ho.scored p' (List.mem_of_mem_drop hp'drop), hpr'] at hbefore
  omega

def highFeeTransfer : Transaction := { sampleTransfer 2 2 with fee := 20 }

theorem cleanup_evicts_highest_fee :
    Reachable sampleCodec smallPool ((new smallPool).run sampleCodec [.addTransaction (sampleTransfer 1 1)]) ∧
    (((new smallPool).run sampleCodec [.addTransaction (sampleTransfer 1 1)]).addTransaction sampleCodec
      highFeeTransfer).2 = true ∧
    (((new smallPool).run sampleCodec [.addTransaction (sampleTransfer 1 1)]).addTransaction sampleCodec
      highFeeTransfer).1.transactions.lookup highFeeTransfer.id = none ∧
    (((new smallPool).run sampleCodec [.addTransaction (sampleTransfer 1 1)]).addTransaction sampleCodec
      highFeeTransfer).1.transactions.lookup 1 = some (sampleTransfer 1 1) ∧
    (sampleTransfer 1 1).fee < highFeeTransfer.fee :=
  ⟨steps_run sampleCodec _ _, by decide, by decide, by decide, by decide⟩

structure BatchBounded (C : Codec) (maxCount maxSize : Nat) (batch : List Transaction) : Prop where
  senders : (batch.map (·.from)).Nodup
  count : batch.length ≤ maxCount
  bytes : (batch.map C.serializedSize).sum ≤ maxSize

theorem nextBatchLoop_spec (m : Mempool) (maxCount maxSize : Nat) :
    ∀ (queue : List PriorityTransaction) (batch : List Transaction) (totalSize : Nat) (senders : List Address)
      (kept : List PriorityTransaction), (∀ a, a ∈ senders ↔ a ∈ batch.map (·.from)) →
      totalSize = (batch.map C.serializedSize).sum → BatchBounded C maxCount maxSize batch →
      ∃ l, List.Sublist l queue ∧ (∀ p ∈ l, p.transaction.id ∈ m.transactions) ∧
        (m.nextBatchLoop C maxCount maxSize queue batch totalSize senders kept).1 = batch ++ l.map (·.transaction) ∧
        BatchBounded C maxCount maxSize (m.nextBatchLoop C maxCount maxSize queue batch totalSize senders kept).1
  | [], batch, _, _, _, _, _, hb => ⟨[], List.Sublist.slnil, by simp, by simp [nextBatchLoop], hb⟩
  | q :: rest, batch, totalSize, senders, kept, hs, ht, hb => by
      dsimp only [nextBatchLoop]
      split_ifs with h₁ h₂ h₃
      · exact ⟨[], List.nil_sublist _, by simp, by simp, hb⟩
      · have hnew : q.transaction.from ∉ batch.map (·.from) := by
          simpa [isValidNonceOrder, hs] using h₃
        obtain ⟨l, hl, hlive, heq, hb'⟩ := nextBatchLoop_spec m maxCount maxSize rest (batch ++ [q.transaction])
          (totalSize + C.serializedSize q.transaction) (q.transaction.from :: senders) (kept ++ [q])
          (fun a => by simp [hs, or_comm]) (by simp [ht, List.sum_append])
          ⟨by
            rw [List.map_append, List.map_singleton]
            exact List.nodup_append.mpr ⟨hb.senders, List.nodup_singleton _, List.disjoint_singleton.mpr hnew⟩,
            by simp; omega, by simp [List.sum_append]; omega⟩
        refine ⟨q :: l, hl.cons₂ q, List.forall_mem_cons.mpr ⟨h₁, hlive⟩, by simp [heq], hb'⟩
      · obtain ⟨l, hl, hlive, heq, hb'⟩ := nextBatchLoop_spec m maxCount maxSize rest batch totalSize senders
          (kept ++ [q]) hs ht hb
        exact ⟨l, hl.cons q, hlive, heq, hb'⟩
      · obtain ⟨l, hl, hlive, heq, hb'⟩ := nextBatchLoop_spec m maxCount maxSize rest batch totalSize senders kept
          hs ht hb
        exact ⟨l, hl.cons q, hlive, heq, hb'⟩

theorem getNextBatch_spec (m : Mempool) (maxCount maxSize : Nat) :
    ∃ l, List.Sublist l m.priorityQueue ∧ (∀ p ∈ l, p.transaction.id ∈ m.transactions) ∧
      (m.getNextBatch C maxCount maxSize).2 = l.map (·.transaction) ∧
      BatchBounded C maxCount maxSize (m.getNextBatch C maxCount maxSize).2 := by
  simpa using nextBatchLoop_spec m maxCount maxSize m.priorityQueue [] 0 [] [] (by simp) rfl
    ⟨List.nodup_nil, Nat.zero_le _, Nat.zero_le _⟩

theorem getNextBatch_ordered {m : Mempool} (hq : QueueExact m) (ho : QueueOrdered m) (maxCount maxSize : Nat) :
    (∀ tx ∈ (m.getNextBatch C maxCount maxSize).2, m.getTransaction tx.id = some tx) ∧
    ((m.getNextBatch C maxCount maxSize).2.map (·.id)).Nodup ∧
    BatchBounded C maxCount maxSize (m.getNextBatch C maxCount maxSize).2 ∧
    ∃ l, List.Sublist l m.priorityQueue ∧ l.map (·.transaction) = (m.getNextBatch C maxCount maxSize).2 ∧
      l.Pairwise PriorityTransaction.popsBefore ∧ ∀ p ∈ l, p.priorityScore = p.transaction.fee := by
  obtain ⟨l, hl, hlive, heq, hb⟩ := @getNextBatch_spec C m maxCount maxSize
  refine ⟨fun tx htx => ?_, ?_, hb, l, hl, heq.symm, ho.sorted.sublist hl, fun p hp => ho.scored p (hl.subset hp)⟩
  · rw [heq] at htx
    obtain ⟨p, hp, rfl⟩ := List.mem_map.mp htx
    obtain ⟨t, ht⟩ := Option.isSome_iff_exists.mp (AList.lookup_isSome.mpr (hlive p hp))
    rw [getTransaction, ht, hq.entry_eq (hl.subset hp) ht]
  · rw [heq, List.map_map]
    exact hq.distinct.sublist (hl.map _)

theorem live_run_batches_match_pool {config : MempoolConfig} {m : Mempool}
    (h : Relation.ReflTransGen (LiveStep C) (new config) m) (maxCount maxSize : Nat) :
    (∀ tx ∈ (m.getNextBatch C maxCount maxSize).2, m.getTransaction tx.id = some tx) ∧
    ((m.getNextBatch C maxCount maxSize).2.map (·.id)).Nodup ∧
    BatchBounded C maxCount maxSize (m.getNextBatch C maxCount maxSize).2 ∧
    ∃ l, List.Sublist l m.priorityQueue ∧ l.map (·.transaction) = (m.getNextBatch C maxCount maxSize).2 ∧
      l.Pairwise PriorityTransaction.popsBefore ∧ ∀ p ∈ l, p.priorityScore = p.transaction.fee :=
  getNextBatch_ordered (liveRun_invariant h).1 (liveRun_reachable h).queueOrdered maxCount maxSize

def reusedIdTransfer : Transaction := { sampleTransfer 1 2 with fee := 5 }

def reusedIdOps : List Op :=
  [.addTransaction (sampleTransfer 1 1), .removeTransaction 1, .addTransaction reusedIdTransfer]

theorem batch_serves_stale_entry :
    Reachable sampleCodec .default ((new .default).run sampleCodec reusedIdOps) ∧
    (((new .default).run sampleCodec reusedIdOps).getNextBatch sampleCodec 10 10000).2 =
      [sampleTransfer 1 1, reusedIdTransfer] ∧
    ((new .default).run sampleCodec reusedIdOps).getTransaction 1 = some reusedIdTransfer :=
  ⟨steps_run sampleCodec _ _, by decide, by decide⟩

end Mempool

end BlockchainNode

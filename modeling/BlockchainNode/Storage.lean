import BlockchainNode.Types

namespace BlockchainNode

structure Storage where
  blocks : BlockHeight → Option Block
  blockHashIndex : Hash → Option BlockHeight
  transactions : Uuid → Option Transaction
  transactionHashIndex : Hash → Option Uuid
  latestHeight : Option BlockHeight

variable (C : Codec)

namespace Storage

def empty : Storage where
  blocks := fun _ => none
  blockHashIndex := fun _ => none
  transactions := fun _ => none
  transactionHashIndex := fun _ => none
  latestHeight := none

def putBlock (s : Storage) (block : Block) : Storage :=
  { s with
    blocks := Function.update s.blocks block.header.height (some block)
    blockHashIndex := Function.update s.blockHashIndex (block.hash C) (some block.header.height) }

def putTransaction (s : Storage) (tx : Transaction) : Storage :=
  { s with
    transactions := Function.update s.transactions tx.id (some tx)
    transactionHashIndex := Function.update s.transactionHashIndex (tx.hash C) (some tx.id) }

def storeBlock (s : Storage) (block : Block) : Storage :=
  let s := s.putBlock C block
  let s := block.transactions.foldl (putTransaction C) s
  { s with latestHeight := some block.header.height }

def getLatestHeight (s : Storage) : Option BlockHeight := s.latestHeight

def getBlock (s : Storage) (height : BlockHeight) : Option Block := s.blocks height

def getBlockByHash (s : Storage) (hash : Hash) : Option Block := (s.blockHashIndex hash).bind s.blocks

def getTransaction (s : Storage) (txId : Uuid) : Option Transaction := s.transactions txId

def getTransactionByHash (s : Storage) (hash : Hash) : Option Transaction :=
  (s.transactionHashIndex hash).bind s.transactions

def deleteBlock (s : Storage) (height : BlockHeight) : Storage :=
  let s := match s.getBlock height with
    | some block => { s with blockHashIndex := Function.update s.blockHashIndex (block.hash C) none }
    | none => s
  { s with blocks := Function.update s.blocks height none }

def deleteTransaction (s : Storage) (txId : Uuid) : Storage :=
  let s := match s.getTransaction txId with
    | some tx => { s with transactionHashIndex := Function.update s.transactionHashIndex (tx.hash C) none }
    | none => s
  { s with transactions := Function.update s.transactions txId none }

theorem foldl_putTransaction_blocks (txs : List Transaction) (s : Storage) :
    (txs.foldl (putTransaction C) s).blocks = s.blocks := by
  induction txs generalizing s with
  | nil => rfl
  | cons tx txs ih => exact ih _

@[simp] theorem storeBlock_latestHeight (s : Storage) (block : Block) :
    (s.storeBlock C block).getLatestHeight = some block.header.height := rfl

theorem storeBlock_getBlock (s : Storage) (block : Block) (height : BlockHeight) :
    (s.storeBlock C block).getBlock height =
      if height = block.header.height then some block else s.getBlock height := by
  simp only [storeBlock, getBlock, foldl_putTransaction_blocks, putBlock, Function.update_apply]

theorem deleteBlock_cases (s : Storage) (height : BlockHeight) :
    s.blocks height = none ∧ s.deleteBlock C height = { s with blocks := Function.update s.blocks height none } ∨
      ∃ block, s.blocks height = some block ∧ s.deleteBlock C height = { s with
        blocks := Function.update s.blocks height none
        blockHashIndex := Function.update s.blockHashIndex (block.hash C) none } := by
  unfold deleteBlock getBlock
  split
  · next block hb => exact .inr ⟨block, hb, rfl⟩
  · next hb => exact .inl ⟨hb, rfl⟩

theorem deleteTransaction_cases (s : Storage) (txId : Uuid) :
    s.transactions txId = none ∧
        s.deleteTransaction C txId = { s with transactions := Function.update s.transactions txId none } ∨
      ∃ tx, s.transactions txId = some tx ∧ s.deleteTransaction C txId = { s with
        transactions := Function.update s.transactions txId none
        transactionHashIndex := Function.update s.transactionHashIndex (tx.hash C) none } := by
  unfold deleteTransaction getTransaction
  split
  · next tx ht => exact .inr ⟨tx, ht, rfl⟩
  · next ht => exact .inl ⟨ht, rfl⟩

section HashIndex

variable {κ ρ : Type} (hash : ρ → Hash)

def IndexSound (records : κ → Option ρ) (index : Hash → Option κ) : Prop :=
  ∀ h k, index h = some k → ∃ r, records k = some r ∧ hash r = h

variable {hash} {records : κ → Option ρ} {index : Hash → Option κ}

theorem IndexSound.lookup (hs : IndexSound hash records index) (h : Hash) :
    (index h).bind records = none ∨ ∃ r, (index h).bind records = some r ∧ hash r = h := by
  cases hi : index h with
  | none => exact .inl rfl
  | some k =>
      obtain ⟨r, hr, rfl⟩ := hs h k hi
      exact .inr ⟨r, hr, rfl⟩

variable [DecidableEq κ]

theorem IndexSound.put (hs : IndexSound hash records index) {k : κ} {r : ρ}
    (hkeep : ∀ r', records k = some r' → hash r' = hash r) :
    IndexSound hash (Function.update records k (some r)) (Function.update index (hash r) (some k)) := by
  intro h k' hk'
  rw [Function.update_apply] at hk'
  split_ifs at hk' with hh
  · cases hk'
    exact ⟨r, Function.update_same _ _ _, hh.symm⟩
  · obtain ⟨r', hr', rfl⟩ := hs h k' hk'
    by_cases hkk : k' = k
    · subst hkk
      exact absurd (hkeep r' hr') hh
    · exact ⟨r', by rw [Function.update_noteq hkk, hr'], rfl⟩

theorem IndexSound.delete_some (hs : IndexSound hash records index) {k : κ} {r : ρ} (hk : records k = some r) :
    IndexSound hash (Function.update records k none) (Function.update index (hash r) none) := by
  intro h k' hk'
  rw [Function.update_apply] at hk'
  split_ifs at hk' with hh
  obtain ⟨r', hr', rfl⟩ := hs h k' hk'
  refine ⟨r', ?_, rfl⟩
  rw [Function.update_noteq]
  · exact hr'
  · rintro rfl
    rw [hk] at hr'
    cases hr'
    exact hh rfl

theorem IndexSound.delete_none (hs : IndexSound hash records index) {k : κ} (hk : records k = none) :
    IndexSound hash (Function.update records k none) index := by
  rwa [← hk, Function.update_eq_self]

end HashIndex

inductive StoreOp where
  | putBlock (block : Block)
  | deleteBlock (height : BlockHeight)
  | putTransaction (tx : Transaction)
  | deleteTransaction (txId : Uuid)

def apply (s : Storage) : StoreOp → Storage
  | .putBlock block => s.putBlock C block
  | .deleteBlock height => s.deleteBlock C height
  | .putTransaction tx => s.putTransaction C tx
  | .deleteTransaction txId => s.deleteTransaction C txId

def run (s : Storage) (ops : List StoreOp) : Storage := ops.foldl (apply C) s

def StoreOp.rehashes (s : Storage) : StoreOp → Bool
  | .putBlock block => match s.blocks block.header.height with
    | some stored => stored.hash C != block.hash C
    | none => false
  | .putTransaction tx => match s.transactions tx.id with
    | some stored => stored.hash C != tx.hash C
    | none => false
  | _ => false

def KeepsHashStep (s s' : Storage) : Prop := ∃ op, op.rehashes C s = false ∧ s' = s.apply C op

def keepsHashes (s : Storage) : List StoreOp → Bool
  | [] => true
  | op :: ops => !op.rehashes C s && keepsHashes (s.apply C op) ops

theorem steps_of_keepsHashes {s : Storage} {ops : List StoreOp} (h : keepsHashes C s ops = true) :
    Relation.ReflTransGen (KeepsHashStep C) s (s.run C ops) := by
  induction ops generalizing s with
  | nil => exact .refl
  | cons op ops ih =>
      simp only [keepsHashes, Bool.and_eq_true, Bool.not_eq_true'] at h
      exact .head ⟨op, h.1, rfl⟩ (ih h.2)

structure IndexesSound (s : Storage) : Prop where
  blocks : IndexSound (Block.hash C) s.blocks s.blockHashIndex
  transactions : IndexSound (Transaction.hash C) s.transactions s.transactionHashIndex

theorem indexesSound_empty : IndexesSound C empty :=
  ⟨fun _ _ h => (nomatch h), fun _ _ h => (nomatch h)⟩

theorem IndexesSound.apply {s : Storage} (hs : IndexesSound C s) {op : StoreOp} (hop : op.rehashes C s = false) :
    IndexesSound C (s.apply C op) := by
  cases op with
  | putBlock block =>
      refine ⟨hs.blocks.put fun b hb => ?_, hs.transactions⟩
      simpa [StoreOp.rehashes, hb] using hop
  | deleteBlock height =>
      show IndexesSound C (s.deleteBlock C height)
      rcases deleteBlock_cases C s height with ⟨hb, h⟩ | ⟨b, hb, h⟩ <;> rw [h]
      · exact ⟨hs.blocks.delete_none hb, hs.transactions⟩
      · exact ⟨hs.blocks.delete_some hb, hs.transactions⟩
  | putTransaction tx =>
      refine ⟨hs.blocks, hs.transactions.put fun t ht => ?_⟩
      simpa [StoreOp.rehashes, ht] using hop
  | deleteTransaction txId =>
      show IndexesSound C (s.deleteTransaction C txId)
      rcases deleteTransaction_cases C s txId with ⟨ht, h⟩ | ⟨t, ht, h⟩ <;> rw [h]
      · exact ⟨hs.blocks, hs.transactions.delete_none ht⟩
      · exact ⟨hs.blocks, hs.transactions.delete_some ht⟩

theorem hash_lookups_sound {s : Storage} (h : Relation.ReflTransGen (KeepsHashStep C) empty s) (hash : Hash) :
    (s.getBlockByHash hash = none ∨ ∃ b, s.getBlockByHash hash = some b ∧ b.hash C = hash) ∧
    (s.getTransactionByHash hash = none ∨ ∃ t, s.getTransactionByHash hash = some t ∧ t.hash C = hash) := by
  suffices hs : IndexesSound C s from ⟨hs.blocks.lookup hash, hs.transactions.lookup hash⟩
  induction h with
  | refl => exact indexesSound_empty C
  | tail _ hst ih =>
      obtain ⟨op, hop, rfl⟩ := hst
      exact ih.apply C hop

def reuseDeletedHeight : List StoreOp :=
  [.putBlock (sampleBlock "a" 1 1), .putTransaction (sampleTransfer 1 1), .deleteBlock 1,
    .putBlock (sampleBlock "a" 1 2), .deleteTransaction 1, .putTransaction (sampleTransfer 1 3)]

example :
    ((empty.run sampleCodec reuseDeletedHeight).getBlockByHash 1 = none ∨
        ∃ b, (empty.run sampleCodec reuseDeletedHeight).getBlockByHash 1 = some b ∧ b.hash sampleCodec = 1) ∧
      ((empty.run sampleCodec reuseDeletedHeight).getTransactionByHash 1 = none ∨
        ∃ t, (empty.run sampleCodec reuseDeletedHeight).getTransactionByHash 1 = some t ∧ t.hash sampleCodec = 1) :=
  hash_lookups_sound sampleCodec (steps_of_keepsHashes sampleCodec (by decide)) 1

def rewriteKeys : List StoreOp :=
  [.putBlock (sampleBlock "a" 1 1), .putBlock (sampleBlock "a" 1 2),
    .putTransaction (sampleTransfer 1 1), .putTransaction (sampleTransfer 1 3)]

theorem stale_hash_index_after_rewrite :
    (empty.run sampleCodec rewriteKeys).getBlockByHash 1 = some (sampleBlock "a" 1 2) ∧
      (sampleBlock "a" 1 2).hash sampleCodec ≠ 1 ∧
    (empty.run sampleCodec rewriteKeys).getTransactionByHash ((sampleTransfer 1 1).hash sampleCodec) =
        some (sampleTransfer 1 3) ∧
      (sampleTransfer 1 3).hash sampleCodec ≠ (sampleTransfer 1 1).hash sampleCodec := by
  decide

end Storage

end BlockchainNode

import BlockchainNode.ColumnStorage

namespace BlockchainNode

structure Codec.HashesFit (C : Codec) : Prop where
  block : ∀ b : Block, b.hash C < 256 ^ 32
  transaction : ∀ tx : Transaction, tx.hash C < 256 ^ 32

def Codec.truncate (C : Codec) : Codec :=
  { C with
    sha256Block := fun b => C.sha256Block b % 256 ^ 32
    sha256Transaction := fun tx => C.sha256Transaction tx % 256 ^ 32 }

theorem Codec.truncate_hashesFit (C : Codec) : C.truncate.HashesFit :=
  ⟨fun _ => Nat.mod_lt _ (by norm_num), fun _ => Nat.mod_lt _ (by norm_num)⟩

structure KeyLayout (κ ρ V : Type) where
  recordKey : κ → List Nat
  indexKey : Hash → List Nat
  record : ρ → V
  pointer : List Nat → V
  dom : κ → Prop
  recordKey_inj : ∀ a b, dom a → dom b → recordKey a = recordKey b → a = b
  indexKey_inj : ∀ a b, a < 256 ^ 32 → b < 256 ^ 32 → indexKey a = indexKey b → a = b
  recordKey_ne : ∀ k h, recordKey k ≠ indexKey h

namespace KeyLayout

variable {κ ρ V : Type}

structure Mirrors (L : KeyLayout κ ρ V) (cf : ColumnFamily V) (records : κ → Option ρ) (index : Hash → Option κ) :
    Prop where
  getRecord : ∀ k, L.dom k → cf.getCf (L.recordKey k) = (records k).map L.record
  getIndex : ∀ h < 256 ^ 32, cf.getCf (L.indexKey h) = (index h).map fun k => L.pointer (L.recordKey k)
  recorded : ∀ k, records k ≠ none → L.dom k
  indexed : ∀ h k, index h = some k → L.dom k
  keys : ∀ e ∈ cf.entries, (∃ k, L.dom k ∧ e.1 = L.recordKey k) ∨ ∃ h, e.1 = L.indexKey h

variable {L : KeyLayout κ ρ V} {cf cf' : ColumnFamily V} {records : κ → Option ρ} {index : Hash → Option κ}

theorem mirrors_empty : L.Mirrors .empty (fun _ => none) (fun _ => none) :=
  ⟨fun _ _ => rfl, fun _ _ => rfl, fun _ h => absurd rfl h, fun _ _ h => (nomatch h), fun _ h => (nomatch h)⟩

namespace Mirrors

variable (hm : L.Mirrors cf records index)
include hm

theorem getCf_recordKey (hinj : ∀ a b, L.recordKey a = L.recordKey b → a = b) (k : κ) :
    cf.getCf (L.recordKey k) = (records k).map L.record := by
  by_cases hk : L.dom k
  · exact hm.getRecord k hk
  · rw [show records k = none from by_contra fun h => hk (hm.recorded k h)]
    refine Option.eq_none_iff_forall_not_mem.mpr fun v hv => ?_
    rcases hm.keys _ (ColumnFamily.getCf_eq_some.mp hv) with ⟨k', hk', he⟩ | ⟨h, he⟩
    · exact hk (hinj k k' he ▸ hk')
    · exact L.recordKey_ne k h he

theorem updateIndex (h : Hash) (hh : h < 256 ^ 32) (v : Option κ) (hv : ∀ k, v = some k → L.dom k)
    (hget : ∀ key, cf'.getCf key =
      if key = L.indexKey h then v.map (fun k => L.pointer (L.recordKey k)) else cf.getCf key)
    (hkeys : ∀ e ∈ cf'.entries, e ∈ cf.entries ∨ e.1 = L.indexKey h) :
    L.Mirrors cf' records (Function.update index h v) := by
  refine ⟨fun k hk => ?_, fun h' hh' => ?_, hm.recorded, fun h' k hi => ?_, fun e he => ?_⟩
  · rw [hget, if_neg (L.recordKey_ne k h), hm.getRecord k hk]
  · rw [hget, Function.update_apply]
    by_cases e : h' = h
    · rw [if_pos (congrArg _ e), if_pos e]
    · rw [if_neg fun he => e (L.indexKey_inj _ _ hh' hh he), if_neg e, hm.getIndex h' hh']
  · rw [Function.update_apply] at hi
    split_ifs at hi
    · exact hv k hi
    · exact hm.indexed h' k hi
  · rcases hkeys e he with he | he
    · exact hm.keys e he
    · exact .inr ⟨h, he⟩

theorem putIndex (h : Hash) (hh : h < 256 ^ 32) (k : κ) (hk : L.dom k) :
    L.Mirrors (cf.putCf (L.indexKey h) (L.pointer (L.recordKey k))) records (Function.update index h (some k)) :=
  hm.updateIndex h hh (some k) (fun _ e => Option.some.inj e ▸ hk) (fun _ => ColumnFamily.getCf_putCf) fun _ he =>
    (ColumnFamily.mem_putCf.mp he).elim (fun h => .inr (congrArg Prod.fst h)) fun h => .inl h.1

theorem deleteIndex (h : Hash) (hh : h < 256 ^ 32) :
    L.Mirrors (cf.deleteCf (L.indexKey h)) records (Function.update index h none) :=
  hm.updateIndex h hh none (fun _ e => nomatch e) (fun _ => ColumnFamily.getCf_deleteCf) fun _ he =>
    .inl (ColumnFamily.mem_deleteCf.mp he).1

variable [DecidableEq κ]

theorem updateRecord (k : κ) (hk : L.dom k) (v : Option ρ)
    (hget : ∀ key, cf'.getCf key = if key = L.recordKey k then v.map L.record else cf.getCf key)
    (hkeys : ∀ e ∈ cf'.entries, e ∈ cf.entries ∨ e.1 = L.recordKey k) :
    L.Mirrors cf' (Function.update records k v) index := by
  refine ⟨fun k' hk' => ?_, fun h hh => ?_, fun k' hr => ?_, hm.indexed, fun e he => ?_⟩
  · rw [hget, Function.update_apply]
    by_cases e : k' = k
    · rw [if_pos (congrArg _ e), if_pos e]
    · rw [if_neg fun he => e (L.recordKey_inj _ _ hk' hk he), if_neg e, hm.getRecord k' hk']
  · rw [hget, if_neg (L.recordKey_ne k h).symm, hm.getIndex h hh]
  · rw [Function.update_apply] at hr
    split_ifs at hr with e
    · exact e ▸ hk
    · exact hm.recorded k' hr
  · rcases hkeys e he with he | he
    · exact hm.keys e he
    · exact .inl ⟨k, hk, he⟩

theorem putRecord (k : κ) (hk : L.dom k) (r : ρ) :
    L.Mirrors (cf.putCf (L.recordKey k) (L.record r)) (Function.update records k (some r)) index :=
  hm.updateRecord k hk (some r) (fun _ => ColumnFamily.getCf_putCf) fun _ he =>
    (ColumnFamily.mem_putCf.mp he).elim (fun h => .inr (congrArg Prod.fst h)) fun h => .inl h.1

theorem deleteRecord (k : κ) (hk : L.dom k) :
    L.Mirrors (cf.deleteCf (L.recordKey k)) (Function.update records k none) index :=
  hm.updateRecord k hk none (fun _ => ColumnFamily.getCf_deleteCf) fun _ he =>
    .inl (ColumnFamily.mem_deleteCf.mp he).1

end Mirrors

end KeyLayout

def blockLayout : KeyLayout BlockHeight Block BlockValue where
  recordKey := BlockStore.heightKey
  indexKey := BlockStore.hashKey
  record := .block
  pointer := .heightKey
  dom height := height < u64Size
  recordKey_inj _ _ _ _ h := BlockStore.heightKey_injective h
  indexKey_inj _ _ ha hb h := hashBytes_injective ha hb (List.cons.inj h).2
  recordKey_ne k h := ne_of_lt (BlockStore.heightKey_lt_hashKey k h)

def txLayout : KeyLayout Uuid Transaction TransactionValue where
  recordKey := TransactionStore.txKey
  indexKey := TransactionStore.hashKey
  record := .transaction
  pointer := .txKey
  dom txId := txId < 2 ^ 128
  recordKey_inj _ _ ha hb h := TransactionStore.txKey_injective ha hb h
  indexKey_inj _ _ ha hb h := hashBytes_injective ha hb (List.cons.inj h).2
  recordKey_ne k h := ne_of_gt (TransactionStore.hashKey_lt_txKey h k)

namespace KeyLayout.Mirrors

section Blocks

variable {bs : BlockStore} {records : BlockHeight → Option Block} {index : Hash → Option BlockHeight}
  (hm : blockLayout.Mirrors bs.blocks records index)
include hm

theorem getCf_heightKey (height : BlockHeight) :
    bs.blocks.getCf (BlockStore.heightKey height) = (records height).map .block :=
  hm.getCf_recordKey (fun _ _ h => BlockStore.heightKey_injective h) height

theorem getBlock (height : BlockHeight) : bs.getBlock height = .ok (records height) := by
  rw [BlockStore.getBlock, hm.getCf_heightKey]
  cases records height <;> rfl

theorem hasBlock (height : BlockHeight) : bs.hasBlock height = (records height).isSome := by
  rw [BlockStore.hasBlock, hm.getCf_heightKey, Option.isSome_map']

theorem getBlockByHash {hash : Hash} (hh : hash < 256 ^ 32) :
    bs.getBlockByHash hash = .ok ((index hash).bind records) := by
  have hi : bs.blocks.getCf (BlockStore.hashKey hash) =
      (index hash).map fun height => .heightKey (BlockStore.heightKey height) := hm.getIndex hash hh
  rw [BlockStore.getBlockByHash, hi]
  cases index hash with
  | none => rfl
  | some height => exact hm.getBlock height

theorem getBlocksRange (start «end» : BlockHeight) :
    bs.getBlocksRange start «end» = .ok ((List.range' start («end» + 1 - start)).filterMap records) :=
  BlockStore.getBlocksRange_ok fun height _ _ => hm.getBlock height

theorem heightKey_of_parse {e : List Nat × BlockValue} (he : e ∈ bs.blocks.entries) {height : BlockHeight}
    (hf : (if e.1.head? = some 'h'.toNat then none else (BlockStore.parseHeightKey e.1).toOption) = some height) :
    e.1 = BlockStore.heightKey height := by
  split_ifs at hf with hh
  rcases hm.keys e he with ⟨k, hk, hek⟩ | ⟨h, hek⟩
  · change e.1 = BlockStore.heightKey k at hek
    rw [hek, BlockStore.parseHeightKey_heightKey hk] at hf
    cases hf
    exact hek
  · exact absurd (by rw [hek]; rfl) hh

theorem mem_getAllHeights (height : BlockHeight) : height ∈ bs.getAllHeights ↔ (records height).isSome := by
  rw [BlockStore.getAllHeights, (List.perm_insertionSort _ _).mem_iff, List.mem_filterMap, ← hm.hasBlock,
    BlockStore.hasBlock_iff]
  constructor
  · rintro ⟨⟨key, value⟩, he, hf⟩
    obtain rfl := hm.heightKey_of_parse he hf
    exact ⟨value, he⟩
  · rintro ⟨value, hv⟩
    refine ⟨_, hv, ?_⟩
    obtain ⟨k, hk, hek⟩ | ⟨h, hek⟩ := hm.keys _ hv
    · obtain rfl : height = k := BlockStore.heightKey_injective hek
      rw [if_neg (by rw [BlockStore.heightKey_head]; decide), BlockStore.parseHeightKey_heightKey hk]
      rfl
    · exact absurd hek (blockLayout.recordKey_ne height h)

theorem getAllHeights_sorted : bs.getAllHeights.Sorted (· < ·) := by
  refine (List.sorted_insertionSort _ _).lt_of_le ((List.perm_insertionSort _ _).nodup_iff.mpr ?_)
  exact ColumnFamily.nodup_filterMap_of_sorted bs.blocks.sorted fun e he e' he' height hf hf' => by
    rw [hm.heightKey_of_parse he hf, hm.heightKey_of_parse he' hf']

end Blocks

section Transactions

variable {ts : TransactionStore} {records : Uuid → Option Transaction} {index : Hash → Option Uuid}
  (hm : txLayout.Mirrors ts.transactions records index)
include hm

theorem getCf_txKey {txId : Uuid} (h : txId < 2 ^ 128) :
    ts.transactions.getCf (TransactionStore.txKey txId) = (records txId).map .transaction :=
  hm.getRecord txId h

theorem getTransaction {txId : Uuid} (h : txId < 2 ^ 128) : ts.getTransaction txId = .ok (records txId) := by
  rw [TransactionStore.getTransaction, hm.getCf_txKey h]
  cases records txId <;> rfl

theorem hasTransaction {txId : Uuid} (h : txId < 2 ^ 128) : ts.hasTransaction txId = (records txId).isSome := by
  rw [TransactionStore.hasTransaction, hm.getCf_txKey h, Option.isSome_map']

theorem getTransactionByHash {hash : Hash} (hh : hash < 256 ^ 32) :
    ts.getTransactionByHash hash = .ok ((index hash).bind records) := by
  have hi : ts.transactions.getCf (TransactionStore.hashKey hash) =
      (index hash).map fun txId => .txKey (TransactionStore.txKey txId) := hm.getIndex hash hh
  rw [TransactionStore.getTransactionByHash, hi]
  cases hk : index hash with
  | none => rfl
  | some txId =>
      simp only [Option.map_some', Option.some_bind, hm.getCf_txKey (hm.indexed hash txId hk)]
      cases records txId <;> rfl

theorem txKey_of_parse {e : List Nat × TransactionValue} (he : e ∈ ts.transactions.entries) {txId : Uuid}
    (hf : (if e.1.head? = some 'h'.toNat then none else (TransactionStore.parseTxKey e.1).toOption) = some txId) :
    e.1 = TransactionStore.txKey txId ∧ txId < 2 ^ 128 := by
  split_ifs at hf with hh
  rcases hm.keys e he with ⟨k, hk, hek⟩ | ⟨h, hek⟩
  · change e.1 = TransactionStore.txKey k at hek
    rw [hek, TransactionStore.parseTxKey_txKey hk] at hf
    cases hf
    exact ⟨hek, hk⟩
  · exact absurd (by rw [hek]; rfl) hh

theorem mem_getAllTransactionIds (txId : Uuid) :
    txId ∈ ts.getAllTransactionIds ↔ (records txId).isSome := by
  rw [TransactionStore.getAllTransactionIds, List.mem_filterMap]
  constructor
  · rintro ⟨⟨key, value⟩, he, hf⟩
    obtain ⟨rfl, hlt⟩ := hm.txKey_of_parse he hf
    rw [← hm.hasTransaction hlt, TransactionStore.hasTransaction, ColumnFamily.getCf_eq_some.mpr he]
    rfl
  · intro h
    have hlt : txId < 2 ^ 128 := hm.recorded txId fun hn => by rw [hn] at h; cases h
    obtain ⟨value, hv⟩ := Option.isSome_iff_exists.mp (hm.hasTransaction hlt ▸ h)
    refine ⟨_, ColumnFamily.getCf_eq_some.mp hv, ?_⟩
    rw [if_neg (by rw [TransactionStore.txKey_head]; decide), TransactionStore.parseTxKey_txKey hlt]
    rfl

theorem getAllTransactionIds_nodup : ts.getAllTransactionIds.Nodup :=
  ColumnFamily.nodup_filterMap_of_sorted ts.transactions.sorted fun e he e' he' txId hf hf' => by
    rw [(hm.txKey_of_parse he hf).1, (hm.txKey_of_parse he' hf').1]

end Transactions

end KeyLayout.Mirrors

def Storage.StoreOp.fits : Storage.StoreOp → Bool
  | .putBlock block => decide (block.header.height < u64Size)
  | .deleteBlock height => decide (height < u64Size)
  | .putTransaction tx => decide (tx.id < 2 ^ 128)
  | .deleteTransaction txId => decide (txId < 2 ^ 128)

def StorageWrite.fits : StorageWrite → Bool
  | .store op => op.fits
  | .storeBlock block =>
      decide (block.header.height < u64Size) && block.transactions.all fun tx => decide (tx.id < 2 ^ 128)

namespace ColumnStorage

structure Refines (c : ColumnStorage) (s : Storage) : Prop where
  blocks : blockLayout.Mirrors c.blocks.blocks s.blocks s.blockHashIndex
  transactions : txLayout.Mirrors c.transactions.transactions s.transactions s.transactionHashIndex
  latestHeight : c.getLatestHeight = .ok s.latestHeight

structure Agrees (c : ColumnStorage) (s : Storage) : Prop where
  getBlock : ∀ height, c.blocks.getBlock height = .ok (s.getBlock height)
  hasBlock : ∀ height, c.blocks.hasBlock height = (s.getBlock height).isSome
  getBlockByHash : ∀ hash < 256 ^ 32, c.blocks.getBlockByHash hash = .ok (s.getBlockByHash hash)
  getBlocksRange : ∀ start «end», c.blocks.getBlocksRange start «end» =
    .ok ((List.range' start («end» + 1 - start)).filterMap s.getBlock)
  getAllHeights : ∀ height, height ∈ c.blocks.getAllHeights ↔ (s.getBlock height).isSome
  getTransaction : ∀ txId < 2 ^ 128, c.transactions.getTransaction txId = .ok (s.getTransaction txId)
  hasTransaction : ∀ txId < 2 ^ 128, c.transactions.hasTransaction txId = (s.getTransaction txId).isSome
  getTransactionByHash : ∀ hash < 256 ^ 32,
    c.transactions.getTransactionByHash hash = .ok (s.getTransactionByHash hash)
  getAllTransactionIds : ∀ txId, txId ∈ c.transactions.getAllTransactionIds ↔ (s.getTransaction txId).isSome
  getLatestHeight : c.getLatestHeight = .ok s.getLatestHeight

variable {C : Codec} {c : ColumnStorage} {s : Storage}

theorem Refines.agrees (hr : Refines c s) : Agrees c s :=
  ⟨hr.blocks.getBlock, hr.blocks.hasBlock, fun _ => hr.blocks.getBlockByHash, hr.blocks.getBlocksRange,
    hr.blocks.mem_getAllHeights, fun _ => hr.transactions.getTransaction, fun _ => hr.transactions.hasTransaction,
    fun _ => hr.transactions.getTransactionByHash, hr.transactions.mem_getAllTransactionIds, hr.latestHeight⟩

theorem refines_empty : Refines empty Storage.empty :=
  ⟨KeyLayout.mirrors_empty, KeyLayout.mirrors_empty, rfl⟩

section Steps

variable (hC : C.HashesFit)
include hC

theorem Refines.putBlock (hr : Refines c s) {block : Block} (hb : block.header.height < u64Size) :
    Refines (c.apply C (.putBlock block)) (s.apply C (.putBlock block)) :=
  ⟨(hr.blocks.putRecord _ hb block).putIndex _ (hC.block block) _ hb, hr.transactions, hr.latestHeight⟩

theorem Refines.putTransaction (hr : Refines c s) {tx : Transaction} (ht : tx.id < 2 ^ 128) :
    Refines (c.apply C (.putTransaction tx)) (s.apply C (.putTransaction tx)) :=
  ⟨hr.blocks, (hr.transactions.putRecord _ ht tx).putIndex _ (hC.transaction tx) _ ht, hr.latestHeight⟩

theorem Refines.deleteBlock (hr : Refines c s) {height : BlockHeight} (hh : height < u64Size) :
    Refines (c.apply C (.deleteBlock height)) (s.apply C (.deleteBlock height)) := by
  have hget := hr.blocks.getBlock height
  rw [apply, BlockStore.deleteBlock, hget, Storage.apply]
  rcases Storage.deleteBlock_cases C s height with ⟨hb, hs⟩ | ⟨b, hb, hs⟩ <;> rw [hs, hb]
  · exact ⟨hr.blocks.deleteRecord height hh, hr.transactions, hr.latestHeight⟩
  · exact ⟨(hr.blocks.deleteIndex _ (hC.block b)).deleteRecord height hh, hr.transactions, hr.latestHeight⟩

theorem Refines.deleteTransaction (hr : Refines c s) {txId : Uuid} (ht : txId < 2 ^ 128) :
    Refines (c.apply C (.deleteTransaction txId)) (s.apply C (.deleteTransaction txId)) := by
  have hget := hr.transactions.getTransaction ht
  rw [apply, TransactionStore.deleteTransaction, hget, Storage.apply]
  rcases Storage.deleteTransaction_cases C s txId with ⟨hs, he⟩ | ⟨tx, hs, he⟩ <;> rw [he, hs]
  · exact ⟨hr.blocks, hr.transactions.deleteRecord txId ht, hr.latestHeight⟩
  · exact ⟨hr.blocks, (hr.transactions.deleteIndex _ (hC.transaction tx)).deleteRecord txId ht, hr.latestHeight⟩

theorem Refines.apply (hr : Refines c s) {op : Storage.StoreOp} (hop : op.fits = true) :
    Refines (c.apply C op) (s.apply C op) := by
  cases op with
  | putBlock block => exact hr.putBlock hC (of_decide_eq_true hop)
  | deleteBlock height => exact hr.deleteBlock hC (of_decide_eq_true hop)
  | putTransaction tx => exact hr.putTransaction hC (of_decide_eq_true hop)
  | deleteTransaction txId => exact hr.deleteTransaction hC (of_decide_eq_true hop)

theorem Refines.putTransactions {txs : List Transaction} (htx : ∀ tx ∈ txs, tx.id < 2 ^ 128) (hr : Refines c s) :
    Refines { c with transactions := txs.foldl (TransactionStore.putTransaction C) c.transactions }
      (txs.foldl (Storage.putTransaction C) s) := by
  induction txs generalizing c s with
  | nil => exact hr
  | cons tx txs ih =>
      exact ih (fun t ht => htx t (List.mem_cons_of_mem tx ht))
        (hr.putTransaction hC (htx tx (List.mem_cons_self tx txs)))

theorem Refines.storeBlock (hr : Refines c s) {block : Block} (hb : block.header.height < u64Size)
    (htx : ∀ tx ∈ block.transactions, tx.id < 2 ^ 128) :
    Refines (c.storeBlock C block) (s.storeBlock C block) :=
  have h := (hr.putBlock hC hb).putTransactions hC htx
  ⟨h.blocks, h.transactions, c.getLatestHeight_storeBlock C hb⟩

theorem Refines.write (hr : Refines c s) {w : StorageWrite} (hw : w.fits = true) :
    Refines (c.write C w) (s.write C w) := by
  cases w with
  | store op => exact hr.apply hC hw
  | storeBlock block =>
      simp only [StorageWrite.fits, Bool.and_eq_true, decide_eq_true_eq, List.all_eq_true] at hw
      exact hr.storeBlock hC hw.1 hw.2

theorem Refines.writeAll {writes : List StorageWrite} (hw : ∀ w ∈ writes, w.fits = true) (hr : Refines c s) :
    Refines (c.writeAll C writes) (s.writeAll C writes) := by
  induction writes generalizing c s with
  | nil => exact hr
  | cons w writes ih =>
      exact ih (fun w' hw' => hw w' (List.mem_cons_of_mem w hw')) (hr.write hC (hw w (List.mem_cons_self w writes)))

end Steps

theorem run_eq_writeAll (c : ColumnStorage) (ops : List Storage.StoreOp) :
    c.run C ops = c.writeAll C (ops.map .store) := by
  rw [run, writeAll, List.foldl_map]
  rfl

theorem writeAll_agrees (hC : C.HashesFit) {writes : List StorageWrite} (hw : ∀ w ∈ writes, w.fits = true) :
    (empty.writeAll C writes).Agrees (Storage.empty.writeAll C writes) :=
  (refines_empty.writeAll hC hw).agrees

def sampleOps : List Storage.StoreOp :=
  [.putBlock (sampleBlock "a" 1 1), .putTransaction (sampleTransfer 1 1), .deleteBlock 1,
    .putBlock (sampleBlock "a" 1 2), .deleteTransaction 1, .putTransaction (sampleTransfer 1 3)]

def sampleWrites : List StorageWrite :=
  .storeBlock { sampleBlock "a" 2 5 with transactions := [sampleTransfer 2 1, sampleTransfer 3 2] } ::
    sampleOps.map .store

theorem sample_writes_agree :
    sampleCodec.truncate.HashesFit ∧ (∀ w ∈ sampleWrites, w.fits = true) ∧
      (empty.writeAll sampleCodec.truncate sampleWrites).Agrees
        (Storage.empty.writeAll sampleCodec.truncate sampleWrites) :=
  ⟨Codec.truncate_hashesFit _, by decide, writeAll_agrees (Codec.truncate_hashesFit _) (by decide)⟩

end ColumnStorage

namespace Storage

theorem IndexesSound.run {C : Codec} {s : Storage} {ops : List StoreOp} (hk : keepsHashes C s ops = true)
    (hs : IndexesSound C s) : IndexesSound C (s.run C ops) := by
  induction ops generalizing s with
  | nil => exact hs
  | cons op ops ih =>
      simp only [keepsHashes, Bool.and_eq_true, Bool.not_eq_true'] at hk
      exact ih hk.2 (hs.apply C hk.1)

theorem run_eq_writeAll (C : Codec) (s : Storage) (ops : List StoreOp) : s.run C ops = s.writeAll C (ops.map .store) := by
  rw [run, writeAll, List.foldl_map]
  rfl

end Storage

namespace ColumnStorage

variable {C : Codec}

theorem column_hash_lookups_sound (hC : C.HashesFit) {ops : List Storage.StoreOp} (hfit : ∀ op ∈ ops, op.fits = true)
    (hkeep : Storage.keepsHashes C .empty ops = true) {hash : Hash} (hh : hash < 256 ^ 32) :
    ((empty.run C ops).blocks.getBlockByHash hash = .ok none ∨
        ∃ b, (empty.run C ops).blocks.getBlockByHash hash = .ok (some b) ∧ b.hash C = hash) ∧
      ((empty.run C ops).transactions.getTransactionByHash hash = .ok none ∨
        ∃ tx, (empty.run C ops).transactions.getTransactionByHash hash = .ok (some tx) ∧ tx.hash C = hash) := by
  have hw : ∀ w ∈ ops.map StorageWrite.store, w.fits = true := by simpa [StorageWrite.fits] using hfit
  have hr := (refines_empty.writeAll hC hw).agrees
  rw [← run_eq_writeAll, ← Storage.run_eq_writeAll] at hr
  have hs := (Storage.indexesSound_empty C).run hkeep
  rw [hr.getBlockByHash hash hh, hr.getTransactionByHash hash hh]
  exact ⟨(hs.blocks.lookup hash).imp (congrArg _) fun ⟨b, hb, e⟩ => ⟨b, congrArg _ hb, e⟩,
    (hs.transactions.lookup hash).imp (congrArg _) fun ⟨tx, ht, e⟩ => ⟨tx, congrArg _ ht, e⟩⟩

theorem sample_hash_lookups_sound :
    sampleCodec.truncate.HashesFit ∧ (∀ op ∈ sampleOps, op.fits = true) ∧
      Storage.keepsHashes sampleCodec.truncate .empty sampleOps = true ∧ (2 : Hash) < 256 ^ 32 ∧
      (((empty.run sampleCodec.truncate sampleOps).blocks.getBlockByHash 2 = .ok none ∨
        ∃ b, (empty.run sampleCodec.truncate sampleOps).blocks.getBlockByHash 2 = .ok (some b) ∧
          b.hash sampleCodec.truncate = 2) ∧
      ((empty.run sampleCodec.truncate sampleOps).transactions.getTransactionByHash 2 = .ok none ∨
        ∃ tx, (empty.run sampleCodec.truncate sampleOps).transactions.getTransactionByHash 2 = .ok (some tx) ∧
          tx.hash sampleCodec.truncate = 2)) :=
  ⟨Codec.truncate_hashesFit _, by decide, by decide, by decide,
    column_hash_lookups_sound (Codec.truncate_hashesFit _) (by decide) (by decide) (by decide)⟩

end ColumnStorage

end BlockchainNode

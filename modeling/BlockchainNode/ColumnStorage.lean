import BlockchainNode.Storage
import BlockchainNode.BlockStore
import BlockchainNode.TransactionStore

namespace BlockchainNode

def u64Bytes (n : Nat) : List Nat := (List.range 8).map fun i => n / 256 ^ i % 256

def u64OfBytes (data : List Nat) : Option Nat :=
  if 8 ≤ data.length then some ((data.take 8).foldr (fun b acc => b + 256 * acc) 0) else none

def hashOfBytes (data : List Nat) : Option Hash :=
  if 32 ≤ data.length then some ((data.take 32).foldl (fun acc b => acc * 256 + b) 0) else none

structure ColumnStorage where
  blocks : BlockStore
  transactions : TransactionStore
  metadata : ColumnFamily (List Nat)

inductive StorageWrite where
  | store (op : Storage.StoreOp)
  | storeBlock (block : Block)

variable (C : Codec)

namespace ColumnStorage

def empty : ColumnStorage := ⟨BlockStore.empty, TransactionStore.empty, ColumnFamily.empty⟩

def putMetadata (s : ColumnStorage) (key : String) (value : List Nat) : ColumnStorage :=
  { s with metadata := s.metadata.putCf (intoBytes key) value }

def getMetadata (s : ColumnStorage) (key : String) : Option (List Nat) := s.metadata.getCf (intoBytes key)

def storeBlock (s : ColumnStorage) (block : Block) : ColumnStorage :=
  let s := { s with blocks := s.blocks.putBlock C block }
  let s := { s with transactions := block.transactions.foldl (TransactionStore.putTransaction C) s.transactions }
  s.putMetadata "latest_height" (u64Bytes block.header.height)

def getLatestHeight (s : ColumnStorage) : Except String (Option BlockHeight) :=
  match s.getMetadata "latest_height" with
  | none => .ok none
  | some data =>
      match u64OfBytes data with
      | some height => .ok (some height)
      | none => .error "Failed to deserialize metadata"

def setGenesisHash (s : ColumnStorage) (hash : Hash) : ColumnStorage :=
  s.putMetadata "genesis_hash" (hashBytes hash)

def getGenesisHash (s : ColumnStorage) : Except String (Option Hash) :=
  match s.getMetadata "genesis_hash" with
  | none => .ok none
  | some data =>
      match hashOfBytes data with
      | some hash => .ok (some hash)
      | none => .error "Failed to deserialize metadata"

def apply (s : ColumnStorage) : Storage.StoreOp → ColumnStorage
  | .putBlock block => { s with blocks := s.blocks.putBlock C block }
  | .deleteBlock height =>
      match s.blocks.deleteBlock C height with
      | .ok blocks => { s with blocks }
      | .error _ => s
  | .putTransaction tx => { s with transactions := s.transactions.putTransaction C tx }
  | .deleteTransaction txId =>
      match s.transactions.deleteTransaction C txId with
      | .ok transactions => { s with transactions }
      | .error _ => s

def write (s : ColumnStorage) : StorageWrite → ColumnStorage
  | .store op => s.apply C op
  | .storeBlock block => s.storeBlock C block

def run (s : ColumnStorage) (ops : List Storage.StoreOp) : ColumnStorage := ops.foldl (apply C) s

def writeAll (s : ColumnStorage) (writes : List StorageWrite) : ColumnStorage := writes.foldl (write C) s

end ColumnStorage

namespace Storage

def write (s : Storage) : StorageWrite → Storage
  | .store op => s.apply C op
  | .storeBlock block => s.storeBlock C block

def writeAll (s : Storage) (writes : List StorageWrite) : Storage := writes.foldl (write C) s

end Storage

section Metadata

theorem u64Bytes_length (n : Nat) : (u64Bytes n).length = 8 := by simp [u64Bytes]

theorem foldr_littleEndian (width n acc : Nat) :
    ((List.range width).map fun i => n / 256 ^ i % 256).foldr (fun b acc => b + 256 * acc) acc =
      n % 256 ^ width + 256 ^ width * acc := by
  induction width generalizing acc with
  | zero => simp [Nat.mod_one]
  | succ w ih =>
      rw [List.range_succ, List.map_append, List.foldr_append, List.map_singleton, List.foldr_cons, List.foldr_nil, ih,
        Nat.mod_pow_succ, pow_succ]
      ring

theorem u64OfBytes_u64Bytes {n : Nat} (h : n < u64Size) : u64OfBytes (u64Bytes n) = some n := by
  rw [u64OfBytes, if_pos (u64Bytes_length n).ge, List.take_of_length_le (u64Bytes_length n).le, u64Bytes,
    foldr_littleEndian, Nat.mod_eq_of_lt (by simpa [u64Size] using h)]
  simp

theorem hashOfBytes_hashBytes {hash : Hash} (h : hash < 256 ^ 32) : hashOfBytes (hashBytes hash) = some hash := by
  have hlen : (hashBytes hash).length = 32 := baseDigits_length 256 32 hash
  rw [hashOfBytes, if_pos hlen.ge, List.take_of_length_le hlen.le, hashBytes_eq, baseDigits_foldl,
    Nat.mod_eq_of_lt h, Nat.zero_mul, Nat.zero_add]

namespace ColumnStorage

variable (s : ColumnStorage)

theorem getMetadata_putMetadata_self (key : String) (value : List Nat) :
    (s.putMetadata key value).getMetadata key = some value := by
  simp [putMetadata, getMetadata, ColumnFamily.getCf_putCf]

theorem getMetadata_putMetadata_of_ne {key key' : String} (h : intoBytes key' ≠ intoBytes key) (value : List Nat) :
    (s.putMetadata key value).getMetadata key' = s.getMetadata key' := by
  simp [putMetadata, getMetadata, ColumnFamily.getCf_putCf, h]

theorem getLatestHeight_storeBlock {block : Block} (h : block.header.height < u64Size) :
    (s.storeBlock C block).getLatestHeight = .ok (some block.header.height) := by
  dsimp only [getLatestHeight, storeBlock]
  rw [getMetadata_putMetadata_self]
  dsimp only
  rw [u64OfBytes_u64Bytes h]

theorem getGenesisHash_storeBlock (block : Block) : (s.storeBlock C block).getGenesisHash = s.getGenesisHash := by
  dsimp only [getGenesisHash, storeBlock]
  rw [getMetadata_putMetadata_of_ne _ (by decide)]
  rfl

theorem getGenesisHash_setGenesisHash {hash : Hash} (h : hash < 256 ^ 32) :
    (s.setGenesisHash hash).getGenesisHash = .ok (some hash) := by
  dsimp only [getGenesisHash, setGenesisHash]
  rw [getMetadata_putMetadata_self]
  dsimp only
  rw [hashOfBytes_hashBytes h]

theorem getLatestHeight_setGenesisHash (hash : Hash) : (s.setGenesisHash hash).getLatestHeight = s.getLatestHeight := by
  dsimp only [getLatestHeight, setGenesisHash]
  rw [getMetadata_putMetadata_of_ne _ (by decide)]

end ColumnStorage

end Metadata

end BlockchainNode

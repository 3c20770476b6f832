import BlockchainNode.Encoding
import BlockchainNode.ColumnFamily
import Mathlib.Data.List.Sort

namespace BlockchainNode

inductive TransactionValue where
  | transaction (tx : Transaction)
  | txKey (key : List Nat)
  deriving DecidableEq

structure TransactionStore where
  transactions : ColumnFamily TransactionValue

variable (C : Codec)

namespace TransactionStore

def txKey (txId : Uuid) : List Nat := intoBytes ("tx_" ++ uuidHyphenated txId)

def hashKey (hash : Hash) : List Nat := 'h'.toNat :: hashBytes hash

def empty : TransactionStore := ⟨ColumnFamily.empty⟩

def putTransaction (ts : TransactionStore) (tx : Transaction) : TransactionStore :=
  let key := txKey tx.id
  let transactions := ts.transactions.putCf key (.transaction tx)
  ⟨transactions.putCf (hashKey (tx.hash C)) (.txKey key)⟩

def decodeTransaction : TransactionValue → Option Transaction
  | .transaction tx => some tx
  | .txKey _ => none

def getTransaction (ts : TransactionStore) (txId : Uuid) : Except String (Option Transaction) :=
  match ts.transactions.getCf (txKey txId) with
  | some (.transaction tx) => .ok (some tx)
  | some (.txKey _) => .error "Failed to deserialize transaction"
  | none => .ok none

def scanTransactions (entries : List (List Nat × TransactionValue)) : List Transaction :=
  entries.filterMap fun e => if e.1.head? = some 'h'.toNat then none else decodeTransaction e.2

def getTransactionsBySender (ts : TransactionStore) (sender : Address) : List Transaction :=
  ((scanTransactions (ts.transactions.iteratorCf .start)).filter (·.from == sender)).insertionSort
    fun a b => a.timestamp ≤ b.timestamp

def getTransactionsByRecipient (ts : TransactionStore) (recipient : Address) : List Transaction :=
  ((scanTransactions (ts.transactions.iteratorCf .start)).filter (·.to == recipient)).insertionSort
    fun a b => a.timestamp ≤ b.timestamp

def recentTransactionsLoop (limit : Nat) :
    List (List Nat × TransactionValue) → List Transaction → List Transaction
  | [], transactions => transactions
  | (key, value) :: rest, transactions =>
      if key.head? = some 'h'.toNat then recentTransactionsLoop limit rest transactions
      else
        match decodeTransaction value with
        | some tx =>
            let transactions := transactions ++ [tx]
            if limit ≤ transactions.length then transactions
            else recentTransactionsLoop limit rest transactions
        | none => recentTransactionsLoop limit rest transactions

def getRecentTransactions (ts : TransactionStore) (limit : Nat) : List Transaction :=
  (recentTransactionsLoop limit (ts.transactions.iteratorCf .end) []).insertionSort
    fun a b => b.timestamp ≤ a.timestamp

def countTransactions (ts : TransactionStore) : Nat :=
  ((ts.transactions.iteratorCf .start).filter fun e => e.1.head? != some 'h'.toNat).length

def getTransactionByHash (ts : TransactionStore) (hash : Hash) : Except String (Option Transaction) :=
  match ts.transactions.getCf (hashKey hash) with
  | some (.txKey key) =>
      match ts.transactions.getCf key with
      | some (.transaction tx) => .ok (some tx)
      | some (.txKey _) => .error "Failed to deserialize transaction"
      | none => .ok none
  | some (.transaction _) => .error "Failed to deserialize transaction"
  | none => .ok none

def hasTransaction (ts : TransactionStore) (txId : Uuid) : Bool := (ts.transactions.getCf (txKey txId)).isSome

def deleteTransaction (ts : TransactionStore) (txId : Uuid) : Except String TransactionStore :=
  match ts.getTransaction txId with
  | .error e => .error e
  | .ok (some tx) => .ok ⟨(ts.transactions.deleteCf (hashKey (tx.hash C))).deleteCf (txKey txId)⟩
  | .ok none => .ok ⟨ts.transactions.deleteCf (txKey txId)⟩

def parseTxKey (key : List Nat) : Except String Uuid :=
  let keyStr := (fromUtf8Lossy key).toList
  if "tx_".toList.isPrefixOf keyStr then
    match uuidParseStr ⟨keyStr.drop 3⟩ with
    | some txId => .ok txId
    | none => .error "Failed to parse UUID from key"
  else .error "Invalid transaction key format"

def getAllTransactionIds (ts : TransactionStore) : List Uuid :=
  (ts.transactions.iteratorCf .start).filterMap fun e =>
    if e.1.head? = some 'h'.toNat then none else (parseTxKey e.1).toOption

section Keys

theorem txKey_eq (txId : Uuid) :
    txKey txId = "tx_".toList.map Char.toNat ++ (uuidHyphenated txId).toList.map Char.toNat := by
  rw [txKey, intoBytes_append, intoBytes_of_lt (by decide), intoBytes_of_lt (uuidHyphenated_ascii txId)]

theorem txKey_head (txId : Uuid) : (txKey txId).head? = some 't'.toNat := by
  rw [txKey_eq]; rfl

theorem hashKey_lt_txKey (hash : Hash) (txId : Uuid) : hashKey hash < txKey txId := by
  rw [txKey_eq]
  exact List.Lex.rel (by decide)

theorem txKey_injective {a b : Uuid} (ha : a < 2 ^ 128) (hb : b < 2 ^ 128) (h : txKey a = txKey b) : a = b := by
  rw [txKey, txKey, intoBytes_append, intoBytes_append] at h
  have h' : uuidParseStr (uuidHyphenated a) = uuidParseStr (uuidHyphenated b) :=
    congrArg uuidTryParse (List.append_cancel_left h)
  rwa [uuidParseStr_uuidHyphenated ha, uuidParseStr_uuidHyphenated hb, Option.some.injEq] at h'

theorem parseTxKey_txKey {txId : Uuid} (h : txId < 2 ^ 128) : parseTxKey (txKey txId) = .ok txId := by
  have hascii : ∀ c ∈ "tx_".toList ++ (uuidHyphenated txId).toList, c.toNat < 128 :=
    List.forall_mem_append.mpr ⟨by decide, uuidHyphenated_ascii txId⟩
  rw [parseTxKey, txKey_eq, ← List.map_append, fromUtf8Lossy_map_toNat hascii]
  dsimp only [String.toList]
  rw [if_pos (List.isPrefixOf_iff_prefix.mpr (List.prefix_append _ _)),
    List.drop_left' (show (['t', 'x', '_'] : List Char).length = 3 from rfl)]
  simp only [show (⟨(uuidHyphenated txId).data⟩ : String) = uuidHyphenated txId from rfl,
    uuidParseStr_uuidHyphenated h]

end Keys

theorem recentTransactionsLoop_eq (limit : Nat) :
    ∀ (entries : List (List Nat × TransactionValue)) (transactions : List Transaction),
      transactions.length < max limit 1 →
      recentTransactionsLoop limit entries transactions =
        transactions ++ (scanTransactions entries).take (max limit 1 - transactions.length)
  | [], transactions, _ => by simp [recentTransactionsLoop, scanTransactions]
  | (key, value) :: rest, transactions, hlen => by
      have ih := recentTransactionsLoop_eq limit rest
      by_cases hh : key.head? = some 'h'.toNat
      · simp only [recentTransactionsLoop, scanTransactions, List.filterMap_cons, if_pos hh] at ih ⊢
        exact ih transactions hlen
      · simp only [recentTransactionsLoop, if_neg hh]
        cases hv : decodeTransaction value with
        | none =>
            simp only [scanTransactions, List.filterMap_cons, if_neg hh, hv] at ih ⊢
            exact ih transactions hlen
        | some tx =>
            have hscan : scanTransactions ((key, value) :: rest) = tx :: scanTransactions rest := by
              simp only [scanTransactions, List.filterMap_cons, if_neg hh, hv]
            rw [hscan, show max limit 1 - transactions.length = (max limit 1 - (transactions.length + 1)) + 1 by omega,
              List.take_succ_cons]
            simp only [List.length_append, List.length_singleton]
            split_ifs with hstop
            · rw [show max limit 1 - (transactions.length + 1) = 0 by omega, List.take_zero]
            · rw [ih _ (by simp only [List.length_append, List.length_singleton]; omega), List.length_append,
                List.length_singleton, List.append_assoc]
              rfl

theorem getRecentTransactions_eq (ts : TransactionStore) (limit : Nat) :
    ts.getRecentTransactions limit =
      ((scanTransactions ts.transactions.entries.reverse).take (max limit 1)).insertionSort
        fun a b => b.timestamp ≤ a.timestamp := by
  rw [getRecentTransactions, recentTransactionsLoop_eq limit _ [] (by simp)]
  rfl

theorem getRecentTransactions_length (ts : TransactionStore) (limit : Nat) :
    (ts.getRecentTransactions limit).length =
      min (max limit 1) (scanTransactions ts.transactions.entries).length := by
  rw [getRecentTransactions_eq, (List.perm_insertionSort _ _).length_eq, List.length_take, scanTransactions,
    List.filterMap_reverse, List.length_reverse]
  rfl

end TransactionStore

def earlyKeyTransfer : Transaction := { sampleTransfer 1 1 with timestamp := 50 }

def lateKeyTransfer : Transaction := { sampleTransfer 2 2 with timestamp := 10 }

def twoTransferStore : TransactionStore :=
  (TransactionStore.empty.putTransaction sampleCodec earlyKeyTransfer).putTransaction sampleCodec lateKeyTransfer

theorem recent_transactions_follow_key_order :
    twoTransferStore.getTransaction 1 = .ok (some earlyKeyTransfer) ∧
    twoTransferStore.getTransaction 2 = .ok (some lateKeyTransfer) ∧
    twoTransferStore.getRecentTransactions 0 = [lateKeyTransfer] ∧
    twoTransferStore.getRecentTransactions 1 = [lateKeyTransfer] ∧
    lateKeyTransfer.timestamp < earlyKeyTransfer.timestamp := by
  decide

end BlockchainNode

import BlockchainNode.Storage
import BlockchainNode.StateStore
import BlockchainNode.Consensus.LeaderElection

namespace BlockchainNode

inductive ValidationError where
  | invalidBlockHash
  | invalidPreviousHash
  | invalidMerkleRoot
  | invalidTimestamp (reason : String)
  | invalidBlockHeight (expected actual : BlockHeight)
  | transactionValidation (reason : String)
  | duplicateTransaction (txId : String)
  | invalidSignature
  | insufficientBalance
  | invalidNonce (expected actual : Nat)
  deriving DecidableEq, Repr

inductive AnyhowError where
  | validation (e : ValidationError)
  | message (text : String)
  deriving DecidableEq, Repr

structure Validator where
  storage : Storage
  state : StateStore

variable (C : Codec)

namespace Validator

def validateBlockStructure (block : Block) : Except AnyhowError Unit :=
  if block.transactions.isEmpty then .error (.message "Block must contain at least one transaction")
  else if 1024 * 1024 * 10 < C.serializedBlockSize block then .error (.message "Block size exceeds maximum limit")
  else if !block.verify C then .error (.validation .invalidBlockHash)
  else .ok ()

def validateBlockHeader (v : Validator) (header : BlockHeader) (currentTime : Timestamp) :
    Except AnyhowError Unit :=
  if wrappingAdd currentTime 300000 < header.timestamp then
    .error (.validation (.invalidTimestamp "Block timestamp too far in future"))
  else
    match v.storage.getLatestHeight with
    | some latestHeight =>
        let expectedHeight := wrappingAdd latestHeight 1
        if header.height ≠ expectedHeight then .error (.validation (.invalidBlockHeight expectedHeight header.height))
        else .ok ()
    | none => if header.height ≠ 0 then .error (.validation (.invalidBlockHeight 0 header.height)) else .ok ()

def validateTransaction (tx : Transaction) (currentTime : Timestamp) : Except AnyhowError Unit :=
  if !tx.verify then .error (.validation .invalidSignature)
  else if tx.amount = 0 ∧ tx.data.isEmpty then .error (.message "Transaction must transfer value or contain data")
  else if tx.fee = 0 then .error (.message "Transaction must include fee")
  else if tx.from = tx.to ∧ tx.data.isEmpty then .error (.message "Self-transfer without data is not allowed")
  else if wrappingAdd currentTime 60000 < tx.timestamp then .error (.message "Transaction timestamp too far in future")
  else if 3600000 < wrappingSub currentTime tx.timestamp then .error (.message "Transaction too old")
  else .ok ()

def validateBlockTransactionsLoop (v : Validator) (currentTime : Timestamp) :
    List Transaction → List Hash → (Address → Option Nat) → Except AnyhowError Unit
  | [], _, _ => .ok ()
  | tx :: rest, seenTxHashes, accountNonces =>
      let txHash := tx.hash C
      if txHash ∈ seenTxHashes then .error (.validation (.duplicateTransaction (toString tx.id)))
      else
        match validateTransaction tx currentTime with
        | .error e => .error e
        | .ok () =>
            let currentNonce := (accountNonces tx.from).getD (v.state.getNonce tx.from)
            if tx.nonce ≠ wrappingAdd currentNonce 1 then
              .error (.validation (.invalidNonce (wrappingAdd currentNonce 1) tx.nonce))
            else if v.state.getBalance tx.from < wrappingAdd tx.amount tx.fee then
              .error (.validation .insufficientBalance)
            else
              v.validateBlockTransactionsLoop currentTime rest (txHash :: seenTxHashes)
                (Function.update accountNonces tx.from (some tx.nonce))

def validateBlockTransactions (v : Validator) (block : Block) (currentTime : Timestamp) : Except AnyhowError Unit :=
  v.validateBlockTransactionsLoop C currentTime block.transactions [] fun _ => none

def validateMerkleRoot (block : Block) : Except AnyhowError Unit :=
  if block.calculateMerkleRoot C ≠ block.header.merkleRoot then .error (.validation .invalidMerkleRoot) else .ok ()

def validateBlockChain (v : Validator) (block : Block) : Except AnyhowError Unit :=
  if block.header.height = 0 then .ok ()
  else
    match v.storage.getBlock (block.header.height - 1) with
    | none => .error (.message "Previous block not found")
    | some prevBlock =>
        if prevBlock.hash C ≠ block.header.previousHash then .error (.validation .invalidPreviousHash)
        else if block.header.timestamp ≤ prevBlock.header.timestamp then
          .error (.validation (.invalidTimestamp "Block timestamp must be greater than previous block"))
        else .ok ()

def validateBlock (v : Validator) (block : Block) (currentTime : Timestamp) : Except AnyhowError Unit := do
  validateBlockStructure C block
  v.validateBlockHeader block.header currentTime
  v.validateBlockTransactions C block currentTime
  validateMerkleRoot C block
  v.validateBlockChain C block

def validateTransactionAgainstState (v : Validator) (tx : Transaction) : Except AnyhowError Unit :=
  if v.state.getBalance tx.from < wrappingAdd tx.amount tx.fee then .error (.validation .insufficientBalance)
  else
    let currentNonce := v.state.getNonce tx.from
    if tx.nonce ≠ wrappingAdd currentNonce 1 then
      .error (.validation (.invalidNonce (wrappingAdd currentNonce 1) tx.nonce))
    else .ok ()

def validateTransactionBatch (v : Validator) (transactions : List Transaction) (currentTime : Timestamp) :
    List Bool :=
  transactions.map fun tx => (validateTransaction tx currentTime).isOk && (v.validateTransactionAgainstState tx).isOk

def quickValidateTransaction (tx : Transaction) : Bool :=
  tx.verify && decide (0 < tx.fee) && (decide (0 < tx.amount) || !tx.data.isEmpty) && tx.from != tx.to

def validateConsensusSignatures (block : Block) (validatorSet : List NodeId) : Except AnyhowError Unit :=
  if block.signatures.isEmpty then .error (.message "Block must have consensus signatures")
  else if block.signatures.length < quorumSize validatorSet.length then
    .error (.message "Insufficient consensus signatures")
  else if block.signatures.all fun sig => sig.validatorId ∈ validatorSet then .ok ()
  else .error (.message "Invalid validator signature")

section Checks

theorem validateTransaction_of_verify {tx : Transaction} (hv : tx.verify = true) (currentTime : Timestamp) :
    validateTransaction tx currentTime =
      if wrappingAdd currentTime 60000 < tx.timestamp then .error (.message "Transaction timestamp too far in future")
      else if 3600000 < wrappingSub currentTime tx.timestamp then .error (.message "Transaction too old")
      else .ok () := by
  obtain ⟨⟨ha, hf⟩, hne⟩ : (0 < tx.amount ∧ 0 < tx.fee) ∧ tx.from ≠ tx.to := by
    simpa [Transaction.verify] using hv
  simp only [validateTransaction, hv, Bool.not_true, Bool.false_eq_true, if_false]
  rw [if_neg fun h => absurd h.1 (Nat.pos_iff_ne_zero.mp ha), if_neg (Nat.pos_iff_ne_zero.mp hf),
    if_neg fun h => hne h.1]

theorem slightly_future_transaction_too_old {tx : Transaction} {currentTime : Timestamp} (hv : tx.verify = true)
    (hahead : currentTime < tx.timestamp) (hwindow : tx.timestamp ≤ currentTime + 60000)
    (hmax : currentTime + 60000 < u64Size) :
    validateTransaction tx currentTime = .error (.message "Transaction too old") := by
  have h64 : u64Size = 18446744073709551616 := rfl
  rw [validateTransaction_of_verify hv, wrappingAdd_of_lt hmax, if_neg (Nat.not_lt.mpr hwindow),
    wrappingSub_of_lt hahead (by dsimp only [Timestamp] at *; omega), if_pos (by dsimp only [Timestamp] at *; omega)]

theorem validateTransaction_timestamps {tx : Transaction} {currentTime : Timestamp} (hv : tx.verify = true)
    (hts : tx.timestamp < u64Size) (hmax : currentTime + 60000 < u64Size) :
    validateTransaction tx currentTime = .ok () ↔
      tx.timestamp ≤ currentTime ∧ currentTime ≤ tx.timestamp + 3600000 := by
  have h64 : u64Size = 18446744073709551616 := rfl
  rw [validateTransaction_of_verify hv, wrappingAdd_of_lt hmax]
  dsimp only [Timestamp] at *
  rcases Nat.lt_or_ge currentTime tx.timestamp with hlt | hle
  · rw [wrappingSub_of_lt hlt hts]
    split_ifs <;> simp <;> omega
  · rw [wrappingSub_of_le hle (by omega)]
    split_ifs <;> simp <;> omega

end Checks

def aheadTransfer : Transaction := { sampleTransfer 1 1 with timestamp := 1001 }

theorem one_millisecond_ahead_rejected :
    (aheadTransfer.timestamp ≤ 1000 + 60000 ∧ 1000 ≤ aheadTransfer.timestamp + 3600000) ∧
    validateTransaction aheadTransfer 1000 = .error (.message "Transaction too old") :=
  ⟨by decide, slightly_future_transaction_too_old (by decide) (by decide) (by decide) (by decide)⟩

theorem validateTransactionAgainstState_eq_ok {v : Validator} {tx : Transaction} :
    v.validateTransactionAgainstState tx = .ok () ↔
      wrappingAdd tx.amount tx.fee ≤ v.state.getBalance tx.from ∧ tx.nonce = wrappingAdd (v.state.getNonce tx.from) 1 := by
  unfold validateTransactionAgainstState
  split_ifs <;> simp_all

section BlockTransactions

variable {v : Validator} {currentTime : Timestamp}

theorem validateBlockTransactionsLoop_cons_eq_ok {tx : Transaction} {rest : List Transaction} {seen : List Hash}
    {nonces : Address → Option Nat} :
    v.validateBlockTransactionsLoop C currentTime (tx :: rest) seen nonces = .ok () ↔
      tx.hash C ∉ seen ∧ validateTransaction tx currentTime = .ok () ∧
      tx.nonce = wrappingAdd ((nonces tx.from).getD (v.state.getNonce tx.from)) 1 ∧
      wrappingAdd tx.amount tx.fee ≤ v.state.getBalance tx.from ∧
      v.validateBlockTransactionsLoop C currentTime rest (tx.hash C :: seen)
        (Function.update nonces tx.from (some tx.nonce)) = .ok () := by
  simp only [validateBlockTransactionsLoop]
  by_cases hs : tx.hash C ∈ seen
  · simp [hs]
  cases hv : validateTransaction tx currentTime with
  | error e => simp [hs]
  | ok u => split_ifs <;> simp_all

def nonceChain (nonce : Nat) : Nat → List Nat
  | 0 => []
  | k + 1 => wrappingAdd nonce 1 :: nonceChain (wrappingAdd nonce 1) k

theorem nonceChain_of_lt {n k : Nat} (h : n + k < u64Size) :
    nonceChain n k = (List.range k).map fun i => n + i + 1 := by
  induction k generalizing n with
  | zero => rfl
  | succ k ih =>
      rw [nonceChain, wrappingAdd_of_lt (by omega), ih (by omega), List.range_succ_eq_map, List.map_cons,
        List.map_map]
      congr 1
      exact List.map_congr_left fun i _ => by simp only [Function.comp, Nat.succ_eq_add_one]; omega

structure BlockTransactionsChecked (v : Validator) (currentTime : Timestamp) (start : Address → Nat)
    (txs : List Transaction) : Prop where
  distinct : (txs.map (Transaction.hash C)).Nodup
  valid : ∀ tx ∈ txs, validateTransaction tx currentTime = .ok ()
  funded : ∀ tx ∈ txs, wrappingAdd tx.amount tx.fee ≤ v.state.getBalance tx.from
  nonces : ∀ a, ((txs.filter fun tx => tx.from = a).map (·.nonce)) =
    nonceChain (start a) (txs.countP fun tx => tx.from = a)

theorem validateBlockTransactionsLoop_sound :
    ∀ {txs : List Transaction} {seen : List Hash} {nonces : Address → Option Nat},
      v.validateBlockTransactionsLoop C currentTime txs seen nonces = .ok () →
        (∀ tx ∈ txs, tx.hash C ∉ seen) ∧
          BlockTransactionsChecked C v currentTime (fun a => (nonces a).getD (v.state.getNonce a)) txs
  | [], _, _, _ => ⟨by simp, ⟨List.nodup_nil, by simp, by simp, fun _ => rfl⟩⟩
  | tx :: rest, seen, nonces, h => by
      obtain ⟨hs, hv, hn, hb, hr⟩ := validateBlockTransactionsLoop_cons_eq_ok C |>.mp h
      obtain ⟨hfresh, hd, hvs, hbs, hns⟩ := validateBlockTransactionsLoop_sound hr
      have hnew : ∀ t ∈ rest, t.hash C ≠ tx.hash C := fun t ht he => hfresh t ht (he ▸ List.mem_cons_self _ _)
      refine ⟨fun t ht => ?_, ⟨?_, ?_, ?_, fun a => ?_⟩⟩
      · rcases List.mem_cons.mp ht with rfl | ht
        exacts [hs, fun hm => hfresh t ht (List.mem_cons_of_mem _ hm)]
      · rw [List.map_cons, List.nodup_cons]
        exact ⟨fun hm => by obtain ⟨t, ht, he⟩ := List.mem_map.mp hm; exact hnew t ht he, hd⟩
      · exact List.forall_mem_cons.mpr ⟨hv, hvs⟩
      · exact List.forall_mem_cons.mpr ⟨hb, hbs⟩
      · by_cases ha : tx.from = a
        · subst ha
          rw [List.filter_cons_of_pos (by simp), List.countP_cons_of_pos _ _ (by simp), List.map_cons, nonceChain,
            ← hn, hns]
          simp
        · rw [List.filter_cons_of_neg (by simpa using ha), List.countP_cons_of_neg _ _ (by simpa using ha), hns,
            Function.update_noteq (Ne.symm ha)]

theorem validateBlockTransactions_sound {block : Block} (h : v.validateBlockTransactions C block currentTime = .ok ()) :
    BlockTransactionsChecked C v currentTime v.state.getNonce block.transactions :=
  (validateBlockTransactionsLoop_sound C h).2

theorem block_nonces_consecutive {block : Block} (h : v.validateBlockTransactions C block currentTime = .ok ())
    (a : Address) (hk : v.state.getNonce a + block.transactions.countP (fun tx => tx.from = a) < u64Size) :
    (block.transactions.filter fun tx => tx.from = a).map (·.nonce) =
      (List.range (block.transactions.countP fun tx => tx.from = a)).map fun i => v.state.getNonce a + i + 1 := by
  rw [(validateBlockTransactions_sound C h).nonces a, nonceChain_of_lt hk]

end BlockTransactions

def emptyValidator : Validator := ⟨Storage.empty, ⟨fun _ => none⟩⟩

def wrappingTransfer : Transaction := { sampleTransfer 1 1 with amount := u64Size - 1, fee := 1, nonce := 1 }

theorem wrapped_sum_passes_balance_checks :
    emptyValidator.validateTransactionAgainstState wrappingTransfer = .ok () ∧
    emptyValidator.validateBlockTransactions sampleCodec
      { sampleBlock "a" 1 0 with transactions := [wrappingTransfer] } 0 = .ok () ∧
    emptyValidator.state.getBalance wrappingTransfer.from < wrappingTransfer.amount + wrappingTransfer.fee ∧
    u64Size ≤ wrappingTransfer.amount + wrappingTransfer.fee := by
  decide

def applyTransfers (balances : Address → Int) : List Transaction → Address → Int
  | [] => balances
  | tx :: rest =>
      let debited := Function.update balances tx.from (balances tx.from - (tx.amount + tx.fee))
      applyTransfers (Function.update debited tx.to (debited tx.to + tx.amount)) rest

def fundedState : StateStore := ⟨fun a => if a = 1 then some ⟨100, 0⟩ else none⟩

def doubleSpendBlock : Block :=
  { sampleBlock "a" 1 0 with
    transactions := [{ sampleTransfer 1 1 with amount := 50, nonce := 1 }, { sampleTransfer 2 1 with amount := 50, nonce := 2 }] }

theorem block_overdraws_sender :
    (⟨Storage.empty, fundedState⟩ : Validator).validateBlockTransactions sampleCodec doubleSpendBlock 0 = .ok () ∧
    applyTransfers (fun a => fundedState.getBalance a) doubleSpendBlock.transactions 1 < 0 := by
  decide

def ceilingState : StateStore := ⟨fun a => if a = 1 then some ⟨100, u64Size - 1⟩ else none⟩

def ceilingBlock : Block := { sampleBlock "a" 1 0 with transactions := [{ sampleTransfer 1 1 with nonce := 0 }] }

theorem nonce_wraps_at_ceiling :
    (⟨Storage.empty, ceilingState⟩ : Validator).validateBlockTransactions sampleCodec ceilingBlock 0 = .ok () ∧
    ceilingBlock.transactions.map (·.nonce) ≠ [ceilingState.getNonce 1 + 1] := by
  decide

theorem validateConsensusSignatures_eq_ok {block : Block} {validatorSet : List NodeId} :
    validateConsensusSignatures block validatorSet = .ok () ↔
      block.signatures ≠ [] ∧ quorumSize validatorSet.length ≤ block.signatures.length ∧
        ∀ sig ∈ block.signatures, sig.validatorId ∈ validatorSet := by
  unfold validateConsensusSignatures
  split_ifs <;> simp_all [List.isEmpty_iff]

theorem one_validator_meets_signature_quorum {block : Block} {validatorSet : List NodeId} {sig : ValidatorSignature}
    (hmem : sig.validatorId ∈ validatorSet) (hs : block.signatures = List.replicate (quorumSize validatorSet.length) sig) :
    validateConsensusSignatures block validatorSet = .ok () := by
  refine validateConsensusSignatures_eq_ok.mpr ⟨?_, ?_, fun s hsig => ?_⟩
  · rw [hs, ← List.length_pos, List.length_replicate]
    exact Nat.succ_pos _
  · rw [hs, List.length_replicate]
  · rw [hs] at hsig
    rw [List.eq_of_mem_replicate hsig]
    exact hmem

def repeatedSignatureBlock : Block :=
  { sampleBlock "a" 1 0 with signatures := List.replicate 3 ⟨"a", 0, 0⟩ }

theorem repeated_signature_block_accepted :
    (repeatedSignatureBlock.signatures.map (·.validatorId)).dedup.length = 1 ∧
    validateConsensusSignatures repeatedSignatureBlock ["a", "b", "c", "d"] = .ok () :=
  ⟨by decide, @one_validator_meets_signature_quorum _ _ ⟨"a", 0, 0⟩ (by decide) rfl⟩

end Validator

end BlockchainNode

import BlockchainNode.StateStore
import BlockchainNode.ColumnStorage

namespace BlockchainNode

structure AccountRecord where
  balance : Nat
  nonce : Nat
  codeHash : Option Hash
  storageRoot : Hash
  deriving DecidableEq, Repr

namespace AccountRecord

def default : AccountRecord := ⟨0, 0, none, 0⟩

def toAccountState (r : AccountRecord) : AccountState := ⟨r.balance, r.nonce⟩

def codeHashBytes : Option Hash → List Nat
  | none => [0]
  | some hash => 1 :: hashBytes hash

def serialize (r : AccountRecord) : List Nat :=
  u64Bytes r.balance ++ u64Bytes r.nonce ++ codeHashBytes r.codeHash ++ hashBytes r.storageRoot

def deserializeCodeHash : List Nat → Option (Option Hash × List Nat)
  | 0 :: rest => some (none, rest)
  | 1 :: rest => (hashOfBytes rest).map fun hash => (some hash, rest.drop 32)
  | _ => none

def deserialize (data : List Nat) : Option AccountRecord := do
  let balance ← u64OfBytes data
  let nonce ← u64OfBytes (data.drop 8)
  let (codeHash, rest) ← deserializeCodeHash (data.drop 16)
  let storageRoot ← hashOfBytes rest
  pure ⟨balance, nonce, codeHash, storageRoot⟩

def fits (r : AccountRecord) : Bool :=
  decide (r.balance < u64Size) && decide (r.nonce < u64Size) && r.codeHash.all (fun hash => decide (hash < 256 ^ 32)) &&
    decide (r.storageRoot < 256 ^ 32)

end AccountRecord

def accountPrefix : List Nat := "acc_".toList.map Char.toNat

structure StateColumn where
  state : ColumnFamily (List Nat)

inductive StateOp where
  | setAccount (address : Address) (state : AccountRecord)
  | setBalance (address : Address) (balance : Nat)
  | incrementNonce (address : Address)
  | transfer («from» «to» : Address) (amount : Nat)
  | setStateRoot (height : BlockHeight) (root : Hash)
  | createSnapshot (height : BlockHeight)

variable (sha256 : List Nat → Hash)

namespace StateColumn

def empty : StateColumn := ⟨ColumnFamily.empty⟩

def accountKey (address : Address) : List Nat := accountPrefix ++ addressBytes address

def stateRootKey (height : BlockHeight) : List Nat := intoBytes ("root_" ++ zeroPadded 16 height)

def parseAccountKey (key : List Nat) : Except String Address :=
  if key.length == 24 && accountPrefix.isPrefixOf key then .ok ((key.drop 4).foldl (fun acc b => acc * 256 + b) 0)
  else .error "Invalid account key format"

def getAccount (s : StateColumn) (address : Address) : Except String (Option AccountRecord) :=
  match s.state.getCf (accountKey address) with
  | some data =>
      match AccountRecord.deserialize data with
      | some state => .ok (some state)
      | none => .error "Failed to deserialize account state"
  | none => .ok none

def setAccount (s : StateColumn) (address : Address) (state : AccountRecord) : StateColumn :=
  ⟨s.state.putCf (accountKey address) state.serialize⟩

def getBalance (s : StateColumn) (address : Address) : Except String Nat := do
  match ← s.getAccount address with
  | some state => pure state.balance
  | none => pure 0

def setBalance (s : StateColumn) (address : Address) (balance : Nat) : Except String StateColumn := do
  let state := (← s.getAccount address).getD .default
  pure (s.setAccount address { state with balance })

def getNonce (s : StateColumn) (address : Address) : Except String Nat := do
  match ← s.getAccount address with
  | some state => pure state.nonce
  | none => pure 0

def incrementNonce (s : StateColumn) (address : Address) : Except String StateColumn := do
  let state := (← s.getAccount address).getD .default
  pure (s.setAccount address { state with nonce := wrappingAdd state.nonce 1 })

def transfer (s : StateColumn) («from» «to» : Address) (amount : Nat) : StateColumn × Except String Unit :=
  match s.getBalance «from», s.getBalance «to» with
  | .error e, _ => (s, .error e)
  | .ok _, .error e => (s, .error e)
  | .ok fromBalance, .ok toBalance =>
      if fromBalance < amount then (s, .error "Insufficient balance")
      else
        match s.setBalance «from» (fromBalance - amount) with
        | .error e => (s, .error e)
        | .ok s₁ =>
            match s₁.setBalance «to» (wrappingAdd toBalance amount) with
            | .error e => (s₁, .error e)
            | .ok s₂ => (s₂, .ok ())

def getStateRoot (s : StateColumn) (height : BlockHeight) : Except String (Option Hash) :=
  match s.state.getCf (stateRootKey height) with
  | some data => if data.length = 32 then .ok (hashOfBytes data) else .error "Invalid state root hash length"
  | none => .ok none

def setStateRoot (s : StateColumn) (height : BlockHeight) (root : Hash) : StateColumn :=
  ⟨s.state.putCf (stateRootKey height) (hashBytes root)⟩

def hashAccount (input : List Nat) (entry : List Nat × List Nat) : List Nat :=
  if accountPrefix.isPrefixOf entry.1 then input ++ entry.1 ++ entry.2 else input

def calculateStateRoot (s : StateColumn) : Hash := sha256 ((s.state.iteratorCf .start).foldl hashAccount [])

def collectAccount (accounts : Address → Option AccountRecord) (entry : List Nat × List Nat) :
    Address → Option AccountRecord :=
  if accountPrefix.isPrefixOf entry.1 then
    match parseAccountKey entry.1, AccountRecord.deserialize entry.2 with
    | .ok address, some state => Function.update accounts address (some state)
    | _, _ => accounts
  else accounts

def getAllAccounts (s : StateColumn) : Address → Option AccountRecord :=
  (s.state.iteratorCf .start).foldl collectAccount fun _ => none

def createSnapshot (s : StateColumn) (height : BlockHeight) : StateColumn :=
  let stateRoot := s.calculateStateRoot sha256
  s.setStateRoot height stateRoot

def apply (s : StateColumn) : StateOp → StateColumn
  | .setAccount address state => s.setAccount address state
  | .setBalance address balance =>
      match s.setBalance address balance with
      | .ok s' => s'
      | .error _ => s
  | .incrementNonce address =>
      match s.incrementNonce address with
      | .ok s' => s'
      | .error _ => s
  | .transfer «from» «to» amount => (s.transfer «from» «to» amount).1
  | .setStateRoot height root => s.setStateRoot height root
  | .createSnapshot height => s.createSnapshot sha256 height

def run (s : StateColumn) (ops : List StateOp) : StateColumn := ops.foldl (apply sha256) s

end StateColumn

section Format

theorem u64OfBytes_append {data : List Nat} (hlen : data.length = 8) (rest : List Nat) :
    u64OfBytes (data ++ rest) = u64OfBytes data := by
  rw [u64OfBytes, u64OfBytes, List.take_left' hlen, List.take_of_length_le hlen.le, if_pos hlen.ge,
    if_pos (by simp [hlen])]

theorem hashOfBytes_append {data : List Nat} (hlen : data.length = 32) (rest : List Nat) :
    hashOfBytes (data ++ rest) = hashOfBytes data := by
  rw [hashOfBytes, hashOfBytes, List.take_left' hlen, List.take_of_length_le hlen.le, if_pos hlen.ge,
    if_pos (by simp [hlen])]

theorem hashBytes_length (hash : Hash) : (hashBytes hash).length = 32 := baseDigits_length 256 32 hash

namespace AccountRecord

theorem deserializeCodeHash_codeHashBytes {codeHash : Option Hash} (h : codeHash.all (fun hash => decide (hash < 256 ^ 32)))
    (rest : List Nat) : deserializeCodeHash (codeHashBytes codeHash ++ rest) = some (codeHash, rest) := by
  cases codeHash with
  | none => rfl
  | some hash =>
      simp only [Option.all_some, decide_eq_true_eq] at h
      simp only [codeHashBytes, List.cons_append, deserializeCodeHash, hashOfBytes_append (hashBytes_length hash),
        hashOfBytes_hashBytes h, Option.map_some', List.drop_left' (hashBytes_length hash)]

theorem deserialize_serialize {r : AccountRecord} (h : r.fits = true) (rest : List Nat) :
    deserialize (r.serialize ++ rest) = some r := by
  simp only [fits, Bool.and_eq_true, decide_eq_true_eq] at h
  obtain ⟨⟨⟨hb, hn⟩, hc⟩, hs⟩ := h
  have h16 : (u64Bytes r.balance ++ u64Bytes r.nonce).length = 16 := by simp [u64Bytes_length]
  simp only [deserialize, serialize, List.append_assoc, u64OfBytes_append (u64Bytes_length _), u64OfBytes_u64Bytes hb,
    List.drop_left' (u64Bytes_length _), u64OfBytes_u64Bytes hn]
  rw [← List.append_assoc (u64Bytes r.balance), List.drop_left' h16, deserializeCodeHash_codeHashBytes hc]
  simp only [Option.bind_eq_bind, Option.some_bind, hashOfBytes_append (hashBytes_length _), hashOfBytes_hashBytes hs]
  rfl

end AccountRecord

namespace StateColumn

theorem accountKey_length (address : Address) : (accountKey address).length = 24 := by
  simp [accountKey, accountPrefix, addressBytes, baseDigits_length]

theorem isPrefixOf_accountKey (address : Address) : accountPrefix.isPrefixOf (accountKey address) = true :=
  List.isPrefixOf_iff_prefix.mpr (List.prefix_append _ _)

theorem accountKey_injective {a b : Address} (ha : a < 256 ^ 20) (hb : b < 256 ^ 20) (h : accountKey a = accountKey b) :
    a = b := by
  have := baseDigits_mod (List.append_cancel_left h)
  rwa [Nat.mod_eq_of_lt ha, Nat.mod_eq_of_lt hb] at this

theorem parseAccountKey_accountKey {address : Address} (h : address < 256 ^ 20) :
    parseAccountKey (accountKey address) = .ok address := by
  rw [parseAccountKey, if_pos (by simp [accountKey_length, isPrefixOf_accountKey]), accountKey,
    List.drop_left' (show accountPrefix.length = 4 from rfl), addressBytes, baseDigits_foldl, Nat.mod_eq_of_lt h, Nat.zero_mul, Nat.zero_add]

theorem stateRootKey_eq (height : BlockHeight) :
    stateRootKey height = "root_".toList.map Char.toNat ++ (zeroPadded 16 height).toList.map Char.toNat := by
  rw [stateRootKey, intoBytes_append, intoBytes_of_lt (by decide),
    intoBytes_of_lt fun c hc => isDigit_lt (zeroPadded_isDigit 16 height c hc)]

theorem stateRootKey_injective : Function.Injective stateRootKey := by
  intro a b h
  rw [stateRootKey_eq, stateRootKey_eq] at h
  have hinj : Function.Injective Char.toNat := fun c d e => by rw [← Char.ofNat_toNat c, e, Char.ofNat_toNat]
  have hchars := List.map_injective_iff.mpr hinj (List.append_cancel_left h)
  rw [← decimalValue_zeroPadded 16 a, hchars, decimalValue_zeroPadded]

theorem isPrefixOf_stateRootKey (height : BlockHeight) : accountPrefix.isPrefixOf (stateRootKey height) = false := by
  rw [stateRootKey_eq]
  rfl

theorem account_entry_round_trip {r : AccountRecord} (hr : r.fits = true) (rest : List Nat) {address : Address}
    (ha : address < 256 ^ 20) :
    AccountRecord.deserialize (r.serialize ++ rest) = some r ∧ parseAccountKey (accountKey address) = .ok address :=
  ⟨AccountRecord.deserialize_serialize hr rest, parseAccountKey_accountKey ha⟩

theorem sample_account_round_trip :
    (⟨5, 1, some 9, 3⟩ : AccountRecord).fits = true ∧ (7 : Address) < 256 ^ 20 ∧
      AccountRecord.deserialize ((⟨5, 1, some 9, 3⟩ : AccountRecord).serialize ++ [1, 2]) = some ⟨5, 1, some 9, 3⟩ ∧
      parseAccountKey (accountKey 7) = .ok 7 :=
  ⟨by decide, by decide, account_entry_round_trip (by decide) [1, 2] (by decide)⟩

theorem accountKey_ne_stateRootKey (address : Address) (height : BlockHeight) : accountKey address ≠ stateRootKey height :=
  fun h => by simpa [h, isPrefixOf_stateRootKey] using isPrefixOf_accountKey address

end StateColumn

end Format

section Roots

namespace StateColumn

theorem foldl_hashAccount (l : List (List Nat × List Nat)) (input : List Nat) :
    l.foldl hashAccount input =
      input ++ (l.filter fun e => accountPrefix.isPrefixOf e.1).flatMap fun e => e.1 ++ e.2 := by
  induction l generalizing input with
  | nil => simp
  | cons e l ih =>
      rw [List.foldl_cons, ih, hashAccount, List.filter_cons]
      split <;> simp

theorem calculateStateRoot_eq (s : StateColumn) :
    s.calculateStateRoot sha256 =
      sha256 ((s.state.entries.filter fun e => accountPrefix.isPrefixOf e.1).flatMap fun e => e.1 ++ e.2) := by
  rw [calculateStateRoot, ColumnFamily.iteratorCf, foldl_hashAccount, List.nil_append]

theorem filter_insertEntry {key : List Nat} (hk : accountPrefix.isPrefixOf key = false) (value : List Nat) :
    ∀ l : List (List Nat × List Nat), (ColumnFamily.insertEntry key value l).filter (fun e => accountPrefix.isPrefixOf e.1) =
      l.filter fun e => accountPrefix.isPrefixOf e.1
  | [] => by simp [ColumnFamily.insertEntry, hk]
  | (k, v) :: rest => by
      unfold ColumnFamily.insertEntry
      split_ifs with hlt heq
      · simp [List.filter_cons, hk]
      · subst heq
        simp [List.filter_cons, hk]
      · rw [List.filter_cons, List.filter_cons, filter_insertEntry hk value rest]

variable (s : StateColumn) (height : BlockHeight)

theorem calculateStateRoot_setStateRoot (root : Hash) :
    (s.setStateRoot height root).calculateStateRoot sha256 = s.calculateStateRoot sha256 := by
  simp only [calculateStateRoot_eq, setStateRoot, ColumnFamily.putCf, filter_insertEntry (isPrefixOf_stateRootKey height)]

theorem getStateRoot_setStateRoot {root : Hash} (h : root < 256 ^ 32) :
    (s.setStateRoot height root).getStateRoot height = .ok (some root) := by
  rw [getStateRoot, setStateRoot, ColumnFamily.getCf_putCf, if_pos rfl]
  dsimp only
  rw [if_pos (hashBytes_length root), hashOfBytes_hashBytes h]

theorem getStateRoot_setStateRoot_of_ne {height' : BlockHeight} (hne : height' ≠ height) (root : Hash) :
    (s.setStateRoot height root).getStateRoot height' = s.getStateRoot height' := by
  rw [getStateRoot, getStateRoot, setStateRoot, ColumnFamily.getCf_putCf, if_neg (stateRootKey_injective.ne hne)]

theorem getAccount_setStateRoot (root : Hash) (address : Address) :
    (s.setStateRoot height root).getAccount address = s.getAccount address := by
  rw [getAccount, getAccount, setStateRoot, ColumnFamily.getCf_putCf, if_neg (accountKey_ne_stateRootKey address height)]

theorem snapshot_records_state_root {sha256 : List Nat → Hash} (hsha : ∀ data, sha256 data < 256 ^ 32) :
    (s.createSnapshot sha256 height).getStateRoot height = .ok (some (s.calculateStateRoot sha256)) ∧
      (s.createSnapshot sha256 height).calculateStateRoot sha256 = s.calculateStateRoot sha256 ∧
      (∀ height' ≠ height, (s.createSnapshot sha256 height).getStateRoot height' = s.getStateRoot height') ∧
      ∀ address, (s.createSnapshot sha256 height).getAccount address = s.getAccount address :=
  ⟨getStateRoot_setStateRoot s height (hsha _), calculateStateRoot_setStateRoot sha256 s height _,
    fun _ hne => getStateRoot_setStateRoot_of_ne s height hne _, getAccount_setStateRoot s height _⟩

def sampleDigest (data : List Nat) : Hash := data.sum % 256 ^ 32

theorem sample_snapshot_root :
    (∀ data, sampleDigest data < 256 ^ 32) ∧
      ((empty.setAccount 7 ⟨40, 2, none, 0⟩).createSnapshot sampleDigest 3).getStateRoot 3 =
        .ok (some ((empty.setAccount 7 ⟨40, 2, none, 0⟩).calculateStateRoot sampleDigest)) ∧
      ((empty.setAccount 7 ⟨40, 2, none, 0⟩).createSnapshot sampleDigest 3).calculateStateRoot sampleDigest =
        (empty.setAccount 7 ⟨40, 2, none, 0⟩).calculateStateRoot sampleDigest ∧
      (∀ height' ≠ 3, ((empty.setAccount 7 ⟨40, 2, none, 0⟩).createSnapshot sampleDigest 3).getStateRoot height' =
        (empty.setAccount 7 ⟨40, 2, none, 0⟩).getStateRoot height') ∧
      ∀ address, ((empty.setAccount 7 ⟨40, 2, none, 0⟩).createSnapshot sampleDigest 3).getAccount address =
        (empty.setAccount 7 ⟨40, 2, none, 0⟩).getAccount address :=
  have hsha : ∀ data, sampleDigest data < 256 ^ 32 := fun _ => Nat.mod_lt _ (by norm_num)
  ⟨hsha, snapshot_records_state_root _ 3 hsha⟩

end StateColumn

end Roots

end BlockchainNode

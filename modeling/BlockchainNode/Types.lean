import Mathlib.Data.List.AList
import Mathlib.Algebra.Order.Ring.Nat

namespace BlockchainNode

abbrev Hash := Nat
abbrev Address := Nat
abbrev Signature := Nat
abbrev PublicKey := Nat
abbrev NodeId := String
abbrev BlockHeight := Nat
abbrev Timestamp := Nat
abbrev Uuid := Nat

def u64Size : Nat := 2 ^ 64

def wrappingAdd (a b : Nat) : Nat := (a + b) % u64Size

def wrappingSub (a b : Nat) : Nat := (a + (u64Size - b % u64Size)) % u64Size

def wrappingMul (a b : Nat) : Nat := (a * b) % u64Size

section U64

variable {a b : Nat}

theorem wrappingAdd_of_lt (h : a + b < u64Size) : wrappingAdd a b = a + b := Nat.mod_eq_of_lt h

theorem wrappingSub_of_le (hb : b ≤ a) (ha : a < u64Size) : wrappingSub a b = a - b := by
  unfold wrappingSub
  rw [Nat.mod_eq_of_lt (by omega : b < u64Size), show a + (u64Size - b) = a - b + u64Size by omega,
    Nat.add_mod_right, Nat.mod_eq_of_lt (by omega)]

theorem wrappingSub_of_lt (h : a < b) (hb : b < u64Size) : wrappingSub a b = a + u64Size - b := by
  unfold wrappingSub
  rw [Nat.mod_eq_of_lt hb, Nat.mod_eq_of_lt (by omega)]
  omega

end U64

structure Transaction where
  id : Uuid
  «from» : Address
  «to» : Address
  amount : Nat
  fee : Nat
  nonce : Nat
  timestamp : Timestamp
  signature : Signature
  data : List UInt8
  deriving DecidableEq, Repr

structure BlockHeader where
  height : BlockHeight
  previousHash : Hash
  merkleRoot : Hash
  stateRoot : Hash
  timestamp : Timestamp
  proposer : NodeId
  round : Nat
  view : Nat
  deriving DecidableEq, Repr

structure ValidatorSignature where
  validatorId : NodeId
  signature : Signature
  publicKey : PublicKey
  deriving DecidableEq, Repr

structure Block where
  header : BlockHeader
  transactions : List Transaction
  signatures : List ValidatorSignature
  deriving DecidableEq, Repr

inductive VoteType where
  | prepare
  | commit
  deriving DecidableEq, Repr

inductive ConsensusMessage where
  | propose (block : Block) (round view : Nat)
  | vote (blockHash : Hash) (voteType : VoteType) (round view : Nat) (validatorId : NodeId)
      (signature : Signature)
  | viewChange (newView : Nat) (validatorId : NodeId) (signature : Signature)
  | newView (view : Nat) (viewChangeMessages : List ConsensusMessage)
  deriving Repr

mutual
def ConsensusMessage.decEq : (a b : ConsensusMessage) → Decidable (a = b)
  | .propose b r v, .propose b' r' v' =>
      if h : b = b' ∧ r = r' ∧ v = v' then isTrue (by obtain ⟨rfl, rfl, rfl⟩ := h; rfl)
      else isFalse (by intro e; cases e; exact h ⟨rfl, rfl, rfl⟩)
  | .vote h t r v i s, .vote h' t' r' v' i' s' =>
      if e : h = h' ∧ t = t' ∧ r = r' ∧ v = v' ∧ i = i' ∧ s = s' then
        isTrue (by obtain ⟨rfl, rfl, rfl, rfl, rfl, rfl⟩ := e; rfl)
      else isFalse (by intro e'; cases e'; exact e ⟨rfl, rfl, rfl, rfl, rfl, rfl⟩)
  | .viewChange v i s, .viewChange v' i' s' =>
      if e : v = v' ∧ i = i' ∧ s = s' then isTrue (by obtain ⟨rfl, rfl, rfl⟩ := e; rfl)
      else isFalse (by intro e'; cases e'; exact e ⟨rfl, rfl, rfl⟩)
  | .newView v ms, .newView v' ms' =>
      match Nat.decEq v v', ConsensusMessage.decEqList ms ms' with
      | isTrue rfl, isTrue rfl => isTrue rfl
      | isFalse n, _ => isFalse (by intro e; cases e; exact n rfl)
      | _, isFalse n => isFalse (by intro e; cases e; exact n rfl)
  | .propose .., .vote .. | .propose .., .viewChange .. | .propose .., .newView ..
  | .vote .., .propose .. | .vote .., .viewChange .. | .vote .., .newView ..
  | .viewChange .., .propose .. | .viewChange .., .vote .. | .viewChange .., .newView ..
  | .newView .., .propose .. | .newView .., .vote .. | .newView .., .viewChange .. =>
      isFalse (by intro e; cases e)
def ConsensusMessage.decEqList : (a b : List ConsensusMessage) → Decidable (a = b)
  | [], [] => isTrue rfl
  | [], _ :: _ | _ :: _, [] => isFalse (by intro e; cases e)
  | x :: xs, y :: ys =>
      match ConsensusMessage.decEq x y, ConsensusMessage.decEqList xs ys with
      | isTrue rfl, isTrue rfl => isTrue rfl
      | isFalse n, _ => isFalse (by intro e; cases e; exact n rfl)
      | _, isFalse n => isFalse (by intro e; cases e; exact n rfl)
end

instance : DecidableEq ConsensusMessage := ConsensusMessage.decEq

section AListLookup

variable {κ V : Type} [DecidableEq κ] {s : AList (fun _ : κ => V)} {a x : κ} {b t : V}

theorem lookup_erase_iff : (s.erase a).lookup x = some t ↔ x ≠ a ∧ s.lookup x = some t := by
  by_cases h : x = a
  · subst h
    simp [AList.lookup_erase]
  · simp [AList.lookup_erase_ne h, h]

theorem lookup_insert_iff : (s.insert a b).lookup x = some t ↔ (x = a ∧ b = t) ∨ (x ≠ a ∧ s.lookup x = some t) := by
  by_cases h : x = a
  · subst h
    simp [AList.lookup_insert]
  · simp [AList.lookup_insert_ne h, h]

end AListLookup

instance instDecidableEqExcept {ε α : Type} [DecidableEq ε] [DecidableEq α] : DecidableEq (Except ε α)
  | .ok a, .ok b => decidable_of_iff (a = b) (by simp)
  | .error a, .error b => decidable_of_iff (a = b) (by simp)
  | .ok _, .error _ => isFalse Except.noConfusion
  | .error _, .ok _ => isFalse Except.noConfusion

structure Outcome (σ : Type) where
  state : σ
  sent : List ConsensusMessage
  result : Except String Unit

structure Codec where
  sha256Block : Block → Hash
  sha256Transaction : Transaction → Hash
  sha256Pair : Hash → Hash → Hash
  serializedSize : Transaction → Nat
  serializedBlockSize : Block → Nat

variable (C : Codec)

def Transaction.hash (tx : Transaction) : Hash :=
  C.sha256Transaction { tx with signature := 0 }

def Transaction.verify (tx : Transaction) : Bool :=
  decide (0 < tx.amount) && decide (0 < tx.fee) && tx.from != tx.to

def Transaction.priority (tx : Transaction) : Nat := tx.fee

def Block.hash (b : Block) : Hash := C.sha256Block b

def merkleLevel : List Hash → List Hash
  | [] => []
  | [a] => [C.sha256Pair a a]
  | a :: b :: rest => C.sha256Pair a b :: merkleLevel rest

def merkleReduce : Nat → List Hash → Hash
  | _, [] => 0
  | _, [h] => h
  | 0, h :: _ => h
  | fuel + 1, hs => merkleReduce fuel (merkleLevel C hs)

def Block.calculateMerkleRoot (b : Block) : Hash :=
  if b.transactions.isEmpty then 0
  else merkleReduce C b.transactions.length (b.transactions.map (Transaction.hash C))

def Block.verify (b : Block) : Bool :=
  b.calculateMerkleRoot C == b.header.merkleRoot && b.transactions.all Transaction.verify

def sampleCodec : Codec where
  sha256Block b := b.header.timestamp
  sha256Transaction tx := tx.id + 1000 * tx.from
  sha256Pair a b := a + b
  serializedSize tx := 100 + tx.data.length
  serializedBlockSize b := 200 + 100 * b.transactions.length

def sampleBlock (proposer : NodeId) (height timestamp : Nat) : Block where
  header := ⟨height, 0, 0, 0, timestamp, proposer, 0, 0⟩
  transactions := []
  signatures := []

def sampleTransfer (txId : Uuid) (sender : Address) : Transaction where
  id := txId
  «from» := sender
  «to» := 999
  amount := 10
  fee := 10
  nonce := 0
  timestamp := 0
  signature := 0
  data := []

structure ConsensusConfig where
  nodeId : NodeId
  isValidator : Bool
  validatorSet : List NodeId
  blockTimeMs : Nat
  maxBlockSize : Nat
  maxTransactionsPerBlock : Nat
  deriving DecidableEq, Repr

def validatorConfig (nodeId : NodeId) (validatorSet : List NodeId) : ConsensusConfig where
  nodeId := nodeId
  isValidator := true
  validatorSet := validatorSet
  blockTimeMs := 1000
  maxBlockSize := 1048576
  maxTransactionsPerBlock := 100

end BlockchainNode

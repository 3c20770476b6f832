import BlockchainNode.Types
import Mathlib.Data.Nat.Pairing

namespace BlockchainNode

variable (C : Codec)

def Codec.PairInjective : Prop := ∀ a b c d, C.sha256Pair a b = C.sha256Pair c d → a = c ∧ b = d

def pairingCodec : Codec := { sampleCodec with sha256Pair := Nat.pair }

theorem pairingCodec_pairInjective : pairingCodec.PairInjective := fun _ _ _ _ h => Nat.pair_eq_pair.mp h

theorem merkleLevel_length (hs : List Hash) : (merkleLevel C hs).length = (hs.length + 1) / 2 := by
  induction hs using merkleLevel.induct C with
  | case1 => rfl
  | case2 a => simp [merkleLevel]
  | case3 a b rest ih =>
      simp only [merkleLevel, List.length_cons, ih]
      omega

@[simp] theorem merkleReduce_nil (fuel : Nat) : merkleReduce C fuel [] = 0 := by
  cases fuel <;> rfl

@[simp] theorem merkleReduce_singleton (fuel : Nat) (h : Hash) : merkleReduce C fuel [h] = h := by
  cases fuel <;> rfl

theorem merkleReduce_step (fuel : Nat) (a b : Hash) (rest : List Hash) :
    merkleReduce C (fuel + 1) (a :: b :: rest) = merkleReduce C fuel (merkleLevel C (a :: b :: rest)) := rfl

theorem merkleReduce_succ (fuel : Nat) (hs : List Hash) (h : 2 ≤ hs.length) :
    merkleReduce C (fuel + 1) hs = merkleReduce C fuel (merkleLevel C hs) := by
  match hs, h with
  | _ :: _ :: _, _ => rfl

theorem merkleReduce_fuel_congr :
    ∀ (fuel fuel' : Nat) (hs : List Hash), hs.length ≤ fuel + 1 → hs.length ≤ fuel' + 1 →
      merkleReduce C fuel hs = merkleReduce C fuel' hs
  | _, _, [], _, _ => by simp
  | _, _, [_], _, _ => by simp
  | 0, _, _ :: _ :: _, h, _ => by simp at h
  | _ + 1, 0, _ :: _ :: _, _, h => by simp at h
  | fuel + 1, fuel' + 1, a :: b :: rest, h, h' => by
      have hl := merkleLevel_length C (a :: b :: rest)
      simp only [List.length_cons] at h h' hl
      rw [merkleReduce_step, merkleReduce_step]
      exact merkleReduce_fuel_congr fuel fuel' _ (by omega) (by omega)

theorem merkleLevel_append_pair (hs : List Hash) (heven : hs.length % 2 = 0) (x : Hash) :
    merkleLevel C (hs ++ [x, x]) = merkleLevel C (hs ++ [x]) := by
  induction hs using merkleLevel.induct C with
  | case1 => rfl
  | case2 a => simp at heven
  | case3 a b rest ih =>
      simp only [List.length_cons] at heven
      show C.sha256Pair a b :: merkleLevel C (rest ++ [x, x]) = C.sha256Pair a b :: merkleLevel C (rest ++ [x])
      rw [ih (by omega)]

theorem merkleReduce_append_pair (hs : List Hash) (hne : hs ≠ []) (heven : hs.length % 2 = 0) (x : Hash) :
    merkleReduce C (hs.length + 2) (hs ++ [x, x]) = merkleReduce C (hs.length + 1) (hs ++ [x]) := by
  have h₀ := List.length_pos.mpr hne
  have hl := merkleLevel_length C (hs ++ [x])
  simp only [List.length_append, List.length_singleton] at hl
  rw [merkleReduce_succ C (hs.length + 1) (hs ++ [x, x]) (by simp),
    merkleReduce_succ C hs.length (hs ++ [x]) (by simp; omega), merkleLevel_append_pair C _ heven]
  exact merkleReduce_fuel_congr C _ _ _ (by omega) (by omega)

theorem merkleLevel_injective (hC : C.PairInjective) :
    ∀ {hs hs' : List Hash}, hs.length = hs'.length → merkleLevel C hs = merkleLevel C hs' → hs = hs'
  | [], [], _, _ => rfl
  | [a], [a'], _, h => by
      simp only [merkleLevel, List.cons.injEq, and_true] at h
      rw [(hC _ _ _ _ h).1]
  | a :: b :: rest, a' :: b' :: rest', hl, h => by
      simp only [merkleLevel, List.cons.injEq] at h
      obtain ⟨rfl, rfl⟩ := hC _ _ _ _ h.1
      rw [merkleLevel_injective hC (by simpa using hl) h.2]
  | [], _ :: _, hl, _ | _ :: _, [], hl, _ | [_], _ :: _ :: _, hl, _ | _ :: _ :: _, [_], hl, _ => by
      simp at hl

theorem merkleReduce_injective (hC : C.PairInjective) :
    ∀ (fuel : Nat) {hs hs' : List Hash}, hs.length = hs'.length → hs.length ≤ fuel + 1 →
      merkleReduce C fuel hs = merkleReduce C fuel hs' → hs = hs'
  | _, [], [], _, _, _ => rfl
  | _, [a], [a'], _, _, h => by simpa using h
  | 0, _ :: _ :: _, _, _, hf, _ => by simp at hf
  | fuel + 1, a :: b :: rest, a' :: b' :: rest', hl, hf, h => by
      have hl₁ := merkleLevel_length C (a :: b :: rest)
      have hl₂ := merkleLevel_length C (a' :: b' :: rest')
      simp only [List.length_cons] at hl hf hl₁ hl₂
      rw [merkleReduce_step, merkleReduce_step] at h
      exact merkleLevel_injective C hC (by simp only [List.length_cons]; omega)
        (merkleReduce_injective hC fuel (by omega) (by omega) h)
  | _, [], _ :: _, hl, _, _ | _, _ :: _, [], hl, _, _ | _, [_], _ :: _ :: _, hl, _, _
  | _, _ :: _ :: _, [_], hl, _, _ => by simp at hl

theorem calculateMerkleRoot_of_ne_nil {b : Block} (h : b.transactions ≠ []) :
    b.calculateMerkleRoot C = merkleReduce C b.transactions.length (b.transactions.map (Transaction.hash C)) :=
  if_neg (by simpa [List.isEmpty_iff] using h)

theorem calculateMerkleRoot_injective (hC : C.PairInjective) {b b' : Block}
    (hl : b.transactions.length = b'.transactions.length) (h : b.calculateMerkleRoot C = b'.calculateMerkleRoot C) :
    b.transactions.map (Transaction.hash C) = b'.transactions.map (Transaction.hash C) := by
  by_cases hb : b.transactions = []
  · rw [hb, List.length_nil, eq_comm, List.length_eq_zero] at hl
    rw [hb, hl]
  · have hb' : b'.transactions ≠ [] := by rwa [← List.length_pos, ← hl, List.length_pos]
    rw [calculateMerkleRoot_of_ne_nil C hb, calculateMerkleRoot_of_ne_nil C hb', ← hl] at h
    exact merkleReduce_injective C hC _ (by simpa using hl) (by simp) h

theorem duplicated_last_transaction_verifies (b : Block) (txs : List Transaction) (t : Transaction)
    (hne : txs ≠ []) (heven : txs.length % 2 = 0) (hb : b.transactions = txs ++ [t]) :
    ({ b with transactions := txs ++ [t, t] } : Block).calculateMerkleRoot C = b.calculateMerkleRoot C ∧
    ({ b with transactions := txs ++ [t, t] } : Block).verify C = b.verify C ∧
    ({ b with transactions := txs ++ [t, t] } : Block).transactions.map (Transaction.hash C) ≠
      b.transactions.map (Transaction.hash C) := by
  have hroot : ({ b with transactions := txs ++ [t, t] } : Block).calculateMerkleRoot C = b.calculateMerkleRoot C := by
    rw [calculateMerkleRoot_of_ne_nil C (by simp), calculateMerkleRoot_of_ne_nil C (by simp [hb])]
    simpa [hb] using merkleReduce_append_pair C (txs.map (Transaction.hash C)) (by simpa using hne)
      (by simpa using heven) (t.hash C)
  refine ⟨hroot, ?_, fun h => ?_⟩
  · simp only [Block.verify, hroot, hb, List.all_append, List.all_cons, List.all_nil]
    cases t.verify <;> simp
  · have := congrArg List.length h
    simp [hb] at this

def merkleSampleBlock : Block where
  header := ⟨1, 0, 9009, 0, 0, "a", 0, 0⟩
  transactions := [sampleTransfer 1 1, sampleTransfer 2 2, sampleTransfer 3 3]
  signatures := []

theorem duplicated_last_transaction_example :
    merkleSampleBlock.verify sampleCodec = true ∧
    (({ merkleSampleBlock with transactions :=
        [sampleTransfer 1 1, sampleTransfer 2 2] ++ [sampleTransfer 3 3, sampleTransfer 3 3] } : Block).calculateMerkleRoot
        sampleCodec = merkleSampleBlock.calculateMerkleRoot sampleCodec ∧
      ({ merkleSampleBlock with transactions :=
        [sampleTransfer 1 1, sampleTransfer 2 2] ++ [sampleTransfer 3 3, sampleTransfer 3 3] } : Block).verify
        sampleCodec = merkleSampleBlock.verify sampleCodec ∧
      ({ merkleSampleBlock with transactions :=
        [sampleTransfer 1 1, sampleTransfer 2 2] ++ [sampleTransfer 3 3, sampleTransfer 3 3] } : Block).transactions.map
        (Transaction.hash sampleCodec) ≠ merkleSampleBlock.transactions.map (Transaction.hash sampleCodec)) :=
  ⟨by decide, duplicated_last_transaction_verifies sampleCodec _ _ _ (by decide) (by decide) rfl⟩

end BlockchainNode

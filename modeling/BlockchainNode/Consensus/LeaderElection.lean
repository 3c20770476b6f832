import BlockchainNode.Types
import Mathlib.Data.Finset.Card
import Mathlib.Data.List.Rotate

namespace BlockchainNode

def roundRobin (validatorSet : List NodeId) (view : Nat) : Option NodeId :=
  validatorSet[view % validatorSet.length]?

def quorumSize (n : Nat) : Nat := n * 2 / 3 + 1

theorem roundRobin_mem {vs : List NodeId} {view : Nat} {n : NodeId}
    (h : roundRobin vs view = some n) : n ∈ vs := by
  unfold roundRobin at h
  exact List.getElem?_mem h

@[simp] theorem roundRobin_nil (view : Nat) : roundRobin [] view = none := rfl

structure LeaderElection where
  validatorSet : List NodeId
  deriving DecidableEq, Repr

namespace LeaderElection

def new (validatorSet : List NodeId) : LeaderElection := { validatorSet }

def getLeader (le : LeaderElection) (view : Nat) : NodeId :=
  (roundRobin le.validatorSet view).getD "unknown"

def isLeader (le : LeaderElection) (nodeId : NodeId) (view : Nat) : Bool :=
  le.getLeader view == nodeId

def getNextLeader (le : LeaderElection) (currentView : Nat) : NodeId :=
  le.getLeader (currentView + 1)

def getLeaderSchedule (le : LeaderElection) (startView count : Nat) : List (Nat × NodeId) :=
  (List.range count).map fun i => (wrappingAdd startView i, le.getLeader (wrappingAdd startView i))

def updateValidatorSet (_le : LeaderElection) (newValidatorSet : List NodeId) : LeaderElection :=
  { validatorSet := newValidatorSet }

def isValidator (le : LeaderElection) (nodeId : NodeId) : Bool := le.validatorSet.contains nodeId

def validatorCount (le : LeaderElection) : Nat := le.validatorSet.length

def byzantineThreshold (le : LeaderElection) : Nat :=
  if le.validatorSet.isEmpty then 0 else quorumSize le.validatorSet.length

def maxByzantineFaults (le : LeaderElection) : Nat :=
  if le.validatorSet.length < 4 then 0 else (le.validatorSet.length - 1) / 3

def isBftCapable (le : LeaderElection) : Bool := decide (4 ≤ le.validatorSet.length)

def getValidatorIndex (le : LeaderElection) (nodeId : NodeId) : Option Nat := le.validatorSet.findIdx? (· == nodeId)

def getValidatorByIndex (le : LeaderElection) (index : Nat) : Option NodeId := le.validatorSet[index]?

theorem getValidatorByIndex_getValidatorIndex {le : LeaderElection} {nodeId : NodeId} {index : Nat}
    (h : le.getValidatorIndex nodeId = some index) : le.getValidatorByIndex index = some nodeId := by
  have hat := List.findIdx?_of_eq_some h
  unfold getValidatorByIndex
  split at hat
  · next v hv =>
      rw [hv]
      exact congrArg some (beq_iff_eq.mp hat)
  · exact absurd hat Bool.false_ne_true

theorem getLeader_of_pos (le : LeaderElection) (view : Nat) (h : 0 < le.validatorSet.length) :
    le.getLeader view = le.validatorSet.get ⟨view % le.validatorSet.length, Nat.mod_lt _ h⟩ := by
  simp [getLeader, roundRobin, List.getElem?_eq_getElem (Nat.mod_lt view h)]

theorem leaders_rotate (le : LeaderElection) (v : Nat) (h : 0 < le.validatorSet.length) :
    (List.range le.validatorSet.length).map (fun i => le.getLeader (v + i)) = le.validatorSet.rotate v := by
  apply List.ext_getElem (by simp)
  intro i h₁ h₂
  simp only [List.getElem_map, List.getElem_range, List.getElem_rotate, getLeader_of_pos le _ h, List.get_eq_getElem,
    Nat.add_comm v i]

theorem leader_schedule_rotation (le : LeaderElection) (v : Nat) (h : 0 < le.validatorSet.length)
    (hv : v + le.validatorSet.length ≤ u64Size - 1) :
    le.getLeaderSchedule v le.validatorSet.length =
        (List.range le.validatorSet.length).map (fun i => (v + i, le.getLeader (v + i))) ∧
      ((le.getLeaderSchedule v le.validatorSet.length).map Prod.snd).Perm le.validatorSet ∧
      le.getLeader (v + le.validatorSet.length) = le.getLeader v := by
  have hsched : le.getLeaderSchedule v le.validatorSet.length =
      (List.range le.validatorSet.length).map (fun i => (v + i, le.getLeader (v + i))) := by
    refine List.map_congr_left fun i hi => ?_
    have hi := List.mem_range.mp hi
    have h64 : 0 < u64Size := by decide
    rw [wrappingAdd_of_lt (by omega)]
  refine ⟨hsched, ?_, ?_⟩
  · rw [hsched, List.map_map]
    exact (leaders_rotate le v h).symm ▸ List.rotate_perm _ _
  · simp only [getLeader_of_pos le _ h, Nat.add_mod_right]

end LeaderElection

def fourValidators : LeaderElection := LeaderElection.new ["a", "b", "c", "d"]

theorem schedule_from_view_five :
    (0 < fourValidators.validatorSet.length ∧ 5 + fourValidators.validatorSet.length ≤ u64Size - 1) ∧
    fourValidators.getLeaderSchedule 5 fourValidators.validatorSet.length =
        (List.range fourValidators.validatorSet.length).map (fun i => (5 + i, fourValidators.getLeader (5 + i))) ∧
      ((fourValidators.getLeaderSchedule 5 fourValidators.validatorSet.length).map Prod.snd).Perm
        fourValidators.validatorSet ∧
      fourValidators.getLeader (5 + fourValidators.validatorSet.length) = fourValidators.getLeader 5 :=
  ⟨by decide, LeaderElection.leader_schedule_rotation fourValidators 5 (by decide) (by decide)⟩

theorem quorumSize_pos (n : Nat) : 0 < quorumSize n := Nat.succ_pos _

theorem quorumSize_bft (f : Nat) : (3 * f + 1) + f < quorumSize (3 * f + 1) + quorumSize (3 * f + 1) := by
  unfold quorumSize
  omega

theorem exists_common_honest {vs K₁ K₂ byz : List NodeId} (hvs : vs.Nodup) (h₁ : K₁.Nodup)
    (h₂ : K₂.Nodup) (hs₁ : K₁ ⊆ vs) (hs₂ : K₂ ⊆ vs)
    (hq : vs.length + (vs.filter (· ∈ byz)).length < K₁.length + K₂.length) :
    ∃ k ∈ K₁, k ∈ K₂ ∧ k ∉ byz := by
  by_contra H
  push_neg at H
  have hunion : (K₁.toFinset ∪ K₂.toFinset).card ≤ vs.toFinset.card := by
    apply Finset.card_le_card
    intro x hx
    simp only [Finset.mem_union, List.mem_toFinset] at hx ⊢
    exact hx.elim (fun h => hs₁ h) (fun h => hs₂ h)
  have hinter : (K₁.toFinset ∩ K₂.toFinset).card ≤ (vs.filter (· ∈ byz)).toFinset.card := by
    apply Finset.card_le_card
    intro x hx
    simp only [Finset.mem_inter, List.mem_toFinset] at hx
    simpa [List.mem_toFinset, List.mem_filter] using And.intro (hs₁ hx.1) (H x hx.1 hx.2)
  have hsum := Finset.card_union_add_card_inter K₁.toFinset K₂.toFinset
  rw [List.toFinset_card_of_nodup h₁, List.toFinset_card_of_nodup h₂] at hsum
  rw [List.toFinset_card_of_nodup hvs] at hunion
  rw [List.toFinset_card_of_nodup (hvs.filter _)] at hinter
  omega

theorem length_add_le_common {vs K₁ K₂ : List NodeId} (h₁ : K₁.Nodup) (h₂ : K₂.Nodup) (hs₁ : K₁ ⊆ vs)
    (hs₂ : K₂ ⊆ vs) : K₁.length + K₂.length ≤ vs.length + (K₁.filter (· ∈ K₂)).length := by
  have hunion : (K₁.toFinset ∪ K₂.toFinset).card ≤ vs.length := by
    refine (Finset.card_le_card fun x hx => ?_).trans (List.toFinset_card_le vs)
    simp only [Finset.mem_union, List.mem_toFinset] at hx ⊢
    exact hx.elim (fun h => hs₁ h) (fun h => hs₂ h)
  have hinter : K₁.toFinset ∩ K₂.toFinset = (K₁.filter (· ∈ K₂)).toFinset := by
    ext; simp
  have hsum := Finset.card_union_add_card_inter K₁.toFinset K₂.toFinset
  rw [hinter, List.toFinset_card_of_nodup h₁, List.toFinset_card_of_nodup h₂,
    List.toFinset_card_of_nodup (h₁.filter _)] at hsum
  omega

theorem quorums_share_more_than_faults (vs : List NodeId) (hN : 0 < vs.length) {K₁ K₂ : List NodeId}
    (h₁ : K₁.Nodup) (h₂ : K₂.Nodup) (hs₁ : K₁ ⊆ vs) (hs₂ : K₂ ⊆ vs)
    (hq₁ : (LeaderElection.new vs).byzantineThreshold ≤ K₁.length)
    (hq₂ : (LeaderElection.new vs).byzantineThreshold ≤ K₂.length) :
    (LeaderElection.new vs).byzantineThreshold = quorumSize vs.length ∧
      (LeaderElection.new vs).maxByzantineFaults + 1 ≤ (K₁.filter (· ∈ K₂)).length ∧
      (LeaderElection.new vs).byzantineThreshold ≤ vs.length - (LeaderElection.new vs).maxByzantineFaults := by
  have hQ : (LeaderElection.new vs).byzantineThreshold = quorumSize vs.length := by
    simp [LeaderElection.byzantineThreshold, LeaderElection.new, List.isEmpty_iff, ← List.length_pos, hN]
  have hcommon := length_add_le_common h₁ h₂ hs₁ hs₂
  rw [hQ] at hq₁ hq₂ ⊢
  unfold quorumSize at hq₁ hq₂ ⊢
  refine ⟨rfl, ?_, ?_⟩ <;> simp only [LeaderElection.maxByzantineFaults, LeaderElection.new] <;> split_ifs <;> omega

theorem four_validator_quorums_share_two :
    (0 < fourValidators.validatorSet.length ∧ ["a", "b", "c"].Nodup ∧ ["b", "c", "d"].Nodup ∧
      ["a", "b", "c"] ⊆ fourValidators.validatorSet ∧ ["b", "c", "d"] ⊆ fourValidators.validatorSet ∧
      (LeaderElection.new fourValidators.validatorSet).byzantineThreshold ≤ ["a", "b", "c"].length ∧
      (LeaderElection.new fourValidators.validatorSet).byzantineThreshold ≤ ["b", "c", "d"].length) ∧
    (LeaderElection.new fourValidators.validatorSet).byzantineThreshold = quorumSize fourValidators.validatorSet.length ∧
      (LeaderElection.new fourValidators.validatorSet).maxByzantineFaults + 1 ≤
        (["a", "b", "c"].filter (· ∈ ["b", "c", "d"])).length ∧
      (LeaderElection.new fourValidators.validatorSet).byzantineThreshold ≤
        fourValidators.validatorSet.length - (LeaderElection.new fourValidators.validatorSet).maxByzantineFaults :=
  ⟨by decide, quorums_share_more_than_faults fourValidators.validatorSet (by decide) (by decide) (by decide)
    (by decide) (by decide) (by decide) (by decide)⟩

end BlockchainNode

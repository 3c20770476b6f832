import BlockchainNode.Types

namespace BlockchainNode

structure Network (σ : Type) where
  node : NodeId → σ
  received : NodeId → List ConsensusMessage
  sent : List ConsensusMessage

structure Protocol (σ α : Type) where
  handle : σ → ConsensusMessage → σ × List ConsensusMessage
  act : σ → α → σ × List ConsensusMessage

structure Faults (σ α : Type) where
  honest : NodeId → Bool
  forge : ConsensusMessage → Bool
  enabled : σ → α → Bool

inductive Event (α : Type) where
  | deliver (i : NodeId) (m : ConsensusMessage)
  | perform (i : NodeId) (a : α)

namespace Network

variable {σ α : Type} (P : Protocol σ α) (F : Faults σ α)

def init (start : NodeId → σ) : Network σ := { node := start, received := fun _ => [], sent := [] }

def deliver (w : Network σ) (i : NodeId) (m : ConsensusMessage) : Network σ :=
  { node := Function.update w.node i (P.handle (w.node i) m).1
    received := Function.update w.received i (m :: w.received i)
    sent := w.sent ++ (P.handle (w.node i) m).2 }

def perform (w : Network σ) (i : NodeId) (a : α) : Network σ :=
  { node := Function.update w.node i (P.act (w.node i) a).1
    received := w.received
    sent := w.sent ++ (P.act (w.node i) a).2 }

inductive Step : Network σ → Network σ → Prop where
  | deliver (w : Network σ) (i : NodeId) (m : ConsensusMessage) :
      F.honest i = true → m ∈ w.sent ∨ F.forge m = true → Step w (w.deliver P i m)
  | perform (w : Network σ) (i : NodeId) (a : α) :
      F.honest i = true → F.enabled (w.node i) a = true → Step w (w.perform P i a)

def Reachable (start : NodeId → σ) (w : Network σ) : Prop :=
  Relation.ReflTransGen (Step P F) (init start) w

def exec (w : Network σ) : List (Event α) → Option (Network σ)
  | [] => some w
  | .deliver i m :: evs =>
      if F.honest i && (decide (m ∈ w.sent) || F.forge m) then exec (w.deliver P i m) evs else none
  | .perform i a :: evs =>
      if F.honest i && F.enabled (w.node i) a then exec (w.perform P i a) evs else none

@[simp] theorem deliver_sent (w : Network σ) (i : NodeId) (m : ConsensusMessage) :
    (w.deliver P i m).sent = w.sent ++ (P.handle (w.node i) m).2 := rfl

theorem deliver_node (w : Network σ) (i j : NodeId) (m : ConsensusMessage) :
    (w.deliver P i m).node j = if j = i then (P.handle (w.node i) m).1 else w.node j := by
  simp only [deliver, Function.update_apply]

theorem deliver_received (w : Network σ) (i j : NodeId) (m : ConsensusMessage) :
    (w.deliver P i m).received j = if j = i then m :: w.received i else w.received j := by
  simp only [deliver, Function.update_apply]

@[simp] theorem perform_sent (w : Network σ) (i : NodeId) (a : α) :
    (w.perform P i a).sent = w.sent ++ (P.act (w.node i) a).2 := rfl

@[simp] theorem perform_received (w : Network σ) (i : NodeId) (a : α) :
    (w.perform P i a).received = w.received := rfl

theorem perform_node (w : Network σ) (i j : NodeId) (a : α) :
    (w.perform P i a).node j = if j = i then (P.act (w.node i) a).1 else w.node j := by
  simp only [perform, Function.update_apply]

theorem exec_steps {w w' : Network σ} {evs : List (Event α)} (h : exec P F w evs = some w') :
    Relation.ReflTransGen (Step P F) w w' := by
  induction evs generalizing w with
  | nil => cases h; exact .refl
  | cons ev evs ih =>
      cases ev with
      | deliver i m =>
          simp only [exec, Bool.and_eq_true, Bool.or_eq_true, decide_eq_true_eq] at h
          split_ifs at h with hg
          exact .head (.deliver w i m hg.1 hg.2) (ih h)
      | perform i a =>
          simp only [exec, Bool.and_eq_true] at h
          split_ifs at h with hg
          exact .head (.perform w i a hg.1 hg.2) (ih h)

theorem exists_of_exec {w₀ : Network σ} {evs : List (Event α)} {p : Network σ → Bool}
    (h : (exec P F w₀ evs).map p = some true) :
    ∃ w, Relation.ReflTransGen (Step P F) w₀ w ∧ p w = true := by
  obtain ⟨w, hw, hp⟩ := Option.map_eq_some'.mp h
  exact ⟨w, exec_steps P F hw, hp⟩

theorem exists_of_exec_two {w₀ : Network σ} {evs₁ evs₂ : List (Event α)} {p q : Network σ → Bool}
    (h : (exec P F w₀ evs₁).bind (fun w₁ => (exec P F w₁ evs₂).map fun w₂ => p w₁ && q w₂) = some true) :
    ∃ w₁ w₂, Relation.ReflTransGen (Step P F) w₀ w₁ ∧ Relation.ReflTransGen (Step P F) w₁ w₂ ∧
      p w₁ = true ∧ q w₂ = true := by
  obtain ⟨w₁, hw₁, h₂⟩ := Option.bind_eq_some.mp h
  obtain ⟨w₂, hw₂, hpq⟩ := Option.map_eq_some'.mp h₂
  obtain ⟨hp, hq⟩ := Bool.and_eq_true_iff.mp hpq
  exact ⟨w₁, w₂, exec_steps P F hw₁, exec_steps P F hw₂, hp, hq⟩

theorem step_sent {w w' : Network σ} (h : Step P F w w') : w.sent ⊆ w'.sent := by
  cases h <;> exact List.subset_append_left _ _

theorem steps_sent {w w' : Network σ} (h : Relation.ReflTransGen (Step P F) w w') : w.sent ⊆ w'.sent := by
  induction h with
  | refl => exact List.Subset.refl _
  | tail _ hs ih => exact ih.trans (step_sent P F hs)

end Network

end BlockchainNode

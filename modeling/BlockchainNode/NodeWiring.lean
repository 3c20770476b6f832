import BlockchainNode.Node

namespace BlockchainNode

theorem Mempool.getNextBatch_of_queue_nil (C : Codec) {m : Mempool} (h : m.priorityQueue = []) (maxCount maxSize : Nat) :
    m.getNextBatch C maxCount maxSize = (m, []) := by
  cases m
  subst h
  rfl

namespace StatsEngine

variable {C : Codec} {s : StatsEngine}

theorem consensusTick_idle (hq : s.engine.mempool.priorityQueue = []) (hv : s.engine.viewTimeout = none)
    (now timestamp : Timestamp) : s.consensusTick C now timestamp = (s, []) := by
  have hp : s.proposeBlock C timestamp = ⟨s, [], .ok ()⟩ := by
    unfold proposeBlock
    rw [StatsMempool.getNextBatch_eq, mempool_pool, Mempool.getNextBatch_of_queue_nil C hq]
    rfl
  have ht : s.engine.shouldTriggerViewChange now = false := by rw [ConsensusEngine.shouldTriggerViewChange, hv]
  simp [consensusTick, hp, ht]

end StatsEngine

def NodeOp.wired : NodeOp → Bool
  | .consensus (.perform (.tick _ _)) => true
  | .network _ => true
  | _ => false

namespace Node

variable (C : Codec) (W : WireFormat)

def WiredReachable (start n : Node) : Prop :=
  Relation.ReflTransGen (fun n n' => ∃ op, op.wired = true ∧ n' = n.apply C W op) start n

variable {C W}

theorem wired_node_inert {α : Type} {parse : String → Except String α} {config : Cli} {storage : Storage}
    {now : Timestamp} {n₀ n : Node} (hn : Node.new parse config storage now = .ok n₀) (hr : WiredReachable C W n₀ n) :
    n.consensus = n₀.consensus ∧ ∀ t timestamp, n.consensus.consensusTick C t timestamp = (n.consensus, []) := by
  have hidle : ∀ t timestamp, n₀.consensus.consensusTick C t timestamp = (n₀.consensus, []) := by
    rw [(new_ok hn).2.1]
    exact StatsEngine.consensusTick_idle rfl rfl
  have hc : n.consensus = n₀.consensus := by
    induction hr with
    | refl => rfl
    | @tail b _ _ hst ih =>
        obtain ⟨op, hw, rfl⟩ := hst
        match op, hw with
        | .network _, _ => exact ih
        | .consensus (.deliver ..), h | .consensus (.perform (.submitTransaction _)), h => exact nomatch h
        | .consensus (.perform (.tick t timestamp)), _ =>
            show (b.consensus.consensusTick C t timestamp).1 = n₀.consensus
            rw [ih, hidle]
  exact ⟨hc, hc ▸ hidle⟩

def defaultAfterTick : Node :=
  defaultNode.apply sampleCodec NetworkManager.sampleWire (.consensus (.perform (.tick 5000 5000)))

theorem default_node_inert :
    defaultAfterTick.consensus = defaultNode.consensus ∧
      ∀ t timestamp, defaultAfterTick.consensus.consensusTick sampleCodec t timestamp = (defaultAfterTick.consensus, []) :=
  wired_node_inert (show Node.new (fun s => Except.ok s) Cli.default .empty 0 = .ok defaultNode from rfl)
    (.single ⟨.consensus (.perform (.tick 5000 5000)), rfl, rfl⟩)

end Node

end BlockchainNode

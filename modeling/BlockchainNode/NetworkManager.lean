import BlockchainNode.Gossip
import Mathlib.Data.List.AList

namespace BlockchainNode

structure NetworkConfig where
  nodeId : NodeId
  maxPeers : Nat
  deriving DecidableEq, Repr

structure PeerInfo where
  nodeId : NodeId
  multiaddr : String
  isValidator : Bool
  lastSeen : Timestamp
  deriving DecidableEq, Repr

structure NetworkStats where
  connectedPeers : Nat
  totalMessagesSent : Nat
  totalMessagesReceived : Nat
  totalBytesSent : Nat
  totalBytesReceived : Nat
  gossipMessagesSent : Nat
  gossipMessagesReceived : Nat
  deriving DecidableEq, Repr

def NetworkStats.default : NetworkStats := ⟨0, 0, 0, 0, 0, 0, 0⟩

structure WireFormat where
  serialize : NetworkMessage → List Nat
  deserialize : List Nat → Option NetworkMessage

structure NetworkManager where
  config : NetworkConfig
  connectedPeers : AList (fun _ : String => PeerInfo)
  peerAddresses : AList (fun _ : String => String)
  inbound : List NetworkMessage
  stats : NetworkStats

inductive NetworkEvent where
  | connectionEstablished (peerId remoteAddress : String) (now : Timestamp)
  | connectionClosed (peerId : String)
  | ping (peer : String) (now : Timestamp) (acquired : Bool)
  | gossipMessage (source : String) (data : List Nat)
  | broadcastMessage (message : NetworkMessage)
  | heartbeat (messageId : Uuid) (now : Timestamp)
  | receiveInbound

variable (W : WireFormat)

namespace NetworkManager

def new (config : NetworkConfig) : NetworkManager := ⟨config, ∅, ∅, [], .default⟩

def connectionEstablished (m : NetworkManager) (peerId remoteAddress : String) (now : Timestamp) : NetworkManager :=
  let peerInfo : PeerInfo := ⟨peerId, remoteAddress, false, now⟩
  let connectedPeers := m.connectedPeers.insert peerId peerInfo
  { m with
    connectedPeers
    peerAddresses := m.peerAddresses.insert peerId remoteAddress
    stats := { m.stats with connectedPeers := connectedPeers.entries.length } }

def connectionClosed (m : NetworkManager) (peerId : String) : NetworkManager :=
  let connectedPeers := m.connectedPeers.erase peerId
  { m with
    connectedPeers
    peerAddresses := m.peerAddresses.erase peerId
    stats := { m.stats with connectedPeers := connectedPeers.entries.length } }

def pingSucceeded (m : NetworkManager) (peer : String) (now : Timestamp) (acquired : Bool) : NetworkManager :=
  if acquired then
    match m.connectedPeers.lookup peer with
    | some peerInfo => { m with connectedPeers := m.connectedPeers.insert peer { peerInfo with lastSeen := now } }
    | none => m
  else m

def handleGossipMessage (m : NetworkManager) (_source : String) (data : List Nat) : Except String NetworkManager :=
  match W.deserialize data with
  | none => .error "Failed to deserialize message"
  | some networkMessage =>
      .ok { m with
        stats := { m.stats with
          totalMessagesReceived := wrappingAdd m.stats.totalMessagesReceived 1
          totalBytesReceived := wrappingAdd m.stats.totalBytesReceived data.length
          gossipMessagesReceived := wrappingAdd m.stats.gossipMessagesReceived 1 }
        inbound := m.inbound ++ [networkMessage] }

def broadcastMessage (m : NetworkManager) (message : NetworkMessage) : NetworkManager :=
  let data := W.serialize message
  { m with
    stats := { m.stats with
      totalMessagesSent := wrappingAdd m.stats.totalMessagesSent 1
      totalBytesSent := wrappingAdd m.stats.totalBytesSent data.length
      gossipMessagesSent := wrappingAdd m.stats.gossipMessagesSent 1 } }

def sendHeartbeat (m : NetworkManager) (messageId : Uuid) (now : Timestamp) : NetworkManager :=
  m.broadcastMessage W ⟨messageId, m.config.nodeId, now⟩

def getConnectedPeers (m : NetworkManager) : List PeerInfo := m.connectedPeers.entries.map (·.2)

def receiveInbound (m : NetworkManager) : Option NetworkMessage × NetworkManager :=
  match m.inbound with
  | [] => (none, m)
  | message :: rest => (some message, { m with inbound := rest })

def step (m : NetworkManager) : NetworkEvent → NetworkManager × Option NetworkMessage
  | .connectionEstablished peerId remoteAddress now => (m.connectionEstablished peerId remoteAddress now, none)
  | .connectionClosed peerId => (m.connectionClosed peerId, none)
  | .ping peer now acquired => (m.pingSucceeded peer now acquired, none)
  | .gossipMessage source data =>
      match m.handleGossipMessage W source data with
      | .ok m' => (m', none)
      | .error _ => (m, none)
  | .broadcastMessage message => (m.broadcastMessage W message, none)
  | .heartbeat messageId now => (m.sendHeartbeat W messageId now, none)
  | .receiveInbound => m.receiveInbound.swap

def run (m : NetworkManager) : List NetworkEvent → NetworkManager × List NetworkMessage
  | [] => (m, [])
  | e :: es => (((m.step W e).1.run es).1, (m.step W e).2.toList ++ ((m.step W e).1.run es).2)

end NetworkManager

def NetworkEvent.payload : NetworkEvent → Option NetworkMessage
  | .gossipMessage _ data => W.deserialize data
  | _ => none

section Tables

variable {β : String → Type} {s : AList β} {a : String} {b : β a}

theorem AList.length_insert_of_mem (h : a ∈ s) : (s.insert a b).entries.length = s.entries.length := by
  have hk : ∀ t : AList β, t.entries.length = t.keys.length := fun t => (List.length_map _ _).symm
  have hpos : 0 < s.keys.length := List.length_pos_of_mem (AList.mem_keys.mp h)
  rw [hk, hk, AList.keys_insert, List.length_cons, List.length_erase_of_mem (AList.mem_keys.mp h)]
  omega

theorem AList.length_insert_of_not_mem (h : a ∉ s) : (s.insert a b).entries.length = s.entries.length + 1 := by
  rw [AList.insert_entries_of_neg h, List.length_cons]

end Tables

namespace NetworkManager

structure Consistent (m : NetworkManager) : Prop where
  addresses : ∀ peer, peer ∈ m.connectedPeers ↔ peer ∈ m.peerAddresses
  count : m.stats.connectedPeers = m.connectedPeers.entries.length
  info : ∀ peer peerInfo, m.connectedPeers.lookup peer = some peerInfo →
    peerInfo.nodeId = peer ∧ peerInfo.isValidator = false ∧ m.peerAddresses.lookup peer = some peerInfo.multiaddr
  received : m.stats.totalMessagesReceived = m.stats.gossipMessagesReceived
  sent : m.stats.totalMessagesSent = m.stats.gossipMessagesSent

section Steps

variable {W} {m : NetworkManager}

theorem consistent_new (config : NetworkConfig) : (new config).Consistent :=
  ⟨fun _ => ⟨fun h => absurd h (AList.not_mem_empty _), fun h => absurd h (AList.not_mem_empty _)⟩, rfl,
    fun _ _ h => (nomatch h), rfl, rfl⟩

theorem Consistent.connectionEstablished (h : m.Consistent) (peerId remoteAddress : String) (now : Timestamp) :
    (m.connectionEstablished peerId remoteAddress now).Consistent := by
  refine ⟨fun p => ?_, rfl, fun p info hp => ?_, h.received, h.sent⟩
  · simp only [NetworkManager.connectionEstablished, AList.mem_insert, h.addresses p]
  · dsimp only [NetworkManager.connectionEstablished] at hp ⊢
    by_cases hpe : p = peerId
    · subst hpe
      rw [AList.lookup_insert, Option.some.injEq] at hp
      subst hp
      exact ⟨rfl, rfl, AList.lookup_insert _⟩
    · rw [AList.lookup_insert_ne hpe] at hp
      rw [AList.lookup_insert_ne hpe]
      exact h.info p info hp

theorem Consistent.connectionClosed (h : m.Consistent) (peerId : String) : (m.connectionClosed peerId).Consistent := by
  refine ⟨fun p => ?_, rfl, fun p info hp => ?_, h.received, h.sent⟩
  · simp only [NetworkManager.connectionClosed, AList.mem_erase, h.addresses p]
  · dsimp only [NetworkManager.connectionClosed] at hp ⊢
    by_cases hpe : p = peerId
    · rw [hpe, AList.lookup_erase] at hp
      cases hp
    · rw [AList.lookup_erase_ne hpe] at hp
      rw [AList.lookup_erase_ne hpe]
      exact h.info p info hp

theorem Consistent.pingSucceeded (h : m.Consistent) (peer : String) (now : Timestamp) (acquired : Bool) :
    (m.pingSucceeded peer now acquired).Consistent := by
  unfold NetworkManager.pingSucceeded
  split_ifs
  · split
    · next peerInfo hl =>
        have hmem : peer ∈ m.connectedPeers := AList.lookup_isSome.mp (by rw [hl]; rfl)
        refine ⟨fun p => ?_, h.count.trans (AList.length_insert_of_mem hmem).symm, fun p info hp => ?_,
          h.received, h.sent⟩
        · rw [AList.mem_insert, ← h.addresses p]
          exact ⟨fun hp => hp.elim (· ▸ hmem) id, .inr⟩
        · by_cases hpe : p = peer
          · subst hpe
            rw [AList.lookup_insert, Option.some.injEq] at hp
            subst hp
            exact h.info p peerInfo hl
          · rw [AList.lookup_insert_ne hpe] at hp
            exact h.info p info hp
    · exact h
  · exact h

theorem Consistent.step (h : m.Consistent) (e : NetworkEvent) : (m.step W e).1.Consistent := by
  cases e with
  | connectionEstablished peerId remoteAddress now => exact h.connectionEstablished peerId remoteAddress now
  | connectionClosed peerId => exact h.connectionClosed peerId
  | ping peer now acquired => exact h.pingSucceeded peer now acquired
  | gossipMessage source data =>
      dsimp only [NetworkManager.step, handleGossipMessage]
      cases W.deserialize data with
      | none => exact h
      | some message =>
          exact ⟨h.addresses, h.count, h.info, congrArg (wrappingAdd · 1) h.received, h.sent⟩
  | broadcastMessage message => exact ⟨h.addresses, h.count, h.info, h.received, congrArg (wrappingAdd · 1) h.sent⟩
  | heartbeat messageId now => exact ⟨h.addresses, h.count, h.info, h.received, congrArg (wrappingAdd · 1) h.sent⟩
  | receiveInbound =>
      dsimp only [NetworkManager.step, receiveInbound]
      split
      · exact h
      · exact ⟨h.addresses, h.count, h.info, h.received, h.sent⟩

theorem Consistent.run (h : m.Consistent) (es : List NetworkEvent) : (m.run W es).1.Consistent := by
  induction es generalizing m with
  | nil => exact h
  | cons e es ih => exact ih (h.step e)

theorem pingSucceeded_inbound (peer : String) (now : Timestamp) (acquired : Bool) :
    (m.pingSucceeded peer now acquired).inbound = m.inbound := by
  unfold NetworkManager.pingSucceeded
  split_ifs
  · split <;> rfl
  · rfl

theorem step_inbound (e : NetworkEvent) :
    (m.step W e).2.toList ++ (m.step W e).1.inbound = m.inbound ++ (e.payload W).toList := by
  cases e with
  | ping peer now acquired => simp [NetworkManager.step, pingSucceeded_inbound, NetworkEvent.payload]
  | gossipMessage source data =>
      simp only [NetworkManager.step, handleGossipMessage, NetworkEvent.payload]
      cases W.deserialize data <;> simp
  | receiveInbound =>
      simp only [NetworkManager.step, receiveInbound, NetworkEvent.payload]
      split <;> simp_all
  | _ => simp [NetworkManager.step, connectionEstablished, connectionClosed, broadcastMessage, sendHeartbeat,
      NetworkEvent.payload]

theorem run_inbound (es : List NetworkEvent) :
    (m.run W es).2 ++ (m.run W es).1.inbound = m.inbound ++ es.filterMap (NetworkEvent.payload W) := by
  induction es generalizing m with
  | nil => simp [NetworkManager.run]
  | cons e es ih =>
      have hs := @step_inbound W m e
      rw [NetworkManager.run, List.append_assoc, ih, ← List.append_assoc, hs, List.append_assoc, List.filterMap_cons]
      cases NetworkEvent.payload W e <;> rfl

end Steps

theorem peer_table_consistent (config : NetworkConfig) (es : List NetworkEvent) :
    ((new config).run W es).1.Consistent :=
  (consistent_new config).run es

theorem inbound_channel_fifo (config : NetworkConfig) (es : List NetworkEvent) :
    ((new config).run W es).2 ++ ((new config).run W es).1.inbound = es.filterMap (NetworkEvent.payload W) :=
  (run_inbound es).trans (List.nil_append _)

theorem run_connect_length (now : Timestamp) :
    ∀ {peers : List (String × String)} {m : NetworkManager}, (peers.map Prod.fst).Nodup →
      (∀ p ∈ peers, p.1 ∉ m.connectedPeers) →
      (m.run W (peers.map fun p => .connectionEstablished p.1 p.2 now)).1.connectedPeers.entries.length =
        m.connectedPeers.entries.length + peers.length
  | [], _, _, _ => rfl
  | p :: peers, m, hnd, hfresh => by
      rw [List.map_cons, List.nodup_cons] at hnd
      have hrest : ∀ q ∈ peers, q.1 ∉ (m.connectionEstablished p.1 p.2 now).connectedPeers := fun q hq hmem =>
        (AList.mem_insert _).mp hmem |>.elim (fun he => hnd.1 (he ▸ List.mem_map_of_mem _ hq))
          (hfresh q (List.mem_cons_of_mem p hq))
      refine (run_connect_length now hnd.2 hrest).trans ?_
      show (m.connectedPeers.insert p.1 ⟨p.1, p.2, false, now⟩).entries.length + peers.length = _
      rw [AList.length_insert_of_not_mem (hfresh p (List.mem_cons_self p peers)), List.length_cons]
      omega

theorem connections_never_refused (config : NetworkConfig) {peers : List (String × String)} (now : Timestamp)
    (hnd : (peers.map Prod.fst).Nodup) :
    ((new config).run W (peers.map fun p => .connectionEstablished p.1 p.2 now)).1.stats.connectedPeers =
      peers.length := by
  rw [((consistent_new config).run _).count, run_connect_length W now hnd fun _ _ h => AList.not_mem_empty _ h]
  exact Nat.zero_add _

def sampleWire : WireFormat where
  serialize message := [message.messageId % 256]
  deserialize
    | [messageId] => some ⟨messageId, "peer", 0⟩
    | _ => none

theorem sample_connections_past_max_peers :
    ([("a", "/ip4/10.0.0.1/tcp/1"), ("b", "/ip4/10.0.0.2/tcp/1")].map Prod.fst).Nodup ∧
      ((new ⟨"node-1", 1⟩).run sampleWire ([("a", "/ip4/10.0.0.1/tcp/1"), ("b", "/ip4/10.0.0.2/tcp/1")].map
        fun p => .connectionEstablished p.1 p.2 0)).1.stats.connectedPeers = 2 :=
  ⟨by decide, connections_never_refused sampleWire ⟨"node-1", 1⟩ 0 (by decide)⟩

end NetworkManager

end BlockchainNode

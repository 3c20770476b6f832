import BlockchainNode.Types
import Mathlib.Data.List.DropRight

namespace BlockchainNode

def isWhitespace (c : Char) : Bool :=
  let n := c.toNat
  (9 ≤ n && n ≤ 13) || n == 32 || n == 0x85 || n == 0xA0 || n == 0x1680 || (0x2000 ≤ n && n ≤ 0x200A) ||
    n == 0x2028 || n == 0x2029 || n == 0x202F || n == 0x205F || n == 0x3000

def trim (s : List Char) : List Char := (s.dropWhile isWhitespace).rdropWhile isWhitespace

inductive NodeMode where
  | validator
  | observer
  | archive
  deriving DecidableEq, Repr

structure Cli where
  mode : NodeMode
  nodeId : String
  bootstrapPeers : Option String
  maxPeers : Nat
  blockTimeMs : Nat
  mempoolSize : Nat
  deriving DecidableEq, Repr

def Cli.default : Cli := ⟨.validator, "node-1", none, 1000, 1000, 10000⟩

def Cli.isValidator (cli : Cli) : Bool :=
  match cli.mode with
  | .validator => true
  | _ => false

def Cli.getBootstrapPeers (cli : Cli) : List String :=
  (cli.bootstrapPeers.map fun peers =>
    (((peers.toList.splitOn ',').map trim).filter fun s => !s.isEmpty).map String.mk).getD []

def WellFormedPeer (peer : List Char) : Prop := peer ≠ [] ∧ ',' ∉ peer ∧ trim peer = peer

instance : DecidablePred WellFormedPeer := fun _ => inferInstanceAs (Decidable (_ ∧ _ ∧ _))

section Trim

theorem trim_trim (s : List Char) : trim (trim s) = trim s := by
  unfold trim
  obtain ⟨u, hu⟩ := List.rdropWhile_prefix isWhitespace (s.dropWhile isWhitespace)
  cases h : (s.dropWhile isWhitespace).rdropWhile isWhitespace with
  | nil => rfl
  | cons c cs =>
      have hd : s.dropWhile isWhitespace = c :: (cs ++ u) := by rw [← hu, h, List.cons_append]
      have hc : isWhitespace c = false := by
        simpa only [hd, List.head_cons] using
          List.head_dropWhile_not isWhitespace s (by rw [hd]; exact List.cons_ne_nil _ _)
      rw [List.dropWhile_cons_of_neg (Bool.eq_false_iff.mp hc), ← h, List.rdropWhile_idempotent]

theorem trim_sublist (s : List Char) : (trim s).Sublist s :=
  (List.rdropWhile_prefix isWhitespace _).sublist.trans (List.dropWhile_sublist _)

end Trim

theorem not_mem_of_mem_splitOn {x : Char} : ∀ {l : List Char}, ∀ piece ∈ l.splitOn x, x ∉ piece
  | [], piece, h => by simp_all [List.splitOn_nil]
  | c :: l, piece, h => by
      have ih := @not_mem_of_mem_splitOn x l
      unfold List.splitOn at h ih
      rw [List.splitOnP_cons] at h
      split_ifs at h with hc
      · rcases List.mem_cons.mp h with rfl | h
        · exact List.not_mem_nil x
        · exact ih piece h
      · cases hs : l.splitOnP (· == x) with
        | nil => exact absurd hs (List.splitOnP_ne_nil _ _)
        | cons p ps =>
            rw [hs] at h ih
            rcases List.mem_cons.mp h with rfl | h
            · rintro (_ | ⟨_, hx⟩)
              · exact hc (beq_self_eq_true x)
              · exact ih p (List.mem_cons_self p ps) hx
            · exact ih piece (List.mem_cons_of_mem p h)

theorem getBootstrapPeers_wellFormed (cli : Cli) : ∀ peer ∈ cli.getBootstrapPeers, WellFormedPeer peer.toList := by
  unfold Cli.getBootstrapPeers
  cases cli.bootstrapPeers with
  | none => exact fun _ h => absurd h (List.not_mem_nil _)
  | some peers =>
      intro peer h
      simp only [Option.map_some', Option.getD_some, List.mem_map, List.mem_filter, Bool.not_eq_true',
        List.isEmpty_eq_false] at h
      obtain ⟨_, ⟨⟨piece, hpiece, rfl⟩, hne⟩, rfl⟩ := h
      exact ⟨List.ne_nil_of_length_pos (List.length_pos.mpr (by simpa using hne)),
        fun hx => not_mem_of_mem_splitOn piece hpiece ((trim_sublist piece).subset hx), trim_trim piece⟩

theorem sample_peer_wellFormed :
    "/dns/seed/tcp/2" ∈ Cli.getBootstrapPeers { Cli.default with bootstrapPeers := some " /dns/seed/tcp/2 , ,x" } ∧
      WellFormedPeer "/dns/seed/tcp/2".toList :=
  ⟨by decide, getBootstrapPeers_wellFormed { Cli.default with bootstrapPeers := some " /dns/seed/tcp/2 , ,x" }
    "/dns/seed/tcp/2" (by decide)⟩

theorem bootstrap_peers_round_trip (cli : Cli) {peers : List String} (hne : peers ≠ [])
    (hwf : ∀ peer ∈ peers, WellFormedPeer peer.toList) :
    Cli.getBootstrapPeers { cli with bootstrapPeers := some ⟨[','].intercalate (peers.map String.toList)⟩ } = peers := by
  have hsplit : ([','].intercalate (peers.map String.toList)).splitOn ',' = peers.map String.toList :=
    List.splitOn_intercalate _ ',' (by simpa using fun peer hp => (hwf peer hp).2.1) (by simpa using hne)
  have htrim : (peers.map String.toList).map trim = peers.map String.toList :=
    (List.map_congr_left fun s hs => by
      obtain ⟨peer, hp, rfl⟩ := List.mem_map.mp hs
      exact (hwf peer hp).2.2).trans (List.map_id _)
  have hkeep : (peers.map String.toList).filter (fun s => !s.isEmpty) = peers.map String.toList :=
    List.filter_eq_self.mpr fun s hs => by
      obtain ⟨peer, hp, rfl⟩ := List.mem_map.mp hs
      simpa using (hwf peer hp).1
  show ((((([','].intercalate (peers.map String.toList)).splitOn ',').map trim).filter
    fun s => !s.isEmpty).map String.mk) = peers
  rw [hsplit, htrim, hkeep, List.map_map]
  exact List.map_id peers

theorem sample_bootstrap_round_trip :
    Cli.getBootstrapPeers { Cli.default with bootstrapPeers := some "/ip4/10.0.0.1/tcp/1,/dns/seed/tcp/2" } =
      ["/ip4/10.0.0.1/tcp/1", "/dns/seed/tcp/2"] :=
  @bootstrap_peers_round_trip Cli.default ["/ip4/10.0.0.1/tcp/1", "/dns/seed/tcp/2"] (by decide) (by decide)

end BlockchainNode

import BlockchainNode.Types
import Mathlib.Algebra.BigOperators.Group.List

namespace BlockchainNode

structure AccountState where
  balance : Nat
  nonce : Nat
  deriving DecidableEq, Repr

def AccountState.default : AccountState := ⟨0, 0⟩

structure StateStore where
  accounts : Address → Option AccountState

namespace StateStore

def getAccount (s : StateStore) (address : Address) : Option AccountState := s.accounts address

def setAccount (s : StateStore) (address : Address) (state : AccountState) : StateStore :=
  ⟨Function.update s.accounts address (some state)⟩

def getBalance (s : StateStore) (address : Address) : Nat :=
  match s.getAccount address with
  | some state => state.balance
  | none => 0

def setBalance (s : StateStore) (address : Address) (balance : Nat) : StateStore :=
  let state := (s.getAccount address).getD AccountState.default
  s.setAccount address { state with balance }

def getNonce (s : StateStore) (address : Address) : Nat :=
  match s.getAccount address with
  | some state => state.nonce
  | none => 0

def incrementNonce (s : StateStore) (address : Address) : StateStore :=
  let state := (s.getAccount address).getD AccountState.default
  s.setAccount address { state with nonce := wrappingAdd state.nonce 1 }

def transfer (s : StateStore) («from» «to» : Address) (amount : Nat) : Except String StateStore :=
  let fromBalance := s.getBalance «from»
  let toBalance := s.getBalance «to»
  if fromBalance < amount then .error "Insufficient balance"
  else
    let s := s.setBalance «from» (fromBalance - amount)
    .ok (s.setBalance «to» (wrappingAdd toBalance amount))

@[simp] theorem getBalance_setBalance (s : StateStore) (a b : Address) (balance : Nat) :
    (s.setBalance a balance).getBalance b = if b = a then balance else s.getBalance b := by
  by_cases h : b = a
  · subst h
    simp [setBalance, setAccount, getBalance, getAccount]
  · simp [setBalance, setAccount, getBalance, getAccount, h]

@[simp] theorem getNonce_setBalance (s : StateStore) (a b : Address) (balance : Nat) :
    (s.setBalance a balance).getNonce b = s.getNonce b := by
  by_cases h : b = a
  · subst h
    cases ha : s.accounts b <;> simp [setBalance, setAccount, getNonce, getAccount, ha, AccountState.default]
  · simp [setBalance, setAccount, getNonce, getAccount, h]

theorem getNonce_incrementNonce (s : StateStore) (a b : Address) :
    (s.incrementNonce a).getNonce b = if b = a then wrappingAdd (s.getNonce a) 1 else s.getNonce b := by
  by_cases h : b = a
  · subst h
    cases ha : s.accounts b <;> simp [incrementNonce, setAccount, getNonce, getAccount, ha, AccountState.default]
  · simp [incrementNonce, setAccount, getNonce, getAccount, h]

theorem transfer_eq_ok {s s' : StateStore} {«from» «to» : Address} {amount : Nat} :
    s.transfer «from» «to» amount = .ok s' ↔ amount ≤ s.getBalance «from» ∧
      s' = (s.setBalance «from» (s.getBalance «from» - amount)).setBalance «to» (wrappingAdd (s.getBalance «to») amount) := by
  dsimp only [transfer]
  split_ifs with h
  · exact ⟨fun h' => (nomatch h'), fun ⟨h', _⟩ => absurd h' (Nat.not_le.mpr h)⟩
  · simp only [Except.ok.injEq]
    exact ⟨fun h' => ⟨Nat.not_lt.mp h, h'.symm⟩, fun h' => h'.2.symm⟩

theorem transfer_eq_error {s : StateStore} {«from» «to» : Address} {amount : Nat} {e : String}
    (h : s.transfer «from» «to» amount = .error e) : s.getBalance «from» < amount ∧ e = "Insufficient balance" := by
  dsimp only [transfer] at h
  split_ifs at h with hlt
  · exact ⟨hlt, (Except.error.inj h).symm⟩

theorem transfer_getBalance {s s' : StateStore} {«from» «to» : Address} {amount : Nat}
    (h : s.transfer «from» «to» amount = .ok s') (b : Address) :
    s'.getBalance b = if b = «to» then wrappingAdd (s.getBalance «to») amount
      else if b = «from» then s.getBalance «from» - amount else s.getBalance b := by
  rw [(transfer_eq_ok.mp h).2]
  simp only [getBalance_setBalance]

theorem transfer_getNonce {s s' : StateStore} {«from» «to» : Address} {amount : Nat}
    (h : s.transfer «from» «to» amount = .ok s') (b : Address) : s'.getNonce b = s.getNonce b := by
  rw [(transfer_eq_ok.mp h).2, getNonce_setBalance, getNonce_setBalance]

def totalBalance (s : StateStore) (addresses : List Address) : Nat := (addresses.map s.getBalance).sum

theorem totalBalance_setBalance (s : StateStore) {a : Address} (balance : Nat) {addresses : List Address}
    (ha : a ∈ addresses) (hnd : addresses.Nodup) :
    (s.setBalance a balance).totalBalance addresses + s.getBalance a = s.totalBalance addresses + balance := by
  induction addresses with
  | nil => exact absurd ha (List.not_mem_nil a)
  | cons b rest ih =>
      obtain ⟨hb, hnd⟩ := List.nodup_cons.mp hnd
      simp only [totalBalance, List.map_cons, List.sum_cons, getBalance_setBalance] at ih ⊢
      rcases List.mem_cons.mp ha with rfl | ha
      · have hrest : (rest.map (s.setBalance a balance).getBalance) = rest.map s.getBalance :=
          List.map_congr_left fun c hc => by rw [getBalance_setBalance, if_neg (ne_of_mem_of_not_mem hc hb)]
        simp only [if_true, hrest]
        omega
      · have hba : b ≠ a := fun h => hb (h ▸ ha)
        have := ih ha hnd
        simp only [if_neg hba]
        omega

theorem transfer_conserves_total {s s' : StateStore} {«from» «to» : Address} {amount : Nat}
    {addresses : List Address} (h : s.transfer «from» «to» amount = .ok s') (hne : «from» ≠ «to»)
    (hfit : s.getBalance «to» + amount < u64Size) (hf : «from» ∈ addresses) (ht : «to» ∈ addresses)
    (hnd : addresses.Nodup) : s'.totalBalance addresses = s.totalBalance addresses := by
  obtain ⟨hfunds, rfl⟩ := transfer_eq_ok.mp h
  have h₁ := totalBalance_setBalance s (s.getBalance «from» - amount) hf hnd
  have h₂ := totalBalance_setBalance (s.setBalance «from» (s.getBalance «from» - amount))
    (wrappingAdd (s.getBalance «to») amount) ht hnd
  rw [wrappingAdd_of_lt hfit] at h₂ ⊢
  rw [getBalance_setBalance, if_neg hne.symm] at h₂
  omega

theorem transfer_wraps_receiver {s s' : StateStore} {«from» «to» : Address} {amount : Nat}
    (h : s.transfer «from» «to» amount = .ok s') (hto : s.getBalance «to» < u64Size) (hamount : amount < u64Size)
    (hover : u64Size ≤ s.getBalance «to» + amount) :
    s'.getBalance «to» = s.getBalance «to» + amount - u64Size ∧ s'.getBalance «to» < s.getBalance «to» := by
  rw [transfer_getBalance h, if_pos rfl, wrappingAdd,
    Nat.mod_eq_sub_mod hover, Nat.mod_eq_of_lt (by omega)]
  omega

theorem self_transfer_mints (s : StateStore) (a : Address) (amount : Nat) {addresses : List Address}
    (hfunds : amount ≤ s.getBalance a) (hfit : s.getBalance a + amount < u64Size) (ha : a ∈ addresses)
    (hnd : addresses.Nodup) :
    ∃ s', s.transfer a a amount = .ok s' ∧ s'.getBalance a = s.getBalance a + amount ∧
      s'.totalBalance addresses = s.totalBalance addresses + amount := by
  refine ⟨_, transfer_eq_ok.mpr ⟨hfunds, rfl⟩, ?_, ?_⟩
  · simp only [getBalance_setBalance, if_true, wrappingAdd_of_lt hfit]
  · have h₁ := totalBalance_setBalance s (s.getBalance a - amount) ha hnd
    have h₂ := totalBalance_setBalance (s.setBalance a (s.getBalance a - amount))
      (wrappingAdd (s.getBalance a) amount) ha hnd
    rw [wrappingAdd_of_lt hfit] at h₂ ⊢
    rw [getBalance_setBalance, if_pos rfl] at h₂
    omega

end StateStore

def selfTransferState : StateStore := ⟨fun a => if a = 1 then some ⟨100, 0⟩ else none⟩

theorem self_transfer_of_forty :
    (40 ≤ selfTransferState.getBalance 1 ∧ selfTransferState.getBalance 1 + 40 < u64Size ∧ 1 ∈ [1, 2] ∧
      [1, 2].Nodup) ∧
    ∃ s', selfTransferState.transfer 1 1 40 = .ok s' ∧ s'.getBalance 1 = selfTransferState.getBalance 1 + 40 ∧
      s'.totalBalance [1, 2] = selfTransferState.totalBalance [1, 2] + 40 :=
  ⟨by decide, StateStore.self_transfer_mints selfTransferState 1 40 (by decide) (by decide) (by decide) (by decide)⟩

end BlockchainNode

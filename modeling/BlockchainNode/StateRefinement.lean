import BlockchainNode.StateColumn
import Mathlib.Data.List.Sort

namespace BlockchainNode

structure AccountTable where
  accounts : Address → Option AccountRecord

namespace AccountTable

def empty : AccountTable := ⟨fun _ => none⟩

def get (t : AccountTable) (address : Address) : AccountRecord := (t.accounts address).getD .default

def setAccount (t : AccountTable) (address : Address) (state : AccountRecord) : AccountTable :=
  ⟨Function.update t.accounts address (some state)⟩

def setBalance (t : AccountTable) (address : Address) (balance : Nat) : AccountTable :=
  t.setAccount address { t.get address with balance }

def incrementNonce (t : AccountTable) (address : Address) : AccountTable :=
  t.setAccount address { t.get address with nonce := wrappingAdd (t.get address).nonce 1 }

def transfer (t : AccountTable) («from» «to» : Address) (amount : Nat) : Option AccountTable :=
  if (t.get «from»).balance < amount then none
  else some ((t.setBalance «from» ((t.get «from»).balance - amount)).setBalance «to»
    (wrappingAdd (t.get «to»).balance amount))

def apply (t : AccountTable) : StateOp → AccountTable
  | .setAccount address state => t.setAccount address state
  | .setBalance address balance => t.setBalance address balance
  | .incrementNonce address => t.incrementNonce address
  | .transfer «from» «to» amount => (t.transfer «from» «to» amount).getD t
  | .setStateRoot _ _ | .createSnapshot _ => t

def run (t : AccountTable) (ops : List StateOp) : AccountTable := ops.foldl apply t

def toStateStore (t : AccountTable) : StateStore := ⟨fun address => (t.accounts address).map AccountRecord.toAccountState⟩

end AccountTable

namespace StateStore

def empty : StateStore := ⟨fun _ => none⟩

def applyOp (s : StateStore) : StateOp → StateStore
  | .setAccount address state => s.setAccount address state.toAccountState
  | .setBalance address balance => s.setBalance address balance
  | .incrementNonce address => s.incrementNonce address
  | .transfer «from» «to» amount =>
      match s.transfer «from» «to» amount with
      | .ok s' => s'
      | .error _ => s
  | .setStateRoot _ _ | .createSnapshot _ => s

def runOps (s : StateStore) (ops : List StateOp) : StateStore := ops.foldl applyOp s

end StateStore

def StateOp.fits : StateOp → Bool
  | .setAccount address state => decide (address < 256 ^ 20) && state.fits
  | .setBalance address balance => decide (address < 256 ^ 20) && decide (balance < u64Size)
  | .incrementNonce address => decide (address < 256 ^ 20)
  | .transfer «from» «to» _ => decide («from» < 256 ^ 20) && decide («to» < 256 ^ 20)
  | .setStateRoot _ _ | .createSnapshot _ => true

section Projection

namespace AccountTable

variable (t : AccountTable) (a : Address)

theorem toStateStore_getBalance : t.toStateStore.getBalance a = (t.get a).balance := by
  cases h : t.accounts a <;> simp [toStateStore, get, h, StateStore.getBalance, StateStore.getAccount,
    AccountRecord.default, AccountRecord.toAccountState]

theorem toStateStore_getNonce : t.toStateStore.getNonce a = (t.get a).nonce := by
  cases h : t.accounts a <;> simp [toStateStore, get, h, StateStore.getNonce, StateStore.getAccount,
    AccountRecord.default, AccountRecord.toAccountState]

theorem toStateStore_setAccount (r : AccountRecord) :
    (t.setAccount a r).toStateStore = t.toStateStore.setAccount a r.toAccountState := by
  simp only [toStateStore, setAccount, StateStore.setAccount, StateStore.mk.injEq]
  funext b
  by_cases h : b = a
  · subst h
    simp
  · simp [h]

theorem toStateStore_setBalance (balance : Nat) :
    (t.setBalance a balance).toStateStore = t.toStateStore.setBalance a balance := by
  rw [setBalance, toStateStore_setAccount, StateStore.setBalance]
  cases h : t.accounts a <;> simp [toStateStore, get, h, StateStore.getAccount, AccountRecord.default,
    AccountRecord.toAccountState, AccountState.default]

theorem toStateStore_incrementNonce : (t.incrementNonce a).toStateStore = t.toStateStore.incrementNonce a := by
  rw [incrementNonce, toStateStore_setAccount, StateStore.incrementNonce]
  cases h : t.accounts a <;> simp [toStateStore, get, h, StateStore.getAccount, AccountRecord.default,
    AccountRecord.toAccountState, AccountState.default]

theorem toStateStore_apply (op : StateOp) : (t.apply op).toStateStore = t.toStateStore.applyOp op := by
  cases op with
  | setAccount address state => exact toStateStore_setAccount t address state
  | setBalance address balance => exact toStateStore_setBalance t address balance
  | incrementNonce address => exact toStateStore_incrementNonce t address
  | transfer «from» «to» amount =>
      simp only [apply, transfer, StateStore.applyOp, StateStore.transfer, toStateStore_getBalance]
      split_ifs
      · rfl
      · simp only [Option.getD_some, toStateStore_setBalance, toStateStore_getBalance]
  | setStateRoot height root => rfl
  | createSnapshot height => rfl

theorem toStateStore_run (ops : List StateOp) : (t.run ops).toStateStore = t.toStateStore.runOps ops := by
  induction ops generalizing t with
  | nil => rfl
  | cons op ops ih => exact (ih (t.apply op)).trans (congrArg (StateStore.runOps · ops) (toStateStore_apply t op))

end AccountTable

end Projection

namespace StateColumn

structure Mirrors (c : StateColumn) (t : AccountTable) : Prop where
  accounts : ∀ e, e ∈ c.state.entries ∧ accountPrefix.isPrefixOf e.1 = true ↔
    ∃ a r, t.accounts a = some r ∧ e = (accountKey a, r.serialize)
  roots : ∀ e ∈ c.state.entries, accountPrefix.isPrefixOf e.1 = false →
    ∃ height root, e = (stateRootKey height, hashBytes root)
  fits : ∀ a r, t.accounts a = some r → a < 256 ^ 20 ∧ r.fits = true

theorem mirrors_empty : empty.Mirrors .empty :=
  ⟨fun _ => ⟨fun ⟨h, _⟩ => absurd h (List.not_mem_nil _), fun ⟨_, _, h, _⟩ => (nomatch h)⟩,
    fun _ h => absurd h (List.not_mem_nil _), fun _ _ h => (nomatch h)⟩

section Mirrors

variable {c : StateColumn} {t : AccountTable} (hm : c.Mirrors t)
include hm

theorem Mirrors.get_fits (a : Address) : (t.get a).fits = true := by
  unfold AccountTable.get
  cases h : t.accounts a with
  | none => rfl
  | some r => exact (hm.fits a r h).2

theorem Mirrors.getCf_accountKey {a : Address} (ha : a < 256 ^ 20) :
    c.state.getCf (accountKey a) = (t.accounts a).map AccountRecord.serialize := by
  refine Option.ext fun v => ?_
  have hv := hm.accounts (accountKey a, v)
  simp only [isPrefixOf_accountKey, and_true, Prod.mk.injEq] at hv
  rw [Option.mem_def, ColumnFamily.getCf_eq_some, hv, Option.mem_def, Option.map_eq_some']
  constructor
  · rintro ⟨a', r, hr, hk, rfl⟩
    exact ⟨r, accountKey_injective (hm.fits a' r hr).1 ha hk.symm ▸ hr, rfl⟩
  · rintro ⟨r, hr, rfl⟩
    exact ⟨a, r, hr, rfl, rfl⟩

theorem Mirrors.getAccount {a : Address} (ha : a < 256 ^ 20) : c.getAccount a = .ok (t.accounts a) := by
  rw [StateColumn.getAccount, hm.getCf_accountKey ha]
  cases h : t.accounts a with
  | none => rfl
  | some r =>
      have hd := AccountRecord.deserialize_serialize (hm.fits a r h).2 []
      rw [List.append_nil] at hd
      simp only [Option.map_some', hd]

theorem Mirrors.getBalance {a : Address} (ha : a < 256 ^ 20) : c.getBalance a = .ok (t.get a).balance := by
  rw [StateColumn.getBalance, hm.getAccount ha, AccountTable.get]
  cases t.accounts a <;> rfl

theorem Mirrors.getNonce {a : Address} (ha : a < 256 ^ 20) : c.getNonce a = .ok (t.get a).nonce := by
  rw [StateColumn.getNonce, hm.getAccount ha, AccountTable.get]
  cases t.accounts a <;> rfl

theorem Mirrors.setAccount {a : Address} (ha : a < 256 ^ 20) {r : AccountRecord} (hr : r.fits = true) :
    (c.setAccount a r).Mirrors (t.setAccount a r) := by
  refine ⟨fun e => ?_, fun e he hp => ?_, fun a' r' h => ?_⟩
  · simp only [StateColumn.setAccount, AccountTable.setAccount, ColumnFamily.mem_putCf]
    constructor
    · rintro ⟨rfl | ⟨he, hne⟩, hp⟩
      · exact ⟨a, r, Function.update_same _ _ _, rfl⟩
      · obtain ⟨a', r', hr', rfl⟩ := (hm.accounts e).mp ⟨he, hp⟩
        exact ⟨a', r', by rwa [Function.update_noteq fun h => hne (by rw [h])], rfl⟩
    · rintro ⟨a', r', hr', rfl⟩
      refine ⟨?_, isPrefixOf_accountKey a'⟩
      by_cases h : a' = a
      · subst h
        rw [Function.update_same, Option.some.injEq] at hr'
        exact .inl (hr' ▸ rfl)
      · rw [Function.update_noteq h] at hr'
        exact .inr ⟨((hm.accounts _).mpr ⟨a', r', hr', rfl⟩).1,
          fun he => h (accountKey_injective (hm.fits a' r' hr').1 ha he)⟩
  · rcases ColumnFamily.mem_putCf.mp he with rfl | ⟨he, -⟩
    · have := (isPrefixOf_accountKey a).symm.trans hp
      cases this
    · exact hm.roots e he hp
  · dsimp only [AccountTable.setAccount] at h
    by_cases e : a' = a
    · subst e
      rw [Function.update_same, Option.some.injEq] at h
      exact ⟨ha, h ▸ hr⟩
    · rw [Function.update_noteq e] at h
      exact hm.fits a' r' h

theorem Mirrors.setStateRoot (height : BlockHeight) (root : Hash) : (c.setStateRoot height root).Mirrors t := by
  refine ⟨fun e => ?_, fun e he hp => ?_, hm.fits⟩
  · rw [← hm.accounts e, StateColumn.setStateRoot, ColumnFamily.mem_putCf]
    constructor
    · rintro ⟨rfl | ⟨he, -⟩, hp⟩
      · exact absurd hp (by simp [isPrefixOf_stateRootKey])
      · exact ⟨he, hp⟩
    · rintro ⟨he, hp⟩
      exact ⟨.inr ⟨he, fun hk => by rw [hk, isPrefixOf_stateRootKey] at hp; cases hp⟩, hp⟩
  · rcases ColumnFamily.mem_putCf.mp he with rfl | ⟨he, -⟩
    · exact ⟨height, root, rfl⟩
    · exact hm.roots e he hp

theorem Mirrors.setBalance {a : Address} (ha : a < 256 ^ 20) {balance : Nat} (hb : balance < u64Size) :
    ∃ c', c.setBalance a balance = .ok c' ∧ c'.Mirrors (t.setBalance a balance) := by
  have hr : ({ t.get a with balance } : AccountRecord).fits = true := by
    have := hm.get_fits a
    simp only [AccountRecord.fits, Bool.and_eq_true, decide_eq_true_eq] at this ⊢
    exact ⟨⟨⟨hb, this.1.1.2⟩, this.1.2⟩, this.2⟩
  exact ⟨_, by rw [StateColumn.setBalance, hm.getAccount ha]; rfl, hm.setAccount ha hr⟩

theorem Mirrors.incrementNonce {a : Address} (ha : a < 256 ^ 20) :
    ∃ c', c.incrementNonce a = .ok c' ∧ c'.Mirrors (t.incrementNonce a) := by
  have hr : ({ t.get a with nonce := wrappingAdd (t.get a).nonce 1 } : AccountRecord).fits = true := by
    have := hm.get_fits a
    simp only [AccountRecord.fits, Bool.and_eq_true, decide_eq_true_eq] at this ⊢
    exact ⟨⟨⟨this.1.1.1, Nat.mod_lt _ (by norm_num [u64Size])⟩, this.1.2⟩, this.2⟩
  exact ⟨_, by rw [StateColumn.incrementNonce, hm.getAccount ha]; rfl, hm.setAccount ha hr⟩

theorem Mirrors.balance_lt (a : Address) : (t.get a).balance < u64Size := by
  have := hm.get_fits a
  simp only [AccountRecord.fits, Bool.and_eq_true, decide_eq_true_eq] at this
  exact this.1.1.1

theorem Mirrors.transfer {«from» «to» : Address} (hf : «from» < 256 ^ 20) (ht : «to» < 256 ^ 20) (amount : Nat) :
    (c.transfer «from» «to» amount).2 =
        (if (t.get «from»).balance < amount then .error "Insufficient balance" else .ok ()) ∧
      (c.transfer «from» «to» amount).1.Mirrors ((t.transfer «from» «to» amount).getD t) := by
  rw [StateColumn.transfer, hm.getBalance hf, hm.getBalance ht, AccountTable.transfer]
  dsimp only
  split_ifs with h
  · exact ⟨rfl, hm⟩
  · obtain ⟨c₁, h₁, hm₁⟩ := hm.setBalance hf (lt_of_le_of_lt (Nat.sub_le _ _) (hm.balance_lt «from»))
    obtain ⟨c₂, h₂, hm₂⟩ := hm₁.setBalance ht
      (show wrappingAdd (t.get «to»).balance amount < u64Size from Nat.mod_lt _ (by norm_num [u64Size]))
    rw [h₁]
    dsimp only
    rw [h₂]
    exact ⟨rfl, hm₂⟩

theorem Mirrors.apply {op : StateOp} (hop : op.fits = true) (sha256 : List Nat → Hash) :
    (c.apply sha256 op).Mirrors (t.apply op) := by
  cases op with
  | setAccount address state =>
      simp only [StateOp.fits, Bool.and_eq_true, decide_eq_true_eq] at hop
      exact hm.setAccount hop.1 hop.2
  | setBalance address balance =>
      simp only [StateOp.fits, Bool.and_eq_true, decide_eq_true_eq] at hop
      obtain ⟨c', h, hm'⟩ := hm.setBalance hop.1 hop.2
      simpa only [StateColumn.apply, h] using hm'
  | incrementNonce address =>
      simp only [StateOp.fits, decide_eq_true_eq] at hop
      obtain ⟨c', h, hm'⟩ := hm.incrementNonce hop
      simpa only [StateColumn.apply, h] using hm'
  | transfer «from» «to» amount =>
      simp only [StateOp.fits, Bool.and_eq_true, decide_eq_true_eq] at hop
      exact (hm.transfer hop.1 hop.2 amount).2
  | setStateRoot height root => exact hm.setStateRoot height root
  | createSnapshot height => exact hm.setStateRoot height _

end Mirrors

theorem Mirrors.run (sha256 : List Nat → Hash) {ops : List StateOp} (hfit : ∀ op ∈ ops, op.fits = true) :
    ∀ {c : StateColumn} {t : AccountTable}, c.Mirrors t → (c.run sha256 ops).Mirrors (t.run ops) := by
  induction ops with
  | nil => exact id
  | cons op ops ih =>
      exact fun hm => ih (fun op' h => hfit op' (List.mem_cons_of_mem op h))
        (hm.apply (hfit op (List.mem_cons_self op ops)) sha256)

theorem mirrors_run (sha256 : List Nat → Hash) {ops : List StateOp} (hfit : ∀ op ∈ ops, op.fits = true) :
    (empty.run sha256 ops).Mirrors (AccountTable.empty.run ops) :=
  Mirrors.run sha256 hfit mirrors_empty

section Reads

theorem eq_of_sorted_of_mem_iff {V : Type} {l l' : List (List Nat × V)} (hs : l.Pairwise fun a b => a.1 < b.1)
    (hs' : l'.Pairwise fun a b => a.1 < b.1) (h : ∀ e, e ∈ l ↔ e ∈ l') : l = l' := by
  haveI : IsAntisymm (List Nat × V) fun a b => a.1 < b.1 := ⟨fun _ _ h h' => absurd (h.trans h') (lt_irrefl _)⟩
  have hnd : ∀ {l : List (List Nat × V)}, l.Pairwise (fun a b => a.1 < b.1) → l.Nodup :=
    fun hs => hs.imp fun h e => ne_of_lt h (congrArg Prod.fst e)
  exact List.eq_of_perm_of_sorted ((List.perm_ext_iff_of_nodup (hnd hs) (hnd hs')).mpr h) hs hs'

variable {c : StateColumn} {t : AccountTable} (hm : c.Mirrors t)
include hm

theorem Mirrors.getStateRoot_ok (height : BlockHeight) : ∃ root, c.getStateRoot height = .ok root := by
  unfold getStateRoot
  cases hv : c.state.getCf (stateRootKey height) with
  | none => exact ⟨none, rfl⟩
  | some v =>
      obtain ⟨_, root, he⟩ := hm.roots _ (ColumnFamily.getCf_eq_some.mp hv) (isPrefixOf_stateRootKey height)
      refine ⟨hashOfBytes v, ?_⟩
      dsimp only
      rw [if_pos ((Prod.mk.inj he).2 ▸ hashBytes_length root)]

theorem Mirrors.calculateStateRoot_congr {c' : StateColumn} {t' : AccountTable} (hm' : c'.Mirrors t')
    (h : t.accounts = t'.accounts) (sha256 : List Nat → Hash) :
    c.calculateStateRoot sha256 = c'.calculateStateRoot sha256 := by
  have hl : c.state.entries.filter (fun e => accountPrefix.isPrefixOf e.1) =
      c'.state.entries.filter fun e => accountPrefix.isPrefixOf e.1 :=
    eq_of_sorted_of_mem_iff (c.state.sorted.sublist (List.filter_sublist _))
      (c'.state.sorted.sublist (List.filter_sublist _)) fun e => by
        rw [List.mem_filter, List.mem_filter, hm.accounts, hm'.accounts, h]
  rw [calculateStateRoot_eq, calculateStateRoot_eq, hl]

theorem Mirrors.collectAccount_apply {e : List Nat × List Nat} (he : e ∈ c.state.entries)
    (accounts : Address → Option AccountRecord) (b : Address) :
    collectAccount accounts e b = if b < 256 ^ 20 ∧ accountKey b = e.1 then t.accounts b else accounts b := by
  unfold collectAccount
  cases hp : accountPrefix.isPrefixOf e.1 with
  | false =>
      have hne : accountKey b ≠ e.1 := fun h => by rw [← h, isPrefixOf_accountKey] at hp; cases hp
      rw [if_neg Bool.false_ne_true, if_neg fun h => hne h.2]
  | true =>
      obtain ⟨a, r, hr, rfl⟩ := (hm.accounts e).mp ⟨he, hp⟩
      have ha := (hm.fits a r hr).1
      have hd := AccountRecord.deserialize_serialize (hm.fits a r hr).2 []
      rw [List.append_nil] at hd
      rw [if_pos rfl, parseAccountKey_accountKey ha, hd]
      dsimp only
      rw [Function.update_apply]
      by_cases hb : b = a
      · subst hb
        rw [if_pos rfl, if_pos ⟨ha, rfl⟩, hr]
      · rw [if_neg hb, if_neg fun h => hb (accountKey_injective h.1 ha h.2)]

theorem Mirrors.foldl_collectAccount :
    ∀ {l : List (List Nat × List Nat)}, (∀ e ∈ l, e ∈ c.state.entries) → ∀ accounts b,
      l.foldl collectAccount accounts b =
        if b < 256 ^ 20 ∧ accountKey b ∈ l.map Prod.fst then t.accounts b else accounts b
  | [], _, accounts, b => by simp
  | e :: l, hl, accounts, b => by
      rw [List.foldl_cons, Mirrors.foldl_collectAccount (fun e' h => hl e' (List.mem_cons_of_mem e h)),
        hm.collectAccount_apply (hl e (List.mem_cons_self e l)), List.map_cons]
      split_ifs <;> simp only [List.mem_cons] at * <;> first | rfl | (exfalso; tauto)

theorem Mirrors.getAllAccounts : c.getAllAccounts = t.accounts := by
  funext b
  rw [StateColumn.getAllAccounts, ColumnFamily.iteratorCf, hm.foldl_collectAccount fun _ h => h]
  split_ifs with h
  · rfl
  · cases hb : t.accounts b with
    | none => rfl
    | some r =>
        have hk := ((hm.accounts _).mpr ⟨b, r, hb, rfl⟩).1
        exact absurd ⟨(hm.fits b r hb).1, List.mem_map_of_mem Prod.fst hk⟩ h

end Reads

def sampleStateOps : List StateOp :=
  [.setBalance 1 100, .setAccount 2 ⟨5, 1, some 9, 3⟩, .transfer 1 2 30, .createSnapshot 1, .incrementNonce 1,
    .transfer 2 1 500, .setStateRoot 2 77]

theorem state_column_refines_state_store (sha256 : List Nat → Hash) {ops : List StateOp}
    (hfit : ∀ op ∈ ops, op.fits = true) {a : Address} (ha : a < 256 ^ 20) :
    ((empty.run sha256 ops).getAccount a).map (Option.map AccountRecord.toAccountState) =
        .ok ((StateStore.empty.runOps ops).getAccount a) ∧
      (empty.run sha256 ops).getBalance a = .ok ((StateStore.empty.runOps ops).getBalance a) ∧
      (empty.run sha256 ops).getNonce a = .ok ((StateStore.empty.runOps ops).getNonce a) := by
  have hm := mirrors_run sha256 hfit
  have hs : StateStore.empty.runOps ops = (AccountTable.empty.run ops).toStateStore :=
    (AccountTable.toStateStore_run AccountTable.empty ops).symm
  rw [hs, hm.getAccount ha, hm.getBalance ha, hm.getNonce ha, AccountTable.toStateStore_getBalance,
    AccountTable.toStateStore_getNonce]
  exact ⟨rfl, rfl, rfl⟩

theorem sample_state_refines :
    (∀ op ∈ sampleStateOps, op.fits = true) ∧ (1 : Address) < 256 ^ 20 ∧
      ((empty.run sampleDigest sampleStateOps).getAccount 1).map (Option.map AccountRecord.toAccountState) =
          .ok ((StateStore.empty.runOps sampleStateOps).getAccount 1) ∧
        (empty.run sampleDigest sampleStateOps).getBalance 1 = .ok ((StateStore.empty.runOps sampleStateOps).getBalance 1) ∧
        (empty.run sampleDigest sampleStateOps).getNonce 1 = .ok ((StateStore.empty.runOps sampleStateOps).getNonce 1) :=
  ⟨by decide, by decide, state_column_refines_state_store sampleDigest (by decide) (by decide)⟩

theorem run_reads_account_table (sha256 : List Nat → Hash) {ops : List StateOp} (hfit : ∀ op ∈ ops, op.fits = true) :
    (empty.run sha256 ops).getAllAccounts = (AccountTable.empty.run ops).accounts ∧
      ∀ height, ∃ root, (empty.run sha256 ops).getStateRoot height = .ok root :=
  ⟨(mirrors_run sha256 hfit).getAllAccounts, (mirrors_run sha256 hfit).getStateRoot_ok⟩

theorem sample_run_reads_table :
    (∀ op ∈ sampleStateOps, op.fits = true) ∧
      (empty.run sampleDigest sampleStateOps).getAllAccounts = (AccountTable.empty.run sampleStateOps).accounts ∧
      ∀ height, ∃ root, (empty.run sampleDigest sampleStateOps).getStateRoot height = .ok root :=
  ⟨by decide, run_reads_account_table sampleDigest (by decide)⟩

theorem state_root_canonical (sha256 : List Nat → Hash) {ops ops' : List StateOp} (hfit : ∀ op ∈ ops, op.fits = true)
    (hfit' : ∀ op ∈ ops', op.fits = true)
    (h : (AccountTable.empty.run ops).accounts = (AccountTable.empty.run ops').accounts) :
    (empty.run sha256 ops).calculateStateRoot sha256 = (empty.run sha256 ops').calculateStateRoot sha256 :=
  (mirrors_run sha256 hfit).calculateStateRoot_congr (mirrors_run sha256 hfit') h sha256

theorem sample_state_root_canonical :
    (∀ op ∈ [StateOp.setBalance 1 5, .setBalance 2 7], op.fits = true) ∧
      (∀ op ∈ [StateOp.setBalance 2 7, .createSnapshot 0, .setBalance 1 5], op.fits = true) ∧
      (AccountTable.empty.run [.setBalance 1 5, .setBalance 2 7]).accounts =
        (AccountTable.empty.run [.setBalance 2 7, .createSnapshot 0, .setBalance 1 5]).accounts ∧
      (empty.run sampleDigest [.setBalance 1 5, .setBalance 2 7]).calculateStateRoot sampleDigest =
        (empty.run sampleDigest [.setBalance 2 7, .createSnapshot 0, .setBalance 1 5]).calculateStateRoot sampleDigest := by
  have h : (AccountTable.empty.run [.setBalance 1 5, .setBalance 2 7]).accounts =
      (AccountTable.empty.run [.setBalance 2 7, .createSnapshot 0, .setBalance 1 5]).accounts := by
    funext a
    simp only [AccountTable.run, List.foldl, AccountTable.apply, AccountTable.setBalance, AccountTable.setAccount,
      AccountTable.get, AccountTable.empty, Function.update_apply]
    by_cases h1 : a = 1 <;> by_cases h2 : a = 2 <;> simp [h1, h2]
  exact ⟨by decide, by decide, h, state_root_canonical sampleDigest (by decide) (by decide) h⟩

end StateColumn

end BlockchainNode

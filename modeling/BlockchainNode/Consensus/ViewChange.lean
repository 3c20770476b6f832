import BlockchainNode.Consensus.LeaderElection
import Mathlib.Data.List.Dedup

namespace BlockchainNode

inductive ViewChangeState where
  | normal
  | viewChanging
  | newViewReceived
  deriving DecidableEq, Repr

structure ViewChangeTimeout where
  baseTimeoutMs : Nat
  maxTimeoutMs : Nat
  deriving DecidableEq, Repr

def ViewChangeTimeout.default : ViewChangeTimeout where
  baseTimeoutMs := 5000
  maxTimeoutMs := 60000

structure ViewChangeManager where
  config : ConsensusConfig
  timeoutConfig : ViewChangeTimeout
  currentView : Nat
  state : ViewChangeState
  viewChangeMessages : Nat → AList (fun _ : NodeId => ConsensusMessage)
  newViewMessages : Nat → Option ConsensusMessage
  viewStartTime : Timestamp
  timeoutDuration : Nat
  messageSender : Option Bool

namespace ViewChangeManager

def new (config : ConsensusConfig) (now : Timestamp) : ViewChangeManager where
  config := config
  timeoutConfig := .default
  currentView := 0
  state := .normal
  viewChangeMessages := fun _ => ∅
  newViewMessages := fun _ => none
  viewStartTime := now
  timeoutDuration := ViewChangeTimeout.default.baseTimeoutMs
  messageSender := none

def setMessageSender (m : ViewChangeManager) (channelOpen : Bool) : ViewChangeManager :=
  { m with messageSender := some channelOpen }

def startView (m : ViewChangeManager) (view : Nat) (now : Timestamp) : ViewChangeManager :=
  { m with
    currentView := view
    state := .normal
    viewStartTime := now
    timeoutDuration := m.timeoutConfig.baseTimeoutMs }

def isTimeout (m : ViewChangeManager) (now : Timestamp) : Bool :=
  m.state == .normal && decide (m.timeoutDuration < now - m.viewStartTime)

def broadcastMessage (m : ViewChangeManager) (message : ConsensusMessage) :
    Except String (List ConsensusMessage) :=
  match m.messageSender with
  | none => .ok []
  | some true => .ok [message]
  | some false => .error "Failed to broadcast message: channel closed"

def storeViewChange (m : ViewChangeManager) (newView : Nat) (validatorId : NodeId)
    (message : ConsensusMessage) : ViewChangeManager :=
  let messages := (m.viewChangeMessages newView).insert validatorId message
  { m with viewChangeMessages := Function.update m.viewChangeMessages newView messages }

def triggerViewChange (m : ViewChangeManager) (newView : Nat) : Outcome ViewChangeManager :=
  if newView ≤ m.currentView then ⟨m, [], .error "New view must be greater than current view"⟩
  else
    let m := { m with state := .viewChanging }
    let message := ConsensusMessage.viewChange newView m.config.nodeId 0
    match m.broadcastMessage message with
    | .error e => ⟨m, [], .error e⟩
    | .ok out => ⟨m.storeViewChange newView m.config.nodeId message, out, .ok ()⟩

def isNewPrimary (m : ViewChangeManager) (view : Nat) : Bool :=
  roundRobin m.config.validatorSet view == some m.config.nodeId

def byzantineThreshold (m : ViewChangeManager) : Nat := quorumSize m.config.validatorSet.length

def sendNewView (m : ViewChangeManager) (view : Nat) (now : Timestamp) : Outcome ViewChangeManager :=
  let viewChangeMessages := (m.viewChangeMessages view).entries.map Sigma.snd
  if viewChangeMessages.length < m.byzantineThreshold then
    ⟨m, [], .error "Insufficient view change messages to send NEW-VIEW"⟩
  else
    match m.broadcastMessage (.newView view viewChangeMessages) with
    | .error e => ⟨m, [], .error e⟩
    | .ok out => ⟨m.startView view now, out, .ok ()⟩

def waitForNewView (m : ViewChangeManager) (_view : Nat) : Outcome ViewChangeManager :=
  ⟨{ m with state := .newViewReceived }, [], .ok ()⟩

def handleViewChange (m : ViewChangeManager) (newView : Nat) (validatorId : NodeId) (signature : Signature)
    (now : Timestamp) : Outcome ViewChangeManager :=
  if validatorId ∉ m.config.validatorSet then ⟨m, [], .ok ()⟩
  else if newView ≤ m.currentView then ⟨m, [], .ok ()⟩
  else
    let m := m.storeViewChange newView validatorId (.viewChange newView validatorId signature)
    if m.byzantineThreshold ≤ (m.viewChangeMessages newView).entries.length then
      if m.isNewPrimary newView then m.sendNewView newView now else m.waitForNewView newView
    else ⟨m, [], .ok ()⟩

def checkViewChangeMessages (m : ViewChangeManager) (view : Nat) : List ConsensusMessage → Except String Unit
  | [] => .ok ()
  | .viewChange newView validatorId _ :: rest =>
      if newView ≠ view then .error "Invalid view in view change message"
      else if validatorId ∉ m.config.validatorSet then .error "Invalid validator in view change message"
      else m.checkViewChangeMessages view rest
  | _ :: _ => .error "Invalid message type in NEW-VIEW"

def handleNewView (m : ViewChangeManager) (view : Nat) (viewChangeMessages : List ConsensusMessage)
    (now : Timestamp) : Outcome ViewChangeManager :=
  if view ≤ m.currentView then ⟨m, [], .ok ()⟩
  else if viewChangeMessages.length < m.byzantineThreshold then
    ⟨m, [], .error "Insufficient view change messages in NEW-VIEW"⟩
  else
    match m.checkViewChangeMessages view viewChangeMessages with
    | .error e => ⟨m, [], .error e⟩
    | .ok () =>
        let newViewMessage := ConsensusMessage.newView view viewChangeMessages
        let m := { m with newViewMessages := Function.update m.newViewMessages view (some newViewMessage) }
        ⟨m.startView view now, [], .ok ()⟩

def updateTimeout (m : ViewChangeManager) : ViewChangeManager :=
  { m with timeoutDuration := min (m.timeoutDuration * 3 / 2) m.timeoutConfig.maxTimeoutMs }

def getCurrentView (m : ViewChangeManager) : Nat := m.currentView

def getState (m : ViewChangeManager) : ViewChangeState := m.state

def cleanupOldMessages (m : ViewChangeManager) (keepLastNViews : Nat) : ViewChangeManager :=
  if m.currentView ≤ keepLastNViews then m
  else
    let cutoffView := m.currentView - keepLastNViews
    { m with
      viewChangeMessages := fun view => if cutoffView ≤ view then m.viewChangeMessages view else ∅
      newViewMessages := fun view => if cutoffView ≤ view then m.newViewMessages view else none }

inductive Op where
  | triggerViewChange (newView : Nat)
  | handleViewChange (newView : Nat) (validatorId : NodeId) (signature : Signature) (now : Timestamp)
  | handleNewView (view : Nat) (viewChangeMessages : List ConsensusMessage) (now : Timestamp)
  | updateTimeout
  | cleanupOldMessages (keepLastNViews : Nat)
  | setMessageSender (channelOpen : Bool)

def apply (m : ViewChangeManager) : Op → ViewChangeManager
  | .triggerViewChange newView => (m.triggerViewChange newView).state
  | .handleViewChange newView validatorId signature now =>
      (m.handleViewChange newView validatorId signature now).state
  | .handleNewView view viewChangeMessages now => (m.handleNewView view viewChangeMessages now).state
  | .updateTimeout => m.updateTimeout
  | .cleanupOldMessages keepLastNViews => m.cleanupOldMessages keepLastNViews
  | .setMessageSender channelOpen => m.setMessageSender channelOpen

def Op.payload : Op → List ConsensusMessage
  | .handleNewView _ viewChangeMessages _ => viewChangeMessages
  | _ => []

def Reachable (config : ConsensusConfig) (now : Timestamp) (m : ViewChangeManager) : Prop :=
  Relation.ReflTransGen (fun m m' => ∃ op, m' = m.apply op) (new config now) m

def viewChangeVoters (view : Nat) : List ConsensusMessage → List NodeId
  | [] => []
  | .viewChange newView validatorId _ :: rest =>
      if newView = view then validatorId :: viewChangeVoters view rest else viewChangeVoters view rest
  | _ :: rest => viewChangeVoters view rest

def issuers (m : ViewChangeManager) (view : Nat) (payload : List ConsensusMessage) : List NodeId :=
  ((m.viewChangeMessages view).keys ++ viewChangeVoters view payload).dedup.filter
    (· ∈ m.config.validatorSet)

def Backed (m : ViewChangeManager) (view : Nat) (payload : List ConsensusMessage) : Prop :=
  m.byzantineThreshold ≤ (m.issuers view payload).length

instance (m : ViewChangeManager) (view : Nat) (payload : List ConsensusMessage) :
    Decidable (m.Backed view payload) :=
  Nat.decLe _ _

def KeysValid (m : ViewChangeManager) : Prop :=
  ∀ view k, k ∈ (m.viewChangeMessages view).keys → k ∈ m.config.validatorSet ∨ k = m.config.nodeId

structure ViewStep (m m' : ViewChangeManager) : Prop where
  config : m'.config = m.config
  keys : ∀ view k, k ∈ (m'.viewChangeMessages view).keys →
    k ∈ (m.viewChangeMessages view).keys ∨ k ∈ m.config.validatorSet ∨ k = m.config.nodeId
  view : m.currentView ≤ m'.currentView
  stores : ∀ view k msg, (m'.viewChangeMessages view).lookup k = some msg →
    (m.viewChangeMessages view).lookup k = some msg ∨ m.currentView < view

section Steps

variable {m m₁ m₂ : ViewChangeManager}

theorem ViewStep.of_eq (hc : m₁.config = m.config) (hm : m₁.viewChangeMessages = m.viewChangeMessages)
    (hv : m₁.currentView = m.currentView) : ViewStep m m₁ :=
  ⟨hc, fun _ _ hk => .inl (hm ▸ hk), hv.ge, fun _ _ _ hl => .inl (hm ▸ hl)⟩

theorem ViewStep.trans (h₁ : ViewStep m m₁) (h₂ : ViewStep m₁ m₂) : ViewStep m m₂ where
  config := h₂.config.trans h₁.config
  keys view k hk := by
    rcases h₂.keys view k hk with hk | hk
    · exact h₁.keys view k hk
    · exact .inr (h₁.config ▸ hk)
  view := h₁.view.trans h₂.view
  stores view k msg hl := (h₂.stores view k msg hl).elim (h₁.stores view k msg) fun hv => .inr (h₁.view.trans_lt hv)

theorem ViewStep.storeViewChange {v : Nat} {k : NodeId} {msg : ConsensusMessage}
    (hk : k ∈ m.config.validatorSet ∨ k = m.config.nodeId) (hv : m.currentView < v) :
    ViewStep m (m.storeViewChange v k msg) := by
  refine ⟨rfl, fun view k' hk' => ?_, le_refl _, fun view k' msg' hl => ?_⟩
  change k' ∈ (Function.update m.viewChangeMessages v _ view).keys at hk'
  rw [Function.update_apply] at hk'
  split at hk'
  · next hv =>
      subst hv
      rw [AList.keys_insert, List.mem_cons] at hk'
      rcases hk' with rfl | hk'
      · exact .inr hk
      · exact .inl (List.mem_of_mem_erase hk')
  · exact .inl hk'
  · change (Function.update m.viewChangeMessages v _ view).lookup k' = some msg' at hl
    rw [Function.update_apply] at hl
    split at hl
    · next he => exact .inr (he ▸ hv)
    · exact .inl hl

theorem ViewStep.startView {v : Nat} (hv : m.currentView < v) (now : Timestamp) :
    ViewStep m (m.startView v now) :=
  ⟨rfl, fun _ _ hk => .inl hk, hv.le, fun _ _ _ hl => .inl hl⟩

theorem triggerViewChange_step (v : Nat) : ViewStep m (m.triggerViewChange v).state := by
  dsimp only [triggerViewChange]
  split
  · exact .of_eq rfl rfl rfl
  · next hv =>
      split
      · exact .of_eq rfl rfl rfl
      · exact (@ViewStep.of_eq m { m with state := .viewChanging } rfl rfl rfl).trans
          (.storeViewChange (.inr rfl) (Nat.lt_of_not_le hv))

theorem sendNewView_step {v : Nat} (hv : m.currentView < v) (now : Timestamp) :
    ViewStep m (m.sendNewView v now).state := by
  dsimp only [sendNewView]
  split
  · exact .of_eq rfl rfl rfl
  · split
    · exact .of_eq rfl rfl rfl
    · exact .startView hv now

theorem handleViewChange_step (v : Nat) (k : NodeId) (sig : Signature) (now : Timestamp) :
    ViewStep m (m.handleViewChange v k sig now).state := by
  dsimp only [handleViewChange]
  split
  · exact .of_eq rfl rfl rfl
  · next hk =>
      split
      · exact .of_eq rfl rfl rfl
      · next hv =>
          have hs := @ViewStep.storeViewChange m v k (.viewChange v k sig) (.inl (not_not.mp hk)) (Nat.lt_of_not_le hv)
          split
          · split
            · exact hs.trans (@sendNewView_step (m.storeViewChange v k (.viewChange v k sig)) v (Nat.lt_of_not_le hv) now)
            · exact hs.trans (.of_eq rfl rfl rfl)
          · exact hs

theorem handleNewView_step (v : Nat) (msgs : List ConsensusMessage) (now : Timestamp) :
    ViewStep m (m.handleNewView v msgs now).state := by
  dsimp only [handleNewView]
  split
  · exact .of_eq rfl rfl rfl
  · next hv =>
      split
      · exact .of_eq rfl rfl rfl
      · split
        · exact .of_eq rfl rfl rfl
        · exact ⟨rfl, fun _ _ hk => .inl hk, (Nat.lt_of_not_le hv).le, fun _ _ _ hl => .inl hl⟩

theorem cleanupOldMessages_step (keep : Nat) : ViewStep m (m.cleanupOldMessages keep) := by
  unfold cleanupOldMessages
  split
  · exact .of_eq rfl rfl rfl
  · refine ⟨rfl, fun view k hk => .inl ?_, le_refl _, fun view k msg hl => .inl ?_⟩
    · dsimp only at hk
      split at hk
      · exact hk
      · exact absurd hk (List.not_mem_nil _)
    · dsimp only at hl
      split at hl
      · exact hl
      · simp [AList.lookup_empty] at hl

theorem apply_step (op : Op) : ViewStep m (m.apply op) := by
  cases op with
  | triggerViewChange v => exact triggerViewChange_step v
  | handleViewChange v k sig now => exact handleViewChange_step v k sig now
  | handleNewView v msgs now => exact handleNewView_step v msgs now
  | updateTimeout => exact .of_eq rfl rfl rfl
  | cleanupOldMessages keep => exact cleanupOldMessages_step keep
  | setMessageSender b => exact .of_eq rfl rfl rfl

theorem KeysValid.step (hk : KeysValid m) (h : ViewStep m m₁) : KeysValid m₁ := by
  intro view k hk₁
  rw [h.config]
  exact (h.keys view k hk₁).elim (hk view k) id

theorem keysValid_new (config : ConsensusConfig) (now : Timestamp) : KeysValid (new config now) :=
  fun _ _ hk => absurd hk (List.not_mem_nil _)

theorem Reachable.keysValid {config : ConsensusConfig} {now : Timestamp} (h : Reachable config now m) :
    KeysValid m := by
  induction h with
  | refl => exact keysValid_new config now
  | tail _ hs ih => obtain ⟨op, rfl⟩ := hs; exact ih.step (apply_step op)

theorem Reachable.config {config : ConsensusConfig} {now : Timestamp} (h : Reachable config now m) :
    m.config = config := by
  induction h with
  | refl => rfl
  | tail _ hs ih => obtain ⟨op, rfl⟩ := hs; exact (apply_step op).config.trans ih

theorem sendNewView_state (m : ViewChangeManager) (v : Nat) (now : Timestamp) :
    (m.sendNewView v now).state = m ∨
      ((m.sendNewView v now).state = m.startView v now ∧ m.byzantineThreshold ≤ (m.viewChangeMessages v).entries.length) := by
  dsimp only [sendNewView]
  split
  · exact .inl rfl
  · next hq =>
      split
      · exact .inl rfl
      · exact .inr ⟨rfl, by simpa using hq⟩

theorem handleViewChange_cases (v : Nat) (k : NodeId) (sig : Signature) (now : Timestamp) :
    (m.handleViewChange v k sig now).state.currentView = m.currentView ∨
      ∃ m₁, m₁ = m.storeViewChange v k (.viewChange v k sig) ∧ k ∈ m.config.validatorSet ∧ m.currentView < v ∧
        (m.handleViewChange v k sig now).state = m₁.startView v now ∧
        m₁.byzantineThreshold ≤ (m₁.viewChangeMessages v).entries.length ∧ m₁.isNewPrimary v = true := by
  dsimp only [handleViewChange]
  split
  · exact .inl rfl
  · next hk =>
      split
      · exact .inl rfl
      · next hv =>
          split
          · split
            · next hp =>
                rcases sendNewView_state (m.storeViewChange v k (.viewChange v k sig)) v now with h | ⟨h, hq⟩
                · exact .inl (by rw [h]; rfl)
                · exact .inr ⟨_, rfl, by simpa using hk, Nat.lt_of_not_le hv, h, hq, hp⟩
            · exact .inl rfl
          · exact .inl rfl

theorem checkViewChangeMessages_ok {v : Nat} {msgs : List ConsensusMessage}
    (h : m.checkViewChangeMessages v msgs = .ok ()) :
    ∀ msg ∈ msgs, ∃ k sig, msg = .viewChange v k sig ∧ k ∈ m.config.validatorSet := by
  induction msgs with
  | nil => intro _ hm; exact absurd hm (List.not_mem_nil _)
  | cons msg rest ih =>
      cases msg with
      | viewChange newView k sig =>
          simp only [checkViewChangeMessages] at h
          split_ifs at h with hv hk
          intro x hx
          rcases List.mem_cons.mp hx with rfl | hx
          · exact ⟨k, sig, by rw [not_not.mp hv], hk⟩
          · exact ih h x hx
      | _ => cases h

theorem handleNewView_cases (v : Nat) (msgs : List ConsensusMessage) (now : Timestamp) :
    (m.handleNewView v msgs now).state.currentView = m.currentView ∨
      ((m.handleNewView v msgs now).state.currentView = v ∧ (m.handleNewView v msgs now).state.config = m.config ∧
        (m.handleNewView v msgs now).state.viewChangeMessages = m.viewChangeMessages ∧
        m.byzantineThreshold ≤ msgs.length ∧ m.checkViewChangeMessages v msgs = .ok ()) := by
  dsimp only [handleNewView]
  split
  · exact .inl rfl
  · split
    · exact .inl rfl
    · next hq =>
        split
        · exact .inl rfl
        · next hc => exact .inr ⟨rfl, rfl, rfl, Nat.le_of_not_lt hq, hc⟩

theorem length_le_issuers {v : Nat} {payload : List ConsensusMessage} {ks : List NodeId} (hnd : ks.Nodup)
    (hsub : ks ⊆ m.config.validatorSet)
    (hks : ∀ k ∈ ks, k ∈ (m.viewChangeMessages v).keys ∨ k ∈ viewChangeVoters v payload) :
    ks.length ≤ (m.issuers v payload).length := by
  refine (List.subperm_of_subset hnd fun k hk => ?_).length_le
  simp only [issuers, List.mem_filter, List.mem_dedup, List.mem_append, decide_eq_true_eq]
  exact ⟨hks k hk, hsub hk⟩

theorem viewChangeVoters_spec {v : Nat} {msgs : List ConsensusMessage}
    (h : ∀ msg ∈ msgs, ∃ k sig, msg = .viewChange v k sig ∧ k ∈ m.config.validatorSet) :
    (viewChangeVoters v msgs).length = msgs.length ∧ viewChangeVoters v msgs ⊆ m.config.validatorSet := by
  induction msgs with
  | nil => exact ⟨rfl, List.nil_subset _⟩
  | cons msg rest ih =>
      obtain ⟨k, sig, rfl, hk⟩ := h msg (List.mem_cons_self _ _)
      obtain ⟨hl, hs⟩ := ih fun x hx => h x (List.mem_cons_of_mem _ hx)
      have hcons : viewChangeVoters v (.viewChange v k sig :: rest) = k :: viewChangeVoters v rest := if_pos rfl
      rw [hcons, List.length_cons, hl]
      exact ⟨rfl, List.cons_subset.mpr ⟨hk, hs⟩⟩

theorem handleViewChange_backed (hk : KeysValid m) (v : Nat) (k : NodeId) (sig : Signature) (now : Timestamp)
    (h : (m.handleViewChange v k sig now).state.currentView ≠ m.currentView) :
    Backed (m.handleViewChange v k sig now).state (m.handleViewChange v k sig now).state.currentView [] := by
  rcases handleViewChange_cases v k sig now with h' | ⟨m₁, rfl, hkm, hv, hs, hq, hp⟩
  · exact absurd h' h
  rw [hs]
  have hk₁ := hk.step (@ViewStep.storeViewChange m v k (.viewChange v k sig) (.inl hkm) hv)
  set m₁ := m.storeViewChange v k (.viewChange v k sig)
  have hprim : m₁.config.nodeId ∈ m₁.config.validatorSet := roundRobin_mem (beq_iff_eq.mp hp)
  have hsub : (m₁.viewChangeMessages v).keys ⊆ m₁.config.validatorSet :=
    fun x hx => (hk₁ v x hx).elim id fun h => h ▸ hprim
  show m₁.byzantineThreshold ≤ ((m₁.startView v now).issuers v []).length
  calc m₁.byzantineThreshold ≤ (m₁.viewChangeMessages v).entries.length := hq
    _ = (m₁.viewChangeMessages v).keys.length := by simp [AList.keys, List.keys]
    _ ≤ ((m₁.startView v now).issuers v []).length :=
      length_le_issuers (AList.keys_nodup _) hsub fun x hx => .inl hx

theorem handleNewView_backed (v : Nat) (msgs : List ConsensusMessage) (now : Timestamp)
    (h : (m.handleNewView v msgs now).state.currentView ≠ m.currentView) (hnd : (viewChangeVoters v msgs).Nodup) :
    Backed (m.handleNewView v msgs now).state v msgs := by
  rcases handleNewView_cases v msgs now with h' | ⟨-, hc, -, hq, hok⟩
  · exact absurd h' h
  obtain ⟨hl, hs⟩ := viewChangeVoters_spec (checkViewChangeMessages_ok hok)
  calc (m.handleNewView v msgs now).state.byzantineThreshold = m.byzantineThreshold := by
        simp only [byzantineThreshold, hc]
    _ ≤ msgs.length := hq
    _ = (viewChangeVoters v msgs).length := hl.symm
    _ ≤ ((m.handleNewView v msgs now).state.issuers v msgs).length :=
      length_le_issuers hnd (hc ▸ hs) fun _ hx => .inr hx

theorem triggerViewChange_currentView (v : Nat) : (m.triggerViewChange v).state.currentView = m.currentView := by
  dsimp only [triggerViewChange]
  split
  · rfl
  · split <;> rfl

theorem cleanupOldMessages_currentView (keep : Nat) : (m.cleanupOldMessages keep).currentView = m.currentView := by
  unfold cleanupOldMessages
  split <;> rfl

theorem view_change_backed {config : ConsensusConfig} {now : Timestamp} (hr : Reachable config now m) (op : Op)
    (h : (m.apply op).currentView ≠ m.currentView) (hnd : (viewChangeVoters (m.apply op).currentView op.payload).Nodup) :
    Backed (m.apply op) (m.apply op).currentView op.payload := by
  cases op with
  | handleViewChange v k sig now' => exact handleViewChange_backed hr.keysValid v k sig now' h
  | handleNewView v msgs now' =>
      rcases handleNewView_cases v msgs now' with h' | ⟨hv, -⟩
      · exact absurd h' h
      · simp only [apply, Op.payload, hv] at hnd ⊢
        exact handleNewView_backed v msgs now' (hv ▸ h) hnd
  | triggerViewChange v => exact absurd (triggerViewChange_currentView v) h
  | updateTimeout => exact absurd rfl h
  | cleanupOldMessages keep => exact absurd (cleanupOldMessages_currentView keep) h
  | setMessageSender b => exact absurd rfl h

theorem broadcastMessage_mem {msg x : ConsensusMessage} {out : List ConsensusMessage}
    (h : m.broadcastMessage msg = .ok out) (hx : x ∈ out) : x = msg := by
  unfold broadcastMessage at h
  split at h <;> cases h
  · cases hx
  · exact List.mem_singleton.mp hx

theorem triggerViewChange_sent (v : Nat) {x : ConsensusMessage} (hx : x ∈ (m.triggerViewChange v).sent) :
    x = .viewChange v m.config.nodeId 0 := by
  dsimp only [triggerViewChange] at hx
  split at hx
  · cases hx
  · split at hx
    · cases hx
    · next out hb => exact broadcastMessage_mem hb hx

theorem sendNewView_sent (v : Nat) (now : Timestamp) {x : ConsensusMessage} (hx : x ∈ (m.sendNewView v now).sent) :
    ∃ msgs, x = .newView v msgs := by
  dsimp only [sendNewView] at hx
  split at hx
  · cases hx
  · split at hx
    · cases hx
    · next out hb => exact ⟨_, broadcastMessage_mem hb hx⟩

theorem handleViewChange_sent (v : Nat) (k : NodeId) (sig : Signature) (now : Timestamp) {x : ConsensusMessage}
    (hx : x ∈ (m.handleViewChange v k sig now).sent) : ∃ msgs, x = .newView v msgs := by
  dsimp only [handleViewChange] at hx
  split_ifs at hx
  all_goals first | cases hx | exact sendNewView_sent v now hx

theorem handleNewView_sent (v : Nat) (msgs : List ConsensusMessage) (now : Timestamp) :
    (m.handleNewView v msgs now).sent = [] := by
  dsimp only [handleNewView]
  split
  · rfl
  · split
    · rfl
    · split <;> rfl

end Steps

theorem view_changes_only_increase (m : ViewChangeManager) (op : Op) :
    ((m.apply op).currentView ≠ m.currentView → m.currentView < (m.apply op).currentView) ∧
    ∀ view k msg, ((m.apply op).viewChangeMessages view).lookup k = some msg →
      (m.viewChangeMessages view).lookup k = some msg ∨ m.currentView < view :=
  ⟨fun h => (apply_step op).view.lt_of_ne (Ne.symm h), (apply_step op).stores⟩

def duplicateViewChanges : List ConsensusMessage := List.replicate 3 (.viewChange 1 "a" 0)

theorem new_view_counts_duplicate_votes :
    ((new (validatorConfig "b" ["a", "b", "c", "d"]) 0).handleNewView 1 duplicateViewChanges 5).result.isOk = true ∧
    ((new (validatorConfig "b" ["a", "b", "c", "d"]) 0).apply (.handleNewView 1 duplicateViewChanges 5)).currentView = 1 ∧
    ¬ Backed ((new (validatorConfig "b" ["a", "b", "c", "d"]) 0).apply (.handleNewView 1 duplicateViewChanges 5)) 1
      duplicateViewChanges := by
  decide

end ViewChangeManager

end BlockchainNode

import BlockchainNode.Encoding

namespace BlockchainNode

structure NetworkMessage where
  messageId : Uuid
  sender : NodeId
  timestamp : Timestamp
  deriving DecidableEq, Repr

structure GossipHandler where
  seenMessages : String → Option Timestamp

namespace GossipHandler

def new : GossipHandler := ⟨fun _ => none⟩

def cleanupOldMessages (g : GossipHandler) (currentTime : Timestamp) : GossipHandler :=
  ⟨fun messageId => (g.seenMessages messageId).filter fun timestamp => wrappingSub currentTime timestamp < 300000⟩

def handleMessage (g : GossipHandler) (message : NetworkMessage) (now : Timestamp) : Bool × GossipHandler :=
  let messageId := uuidHyphenated message.messageId
  if (g.seenMessages messageId).isSome then (false, g)
  else
    let g : GossipHandler := ⟨Function.update g.seenMessages messageId (some message.timestamp)⟩
    (true, g.cleanupOldMessages now)

theorem handleMessage_fst (g : GossipHandler) (message : NetworkMessage) (now : Timestamp) :
    (g.handleMessage message now).1 = (g.seenMessages (uuidHyphenated message.messageId)).isNone := by
  dsimp only [handleMessage]
  cases g.seenMessages (uuidHyphenated message.messageId) <;> rfl

theorem handleMessage_of_unseen {g : GossipHandler} {message : NetworkMessage} (now : Timestamp)
    (h : g.seenMessages (uuidHyphenated message.messageId) = none) :
    g.handleMessage message now =
      (true, (⟨Function.update g.seenMessages (uuidHyphenated message.messageId) (some message.timestamp)⟩ :
        GossipHandler).cleanupOldMessages now) := by
  simp [handleMessage, h]

theorem repeat_accepted_unless_fresh (g : GossipHandler) (message repeated : NetworkMessage) (now : Timestamp)
    (haccept : (g.handleMessage message now).1 = true) (hid : repeated.messageId = message.messageId) :
    ((g.handleMessage message now).2.handleMessage repeated now).1 =
      !decide (wrappingSub now message.timestamp < 300000) := by
  rw [handleMessage_fst, Option.isNone_iff_eq_none] at haccept
  rw [handleMessage_of_unseen now haccept, handleMessage_fst, hid]
  simp only [cleanupOldMessages, Function.update_same]
  by_cases hfresh : wrappingSub now message.timestamp < 300000 <;> simp [hfresh, Option.filter]

end GossipHandler

def aheadMessage : NetworkMessage := ⟨7, "peer", 1001⟩

theorem message_ahead_of_clock_accepted_twice :
    (GossipHandler.new.handleMessage aheadMessage 1000).1 = true ∧
    ((GossipHandler.new.handleMessage aheadMessage 1000).2.handleMessage aheadMessage 1000).1 = true :=
  ⟨by decide, (GossipHandler.repeat_accepted_unless_fresh _ _ _ _ (by decide) rfl).trans (by decide)⟩

end BlockchainNode

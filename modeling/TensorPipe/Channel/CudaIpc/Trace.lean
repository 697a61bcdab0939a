import TensorPipe.Channel.CudaIpc.Exchange

/-! # The moves of the pair

What one step of `ChannelPair` does, as the device, the users and the peer can see it.
Every step is one of six moves: a task of either side that fails or meets an error (it
enqueues nothing and calls back no success), a send, a receive without error, a reply read
that succeeds, or user work. `Inv.move` reads the move off the step; every fact about the
device work is derived from the moves.
-/
namespace TensorPipe.Channel.CudaIpc.ChannelPair
open OpsStateMachine ChannelImpl

variable {sys sys' : ChannelPair}

/-- The descriptor the sender builds for its send `k` of `buffer`. -/
def sentDescriptor (sys : ChannelPair) (k : Nat) (buffer : CudaBuffer) : Descriptor :=
  makeDescriptor sys.sender.context (sys.sender.newSendOperation k buffer)

/-- The moves of the pair, each with the work it enqueues, the callbacks it makes, the
reply it writes and the send records it keeps. -/
inductive Move (sys : ChannelPair) : ChannelPair → Prop
  /-- A task of the sender that fails or meets an error. -/
  | senderSilent (s : ChannelImpl) (hid : s.id = sys.sender.id)
      (h : Silent { sys.sender with device := sys.trace } s) :
      Move sys { sys with sender := s, trace := s.device }
  /-- A task of the receiver that fails or meets an error; a receive still takes its
  buffer. -/
  | receiverSilent (r : ChannelImpl) (buffers : List CudaBuffer) (hid : r.id = sys.receiver.id)
      (h : Silent { sys.receiver with device := sys.trace } r) :
      Move sys { sys with receiver := r, trace := r.device, recvs := sys.recvs ++ buffers }
  /-- A send records its start event on the buffer's stream. -/
  | send (buffer : CudaBuffer) (s : ChannelImpl) (hid : s.id = sys.sender.id)
      (hctx : s.context = sys.sender.context)
      (hdev : s.device = sys.trace ++ [.record ⟨sys.sender.id, .startEv,
        sys.sender.nextTensorBeingSent⟩ (sys.sender.stream buffer.stream)])
      (hlog : ∃ L, s.log = sys.sender.log ++ L ∧ ∀ k m, Effect.sendCallback k none m ∉ L)
      (hops : ∀ op ∈ s.sendOps, op ∈ sys.sender.sendOps ∨
        (op.sequenceNumber = sys.sender.nextTensorBeingSent ∧ op.stream = buffer.stream)) :
      Move sys { sys with sender := s, trace := s.device, sends := sys.sends ++ [buffer] }
  /-- Receive `k` without error, given the descriptor `d` of send `k`: it waits on the
  start event the descriptor names, copies from the allocation it opens, records its stop
  event, calls back and writes its reply. -/
  | recv (buffer buffer' : CudaBuffer) (r : ChannelImpl) (k : Nat) (d : Descriptor)
      (hk : k = sys.receiver.nextTensorBeingReceived) (he : sys.receiver.error = none)
      (hb : sys.sends[k]? = some buffer') (hd : d = sys.sentDescriptor k buffer')
      (hid : r.id = sys.receiver.id)
      (hctx : r.context = (sys.receiver.context.openIpcHandle d.allocationId d.handle).1)
      (hdev : r.device = sys.trace ++ [.wait d.startEvHandle (sys.receiver.stream buffer.stream),
        .memcpyAsync buffer.ptr ((sys.receiver.context.openIpcHandle d.allocationId d.handle).2 +
          d.offset) buffer.length (sys.receiver.stream buffer.stream),
        .record ⟨sys.receiver.id, .stopEv, k⟩ (sys.receiver.stream buffer.stream)])
      (hlog : r.log = sys.receiver.log ++ [.recvCallback k none (sys.trace.length + 3)])
      (hw : r.replyConnection.writes = sys.receiver.replyConnection.writes ++ [(k, saveReply
        ⟨sys.receiver.context.cudaLib.ipcGetEventHandle ⟨sys.receiver.id, .stopEv, k⟩⟩)]) :
      Move sys { sys with receiver := r, trace := r.device, recvs := sys.recvs ++ [buffer] }
  /-- The reply of the send at the head arrives on a sender without error: the send waits on
  the stop event of its receive, is called back and leaves. -/
  | reply (s : ChannelImpl) (op : SendOperation) (tail : List SendOperation)
      (he : sys.sender.error = none) (hq : sys.sender.sendOps = op :: tail)
      (hk : op.sequenceNumber = sys.sender.replyConnection.readsDone)
      (hlt : op.sequenceNumber < sys.receiver.replyConnection.writes.length)
      (hid : s.id = sys.sender.id) (hctx : s.context = sys.sender.context)
      (hdev : s.device = sys.trace ++ [.wait (sys.receiver.context.cudaLib.ipcGetEventHandle
        ⟨sys.receiver.id, .stopEv, op.sequenceNumber⟩) (sys.sender.stream op.stream)])
      (hlog : s.log = sys.sender.log ++ [.sendCallback op.sequenceNumber none (sys.trace.length + 1)])
      (hops : s.sendOps ⊆ tail) :
      Move sys { sys with sender := s, trace := s.device }
  /-- User work on a stream of either process. -/
  | work (sender : Bool) (stream : Nat) :
      Move sys { sys with trace := sys.trace ++
        [.work ((if sender then sys.sender else sys.receiver).stream stream)] }

theorem Move.of_onSender {e : ChannelImpl.Event} (h : sys.onSender e = some sys')
    (hs : ∀ s, { sys.sender with device := sys.trace }.step e = some s →
      Silent { sys.sender with device := sys.trace } s) : Move sys sys' := by
  obtain ⟨s, h', rfl⟩ := onSender_eq_some h
  have hid := step_id h'
  exact .senderSilent s hid (hs s h')

theorem Move.of_onReceiver {e : ChannelImpl.Event} (h : sys.onReceiver e = some sys')
    (hr : ∀ r, { sys.receiver with device := sys.trace }.step e = some r →
      Silent { sys.receiver with device := sys.trace } r) : Move sys sys' := by
  obtain ⟨r, h', rfl⟩ := onReceiver_eq_some h
  have hid := step_id h'
  simpa using Move.receiverSilent r [] hid (hr r h')

/-- Every step of the pair is a move. -/
theorem Inv.move (hi : Inv sys) {e : Event} (h : sys.step e = some sys') : Move sys sys' := by
  have hS := inv_with_device hi.sender sys.trace
  have hR := inv_with_device hi.receiver sys.trace
  cases e <;> simp only [ChannelPair.step] at h
  case send buffer =>
    obtain ⟨sys₁, h₁, rfl⟩ := Option.map_eq_some'.1 h
    obtain ⟨s, hs, rfl⟩ := onSender_eq_some h₁
    have hid := step_id hs
    obtain ⟨hctx, hdev, d, -, hlog, hops⟩ := hS.sendFromLoop_eq buffer
    cases Option.some.inj hs
    refine .send buffer _ hid hctx hdev ⟨_, hlog, fun k m => ?_⟩ hops
    split_ifs with he
    · simp
    · simp [Ne.symm he]
  case recv buffer =>
    obtain ⟨bs, hbs, h₁⟩ := Option.bind_eq_some.1 h
    obtain ⟨sys₁, h₂, rfl⟩ := Option.map_eq_some'.1 h₁
    obtain ⟨r, hr, rfl⟩ := onReceiver_eq_some h₂
    have hid := step_id hr
    obtain ⟨buffer', hb, rfl⟩ := hi.descriptors _ _ hbs
    have hd := loadDescriptor_saveDescriptor _ (makeDescriptor_wellFormed _
      (sys.sender.newSendOperation sys.receiver.nextTensorBeingReceived buffer')
      hi.processIdentifier_lt)
    by_cases he : sys.receiver.error = none
    · obtain ⟨r', hr', hctx, hdev, hlog, hw⟩ := hR.recvFromLoop_of_none he hd buffer
      cases hr.symm.trans hr'
      exact .recv buffer buffer' _ _ (sys.sentDescriptor _ buffer') rfl he hb rfl hid hctx hdev
        hlog hw
    · obtain ⟨r', hr', hsil⟩ := hR.recvFromLoop_silent he hd buffer
      cases hr.symm.trans hr'
      exact .receiverSilent _ [buffer] hid hsil
  case replyDelivered =>
    obtain ⟨w, hw, h₁⟩ := Option.bind_eq_some.1 h
    obtain ⟨reply, hreply, h₂⟩ := Option.bind_eq_some.1 h₁
    obtain ⟨s, hs, rfl⟩ := onSender_eq_some h₂
    have hid := step_id hs
    obtain rfl := Option.some.inj hs
    cases hp : sys.sender.replyConnection.pending with
    | nil => exact .senderSilent _ hid (hS.replyReadCompletion_silent (.inl hp) reply)
    | cons k rest =>
      by_cases he : sys.sender.error = none
      · obtain ⟨op, tail, hq, hk, heq⟩ := hS.replyReadCompletion_of_ok hp he reply
        obtain ⟨rfl, -⟩ := hi.sender.reply_head hp
        have hlt := (List.getElem?_eq_some_iff.1 hw).1
        rw [hi.reply_getElem? hlt, Option.some.injEq] at hw
        subst hw
        rw [loadReply_saveReply _ (by simp), Option.some.injEq] at hreply
        subst hreply
        rw [heq]
        exact .reply _ op tail he hq hk (hk ▸ hlt) rfl rfl (by rw [hk]; rfl) (by rw [hk])
          (popFinished_subset tail)
      · exact .senderSilent _ hid
          (hS.replyReadCompletion_silent (.inr (by simpa using he)) reply)
  case replyFailed error =>
    exact .of_onSender h fun s hs => Option.some.inj hs ▸ hS.replyReadCompletion_silent
      (.inr (by cases sys.sender.error <;> simp)) _
  case ackDelivered =>
    obtain ⟨w, -, h₁⟩ := Option.bind_eq_some.1 h
    exact .of_onReceiver h₁ fun r hr => Option.some.inj hr ▸ hR.ackReadCompletion_silent _
  case ackFailed error =>
    exact .of_onReceiver h fun r hr => Option.some.inj hr ▸ hR.ackReadCompletion_silent _
  case senderError error =>
    exact .of_onSender h fun s hs => Option.some.inj hs ▸ hS.setError_silent _
  case receiverError error =>
    exact .of_onReceiver h fun r hr => Option.some.inj hr ▸ hR.setError_silent _
  case senderClose =>
    exact .of_onSender h fun s hs => Option.some.inj hs ▸ hS.setError_silent _
  case receiverClose =>
    exact .of_onReceiver h fun r hr => Option.some.inj hr ▸ hR.setError_silent _
  case work sender stream =>
    cases h
    exact .work sender stream

end TensorPipe.Channel.CudaIpc.ChannelPair

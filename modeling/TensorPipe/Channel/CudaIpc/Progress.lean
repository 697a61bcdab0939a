import TensorPipe.Channel.CudaIpc.DeviceOrder

/-! # Progress of the exchange

While neither side has an error, nothing in flight is stuck. A reply written is taken by the
sender's oldest pending reply read: receive `k` took the descriptor of send `k`, which issued
that read. An ack written is taken by the receiver's oldest pending ack read: send `k` wrote
it after reading reply `k`, which receive `k` wrote as it issued its ack read. Delivering
them one by one keeps both sides free of error, and once the replies and the acks they
cause are delivered, every send whose receive has been posted has been called back.

Nor is a receive ever held up by the out-of-band handoff. A send made without error hands
out the descriptor it builds, and the error is sticky, so while the sender has no error
every send it made has a descriptor out: the next receive can be posted exactly when its
send has been made.
-/
namespace TensorPipe.Channel.CudaIpc.ChannelPair
open OpsStateMachine ChannelImpl

variable {sys sys' : ChannelPair}

theorem run_append (sys : ChannelPair) (es es' : List Event) :
    sys.run (es ++ es') = (sys.run es).bind fun sys' => sys'.run es' := by
  induction es generalizing sys with
  | nil => rfl
  | cons e es ih =>
    show ((sys.step e).bind fun sys' => sys'.run (es ++ es')) = _
    simp only [ih, ChannelPair.run, Option.bind_assoc]

/-- A reply in flight can be delivered to a sender free of error: the sender's oldest
pending reply read is the one it answers. The sender counts the read, waits on the stop
event the reply names, writes its ack and stays free of error; the receiver is untouched. -/
theorem Reachable.replyDelivered (h : Reachable sys) (hs : sys.sender.error = none)
    (hlt : sys.sender.replyConnection.readsDone < sys.receiver.replyConnection.writes.length) :
    ∃ sys', sys.step .replyDelivered = some sys' ∧ Reachable sys' ∧
      sys'.receiver = sys.receiver ∧ sys'.sender.error = none ∧
      sys'.sender.replyConnection.readsDone = sys.sender.replyConnection.readsDone + 1 ∧
      sys'.sender.ackConnection.writes.length = sys.sender.ackConnection.writes.length + 1 ∧
      ∃ s, sys'.trace = sys.trace ++ [.wait (sys.receiver.context.cudaLib.ipcGetEventHandle
        ⟨sys.receiver.id, .stopEv, sys.sender.replyConnection.readsDone⟩) s] := by
  have hi := h.inv
  have hd := h.deviceInv
  obtain ⟨m, hm⟩ := hd.replied _ hlt
  obtain ⟨bS, -, -, hbS, -⟩ := hd.copied _ _ hm
  have hpend : sys.sender.replyConnection.readsDone < sys.sender.replyConnection.reads.length := by
    rw [hi.sender.send.reads_eq hs, ← hi.sends_length]
    exact (List.getElem?_eq_some_iff.1 hbS).1
  let reply : Reply := ⟨sys.receiver.context.cudaLib.ipcGetEventHandle
    ⟨sys.receiver.id, .stopEv, sys.sender.replyConnection.readsDone⟩⟩
  obtain ⟨op, tail, -, -, heq⟩ := (inv_with_device hi.sender sys.trace).replyReadCompletion_of_ok
    (List.drop_eq_getElem_cons hpend) hs reply
  have hl : loadReply (saveReply reply) = some reply := loadReply_saveReply reply (by
    show (sys.receiver.context.cudaLib.ipcGetEventHandle _).length < _; simp)
  have hstep : sys.step .replyDelivered = sys.onSender (.replyRead none reply) := by
    simp only [ChannelPair.step, hi.reply_getElem? hlt, Option.some_bind, hl]
  simp only [onSender, ChannelImpl.step, Option.map_some', heq] at hstep
  exact ⟨_, hstep, .step _ h hstep, rfl, hs, rfl, by simp, _, rfl⟩

theorem Reachable.ackDelivered (h : Reachable sys) (hs : sys.sender.error = none)
    (hr : sys.receiver.error = none)
    (hlt : sys.receiver.ackConnection.readsDone < sys.sender.ackConnection.writes.length) :
    ∃ sys', sys.step .ackDelivered = some sys' ∧ Reachable sys' ∧ sys'.sender = sys.sender ∧
      sys'.receiver.error = none ∧
      sys'.receiver.ackConnection.readsDone = sys.receiver.ackConnection.readsDone + 1 ∧
      sys'.receiver.replyConnection = sys.receiver.replyConnection ∧
      sys'.receiver.nextTensorBeingReceived = sys.receiver.nextTensorBeingReceived := by
  have hi := h.inv
  have hpend : sys.receiver.ackConnection.readsDone < sys.receiver.ackConnection.reads.length :=
    calc sys.receiver.ackConnection.readsDone
      _ < sys.sender.ackConnection.writes.length := hlt
      _ ≤ sys.sender.replyConnection.readsDone := hi.sender.send.acks_le
      _ ≤ sys.receiver.replyConnection.writes.length := hi.replies_le hs
      _ = sys.receiver.ackConnection.reads.length := by
        rw [hi.receiver.recv.replies_eq, List.length_map, List.length_range]
  obtain ⟨tail, heq⟩ := (inv_with_device hi.receiver sys.trace).ackReadCompletion_of_ok
    (List.drop_eq_getElem_cons hpend)
  have hstep : sys.step .ackDelivered = sys.onReceiver (.ackRead none) := by
    simp only [ChannelPair.step, List.getElem?_eq_getElem hlt, Option.some_bind]
  simp only [onReceiver, ChannelImpl.step, Option.map_some', heq] at hstep
  exact ⟨_, hstep, .step _ h hstep, rfl, hr, rfl, rfl, rfl⟩

section Deliver

variable (hs : sys.sender.error = none) (hr : sys.receiver.error = none)
include hs hr

theorem Reachable.deliverReplies (h : Reachable sys) :
    ∃ sys', sys.run (List.replicate sys.repliesInFlight .replyDelivered) = some sys' ∧
      Reachable sys' ∧ sys'.receiver = sys.receiver ∧ sys'.sender.error = none ∧
      sys'.repliesInFlight = 0 ∧ sys'.acksInFlight = sys.acksInFlight + sys.repliesInFlight := by
  generalize hn : sys.repliesInFlight = n
  induction n generalizing sys with
  | zero => exact ⟨sys, rfl, h, rfl, hs, hn, rfl⟩
  | succ n ih =>
    have hle := h.inv.acks_le hr
    unfold repliesInFlight at hn
    obtain ⟨sys₁, hstep, h₁, hR, hs₁, hd₁, ha₁, -⟩ := h.replyDelivered hs (by omega)
    obtain ⟨sys', hrun, h', hR', hs', hz, hacks⟩ := ih hs₁ (hR ▸ hr) h₁
      (by unfold repliesInFlight; rw [hR, hd₁]; omega)
    refine ⟨sys', ?_, h', hR'.trans hR, hs', hz, ?_⟩
    · simp only [List.replicate_succ, ChannelPair.run, hstep, Option.some_bind, hrun]
    · rw [hacks]; unfold acksInFlight; rw [ha₁, hR]; omega

theorem Reachable.deliverAcks (h : Reachable sys) :
    ∃ sys', sys.run (List.replicate sys.acksInFlight .ackDelivered) = some sys' ∧
      sys'.sender = sys.sender ∧ sys'.receiver.error = none ∧ sys'.acksInFlight = 0 ∧
      sys'.receiver.replyConnection = sys.receiver.replyConnection ∧
      sys'.receiver.nextTensorBeingReceived = sys.receiver.nextTensorBeingReceived := by
  generalize hn : sys.acksInFlight = n
  induction n generalizing sys with
  | zero => exact ⟨sys, rfl, rfl, hr, hn, rfl, rfl⟩
  | succ n ih =>
    unfold acksInFlight at hn
    obtain ⟨sys₁, hstep, h₁, hS, hr₁, hd₁, hc₁, hn₁⟩ := h.ackDelivered hs hr (by omega)
    obtain ⟨sys', hrun, hS', hr', hz, hc', hn'⟩ := ih (hS ▸ hs) hr₁ h₁
      (by unfold acksInFlight; rw [hS, hd₁]; omega)
    exact ⟨sys', by simp only [List.replicate_succ, ChannelPair.run, hstep, Option.some_bind, hrun],
      hS'.trans hS, hr', hz, hc'.trans hc₁, hn'.trans hn₁⟩

/-- The exchange always completes. In every reachable state where neither side has an
error, the replies in flight and then the acks in flight (those already written and those
the replies cause) can be delivered one after another: every delivery can happen, both sides
stay free of error, nothing is left in flight, and every send whose receive has been posted
has been called back, in order. -/
theorem reachable_deliver_all (h : Reachable sys) :
    ∃ sys', sys.run (List.replicate sys.repliesInFlight .replyDelivered ++
        List.replicate (sys.acksInFlight + sys.repliesInFlight) .ackDelivered) = some sys' ∧
      sys'.sender.error = none ∧ sys'.receiver.error = none ∧
      sys'.repliesInFlight = 0 ∧ sys'.acksInFlight = 0 ∧
      sendCallbacks sys'.sender.log = List.range sys.receiver.nextTensorBeingReceived := by
  obtain ⟨sys₁, hrun₁, h₁, hR₁, hs₁, hz₁, ha₁⟩ := h.deliverReplies hs hr
  obtain ⟨sys', hrun₂, hS', hr', hz', hc', -⟩ := h₁.deliverAcks hs₁ (hR₁ ▸ hr)
  have hi₁ := h₁.inv
  have hw : sys₁.receiver.replyConnection.writes.length = sys.receiver.nextTensorBeingReceived := by
    rw [hR₁, h.inv.receiver.recv.replies_eq, List.length_map, List.length_range,
      h.inv.receiver.recv.reads_eq hr]
  have hd : sys₁.sender.replyConnection.readsDone = sys.receiver.nextTensorBeingReceived := by
    unfold repliesInFlight at hz₁
    have := hi₁.replies_le hs₁
    omega
  refine ⟨sys', by rw [run_append, hrun₁, Option.some_bind, ← ha₁, hrun₂], hS' ▸ hs₁, hr', ?_,
    hz', ?_⟩
  · unfold repliesInFlight; rw [hS', hc']; exact hz₁
  · rw [hS', hi₁.sender.send.callbacks_of_none hs₁, hd]

end Deliver

set_option maxRecDepth 100000 in
/-- Two sends and their receives: two replies are in flight; delivering them and the two
acks they cause completes both transfers. -/
theorem reachable_deliver_all_two_transfers :
    let sys := ((init .flat [1] [2] [3] [4]).run [.send ⟨0, 256, 0⟩, .send ⟨0, 256, 0⟩,
      .recv ⟨4096, 256, 1⟩, .recv ⟨8192, 256, 1⟩]).get (by decide)
    sys.sender.error = none ∧ sys.receiver.error = none ∧ sys.repliesInFlight = 2 ∧
    ∃ sys', sys.run (List.replicate sys.repliesInFlight .replyDelivered ++
        List.replicate (sys.acksInFlight + sys.repliesInFlight) .ackDelivered) = some sys' ∧
      sys'.sender.error = none ∧ sys'.receiver.error = none ∧
      sys'.repliesInFlight = 0 ∧ sys'.acksInFlight = 0 ∧
      sendCallbacks sys'.sender.log = List.range sys.receiver.nextTensorBeingReceived :=
  ⟨by decide, by decide, by decide, reachable_deliver_all (by decide) (by decide)
    (Reachable.run (.init _ _ _ _ _ (by decide)) (Option.some_get _).symm)⟩

section Handoff

variable {c c' : ChannelImpl}

/-- While a channel has no error, every send it has made has handed out a descriptor. -/
def DescriptorsHanded (c : ChannelImpl) : Prop :=
  c.error = none → ∀ k < c.nextTensorBeingSent, ∃ d, descriptorOf c.log k = some d

theorem error_eq_none_of_step {e : ChannelImpl.Event} (h : c.step e = some c')
    (he : c'.error = none) : c.error = none := by
  have hg := (grows_step _ h).error_eq
  rw [he] at hg
  cases e <;> simp only [Event.bump] at hg
  case send | recv => exact hg.symm
  case replyRead | ackRead => split_ifs at hg; exacts [hg.symm, (Option.or_eq_none.1 hg.symm).1]
  case fail | close => exact (Option.or_eq_none.1 hg.symm).1

theorem sendFromLoop_log_of_none (hi : ChannelImpl.Inv c) (he : c.error = none)
    (buffer : CudaBuffer) : ∃ d, (c.sendFromLoop buffer).log =
      c.log ++ [.descriptorCallback c.nextTensorBeingSent none (some d)] := by
  rw [ChannelImpl.sendFromLoop, sendImplFromLoop_of_none
    (c := { c with nextTensorBeingSent := c.nextTensorBeingSent + 1 }) hi.quiet.send
    (hi.send_not_mem (le_refl _)) (hi.send_not_mem (Nat.le_succ _)) he]
  exact ⟨_, rfl⟩

theorem descriptorsHanded_step (hi : ChannelImpl.Inv c) (hd : DescriptorsHanded c)
    {e : ChannelImpl.Event} (h : c.step e = some c') : DescriptorsHanded c' := by
  intro he k hk
  have he₀ := error_eq_none_of_step h he
  have hg := grows_step _ h
  obtain ⟨L, hL⟩ := hg.log
  rw [bump_log] at hL
  have keep : k < c.nextTensorBeingSent → ∃ d, descriptorOf c'.log k = some d := fun hk' => by
    obtain ⟨d, hd⟩ := hd he₀ k hk'
    exact ⟨d, by rw [← hL, descriptorOf_append, hd, Option.or_some]⟩
  rw [hg.nextTensorBeingSent_eq] at hk
  cases e
  case send buffer =>
    cases h
    obtain ⟨d, hlog⟩ := sendFromLoop_log_of_none hi he₀ buffer
    rcases Nat.lt_succ_iff_lt_or_eq.1 hk with hk | rfl
    · exact keep hk
    · cases hk' : descriptorOf c.log c.nextTensorBeingSent with
      | none => exact ⟨d, by rw [hlog, descriptorOf_append, hk', Option.none_or]; simp [descriptorOf]⟩
      | some d' => exact ⟨d', by rw [hlog, descriptorOf_append, hk', Option.or_some]⟩
  all_goals
    simp only [Event.bump] at hk
    (try split_ifs at hk) <;> exact keep hk

/-- Each step of the pair leaves the sender as it was or runs one of its tasks. -/
theorem step_sender {e : Event} (h : sys.step e = some sys') : sys'.sender = sys.sender ∨
    ∃ e', { sys.sender with device := sys.trace }.step e' = some sys'.sender := by
  have ofSender : ∀ {e' sys₁}, sys.onSender e' = some sys₁ → ∃ e',
      { sys.sender with device := sys.trace }.step e' = some sys₁.sender := fun h => by
    obtain ⟨s, hs, rfl⟩ := onSender_eq_some h
    exact ⟨_, hs⟩
  have ofReceiver : ∀ {e' sys₁}, sys.onReceiver e' = some sys₁ → sys₁.sender = sys.sender :=
    fun h => by obtain ⟨r, -, rfl⟩ := onReceiver_eq_some h; rfl
  cases e <;> simp only [ChannelPair.step] at h
  case send =>
    obtain ⟨sys₁, h₁, rfl⟩ := Option.map_eq_some'.1 h
    have := ofSender h₁
    exact .inr this
  case recv =>
    obtain ⟨d, -, h₁⟩ := Option.bind_eq_some.1 h
    obtain ⟨sys₁, h₂, rfl⟩ := Option.map_eq_some'.1 h₁
    have := ofReceiver h₂
    exact .inl this
  case replyDelivered =>
    obtain ⟨w, -, h₁⟩ := Option.bind_eq_some.1 h
    obtain ⟨reply, -, h₂⟩ := Option.bind_eq_some.1 h₁
    exact .inr (ofSender h₂)
  case ackDelivered =>
    obtain ⟨w, -, h₁⟩ := Option.bind_eq_some.1 h
    exact .inl (ofReceiver h₁)
  case work => cases h; exact .inl rfl
  case replyFailed | senderError | senderClose => exact .inr (ofSender h)
  case ackFailed | receiverError | receiverClose => exact .inl (ofReceiver h)

theorem Reachable.descriptorsHanded (h : Reachable sys) : DescriptorsHanded sys.sender := by
  induction h with
  | init => intro _ k hk; simp [ChannelPair.init, ChannelImpl.init] at hk
  | @step sys sys' e hr hs ih =>
    rcases step_sender hs with heq | ⟨e', he'⟩
    · rw [heq]; exact ih
    · exact descriptorsHanded_step (inv_with_device hr.inv.sender sys.trace) ih he'

end Handoff

/-- The out-of-band handoff never blocks a receive, and a receive never runs ahead. While
the sender has no error, the next receive can be posted, whatever its buffer and whatever
the receiver's state, exactly when the sender has made the matching send. -/
theorem reachable_recv_enabled (h : Reachable sys) (hs : sys.sender.error = none)
    (buffer : CudaBuffer) : (∃ sys', sys.step (.recv buffer) = some sys') ↔
      sys.receiver.nextTensorBeingReceived < sys.sender.nextTensorBeingSent := by
  have hi := h.inv
  constructor
  · rintro ⟨sys', h'⟩
    obtain ⟨d, hd, -⟩ := Option.bind_eq_some.1 h'
    have hm := mem_descriptorCallbacks hd
    rw [hi.sender.send.descriptors_eq] at hm
    exact List.mem_range.1 hm
  · intro hk
    obtain ⟨d, hd⟩ := h.descriptorsHanded hs _ hk
    obtain ⟨b, -, rfl⟩ := hi.descriptors _ _ hd
    have hl := loadDescriptor_saveDescriptor _ (makeDescriptor_wellFormed _
      (sys.sender.newSendOperation sys.receiver.nextTensorBeingReceived b) hi.processIdentifier_lt)
    simp only [ChannelPair.step, hd, Option.some_bind, onReceiver, ChannelImpl.step,
      recvFromLoop, recvImplFromLoop, hl, Option.map_some']
    exact ⟨_, rfl⟩

set_option maxRecDepth 100000 in
/-- After one send the first receive can be posted. -/
theorem reachable_recv_enabled_first_send :
    let sys := ((init .flat [1] [2] [3] [4]).run [.send ⟨0, 256, 0⟩]).get (by decide)
    sys.sender.error = none ∧
    sys.receiver.nextTensorBeingReceived < sys.sender.nextTensorBeingSent ∧
    ((∃ sys', sys.step (.recv ⟨4096, 256, 1⟩) = some sys') ↔
      sys.receiver.nextTensorBeingReceived < sys.sender.nextTensorBeingSent) :=
  ⟨by decide, by decide, reachable_recv_enabled
    (Reachable.run (.init _ _ _ _ _ (by decide)) (Option.some_get _).symm) (by decide) _⟩

end TensorPipe.Channel.CudaIpc.ChannelPair

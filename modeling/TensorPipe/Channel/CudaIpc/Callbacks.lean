import TensorPipe.Channel.CudaIpc.Invariant

/-! # The callbacks of one channel

What the user of a channel sees over any run: which records are queued and in what state,
which callbacks have fired and in which order. The callbacks of receives, and of the sends
made before the error, fire in sequence order. A send made while the error is set is
called back at once, from the `UNINITIALIZED → FINISHED` row that has no predecessor
condition, possibly before earlier sends still waiting for their reply read to fail. If no
send is waiting, `sendImplFromLoop` then removes the record before it builds the
descriptor. A record holds its user's callback until `callSendCallback` or
`callRecvCallback` invokes and releases it.
-/
namespace TensorPipe.Channel.CudaIpc.ChannelImpl
open OpsStateMachine

variable {c : ChannelImpl}

/-- Between loop tasks: a queued send is unfinished exactly when its reply read is in
flight and has been called back exactly when finished; every receive has been called back,
and a queued one is unfinished exactly when its ack read is in flight. A send no longer
queued has been called back; a receive no longer queued had its ack read, or came after
the error. No send is called back twice, every pending read designates a queued record, and
with no read in flight both queues are empty and every send has been called back once. -/
theorem reachable_queues_and_callbacks (h : Reachable c) :
    (∀ op ∈ c.sendOps, (op.state ≠ .finished ↔ SendWaiting op) ∧
      (op.sequenceNumber ∈ sendCallbacks c.log ↔ op.state = .finished)) ∧
    recvCallbacks c.log = List.range c.nextTensorBeingReceived ∧
    (∀ op ∈ c.recvOps, op.state ≠ .finished ↔ RecvWaiting op) ∧
    (∀ k < c.nextTensorBeingSent, k ∉ seqs c.sendOps → k ∈ sendCallbacks c.log) ∧
    (∀ k, k ∉ seqs c.recvOps →
      k < c.ackConnection.readsDone ∨ c.ackConnection.reads.length ≤ k) ∧
    (sendCallbacks c.log).Nodup ∧
    (∀ k ∈ c.replyConnection.pending, k ∈ seqs c.sendOps) ∧
    (∀ k ∈ c.ackConnection.pending, k ∈ seqs c.recvOps) ∧
    (c.replyConnection.pending = [] → c.ackConnection.pending = [] →
      c.sendOps = [] ∧ c.recvOps = [] ∧
      (sendCallbacks c.log).Perm (List.range c.nextTensorBeingSent)) := by
  have hi := h.inv
  have hnil : ∀ conn : Connection, conn.readsDone ≤ conn.reads.length → conn.pending = [] →
      conn.readsDone = conn.reads.length := fun conn hle hp => by
    rw [Connection.pending, List.drop_eq_nil_iff] at hp; omega
  refine ⟨fun op hop => ⟨(hi.send.window.idle_iff sendWaiting_not_finished hop).symm,
      hi.send.mem_callbacks_iff_finished hop⟩, hi.recv.callbacks_eq,
    fun op hop => (hi.recv.window.idle_iff recvWaiting_not_finished hop).symm,
    fun k hk hn => hi.send.mem_callbacks_of_not_mem hk hn, fun k hn => hi.recv.done_of_not_mem hn,
    hi.send.nodup_callbacks, fun k hk => hi.send.mem_of_pending hk,
    fun k hk => hi.recv.mem_of_pending hk, fun hs hr => ?_⟩
  obtain ⟨hs₁, hs₂⟩ := hi.send.of_all_done (hnil _ hi.send.readsDone_le hs)
  exact ⟨hs₁, hi.recv.window.eq_nil (hnil _ hi.recv.readsDone_le hr).ge, hs₂⟩


/-- Two sends and the first reply: the first send has been called back and left, the
second waits for its reply. -/
theorem reachable_queues_and_callbacks_two_sends :
    let c := (((init [] ⟨.flat, [], []⟩).sendFromLoop ⟨4096, 256, 0⟩).sendFromLoop
      ⟨8192, 256, 0⟩).replyReadCompletion none ⟨List.replicate 64 0⟩
    sendCallbacks c.log = [0] ∧ seqs c.sendOps = [1] ∧
    ∀ op ∈ c.sendOps, (op.state ≠ .finished ↔ SendWaiting op) ∧
      (op.sequenceNumber ∈ sendCallbacks c.log ↔ op.state = .finished) :=
  ⟨by decide, by decide,
    (reachable_queues_and_callbacks (.step (.replyRead none _) (.step (.send ⟨8192, 256, 0⟩)
      (.step (.send ⟨4096, 256, 0⟩) (.init _ _) rfl) rfl) rfl)).1⟩

/-- A send, `close`, and a second send: the second send is called back while the first is
still queued waiting for its reply; when the first reply read then fails, the callbacks
have fired in the order `1, 0`. -/
theorem sendCallbacks_out_of_order :
    let c := (((init [] ⟨.flat, [], []⟩).sendFromLoop ⟨4096, 256, 0⟩).closeFromLoop).sendFromLoop
      ⟨8192, 256, 0⟩
    Reachable c ∧ sendCallbacks c.log = [1] ∧ 0 ∈ seqs c.sendOps ∧
    Reachable (c.replyReadCompletion (some .channelClosed) ⟨[]⟩) ∧
    sendCallbacks (c.replyReadCompletion (some .channelClosed) ⟨[]⟩).log = [1, 0] :=
  let h : Reachable _ := .step (.send ⟨8192, 256, 0⟩) (.step .close
    (.step (.send ⟨4096, 256, 0⟩) (.init _ _) rfl) rfl) rfl
  ⟨h, by decide, by decide, .step (.replyRead _ _) h rfl, by decide⟩

/-- Receives are called back in sequence order. The sends made before the error, those
numbered below `reads.length` of the reply connection, are called back in sequence order
as their reply reads complete; those made after it are called back in sequence order, each
at once. -/
theorem reachable_callbacks_in_order (h : Reachable c) :
    recvCallbacks c.log = List.range c.nextTensorBeingReceived ∧
    (sendCallbacks c.log).filter (· < c.replyConnection.reads.length) =
      List.range c.replyConnection.readsDone ∧
    (sendCallbacks c.log).filter (c.replyConnection.reads.length ≤ ·) =
      List.range' c.replyConnection.reads.length
        (c.nextTensorBeingSent - c.replyConnection.reads.length) ∧
    (c.error = none → c.replyConnection.reads.length = c.nextTensorBeingSent) :=
  ⟨h.inv.recv.callbacks_eq, h.inv.send.callbacks_lt, h.inv.send.callbacks_ge,
    h.inv.send.reads_eq⟩

/-- The run of `sendCallbacks_out_of_order`: send 0 came before the error, send 1 after. -/
theorem reachable_callbacks_in_order_after_close :
    let c := ((((init [] ⟨.flat, [], []⟩).sendFromLoop ⟨4096, 256, 0⟩).closeFromLoop).sendFromLoop
      ⟨8192, 256, 0⟩).replyReadCompletion (some .channelClosed) ⟨[]⟩
    c.replyConnection.reads.length = 1 ∧
    (sendCallbacks c.log).filter (· < c.replyConnection.reads.length) =
      List.range c.replyConnection.readsDone ∧
    (sendCallbacks c.log).filter (c.replyConnection.reads.length ≤ ·) =
      List.range' c.replyConnection.reads.length
        (c.nextTensorBeingSent - c.replyConnection.reads.length) :=
  let h := reachable_callbacks_in_order (.step (.replyRead (some .channelClosed) _)
    (.step (.send ⟨8192, 256, 0⟩) (.step .close (.step (.send ⟨4096, 256, 0⟩) (.init _ _) rfl)
      rfl) rfl) rfl)
  ⟨rfl, h.2.1, h.2.2.1⟩

/-- A send made while the error is set and no send waits for its reply: the record finishes
and leaves the queue inside `advanceOperation`, so `makeDescriptor` has no record to read
(`none`), and the descriptor callback reports success after the send callback reported the
error. -/
theorem sendFromLoop_of_error_of_idle (h : Reachable c) (he : c.error.isSome)
    (hp : c.replyConnection.pending = []) (buffer : CudaBuffer) :
    (c.sendFromLoop buffer).sendOps = [] ∧
    (c.sendFromLoop buffer).log = c.log ++
      [.sendCallback c.nextTensorBeingSent c.error (c.device.length + 1),
        .descriptorCallback c.nextTensorBeingSent none none] := by
  have hi := h.inv
  have hd : ¬ c.replyConnection.readsDone < c.replyConnection.reads.length := fun hlt => by
    rw [Connection.pending, List.drop_eq_nil_iff] at hp; omega
  have hq : c.sendOps = [] := hi.send.window.eq_nil (Nat.le_of_not_lt hd)
  have hn := hi.send_not_mem (le_refl _)
  rw [ChannelImpl.sendFromLoop, sendImplFromLoop_of_some
    (c := { c with nextTensorBeingSent := c.nextTensorBeingSent + 1 }) hn
    (hi.send_not_mem (Nat.le_succ _)) he]
  simp [hq, popFinished, findOperation]

/-- `close` on a fresh channel, then a send. -/
theorem sendFromLoop_of_error_of_idle_closed :
    let c := (init [] ⟨.flat, [], []⟩).closeFromLoop
    c.error.isSome ∧ c.replyConnection.pending = [] ∧
    (c.sendFromLoop ⟨4096, 256, 0⟩).sendOps = [] ∧
    (c.sendFromLoop ⟨4096, 256, 0⟩).log = c.log ++
      [.sendCallback 0 (some .channelClosed) 1, .descriptorCallback 0 none none] :=
  ⟨rfl, rfl, sendFromLoop_of_error_of_idle (.step .close (.init _ _) rfl) rfl rfl _⟩

section Release

/-- What the records hold of the user's callbacks: a queued send holds its callback exactly
while it is unfinished; a queued receive, called back when it started reading its ack,
holds it no longer. -/
def CallbacksHeld (c : ChannelImpl) : Prop :=
  (∀ op ∈ c.sendOps, op.callback = true ↔ op.state ≠ .finished) ∧
    ∀ op ∈ c.recvOps, op.callback = false

variable {c' : ChannelImpl}

/-- Every loop task keeps the callbacks held: a new send is queued holding its callback, or
finished without it; a new receive is queued, or finished, without it; a completion only
removes records; an error changes no record. -/
theorem Inv.callbacksHeld_step (hi : Inv c) (hc : CallbacksHeld c) {e : Event}
    (h : c.step e = some c') : CallbacksHeld c' := by
  cases e with
  | send buffer =>
    cases h
    rw [ChannelImpl.sendFromLoop]
    by_cases he : c.error = none
    · rw [sendImplFromLoop_of_none (c := { c with nextTensorBeingSent := c.nextTensorBeingSent + 1 })
        hi.quiet.send (hi.send_not_mem (le_refl _)) (hi.send_not_mem (Nat.le_succ _)) he]
      refine ⟨fun op hop => ?_, hc.2⟩
      rcases List.mem_append.1 hop with hop | hop
      · exact hc.1 op hop
      · rw [List.mem_singleton.1 hop]; simp [newSendOperation]
    · rw [sendImplFromLoop_of_some (c := { c with nextTensorBeingSent := c.nextTensorBeingSent + 1 })
        (hi.send_not_mem (le_refl _)) (hi.send_not_mem (Nat.le_succ _))
        (Option.ne_none_iff_isSome.1 he)]
      refine ⟨fun op hop => ?_, hc.2⟩
      rcases List.mem_append.1 (popFinished_subset _ hop) with hop | hop
      · exact hc.1 op hop
      · rw [List.mem_singleton.1 hop]; simp
  | recv descriptor buffer =>
    cases hd : loadDescriptor descriptor with
    | none =>
      rw [ChannelImpl.step, ChannelImpl.recvFromLoop, recvImplFromLoop_of_malformed hd] at h
      cases h
    | some d =>
      rw [ChannelImpl.step, ChannelImpl.recvFromLoop] at h
      by_cases he : c.error = none
      · rw [recvImplFromLoop_of_none
          (c := { c with nextTensorBeingReceived := c.nextTensorBeingReceived + 1 }) hi.quiet.recv
          (hi.recv_not_mem (le_refl _)) (hi.recv_not_mem (Nat.le_succ _)) hd he] at h
        cases h
        refine ⟨hc.1, fun op hop => ?_⟩
        rcases List.mem_append.1 hop with hop | hop
        · exact hc.2 op hop
        · rw [List.mem_singleton.1 hop]
      · rw [recvImplFromLoop_of_some
          (c := { c with nextTensorBeingReceived := c.nextTensorBeingReceived + 1 })
          (hi.recv_not_mem (le_refl _)) (hi.recv_not_mem (Nat.le_succ _)) hd
          (Option.ne_none_iff_isSome.1 he)] at h
        cases h
        refine ⟨hc.1, fun op hop => ?_⟩
        rcases List.mem_append.1 (popFinished_subset _ hop) with hop | hop
        · exact hc.2 op hop
        · rw [List.mem_singleton.1 hop]
  | replyRead error reply =>
    cases h
    cases hp : c.replyConnection.pending with
    | nil => rw [replyReadCompletion_of_nil hp]; exact hc
    | cons k rest =>
      obtain ⟨rfl, op, tail, hq, hs, hw, hn⟩ := hi.reply_head hp
      rw [← hs] at hp hn
      rw [replyReadCompletion_of_head hi.quiet hp hq hw hn,
        setError_of_quiet (c := { c with replyConnection := c.replyConnection.completeRead })
          ⟨hi.quiet.send, hi.quiet.recv⟩]
      dsimp only
      split_ifs <;>
        exact ⟨fun o ho => hc.1 o (hq ▸ List.mem_cons_of_mem _ (popFinished_subset _ ho)), hc.2⟩
  | ackRead error =>
    cases h
    cases hp : c.ackConnection.pending with
    | nil => rw [ackReadCompletion_of_nil hp]; exact hc
    | cons k rest =>
      obtain ⟨rfl, op, tail, hq, hs, hw, hn⟩ := hi.ack_head hp
      rw [← hs] at hp hn
      rw [ackReadCompletion_of_head hi.quiet hp hq hw hn,
        setError_of_quiet (c := { c with ackConnection := c.ackConnection.completeRead })
          ⟨hi.quiet.send, hi.quiet.recv⟩]
      exact ⟨hc.1, fun o ho => hc.2 o (hq ▸ List.mem_cons_of_mem _ (popFinished_subset _ ho))⟩
  | fail _ | close =>
    cases h
    show CallbacksHeld (c.setError _)
    rw [setError_of_quiet hi.quiet]
    exact hc

theorem Reachable.callbacksHeld (h : Reachable c) : CallbacksHeld c := by
  induction h with
  | init => exact ⟨nofun, nofun⟩
  | step e hr hs ih => exact hr.inv.callbacksHeld_step ih hs

/-- Each operation holds its user's callback exactly until the callback is invoked. In every
reachable state, a queued send holds its callback exactly when it has not been called back,
so the callback is released once invoked and never before; a queued receive has been called
back and holds its callback no longer. -/
theorem reachable_callbacks_released (h : Reachable c) :
    (∀ op ∈ c.sendOps, op.callback = true ↔ op.sequenceNumber ∉ sendCallbacks c.log) ∧
    ∀ op ∈ c.recvOps, op.callback = false ∧ op.sequenceNumber ∈ recvCallbacks c.log := by
  have hi := h.inv
  have hc := h.callbacksHeld
  refine ⟨fun op hop => ?_, fun op hop => ⟨hc.2 op hop, ?_⟩⟩
  · rw [hc.1 op hop, hi.send.mem_callbacks_iff_finished hop]
  · rw [hi.recv.callbacks_eq]
    exact List.mem_range.2 (hi.recv.window.mem_seq hop).2.2

/-- A send waiting for its reply still holds its callback. -/
theorem reachable_callbacks_released_waiting_send :
    let c := (init [] ⟨.flat, [], []⟩).sendFromLoop ⟨0, 256, 0⟩
    c.sendOps.length = 1 ∧
    (∀ op ∈ c.sendOps, op.callback = true ↔ op.sequenceNumber ∉ sendCallbacks c.log) ∧
    ∀ op ∈ c.recvOps, op.callback = false ∧ op.sequenceNumber ∈ recvCallbacks c.log :=
  ⟨by decide, reachable_callbacks_released (.step (.send ⟨0, 256, 0⟩) (.init _ _) rfl)⟩

end Release

end TensorPipe.Channel.CudaIpc.ChannelImpl

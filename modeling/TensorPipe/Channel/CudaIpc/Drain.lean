import TensorPipe.Channel.CudaIpc.Frame
import TensorPipe.Channel.CudaIpc.Invariant

/-! # Draining a channel

A send leaves its queue when its reply read completes, or at once when it is made after the
error; a receive leaves when its ack read completes. A completion issues no read: it takes
the oldest pending read of its connection and nothing else. So once the connections have
completed the reads pending, in whatever order and with whatever outcome, both queues are
empty and every operation has been called back exactly once: none is lost, none is called
back twice.
-/
namespace TensorPipe.Channel.CudaIpc.ChannelImpl
open OpsStateMachine

variable {c c' : ChannelImpl}

/-- The completion of a reply read. -/
def Event.isReplyRead : Event → Bool
  | .replyRead _ _ => true
  | _ => false

/-- The completion of an ack read. -/
def Event.isAckRead : Event → Bool
  | .ackRead _ => true
  | _ => false

theorem pending_completeRead {conn : Connection} {n : Nat} {rest : List Nat}
    (hp : conn.pending = n :: rest) : conn.reads.drop (conn.readsDone + 1) = rest := by
  rw [← List.tail_drop]
  exact congrArg List.tail hp

theorem Inv.replyReadCompletion_pending (hi : Inv c) (error : Error) (reply : Reply) :
    (c.replyReadCompletion error reply).replyConnection.pending =
        c.replyConnection.pending.tail ∧
      (c.replyReadCompletion error reply).ackConnection.pending = c.ackConnection.pending := by
  cases hp : c.replyConnection.pending with
  | nil => rw [replyReadCompletion_of_nil hp]; exact ⟨hp, rfl⟩
  | cons n rest =>
    obtain ⟨rfl, op, tail, hq, hs, hw, hn⟩ := hi.reply_head hp
    rw [← hs] at hp hn
    rw [replyReadCompletion_of_head hi.quiet hp hq hw hn,
      setError_of_quiet (c := { c with replyConnection := c.replyConnection.completeRead })
        ⟨hi.quiet.send, hi.quiet.recv⟩]
    dsimp only
    split_ifs <;> exact ⟨pending_completeRead hp, rfl⟩

theorem Inv.ackReadCompletion_pending (hi : Inv c) (error : Error) :
    (c.ackReadCompletion error).ackConnection.pending = c.ackConnection.pending.tail ∧
      (c.ackReadCompletion error).replyConnection.pending = c.replyConnection.pending := by
  cases hp : c.ackConnection.pending with
  | nil => rw [ackReadCompletion_of_nil hp]; exact ⟨hp, rfl⟩
  | cons n rest =>
    obtain ⟨rfl, op, tail, hq, hs, hw, hn⟩ := hi.ack_head hp
    rw [← hs] at hp hn
    rw [ackReadCompletion_of_head hi.quiet hp hq hw hn,
      setError_of_quiet (c := { c with ackConnection := c.ackConnection.completeRead })
        ⟨hi.quiet.send, hi.quiet.recv⟩]
    exact ⟨pending_completeRead hp, rfl⟩

theorem step_next_of_completion {e : Event} (he : e.isReplyRead ∨ e.isAckRead)
    (h : c.step e = some c') :
    c'.nextTensorBeingSent = c.nextTensorBeingSent ∧
      c'.nextTensorBeingReceived = c.nextTensorBeingReceived := by
  have hg := grows_step _ h
  rw [hg.nextTensorBeingSent_eq, hg.nextTensorBeingReceived_eq]
  cases e <;> simp only [Event.isReplyRead, Event.isAckRead, Bool.false_eq_true, or_self] at he
  all_goals simp only [Event.bump]; split_ifs <;> exact ⟨rfl, rfl⟩

theorem Inv.drained (hi : Inv c) (hr : c.replyConnection.pending = [])
    (ha : c.ackConnection.pending = []) :
    c.sendOps = [] ∧ c.recvOps = [] ∧
      (sendCallbacks c.log).Perm (List.range c.nextTensorBeingSent) ∧
      recvCallbacks c.log = List.range c.nextTensorBeingReceived := by
  rw [Connection.pending, List.drop_eq_nil_iff] at hr ha
  have hd := le_antisymm hi.send.readsDone_le hr
  exact ⟨(hi.send.of_all_done hd).1, hi.recv.window.eq_nil ha, (hi.send.of_all_done hd).2,
    hi.recv.callbacks_eq⟩

/-- Completing the pending reads drains the channel, whatever the order of the completions,
their errors and the replies they carry, and whether or not the error is set: once each
connection has completed as many reads as it had pending, both queues are empty, every send
has been called back exactly once, and so has every receive. -/
theorem reachable_drain (h : Reachable c) (es : List Event)
    (hes : ∀ e ∈ es, e.isReplyRead ∨ e.isAckRead)
    (hr : c.replyConnection.pending.length ≤ es.countP Event.isReplyRead)
    (ha : c.ackConnection.pending.length ≤ es.countP Event.isAckRead) :
    ∃ c', c.run es = some c' ∧ c'.sendOps = [] ∧ c'.recvOps = [] ∧
      (sendCallbacks c'.log).Perm (List.range c.nextTensorBeingSent) ∧
      recvCallbacks c'.log = List.range c.nextTensorBeingReceived := by
  induction es generalizing c with
  | nil =>
    simp only [List.countP_nil, Nat.le_zero, List.length_eq_zero] at hr ha
    exact ⟨c, rfl, h.inv.drained hr ha⟩
  | cons e es ih =>
    have hi := h.inv
    have he := hes e (List.mem_cons_self _ _)
    have hes' := fun e' he' => hes e' (List.mem_cons_of_mem e he')
    obtain ⟨c₁, hc₁, hp₁, hp₂⟩ : ∃ c₁, c.step e = some c₁ ∧
        c₁.replyConnection.pending.length ≤ es.countP Event.isReplyRead ∧
        c₁.ackConnection.pending.length ≤ es.countP Event.isAckRead := by
      cases e <;> simp only [Event.isReplyRead, Event.isAckRead, Bool.false_eq_true,
        or_self] at he
      case replyRead error reply =>
        obtain ⟨h₁, h₂⟩ := hi.replyReadCompletion_pending error reply
        simp only [List.countP_cons, Event.isReplyRead, Event.isAckRead, if_true, if_false,
          Bool.false_eq_true, Nat.add_zero] at hr ha
        refine ⟨_, rfl, ?_, ?_⟩
        · rw [h₁, List.length_tail]; omega
        · simpa [h₂] using ha
      case ackRead error =>
        obtain ⟨h₁, h₂⟩ := hi.ackReadCompletion_pending error
        simp only [List.countP_cons, Event.isReplyRead, Event.isAckRead, if_true, if_false,
          Bool.false_eq_true, Nat.add_zero] at hr ha
        refine ⟨_, rfl, ?_, ?_⟩
        · simpa [h₂] using hr
        · rw [h₁, List.length_tail]; omega
    obtain ⟨c', hrun, hdrain⟩ := ih (.step e h hc₁) hes' hp₁ hp₂
    obtain ⟨hs, hr'⟩ := step_next_of_completion he hc₁
    rw [hs, hr'] at hdrain
    exact ⟨c', by simp only [ChannelImpl.run, hc₁, Option.some_bind, hrun], hdrain⟩

/-- A send, `close` and a second send leave send `0` waiting for its reply read; the read
then fails, and both sends have been called back once. -/
theorem reachable_drain_after_close :
    let c := (((init [] ⟨.flat, [], []⟩).sendFromLoop ⟨4096, 256, 0⟩).closeFromLoop).sendFromLoop
      ⟨8192, 256, 0⟩
    let es : List Event := [.replyRead (some .channelClosed) ⟨[]⟩]
    c.sendOps ≠ [] ∧ c.replyConnection.pending.length = 1 ∧
    ∃ c', c.run es = some c' ∧ c'.sendOps = [] ∧ c'.recvOps = [] ∧
      (sendCallbacks c'.log).Perm (List.range c.nextTensorBeingSent) ∧
      recvCallbacks c'.log = List.range c.nextTensorBeingReceived :=
  ⟨by decide, by decide, reachable_drain (.step (.send ⟨8192, 256, 0⟩) (.step .close
    (.step (.send ⟨4096, 256, 0⟩) (.init _ _) rfl) rfl) rfl) _ (by decide) (by decide)
    (by decide)⟩

end TensorPipe.Channel.CudaIpc.ChannelImpl

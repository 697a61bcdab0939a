import TensorPipe.Channel.CudaIpc.Progress
import TensorPipe.Channel.CudaIpc.AfterError

/-! # Each event outlives the peer's wait on it

The start event of send `k` lives in the sender's record of the send, the stop event of
receive `k` in the receiver's record of the receive, and the peer waits on each through the
handle it was sent. A record leaves its queue when its last read completes: the reply read
for a send, the ack read for a receive. Receive `k` writes its reply after its wait on send
`k`'s start event, and send `k` writes its ack after its wait on receive `k`'s stop event.
So, while a side has no error, none of its records leaves the queue, and its event with it,
before the peer's wait on that event is on the device.

An error breaks this on the receive side. The step from `READING_ACK` to `FINISHED`, which
the source keeps only to hold the stop event until the peer acknowledged, fires on
`doneReadingAck`, and a failed ack read sets it too: the receive leaves its queue while the
sender may still read its reply and wait on its stop event.
-/
namespace TensorPipe.Channel.CudaIpc

namespace ChannelImpl

variable {c c' : ChannelImpl}

/-- Every ack a channel has written follows its send's callback with success. -/
def AcksCalledBack (c : ChannelImpl) : Prop :=
  ∀ k < c.ackConnection.writes.length, ∃ m, Effect.sendCallback k none m ∈ c.log

/-- Only the reply read of the send at the head, completing on a channel without error,
writes an ack, and it calls the send back with success first. A channel with an error writes
nothing; on one without, every other task leaves the count of acks at the count of reply
reads done. -/
theorem Inv.acksCalledBack_step (hi : Inv c) (ha : AcksCalledBack c) {e : Event}
    (h : c.step e = some c') : AcksCalledBack c' := by
  have hg := grows_step c h
  have keep : c'.ackConnection.writes = c.ackConnection.writes → AcksCalledBack c' :=
    fun hw k hk =>
      (ha k (hw ▸ hk)).imp fun _ hm => (ChannelPair.bump_log c e ▸ hg.log).subset hm
  refine (em (c.error = none)).elim (fun he => ?_)
    fun he => keep (hi.aborts_step he h).ackWrites_eq
  have hacks := hi.send.acks_eq he
  cases e
  case replyRead error reply =>
    cases h
    cases hp : c.replyConnection.pending with
    | nil => rwa [replyReadCompletion_of_nil hp]
    | cons k rest =>
      obtain ⟨rfl, op, tail, hq, hs, hw, hn⟩ := hi.reply_head hp
      rw [← hs] at hp hn
      rw [replyReadCompletion_of_head hi.quiet hp hq hw hn,
        setError_of_quiet (c := { c with replyConnection := c.replyConnection.completeRead })
          ⟨hi.quiet.send, hi.quiet.recv⟩]
      dsimp only
      split_ifs
      · intro k hk
        simp only [Connection.write_writes, List.length_append, List.length_singleton] at hk
        rcases Nat.lt_succ_iff_lt_or_eq.1 hk with hk | rfl
        · exact (ha k hk).imp fun _ hm => List.mem_append_left _ hm
        · rw [hacks, ← hs]
          exact ⟨_, List.mem_append_right _ (List.mem_singleton_self _)⟩
      · exact fun k hk => (ha k hk).imp fun _ hm => List.mem_append_left _ hm
  all_goals
    have hpre := ChannelPair.bump_ackWrites c _ ▸ hg.ackWrites
    have hle := hg.replyReadsDone_eq ▸ (hi.step h).send.acks_le
    simp only [Event.bump, apply_ite (fun c : ChannelImpl => c.replyConnection.readsDone),
      ite_self] at hle
    exact keep (hpre.eq_of_length (by have := hpre.length_le; omega)).symm

end ChannelImpl

namespace ChannelPair
open OpsStateMachine ChannelImpl

variable {sys : ChannelPair}

theorem Reachable.acksCalledBack (h : Reachable sys) : AcksCalledBack sys.sender := by
  induction h with
  | init => intro k hk; simp [ChannelPair.init, ChannelImpl.init, Connection.empty] at hk
  | @step sys sys' e hr hs ih =>
    rcases step_sender hs with heq | ⟨e', he'⟩
    · rw [heq]; exact ih
    · exact (inv_with_device hr.inv.sender sys.trace).acksCalledBack_step ih he'

theorem Reachable.copied_of_sent (h : Reachable sys) (he : sys.sender.error = none) {k : Nat}
    (hk : k < sys.sender.nextTensorBeingSent) (hgone : k ∉ seqs sys.sender.sendOps) :
    ∃ bS bR j, sys.sends[k]? = some bS ∧ sys.recvs[k]? = some bR ∧
      Copied sys.trace sys.sender sys.receiver k bS bR j := by
  have hi := h.inv
  have hS := hi.sender.send
  have hd : k < sys.sender.replyConnection.readsDone := Nat.lt_of_not_le fun hd =>
    hgone (hS.window.mem_of_lt hS.reads_le hd (hS.reads_eq he ▸ hk))
  obtain ⟨m, hm⟩ := h.deviceInv.replied k (lt_of_lt_of_le hd (hi.replies_le he))
  obtain ⟨bS, bR, j, hbS, hbR, -, hc⟩ := h.deviceInv.copied k m hm
  exact ⟨bS, bR, j, hbS, hbR, hc⟩

theorem Reachable.waited_of_received (h : Reachable sys) (he : sys.receiver.error = none)
    {k : Nat} (hk : k < sys.receiver.nextTensorBeingReceived)
    (hgone : k ∉ seqs sys.receiver.recvOps) :
    ∃ bS j, sys.sends[k]? = some bS ∧ Waited sys.trace sys.sender sys.receiver k bS j := by
  have hi := h.inv
  have hR := hi.receiver.recv
  have hd : k < sys.receiver.ackConnection.readsDone := Nat.lt_of_not_le fun hd =>
    hgone (hR.window.mem_of_lt hR.reads_le hd (hR.reads_eq he ▸ hk))
  obtain ⟨m, hm⟩ := h.acksCalledBack k (lt_of_lt_of_le hd (hi.acks_le he))
  obtain ⟨bS, j, -, hbS, -, hw, -⟩ := h.deviceInv.waited k m hm
  exact ⟨bS, j, hbS, hw⟩

/-- With an error on the receiver, its stop event does not outlive the sender's wait.
`advanceRecvOperation` keeps a receive in `READING_ACK` so that its stop event stays alive
until the peer acknowledged, but the step to `FINISHED` fires on `doneReadingAck`, which a
failed ack read sets too. Once the record of receive `k` has left the queue, a sender without
error whose oldest pending reply read is `k`'s still takes the reply written before and
waits on receive `k`'s stop event, with no record of that receive left. -/
theorem reachable_wait_on_released_stopEv (h : Reachable sys) (hs : sys.sender.error = none)
    (hlt : sys.sender.replyConnection.readsDone < sys.receiver.replyConnection.writes.length)
    (hgone : sys.sender.replyConnection.readsDone ∉ seqs sys.receiver.recvOps) :
    ∃ sys' s, sys.step .replyDelivered = some sys' ∧
      sys'.trace = sys.trace ++ [.wait (sys.receiver.context.cudaLib.ipcGetEventHandle
        ⟨sys.receiver.id, .stopEv, sys.sender.replyConnection.readsDone⟩) s] ∧
      sys.sender.replyConnection.readsDone ∉ seqs sys'.receiver.recvOps := by
  obtain ⟨sys', hstep, -, hR, -, -, -, s, htr⟩ := h.replyDelivered hs hlt
  exact ⟨sys', s, hstep, htr, hR ▸ hgone⟩

set_option maxRecDepth 100000 in
/-- Send `0` and receive `0`, whose reply is written; the receiver closes and its pending ack
read fails, so receive `0` leaves its queue; the sender then reads the reply and waits on
receive `0`'s stop event. -/
theorem reachable_wait_on_released_stopEv_after_receiver_close :
    let sys := ((init .flat [1] [2] [3] [4]).run [.send ⟨0, 256, 0⟩, .recv ⟨4096, 256, 1⟩,
      .receiverClose, .ackFailed .channelClosed]).get (by decide)
    sys.receiver.error ≠ none ∧ sys.sender.error = none ∧
    sys.sender.replyConnection.readsDone < sys.receiver.replyConnection.writes.length ∧
    sys.sender.replyConnection.readsDone ∉ seqs sys.receiver.recvOps ∧
    ∃ sys' s, sys.step .replyDelivered = some sys' ∧
      sys'.trace = sys.trace ++ [.wait (sys.receiver.context.cudaLib.ipcGetEventHandle
        ⟨sys.receiver.id, .stopEv, sys.sender.replyConnection.readsDone⟩) s] ∧
      sys.sender.replyConnection.readsDone ∉ seqs sys'.receiver.recvOps :=
  ⟨by decide, by decide, by decide, by decide, reachable_wait_on_released_stopEv
    (Reachable.run (.init _ _ _ _ _ (by decide)) (Option.some_get _).symm) (by decide)
    (by decide) (by decide)⟩

end ChannelPair

end TensorPipe.Channel.CudaIpc

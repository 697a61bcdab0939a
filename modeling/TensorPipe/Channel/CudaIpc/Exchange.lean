import TensorPipe.Channel.CudaIpc.Pair

/-! # The reply and ack exchange

What the pair invariant says about the two control streams. Read `i` of a stream was
issued by operation `i` of the reading side and message `i` was written by operation `i` of
the writing side, so every read that succeeds takes the message of its own peer
operation. When both sides are quiet, the exchange has gone as far as the receives allow.
-/
namespace TensorPipe.Channel.CudaIpc.ChannelPair
open OpsStateMachine ChannelImpl

variable {sys sys' : ChannelPair}

theorem Inv.reply_getElem? (hi : Inv sys) {k : Nat}
    (hk : k < sys.receiver.replyConnection.writes.length) :
    sys.receiver.replyConnection.writes[k]? = some (k, saveReply
      ⟨sys.receiver.context.cudaLib.ipcGetEventHandle ⟨sys.receiver.id, .stopEv, k⟩⟩) := by
  have hr := hi.receiver.recv.replies_eq
  rw [hr] at hk ⊢
  simp only [List.length_map, List.length_range] at hk
  simp [hk]

theorem Inv.ack_getElem? (hi : Inv sys) {k : Nat}
    (hk : k < sys.sender.ackConnection.writes.length) :
    sys.sender.ackConnection.writes[k]? = some (k, saveAck ⟨⟩) := by
  have ha := hi.sender.send.acks_eq_range
  rw [ha] at hk ⊢
  simp only [List.length_map, List.length_range] at hk
  simp [hk]

/-- Each successful read takes the message of its own peer operation. When send `k`'s
reply read completes, the reply is the one receive `k` wrote, naming receive `k`'s stop
event, and a sender without error enqueues its wait on exactly that event. When receive
`k`'s ack read completes, the ack is the one send `k` wrote. -/
theorem reachable_reads_match_writes (h : Reachable sys) :
    (∀ k rest sys', sys.sender.replyConnection.pending = k :: rest →
      sys.step .replyDelivered = some sys' →
      sys.receiver.replyConnection.writes[sys.sender.replyConnection.readsDone]? = some (k,
        saveReply ⟨sys.receiver.context.cudaLib.ipcGetEventHandle ⟨sys.receiver.id, .stopEv, k⟩⟩) ∧
      (sys'.sender.error = none → ∃ s, sys'.trace = sys.trace ++
        [.wait (sys.receiver.context.cudaLib.ipcGetEventHandle ⟨sys.receiver.id, .stopEv, k⟩) s])) ∧
    (∀ k rest sys', sys.receiver.ackConnection.pending = k :: rest →
      sys.step .ackDelivered = some sys' →
      sys.sender.ackConnection.writes[sys.receiver.ackConnection.readsDone]? =
        some (k, saveAck ⟨⟩)) := by
  have hi := h.inv
  refine ⟨fun k rest sys' hp hs => ?_, fun k rest sys' hp hs => ?_⟩
  · obtain ⟨rfl, -⟩ := hi.sender.reply_head hp
    obtain ⟨w, hw, h₁⟩ := Option.bind_eq_some.1 hs
    have hm := hi.reply_getElem? (List.getElem?_eq_some_iff.1 hw).1
    refine ⟨hm, fun he => ?_⟩
    rw [hm] at hw
    cases hw
    rw [loadReply_saveReply _ (by simp), Option.some_bind] at h₁
    obtain ⟨s, hstep, rfl⟩ := onSender_eq_some h₁
    have hg := grows_step _ hstep
    have he₀ : sys.sender.error = none := by
      have := hg.error_eq
      simp only [Event.bump, hp, reduceCtorEq, if_false, Option.or_none] at this
      exact this ▸ he
    obtain ⟨op, tail, -, -, hc⟩ :=
      (inv_with_device hi.sender sys.trace).replyReadCompletion_of_ok hp he₀ _
    cases (Option.some.inj hstep).symm.trans hc
    exact ⟨_, rfl⟩
  · obtain ⟨rfl, -⟩ := hi.receiver.ack_head hp
    obtain ⟨w, hw, -⟩ := Option.bind_eq_some.1 hs
    exact hi.ack_getElem? (List.getElem?_eq_some_iff.1 hw).1

set_option maxRecDepth 100000 in
/-- One send and its receive, then the reply and the ack delivered: the reply read of send
`0` takes receive `0`'s reply and the sender waits on receive `0`'s stop event; the ack read
of receive `0` takes send `0`'s ack. -/
theorem reachable_reads_match_writes_first_send :
    let sys := ((init .flat [1] [2] [3] [4]).run
      [.send ⟨0, 256, 0⟩, .recv ⟨4096, 256, 1⟩]).get (by decide)
    let sys₁ := (sys.step .replyDelivered).get (by decide)
    let sys₂ := (sys₁.step .ackDelivered).get (by decide)
    sys.sender.replyConnection.pending = [0] ∧ sys.step .replyDelivered = some sys₁ ∧
    sys.receiver.replyConnection.writes[sys.sender.replyConnection.readsDone]? = some (0,
      saveReply ⟨sys.receiver.context.cudaLib.ipcGetEventHandle ⟨sys.receiver.id, .stopEv, 0⟩⟩) ∧
    sys₁.sender.error = none ∧ (∃ s, sys₁.trace = sys.trace ++
      [.wait (sys.receiver.context.cudaLib.ipcGetEventHandle ⟨sys.receiver.id, .stopEv, 0⟩) s]) ∧
    sys₁.receiver.ackConnection.pending = [0] ∧ sys₁.step .ackDelivered = some sys₂ ∧
    sys₁.sender.ackConnection.writes[sys₁.receiver.ackConnection.readsDone]? =
      some (0, saveAck ⟨⟩) :=
  have h := Reachable.run (.init _ _ _ _ _ (by decide)) (Option.some_get _).symm
  have h₁ := (Option.some_get (by decide)).symm
  have h₂ := (Option.some_get (by decide)).symm
  have hr := (reachable_reads_match_writes h).1 0 [] _ (by decide) h₁
  ⟨by decide, h₁, hr.1, by decide, hr.2 (by decide),
    by decide, h₂, (reachable_reads_match_writes (.step _ h h₁)).2 0 [] _ (by decide) h₂⟩

/-- Replies written that no read has taken yet. -/
def repliesInFlight (sys : ChannelPair) : Nat :=
  sys.receiver.replyConnection.writes.length - sys.sender.replyConnection.readsDone

/-- Acks written that no read has taken yet. -/
def acksInFlight (sys : ChannelPair) : Nat :=
  sys.sender.ackConnection.writes.length - sys.receiver.ackConnection.readsDone

/-- With no error on either side and nothing in flight on either stream, the `m` receives
and the first `m` sends are finished and called back once each, in order, and the only
records left are the later sends, each waiting for its reply. That such a state is always
reached, by delivering the replies and then the acks in flight, is the progress theorem of
the exchange (`Progress`). -/
theorem reachable_quiescent (h : Reachable sys) (hs : sys.sender.error = none)
    (hr : sys.receiver.error = none) (hreply : sys.repliesInFlight = 0)
    (hack : sys.acksInFlight = 0) :
    let n := sys.sender.nextTensorBeingSent
    let m := sys.receiver.nextTensorBeingReceived
    m ≤ n ∧ sendCallbacks sys.sender.log = List.range m ∧
      recvCallbacks sys.receiver.log = List.range m ∧ sys.receiver.recvOps = [] ∧
      seqs sys.sender.sendOps = List.range' m (n - m) ∧
      ∀ op ∈ sys.sender.sendOps, op.state = .readingReply ∧ op.doneReadingReply = false := by
  have hi := h.inv
  have hS := hi.sender.send
  have hR := hi.receiver.recv
  have hn := hS.reads_eq hs
  have hw : sys.receiver.replyConnection.writes.length = sys.receiver.nextTensorBeingReceived := by
    rw [hR.replies_eq, List.length_map, List.length_range, hR.reads_eq hr]
  have hd₁ : sys.sender.replyConnection.readsDone = sys.receiver.nextTensorBeingReceived :=
    le_antisymm (hw ▸ hi.replies_le hs) (by unfold repliesInFlight at hreply; omega)
  have hd₂ : sys.receiver.ackConnection.readsDone = sys.receiver.nextTensorBeingReceived :=
    le_antisymm ((hS.acks_eq hs).trans hd₁ ▸ hi.acks_le hr)
      (by unfold acksInFlight at hack; rw [hS.acks_eq hs, hd₁] at hack; omega)
  have hlt := hS.callbacks_lt
  have hge := hS.callbacks_ge
  rw [hn, hd₁] at hlt
  rw [hn, Nat.sub_self, List.range'_zero, List.filter_eq_nil_iff] at hge
  refine ⟨hd₁ ▸ hn ▸ hS.readsDone_le, ?_, hR.callbacks_eq,
    hR.window.eq_nil (by rw [hd₂, hR.reads_eq hr]), ?_, fun op hop => ?_⟩
  · rw [← hlt, eq_comm, List.filter_eq_self]
    intro k hk
    simpa using hge k hk
  · have hq := hS.window.seqs_eq
    rw [hd₁, hn] at hq
    rw [hq]
    split_ifs with hmn
    · rfl
    · rw [show sys.sender.nextTensorBeingSent - sys.receiver.nextTensorBeingReceived = 0 by omega]
      rfl
  · exact hS.window.idle op hop (hn ▸ (hS.window.mem_seq hop).2.2)

set_option maxRecDepth 100000 in
/-- Two sends, one receive, both control messages taken: send `1` is left waiting. -/
theorem reachable_quiescent_two_sends :
    let sys := ((init .flat [1] [2] [3] [4]).run [.send ⟨0, 256, 0⟩, .send ⟨0, 256, 0⟩,
      .recv ⟨4096, 256, 1⟩, .replyDelivered, .ackDelivered]).get (by decide)
    sys.sender.error = none ∧ sys.receiver.error = none ∧ sys.repliesInFlight = 0 ∧
      sys.acksInFlight = 0 ∧ sys.receiver.recvOps = [] ∧
      seqs sys.sender.sendOps = List.range' sys.receiver.nextTensorBeingReceived
        (sys.sender.nextTensorBeingSent - sys.receiver.nextTensorBeingReceived) :=
  have h := reachable_quiescent
    (Reachable.run (.init _ _ _ _ _ (by decide)) (Option.some_get _).symm)
    (by decide) (by decide) (by decide) (by decide)
  ⟨by decide, by decide, by decide, by decide, h.2.2.2.1, h.2.2.2.2.1⟩

end TensorPipe.Channel.CudaIpc.ChannelPair

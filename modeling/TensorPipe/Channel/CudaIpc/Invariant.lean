import TensorPipe.Channel.CudaIpc.Tasks
import TensorPipe.Channel.CudaIpc.Directions

/-! # One channel between loop tasks

`Inv` joins the two directions of `Directions` to the channel's state: the counters are the
connections' reads and writes, the queues are the channel's, and the callbacks are read off
the log. Every loop task preserves it, by the effect lemmas of `Tasks`, so it holds in every
reachable state.
-/
namespace TensorPipe.Channel.CudaIpc.ChannelImpl
open OpsStateMachine

/-- The send callbacks invoked so far, by sequence number, in order. -/
def sendCallbacks (log : List Effect) : List Nat :=
  log.filterMap fun | .sendCallback n _ _ => some n | _ => none

/-- The receive callbacks invoked so far, by sequence number, in order. -/
def recvCallbacks (log : List Effect) : List Nat :=
  log.filterMap fun | .recvCallback n _ _ => some n | _ => none

/-- The descriptor callbacks invoked so far, by sequence number, in order. -/
def descriptorCallbacks (log : List Effect) : List Nat :=
  log.filterMap fun | .descriptorCallback n _ _ => some n | _ => none

@[simp] theorem sendCallbacks_nil : sendCallbacks [] = [] := rfl
@[simp] theorem recvCallbacks_nil : recvCallbacks [] = [] := rfl
@[simp] theorem descriptorCallbacks_nil : descriptorCallbacks [] = [] := rfl

@[simp] theorem sendCallbacks_cons (e : Effect) (l : List Effect) :
    sendCallbacks (e :: l) =
      (match e with | .sendCallback n _ _ => [n] | _ => []) ++ sendCallbacks l := by
  cases e <;> rfl
@[simp] theorem recvCallbacks_cons (e : Effect) (l : List Effect) :
    recvCallbacks (e :: l) =
      (match e with | .recvCallback n _ _ => [n] | _ => []) ++ recvCallbacks l := by
  cases e <;> rfl
@[simp] theorem descriptorCallbacks_cons (e : Effect) (l : List Effect) :
    descriptorCallbacks (e :: l) =
      (match e with | .descriptorCallback n _ _ => [n] | _ => []) ++ descriptorCallbacks l := by
  cases e <;> rfl

@[simp] theorem sendCallbacks_append (l l' : List Effect) :
    sendCallbacks (l ++ l') = sendCallbacks l ++ sendCallbacks l' := List.filterMap_append _ _ _
@[simp] theorem recvCallbacks_append (l l' : List Effect) :
    recvCallbacks (l ++ l') = recvCallbacks l ++ recvCallbacks l' := List.filterMap_append _ _ _
@[simp] theorem descriptorCallbacks_append (l l' : List Effect) :
    descriptorCallbacks (l ++ l') = descriptorCallbacks l ++ descriptorCallbacks l' :=
  List.filterMap_append _ _ _

/-- What holds between two loop tasks: the send direction over the reply reads and the ack
writes, the receive direction over the ack reads and the reply writes. -/
structure Inv (c : ChannelImpl) : Prop where
  send : SendInv c.error c.replyConnection.reads c.replyConnection.readsDone
    c.ackConnection.writes c.nextTensorBeingSent c.sendOps (sendCallbacks c.log)
    (descriptorCallbacks c.log)
  recv : RecvInv c.error c.ackConnection.reads c.ackConnection.readsDone
    c.replyConnection.writes c.nextTensorBeingReceived c.recvOps (recvCallbacks c.log)
    fun k => c.context.cudaLib.ipcGetEventHandle ⟨c.id, .stopEv, k⟩

theorem inv_init (id : Bytes) (context : ContextImpl) : Inv (init id context) := by
  constructor <;> constructor <;> simp [init, Connection.empty]

variable {c : ChannelImpl}

theorem Inv.quiet (hi : Inv c) : Quiet c := ⟨hi.send.window.atRest, hi.recv.window.atRest⟩

theorem Inv.send_not_mem (hi : Inv c) {k : Nat} (hk : c.nextTensorBeingSent ≤ k) :
    k ∉ seqs c.sendOps := fun hm => by
  obtain ⟨op, hop, rfl⟩ := List.mem_map.1 hm
  have := hi.send.window.mem_seq hop; omega

theorem Inv.recv_not_mem (hi : Inv c) {k : Nat} (hk : c.nextTensorBeingReceived ≤ k) :
    k ∉ seqs c.recvOps := fun hm => by
  obtain ⟨op, hop, rfl⟩ := List.mem_map.1 hm
  have := hi.recv.window.mem_seq hop; omega

theorem Inv.sendFromLoop (hi : Inv c) (buffer : CudaBuffer) : Inv (c.sendFromLoop buffer) := by
  have hn := hi.send_not_mem (le_refl _)
  have hn' := hi.send_not_mem (Nat.le_succ _)
  by_cases he : c.error = none
  · rw [ChannelImpl.sendFromLoop, sendImplFromLoop_of_none
      (c := { c with nextTensorBeingSent := c.nextTensorBeingSent + 1 }) hi.quiet.send hn hn' he]
    let op := { c.newSendOperation c.nextTensorBeingSent buffer with state := .readingReply }
    exact ⟨by simpa using hi.send.push_waiting he op rfl ⟨rfl, rfl⟩, by simpa using hi.recv⟩
  · rw [ChannelImpl.sendFromLoop, sendImplFromLoop_of_some
      (c := { c with nextTensorBeingSent := c.nextTensorBeingSent + 1 }) hn hn'
      (Option.ne_none_iff_isSome.1 he)]
    let op := { c.newSendOperation c.nextTensorBeingSent buffer with
      callback := false, state := .finished }
    exact ⟨by simpa using hi.send.push_finished he op rfl rfl, by simpa using hi.recv⟩

theorem Inv.recvFromLoop (hi : Inv c) {descriptor : Bytes} {buffer : CudaBuffer}
    {c' : ChannelImpl} (h : c.recvFromLoop descriptor buffer = some c') : Inv c' := by
  have hn := hi.recv_not_mem (le_refl _)
  have hn' := hi.recv_not_mem (Nat.le_succ _)
  cases hd : loadDescriptor descriptor with
  | none => rw [ChannelImpl.recvFromLoop, recvImplFromLoop_of_malformed hd] at h; cases h
  | some d =>
    by_cases he : c.error = none
    · rw [ChannelImpl.recvFromLoop, recvImplFromLoop_of_none
        (c := { c with nextTensorBeingReceived := c.nextTensorBeingReceived + 1 })
        hi.quiet.recv hn hn' hd he] at h
      cases h
      let op := { (c.newRecvOperation c.nextTensorBeingReceived buffer).withDescriptor d with
        callback := false, state := .readingAck }
      exact ⟨by simpa using hi.send, by simpa using hi.recv.push_waiting he op rfl ⟨rfl, rfl⟩⟩
    · rw [ChannelImpl.recvFromLoop, recvImplFromLoop_of_some
        (c := { c with nextTensorBeingReceived := c.nextTensorBeingReceived + 1 }) hn hn' hd
        (Option.ne_none_iff_isSome.1 he)] at h
      cases h
      let op := { (c.newRecvOperation c.nextTensorBeingReceived buffer).withDescriptor d with
        callback := false, state := .finished }
      exact ⟨by simpa using hi.send, by simpa using hi.recv.push_finished he op rfl rfl⟩

theorem Inv.setError (hi : Inv c) (error : Error) : Inv (c.setError error) := by
  have he : c.error.or error = none → c.error = none := fun h => (Option.or_eq_none.1 h).1
  rw [setError_of_quiet hi.quiet]
  exact ⟨by simpa using hi.send.of_error _ he, by simpa using hi.recv.of_error _ he⟩

theorem pending_head {conn : Connection} (h : conn.reads = List.range conn.reads.length)
    {n : Nat} {rest : List Nat} (hp : conn.pending = n :: rest) :
    conn.readsDone < conn.reads.length ∧ n = conn.readsDone := by
  have hlt : conn.readsDone < conn.reads.length := by
    by_contra hc
    rw [Connection.pending, List.drop_eq_nil_of_le (by omega)] at hp
    cases hp
  rw [Connection.pending, List.drop_eq_getElem_cons hlt] at hp
  refine ⟨hlt, ?_⟩
  rw [← (List.cons.inj hp).1, List.getElem_of_eq h, List.getElem_range]

theorem Inv.reply_head (hi : Inv c) {n : Nat} {rest : List Nat}
    (hp : c.replyConnection.pending = n :: rest) :
    n = c.replyConnection.readsDone ∧ ∃ op tail, c.sendOps = op :: tail ∧
      op.sequenceNumber = n ∧ SendWaiting op ∧ n ∉ seqs tail := by
  obtain ⟨hlt, rfl⟩ := pending_head hi.send.reads_eq_range hp
  obtain ⟨op, tail, hq, hs⟩ := hi.send.window.exists_cons hlt hi.send.reads_le
  replace hs : op.sequenceNumber = c.replyConnection.readsDone := hs
  have hwin : Window SendWaiting (op :: tail) _ _ _ := hq ▸ hi.send.window
  refine ⟨rfl, op, tail, hq, hs, hi.send.window.idle op (by simp [hq]) (by
    simp only [send_sequenceNumber]; omega), ?_⟩
  rw [hwin.head_seq.2.2, List.mem_range'_1]; omega

theorem Inv.ack_head (hi : Inv c) {n : Nat} {rest : List Nat}
    (hp : c.ackConnection.pending = n :: rest) :
    n = c.ackConnection.readsDone ∧ ∃ op tail, c.recvOps = op :: tail ∧
      op.sequenceNumber = n ∧ RecvWaiting op ∧ n ∉ seqs tail := by
  obtain ⟨hlt, rfl⟩ := pending_head hi.recv.reads_eq_range hp
  obtain ⟨op, tail, hq, hs⟩ := hi.recv.window.exists_cons hlt hi.recv.reads_le
  replace hs : op.sequenceNumber = c.ackConnection.readsDone := hs
  have hwin : Window RecvWaiting (op :: tail) _ _ _ := hq ▸ hi.recv.window
  refine ⟨rfl, op, tail, hq, hs, hi.recv.window.idle op (by simp [hq]) (by
    simp only [recv_sequenceNumber]; omega), ?_⟩
  rw [hwin.head_seq.2.2, List.mem_range'_1]; omega

theorem Inv.replyReadCompletion (hi : Inv c) (error : Error) (reply : Reply) :
    Inv (c.replyReadCompletion error reply) := by
  cases hp : c.replyConnection.pending with
  | nil => rwa [replyReadCompletion_of_nil hp]
  | cons n rest =>
    obtain ⟨rfl, op, tail, hq, hs, hw, hn⟩ := hi.reply_head hp
    rw [← hs] at hp hn
    rw [replyReadCompletion_of_head hi.quiet hp hq hw hn,
      setError_of_quiet (c := { c with replyConnection := c.replyConnection.completeRead })
        ⟨hi.quiet.send, hi.quiet.recv⟩]
    dsimp only
    split_ifs with he
    · obtain ⟨hce, hee⟩ := Option.or_eq_none.1 he
      exact ⟨by simpa [hs, hce, hee] using hi.send.pop_ok hce hq, by simpa [hce, hee] using hi.recv⟩
    · exact ⟨by simpa [hs] using (hi.send.of_error _ fun h => absurd h he).pop_error he hq,
        by simpa using hi.recv.of_error (c.error.or error) fun h => absurd h he⟩

theorem Inv.ackReadCompletion (hi : Inv c) (error : Error) : Inv (c.ackReadCompletion error) := by
  cases hp : c.ackConnection.pending with
  | nil => rwa [ackReadCompletion_of_nil hp]
  | cons n rest =>
    obtain ⟨rfl, op, tail, hq, hs, hw, hn⟩ := hi.ack_head hp
    rw [← hs] at hp hn
    have he : c.error.or error = none → c.error = none := fun h => (Option.or_eq_none.1 h).1
    rw [ackReadCompletion_of_head hi.quiet hp hq hw hn,
      setError_of_quiet (c := { c with ackConnection := c.ackConnection.completeRead })
        ⟨hi.quiet.send, hi.quiet.recv⟩]
    exact ⟨by simpa using hi.send.of_error _ he, by simpa using (hi.recv.of_error _ he).pop hq⟩

theorem Inv.step (hi : Inv c) {e : Event} {c' : ChannelImpl} (h : c.step e = some c') :
    Inv c' := by
  cases e with
  | send buffer => cases h; exact hi.sendFromLoop buffer
  | recv descriptor buffer => exact hi.recvFromLoop h
  | replyRead error reply => cases h; exact hi.replyReadCompletion error reply
  | ackRead error => cases h; exact hi.ackReadCompletion error
  | fail error => cases h; exact hi.setError _
  | close => cases h; exact hi.setError _

theorem Reachable.inv {c : ChannelImpl} (h : Reachable c) : Inv c := by
  induction h with
  | init id context => exact inv_init id context
  | step e _ hs ih => exact ih.step hs

end TensorPipe.Channel.CudaIpc.ChannelImpl

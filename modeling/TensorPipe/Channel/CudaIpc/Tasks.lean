import TensorPipe.Channel.CudaIpc.Quiet

/-! # The loop tasks of one channel

The event loop runs the tasks of a channel one at a time: the entry points, the
completions of control-connection reads, and errors from elsewhere. For a channel whose
queues are at rest, each task's effect is one lemma: the record it queues or finishes, the
callbacks it invokes, the I/O it issues and the device work it enqueues. Later modules cite
these lemmas and never unfold a task.
-/
namespace TensorPipe.Channel.CudaIpc.ChannelImpl
open OpsStateMachine

/-- The loop tasks of one channel: the four entry points, the completion of the oldest
read on either connection (with the error it reports and, for a reply, the holder's
contents), and an error from any other source (a write completion, the closing emitter). -/
inductive Event
  | send (buffer : CudaBuffer)
  | recv (descriptor : Bytes) (buffer : CudaBuffer)
  | replyRead (error : Error) (reply : Reply)
  | ackRead (error : Error)
  | fail (error : ErrorKind)
  | close

/-- Run one loop task; `none` where the C++ throws. -/
def step (c : ChannelImpl) : Event → Option ChannelImpl
  | .send buffer => some (c.sendFromLoop buffer)
  | .recv descriptor buffer => c.recvFromLoop descriptor buffer
  | .replyRead error reply => some (c.replyReadCompletion error reply)
  | .ackRead error => some (c.ackReadCompletion error)
  | .fail error => some (c.setError (some error))
  | .close => some c.closeFromLoop

/-- The states a channel reaches from `init`. -/
inductive Reachable : ChannelImpl → Prop
  | init (id : Bytes) (context : ContextImpl) : Reachable (init id context)
  | step {c c' : ChannelImpl} (e : Event) : Reachable c → c.step e = some c' → Reachable c'

/-- Run loop tasks one after another; `none` if one of them throws. -/
def run (c : ChannelImpl) : List Event → Option ChannelImpl
  | [] => some c
  | e :: es => (c.step e).bind fun c' => run c' es

theorem Reachable.run {c c' : ChannelImpl} (h : Reachable c) {es : List Event}
    (hr : c.run es = some c') : Reachable c' := by
  induction es generalizing c with
  | nil => cases hr; exact h
  | cons e es ih =>
    simp only [ChannelImpl.run, Option.bind_eq_some] at hr
    obtain ⟨c₁, h₁, h₂⟩ := hr
    exact ih (.step e h h₁) h₂

variable {c : ChannelImpl} {n : Nat}

@[simp] theorem newSendOperation_sequenceNumber (c : ChannelImpl) (n : Nat) (b : CudaBuffer) :
    (c.newSendOperation n b).sequenceNumber = n := rfl

@[simp] theorem newRecvOperation_sequenceNumber (c : ChannelImpl) (n : Nat) (b : CudaBuffer) :
    (c.newRecvOperation n b).sequenceNumber = n := rfl

section Send

variable (hr : AtRest SendWaiting c.sendOps) (hn : n ∉ seqs c.sendOps)
  (hn' : n + 1 ∉ seqs c.sendOps)
include hr hn hn'

theorem sendImplFromLoop_of_none (he : c.error = none) (buffer : CudaBuffer) :
    c.sendImplFromLoop n buffer =
      let op := c.newSendOperation n buffer
      { c with
        sendOps := c.sendOps ++ [{ op with state := .readingReply }]
        replyConnection := c.replyConnection.read n
        device := c.device ++ [.record op.startEv (c.stream buffer.stream)]
        log := c.log ++ [.descriptorCallback n none
          (some (saveDescriptor (makeDescriptor c.context op)))] } := by
  have h := advanceOperation_send_start (c := emplaceBack sendQueue
    { c with device := c.device ++ [.record (c.newSendOperation n buffer).startEv
      (c.stream buffer.stream)] } (c.newSendOperation n buffer)) rfl hn hn' rfl
    hr.idle_or_finished rfl he
  rw [newSendOperation_sequenceNumber] at h
  unfold sendImplFromLoop
  dsimp only
  rw [h]
  simp [emplaceBack, findOperation_append_left hn, findOperation_cons]
  rfl

omit hr in
theorem sendImplFromLoop_of_some (he : c.error.isSome) (buffer : CudaBuffer) :
    c.sendImplFromLoop n buffer =
      let op := c.newSendOperation n buffer
      let ops := popFinished (c.sendOps ++ [{ op with callback := false, state := .finished }])
      { c with
        sendOps := ops
        device := c.device ++ [.record op.startEv (c.stream buffer.stream)]
        log := c.log ++ [.sendCallback n c.error (c.device.length + 1),
          .descriptorCallback n none
            ((findOperation ops n).map fun op => saveDescriptor (makeDescriptor c.context op))] } := by
  have h := advanceOperation_send_abort (c := emplaceBack sendQueue
    { c with device := c.device ++ [.record (c.newSendOperation n buffer).startEv
      (c.stream buffer.stream)] } (c.newSendOperation n buffer)) rfl hn hn' rfl he
  rw [newSendOperation_sequenceNumber] at h
  unfold sendImplFromLoop
  dsimp only
  rw [h]
  simp [emplaceBack]

end Send

section Recv

variable (hr : AtRest RecvWaiting c.recvOps) (hn : n ∉ seqs c.recvOps)
  (hn' : n + 1 ∉ seqs c.recvOps) {descriptor : Bytes} {d : Descriptor}
  (hd : loadDescriptor descriptor = some d)
include hr hn hn' hd

theorem recvImplFromLoop_of_none (he : c.error = none) (buffer : CudaBuffer) :
    c.recvImplFromLoop n descriptor buffer =
      let op := (c.newRecvOperation n buffer).withDescriptor d
      let opened := c.context.openIpcHandle d.allocationId d.handle
      let s := c.stream buffer.stream
      some { c with
        context := opened.1
        device := c.device ++ [.wait d.startEvHandle s,
          .memcpyAsync buffer.ptr (opened.2 + d.offset) buffer.length s, .record ⟨c.id, .stopEv, n⟩ s]
        log := c.log ++ [.recvCallback n none (c.device.length + 3)]
        replyConnection := c.replyConnection.write n
          (saveReply ⟨c.context.cudaLib.ipcGetEventHandle ⟨c.id, .stopEv, n⟩⟩)
        ackConnection := c.ackConnection.read n
        recvOps := c.recvOps ++ [{ op with callback := false, state := .readingAck }] } := by
  have h₁ : updateOperation (c.recvOps ++ [c.newRecvOperation n buffer]) n (·.withDescriptor d) =
      c.recvOps ++ [(c.newRecvOperation n buffer).withDescriptor d] :=
    updateOperation_append_singleton rfl hn _
  have h := advanceOperation_recv_start (c := { c with
    recvOps := c.recvOps ++ [(c.newRecvOperation n buffer).withDescriptor d] }) rfl hn hn' rfl
    hr.idle_or_finished rfl he
  simp only [recvImplFromLoop, hd, emplaceBack, recvQueue_get, recvQueue_set, Option.map_some', h₁]
  exact congrArg some h

omit hr in
theorem recvImplFromLoop_of_some (he : c.error.isSome) (buffer : CudaBuffer) :
    c.recvImplFromLoop n descriptor buffer =
      some { c with
        log := c.log ++ [.recvCallback n c.error c.device.length]
        recvOps := popFinished (c.recvOps ++
          [{ (c.newRecvOperation n buffer).withDescriptor d with callback := false, state := .finished }]) } := by
  have h₁ : updateOperation (c.recvOps ++ [c.newRecvOperation n buffer]) n (·.withDescriptor d) =
      c.recvOps ++ [(c.newRecvOperation n buffer).withDescriptor d] :=
    updateOperation_append_singleton rfl hn _
  have h := advanceOperation_recv_abort (c := { c with
    recvOps := c.recvOps ++ [(c.newRecvOperation n buffer).withDescriptor d] }) rfl hn hn' rfl he
  simp only [recvImplFromLoop, hd, emplaceBack, recvQueue_get, recvQueue_set, Option.map_some', h₁]
  exact congrArg some h

end Recv

theorem recvImplFromLoop_of_malformed {descriptor : Bytes} (hd : loadDescriptor descriptor = none)
    (buffer : CudaBuffer) : c.recvImplFromLoop n descriptor buffer = none := by
  simp [recvImplFromLoop, hd]

theorem replyReadCompletion_of_nil (h : c.replyConnection.pending = []) (error : Error)
    (reply : Reply) : c.replyReadCompletion error reply = c := by
  simp [replyReadCompletion, h]

theorem ackReadCompletion_of_nil (h : c.ackConnection.pending = []) (error : Error) :
    c.ackReadCompletion error = c := by
  simp [ackReadCompletion, h]

section Head

variable {op : SendOperation} {tail : List SendOperation} (hq : c.sendOps = op :: tail)
  (hw : SendWaiting op) (hn : op.sequenceNumber ∉ seqs tail)
  (ht : ∀ o ∈ tail, SendWaiting o ∨ o.state = .finished)
include hq hw hn ht

/-- The reply of the head send arrives: on success it waits on the stop event the reply
names, calls back and writes the ack; on error it calls back with the error. Either way it
leaves the queue. -/
theorem onReadReply_of_head (reply : Reply) :
    c.onReadReply op.sequenceNumber reply =
      if c.error = none then
        { c with
          device := c.device ++ [.wait reply.stopEvHandle (c.stream op.stream)]
          log := c.log ++ [.sendCallback op.sequenceNumber none (c.device.length + 1)]
          ackConnection := c.ackConnection.write op.sequenceNumber (saveAck ⟨⟩)
          sendOps := popFinished tail }
      else
        { c with
          log := c.log ++ [.sendCallback op.sequenceNumber c.error c.device.length]
          sendOps := popFinished tail } := by
  have hup : ∀ f : SendOperation → SendOperation,
      updateOperation c.sendOps op.sequenceNumber f = f op :: tail := fun f => by
    rw [hq]; exact updateOperation_cons_self hn f
  unfold onReadReply
  split_ifs with he
  · let op' := { op with doneReadingReply := true, stopEvHandle := reply.stopEvHandle }
    have h := advanceOperation_send_finish (c := { c with sendOps := op' :: tail }) rfl hn hw.1
      rfl ht he
    refine (congrArg (advanceOperation sendQueue advanceSendOperation · op.sequenceNumber) ?_).trans h
    simp only [he, Option.isNone_none, if_true]
    rw [updateOperation_updateOperation
      (f := fun op : SendOperation => { op with doneReadingReply := true })
      (fun _ => rfl), hup]
    rfl
  · have hs : c.error.isSome := by revert he; cases c.error <;> simp
    let op' := { op with doneReadingReply := true }
    have h := advanceOperation_send_fail (c := { c with sendOps := op' :: tail }) rfl hn hw.1
      rfl ht hs
    refine (congrArg (advanceOperation sendQueue advanceSendOperation · op.sequenceNumber) ?_).trans h
    simp only [Option.isNone_iff_eq_none, he, if_false]
    rw [hup]

end Head

theorem onReadAck_of_head {op : RecvOperation} {tail : List RecvOperation}
    (hq : c.recvOps = op :: tail) (hw : RecvWaiting op) (hn : op.sequenceNumber ∉ seqs tail)
    (ht : ∀ o ∈ tail, RecvWaiting o ∨ o.state = .finished) :
    c.onReadAck op.sequenceNumber = { c with recvOps := popFinished tail } := by
  have h := advanceOperation_recv_finish (c := { c with
    recvOps := { op with doneReadingAck := true } :: tail }) rfl hn hw.1 rfl ht
  refine (congrArg (advanceOperation recvQueue advanceRecvOperation · op.sequenceNumber) ?_).trans h
  rw [hq]
  exact congrArg (fun ops => { c with recvOps := ops }) (updateOperation_cons_self hn _)

theorem replyReadCompletion_of_head (hQ : Quiet c) {op : SendOperation}
    {tail : List SendOperation} {rest : List Nat}
    (hp : c.replyConnection.pending = op.sequenceNumber :: rest) (hq : c.sendOps = op :: tail)
    (hw : SendWaiting op) (hn : op.sequenceNumber ∉ seqs tail) (error : Error) (reply : Reply) :
    c.replyReadCompletion error reply =
      let c₁ := { c with replyConnection := c.replyConnection.completeRead }.setError error
      if c₁.error = none then
        { c₁ with
          device := c₁.device ++ [.wait reply.stopEvHandle (c₁.stream op.stream)]
          log := c₁.log ++ [.sendCallback op.sequenceNumber none (c₁.device.length + 1)]
          ackConnection := c₁.ackConnection.write op.sequenceNumber (saveAck ⟨⟩)
          sendOps := popFinished tail }
      else
        { c₁ with
          log := c₁.log ++ [.sendCallback op.sequenceNumber c₁.error c₁.device.length]
          sendOps := popFinished tail } := by
  have hq₁ : ({ c with replyConnection := c.replyConnection.completeRead }.setError error).sendOps =
      op :: tail := by
    rw [setError_of_quiet (c := { c with replyConnection := c.replyConnection.completeRead })
      ⟨hQ.send, hQ.recv⟩]
    exact hq
  simp only [replyReadCompletion, hp]
  exact onReadReply_of_head hq₁ hw hn (fun o ho =>
    hQ.send.idle_or_finished o (by rw [hq]; exact List.mem_cons_of_mem _ ho)) reply

theorem ackReadCompletion_of_head (hQ : Quiet c) {op : RecvOperation}
    {tail : List RecvOperation} {rest : List Nat}
    (hp : c.ackConnection.pending = op.sequenceNumber :: rest) (hq : c.recvOps = op :: tail)
    (hw : RecvWaiting op) (hn : op.sequenceNumber ∉ seqs tail) (error : Error) :
    c.ackReadCompletion error =
      { { c with ackConnection := c.ackConnection.completeRead }.setError error with
        recvOps := popFinished tail } := by
  have hq₁ : ({ c with ackConnection := c.ackConnection.completeRead }.setError error).recvOps =
      op :: tail := by
    rw [setError_of_quiet (c := { c with ackConnection := c.ackConnection.completeRead })
      ⟨hQ.send, hQ.recv⟩]
    exact hq
  simp only [ackReadCompletion, hp]
  exact onReadAck_of_head hq₁ hw hn (fun o ho =>
    hQ.recv.idle_or_finished o (by rw [hq]; exact List.mem_cons_of_mem _ ho))

end TensorPipe.Channel.CudaIpc.ChannelImpl

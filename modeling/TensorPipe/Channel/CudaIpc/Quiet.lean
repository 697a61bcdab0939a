import TensorPipe.Channel.CudaIpc.Transitions

/-! # Advancing the queues of a channel between loop tasks

Between two loop tasks every queued send waits for its reply and every queued receive
for its ack, or is finished behind a waiting head. Advancing such a queue changes
nothing, so `handleErrorImpl` only closes the connections. A new record at the tail, or
the head whose read has just completed, moves exactly once.
-/
namespace TensorPipe.Channel.CudaIpc.ChannelImpl
open OpsStateMachine

/-- A send whose reply read is in flight. -/
def SendWaiting (op : SendOperation) : Prop :=
  op.state = .readingReply ∧ op.doneReadingReply = false

/-- A receive whose ack read is in flight. -/
def RecvWaiting (op : RecvOperation) : Prop :=
  op.state = .readingAck ∧ op.doneReadingAck = false

/-- Both queues at rest. -/
structure Quiet (c : ChannelImpl) : Prop where
  send : AtRest SendWaiting c.sendOps
  recv : AtRest RecvWaiting c.recvOps

variable {c : ChannelImpl}

theorem sendWaiting_ne_finished (op : SendOperation) (h : SendWaiting op) :
    OpRecord.state op ≠ OpRecord.finished SendOperation := by
  simp [h.1]

theorem recvWaiting_ne_finished (op : RecvOperation) (h : RecvWaiting op) :
    OpRecord.state op ≠ OpRecord.finished RecvOperation := by
  simp [h.1]

theorem advanceSendOperation_stay (c : ChannelImpl) (op : SendOperation)
    (p : SendOperation.State)
    (h : findOperation (sendQueue.get c) (OpRecord.sequenceNumber op) = some op)
    (hw : SendWaiting op ∨ OpRecord.state op = OpRecord.finished SendOperation) :
    advanceSendOperation c (OpRecord.sequenceNumber op) p = c :=
  advanceSendOperation_idle h (by simpa [SendWaiting] using hw)

theorem advanceRecvOperation_stay (c : ChannelImpl) (op : RecvOperation)
    (p : RecvOperation.State)
    (h : findOperation (recvQueue.get c) (OpRecord.sequenceNumber op) = some op)
    (hw : RecvWaiting op ∨ OpRecord.state op = OpRecord.finished RecvOperation) :
    advanceRecvOperation c (OpRecord.sequenceNumber op) p = c :=
  advanceRecvOperation_idle h (by simpa [RecvWaiting] using hw)

theorem handleErrorImpl_of_quiet (h : Quiet c) :
    handleErrorImpl c =
      { c with
        replyConnection := c.replyConnection.close, ackConnection := c.ackConnection.close
        enrolled := false } := by
  rw [handleErrorImpl, advanceAllOperations_of_atRest sendWaiting_ne_finished
      advanceSendOperation_stay h.send,
    advanceAllOperations_of_atRest recvWaiting_ne_finished advanceRecvOperation_stay h.recv]

/-- With both queues at rest, the first error is kept: `setError` stores it, closes both
connections and unenrolls; any later one changes nothing. -/
theorem setError_of_quiet (h : Quiet c) (error : Error) :
    c.setError error =
      let fresh := c.error.isNone && error.isSome
      { c with
        error := c.error.or error
        replyConnection := { c.replyConnection with closed := c.replyConnection.closed || fresh }
        ackConnection := { c.ackConnection with closed := c.ackConnection.closed || fresh }
        enrolled := c.enrolled && !fresh } := by
  unfold setError
  split_ifs with hk
  · have hf : (c.error.isNone && error.isSome) = false ∧ c.error.or error = c.error := by
      revert hk; cases c.error <;> cases error <;> simp
    simp only [hf, Bool.or_false, Bool.not_false, Bool.and_true]
  · obtain ⟨he, hs⟩ : c.error = none ∧ error.isSome := by
      revert hk; cases c.error <;> cases error <;> simp
    refine (handleErrorImpl_of_quiet (c := { c with error }) ⟨h.send, h.recv⟩).trans ?_
    simp [he, hs, Connection.close]

theorem readingReply_le_last {ops : List SendOperation}
    (hr : ∀ o ∈ ops, SendWaiting o ∨ o.state = .finished) :
    SendOperation.State.readingReply ≤ (ops.getLast?.map (·.state)).getD .finished := by
  cases hl : ops.getLast? with
  | none => decide
  | some o =>
    rcases hr o (List.mem_of_getLast?_eq_some hl) with ⟨hs, -⟩ | hs <;> simp [hs]; decide

theorem readingAck_le_last {ops : List RecvOperation}
    (hr : ∀ o ∈ ops, RecvWaiting o ∨ o.state = .finished) :
    RecvOperation.State.readingAck ≤ (ops.getLast?.map (·.state)).getD .finished := by
  cases hl : ops.getLast? with
  | none => decide
  | some o =>
    rcases hr o (List.mem_of_getLast?_eq_some hl) with ⟨hs, -⟩ | hs <;> simp [hs]; decide

section Tail

variable {ops : List SendOperation} {op : SendOperation} (hq : c.sendOps = ops ++ [op])
  (hn : op.sequenceNumber ∉ seqs ops) (hnext : op.sequenceNumber + 1 ∉ seqs ops)
  (hs : op.state = .uninitialized)
include hq hn hnext hs

theorem advanceOperation_send_start (hr : ∀ o ∈ ops, SendWaiting o ∨ o.state = .finished)
    (hd : op.doneReadingReply = false) (he : c.error = none) :
    advanceOperation sendQueue advanceSendOperation c op.sequenceNumber =
      { c with
        replyConnection := c.replyConnection.read op.sequenceNumber
        sendOps := ops ++ [{ op with state := .readingReply }] } := by
  have hf : findOperation c.sendOps op.sequenceNumber = some op :=
    hq ▸ findOperation_append_singleton hn
  have h₁ : updateOperation c.sendOps op.sequenceNumber (fun op => { op with state := .readingReply })
      = ops ++ [{ op with state := .readingReply }] := by
    rw [hq]; exact updateOperation_append_singleton rfl hn _
  refine (advanceOperation_last (Q := sendQueue) hq hn hnext
    (advanceSendOperation_start hf hs hd he (readingReply_le_last hr)) h₁ rfl).trans ?_
  simp [h₁]

theorem advanceOperation_send_abort (he : c.error.isSome) :
    advanceOperation sendQueue advanceSendOperation c op.sequenceNumber =
      { c with
        log := c.log ++ [.sendCallback op.sequenceNumber c.error c.device.length]
        sendOps := popFinished (ops ++ [{ op with callback := false, state := .finished }]) } := by
  have hf : findOperation c.sendOps op.sequenceNumber = some op :=
    hq ▸ findOperation_append_singleton hn
  have h₁ : updateOperation c.sendOps op.sequenceNumber
      (fun op => { op with callback := false, state := .finished })
      = ops ++ [{ op with callback := false, state := .finished }] := by
    rw [hq]; exact updateOperation_append_singleton rfl hn _
  refine (advanceOperation_last (Q := sendQueue) hq hn hnext
    (advanceSendOperation_abort hf hs he) h₁ rfl).trans ?_
  simp

end Tail

section RecvTail

variable {ops : List RecvOperation} {op : RecvOperation} (hq : c.recvOps = ops ++ [op])
  (hn : op.sequenceNumber ∉ seqs ops) (hnext : op.sequenceNumber + 1 ∉ seqs ops)
  (hs : op.state = .uninitialized)
include hq hn hnext hs

theorem advanceOperation_recv_start (hr : ∀ o ∈ ops, RecvWaiting o ∨ o.state = .finished)
    (hd : op.doneReadingAck = false) (he : c.error = none) :
    advanceOperation recvQueue advanceRecvOperation c op.sequenceNumber =
      let opened := c.context.openIpcHandle op.allocationId op.bufferHandle
      let s := c.stream op.stream
      { c with
        context := opened.1
        device := c.device ++
          [.wait op.startEvHandle s,
            .memcpyAsync op.ptr (opened.2 + op.offset) op.length s, .record op.stopEv s]
        log := c.log ++ [.recvCallback op.sequenceNumber none (c.device.length + 3)]
        replyConnection := c.replyConnection.write op.sequenceNumber
          (saveReply ⟨c.context.cudaLib.ipcGetEventHandle op.stopEv⟩)
        ackConnection := c.ackConnection.read op.sequenceNumber
        recvOps := ops ++ [{ op with callback := false, state := .readingAck }] } := by
  have hf : findOperation c.recvOps op.sequenceNumber = some op :=
    hq ▸ findOperation_append_singleton hn
  have h₁ : updateOperation c.recvOps op.sequenceNumber
      (fun op => { op with callback := false, state := .readingAck })
      = ops ++ [{ op with callback := false, state := .readingAck }] := by
    rw [hq]; exact updateOperation_append_singleton rfl hn _
  refine (advanceOperation_last (Q := recvQueue) hq hn hnext
    (advanceRecvOperation_start hf hs hd he (readingAck_le_last hr)) h₁ rfl).trans ?_
  simp [h₁]

theorem advanceOperation_recv_abort (he : c.error.isSome) :
    advanceOperation recvQueue advanceRecvOperation c op.sequenceNumber =
      { c with
        log := c.log ++ [.recvCallback op.sequenceNumber c.error c.device.length]
        recvOps := popFinished (ops ++ [{ op with callback := false, state := .finished }]) } := by
  have hf : findOperation c.recvOps op.sequenceNumber = some op :=
    hq ▸ findOperation_append_singleton hn
  have h₁ : updateOperation c.recvOps op.sequenceNumber
      (fun op => { op with callback := false, state := .finished })
      = ops ++ [{ op with callback := false, state := .finished }] := by
    rw [hq]; exact updateOperation_append_singleton rfl hn _
  refine (advanceOperation_last (Q := recvQueue) hq hn hnext
    (advanceRecvOperation_abort hf hs he) h₁ rfl).trans ?_
  simp

end RecvTail

section Head

variable {ops : List SendOperation} {op : SendOperation} (hq : c.sendOps = op :: ops)
  (hn : op.sequenceNumber ∉ seqs ops) (hs : op.state = .readingReply)
  (hd : op.doneReadingReply = true) (hr : ∀ o ∈ ops, SendWaiting o ∨ o.state = .finished)
include hq hn hs hd hr

theorem advanceOperation_send_finish (he : c.error = none) :
    advanceOperation sendQueue advanceSendOperation c op.sequenceNumber =
      { c with
        device := c.device ++
          [.wait op.stopEvHandle (c.stream op.stream)]
        log := c.log ++ [.sendCallback op.sequenceNumber none (c.device.length + 1)]
        ackConnection := c.ackConnection.write op.sequenceNumber (saveAck ⟨⟩)
        sendOps := popFinished ops } := by
  have hf : findOperation c.sendOps op.sequenceNumber = some op := by
    rw [hq]; exact findOperation_cons_self op ops
  have h₁ : updateOperation c.sendOps op.sequenceNumber
      (fun op => { op with callback := false, state := .finished })
      = { op with callback := false, state := .finished } :: ops := by
    rw [hq]; exact updateOperation_cons_self hn _
  exact advanceOperation_head sendWaiting_ne_finished advanceSendOperation_stay (Q := sendQueue)
    hq (by simp [hs]) (advanceSendOperation_finish hf hs hd he rfl) h₁ rfl rfl hr

theorem advanceOperation_send_fail (he : c.error.isSome) :
    advanceOperation sendQueue advanceSendOperation c op.sequenceNumber =
      { c with
        log := c.log ++ [.sendCallback op.sequenceNumber c.error c.device.length]
        sendOps := popFinished ops } := by
  have hf : findOperation c.sendOps op.sequenceNumber = some op := by
    rw [hq]; exact findOperation_cons_self op ops
  have h₁ : updateOperation c.sendOps op.sequenceNumber
      (fun op => { op with callback := false, state := .finished })
      = { op with callback := false, state := .finished } :: ops := by
    rw [hq]; exact updateOperation_cons_self hn _
  exact advanceOperation_head sendWaiting_ne_finished advanceSendOperation_stay (Q := sendQueue)
    hq (by simp [hs]) (advanceSendOperation_fail hf hs hd he) h₁ rfl rfl hr

end Head

theorem advanceOperation_recv_finish {ops : List RecvOperation} {op : RecvOperation}
    (hq : c.recvOps = op :: ops) (hn : op.sequenceNumber ∉ seqs ops)
    (hs : op.state = .readingAck) (hd : op.doneReadingAck = true)
    (hr : ∀ o ∈ ops, RecvWaiting o ∨ o.state = .finished) :
    advanceOperation recvQueue advanceRecvOperation c op.sequenceNumber =
      { c with recvOps := popFinished ops } := by
  have hf : findOperation c.recvOps op.sequenceNumber = some op := by
    rw [hq]; exact findOperation_cons_self op ops
  have h₁ : updateOperation c.recvOps op.sequenceNumber (fun op => { op with state := .finished })
      = { op with state := .finished } :: ops := by
    rw [hq]; exact updateOperation_cons_self hn _
  refine (advanceOperation_head recvWaiting_ne_finished advanceRecvOperation_stay
    (Q := recvQueue) hq (by simp [hs]) (advanceRecvOperation_finish hf hs hd) h₁ rfl rfl hr).trans ?_
  rfl

end TensorPipe.Channel.CudaIpc.ChannelImpl

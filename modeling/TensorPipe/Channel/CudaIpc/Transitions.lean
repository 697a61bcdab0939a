import TensorPipe.Channel.CudaIpc.ChannelImpl

/-! # The rows of the transition tables

One lemma per row of `advanceSendOperation` and `advanceRecvOperation`: when a record is
in the row's source state and the row's guard holds, the table runs exactly that row's
actions. The last lemma of each table says a record waiting for its read does not move.
Everything later cites these lemmas and never unfolds a table.
-/
namespace TensorPipe.Channel.CudaIpc.ChannelImpl
open OpsStateMachine

@[simp] theorem sendQueue_get (c : ChannelImpl) : sendQueue.get c = c.sendOps := rfl
@[simp] theorem sendQueue_set (c : ChannelImpl) (ops : List SendOperation) :
    sendQueue.set c ops = { c with sendOps := ops } := rfl
@[simp] theorem recvQueue_get (c : ChannelImpl) : recvQueue.get c = c.recvOps := rfl
@[simp] theorem recvQueue_set (c : ChannelImpl) (ops : List RecvOperation) :
    recvQueue.set c ops = { c with recvOps := ops } := rfl

@[simp] theorem send_sequenceNumber (op : SendOperation) :
    OpRecord.sequenceNumber op = op.sequenceNumber := rfl
@[simp] theorem send_state (op : SendOperation) : OpRecord.state op = op.state := rfl
@[simp] theorem send_setState (op : SendOperation) (s : SendOperation.State) :
    OpRecord.setState op s = { op with state := s } := rfl
@[simp] theorem send_finished : OpRecord.finished SendOperation = .finished := rfl
@[simp] theorem recv_sequenceNumber (op : RecvOperation) :
    OpRecord.sequenceNumber op = op.sequenceNumber := rfl
@[simp] theorem recv_state (op : RecvOperation) : OpRecord.state op = op.state := rfl
@[simp] theorem recv_setState (op : RecvOperation) (s : RecvOperation.State) :
    OpRecord.setState op s = { op with state := s } := rfl
@[simp] theorem recv_finished : OpRecord.finished RecvOperation = .finished := rfl

@[simp] theorem send_le_finished (s : SendOperation.State) : s ≤ .finished := by
  cases s <;> decide
@[simp] theorem recv_le_finished (s : RecvOperation.State) : s ≤ .finished := by
  cases s <;> decide

variable {c : ChannelImpl} {n : Nat} {prev : SendOperation.State}

section Send

variable {op : SendOperation} (h : findOperation c.sendOps n = some op)
include h

theorem advanceSendOperation_idle
    (hs : op.state = .readingReply ∧ op.doneReadingReply = false ∨ op.state = .finished) :
    advanceSendOperation c n prev = c := by
  rcases hs with ⟨hs, hd⟩ | hs
  · simp [advanceSendOperation, attemptTransition, h, hs, doneReadingReply, hd]
  · simp [advanceSendOperation, attemptTransition, h, hs]

theorem advanceSendOperation_start (hs : op.state = .uninitialized)
    (hd : op.doneReadingReply = false) (he : c.error = none) (hp : .readingReply ≤ prev) :
    advanceSendOperation c n prev =
      { c with
        replyConnection := c.replyConnection.read n
        sendOps := updateOperation c.sendOps n fun op => { op with state := .readingReply } } := by
  simp [advanceSendOperation, attemptTransition, h, hs, hd, he, hp, readReply, doneReadingReply,
    findOperation_updateOperation]

theorem advanceSendOperation_abort (hs : op.state = .uninitialized) (he : c.error.isSome) :
    advanceSendOperation c n prev =
      { c with
        log := c.log ++ [.sendCallback n c.error c.device.length]
        sendOps := updateOperation c.sendOps n fun op =>
          { op with callback := false, state := .finished } } := by
  simp [advanceSendOperation, attemptTransition, h, hs, he, callSendCallback,
    findOperation_updateOperation, updateOperation_updateOperation, Function.comp_def]

theorem advanceSendOperation_fail (hs : op.state = .readingReply)
    (hd : op.doneReadingReply = true) (he : c.error.isSome) :
    advanceSendOperation c n prev =
      { c with
        log := c.log ++ [.sendCallback n c.error c.device.length]
        sendOps := updateOperation c.sendOps n fun op =>
          { op with callback := false, state := .finished } } := by
  simp [advanceSendOperation, attemptTransition, h, hs, hd, he, callSendCallback,
    doneReadingReply, findOperation_updateOperation, updateOperation_updateOperation,
    Function.comp_def]

theorem advanceSendOperation_finish (hs : op.state = .readingReply)
    (hd : op.doneReadingReply = true) (he : c.error = none) (hp : prev = .finished) :
    advanceSendOperation c n prev =
      { c with
        device := c.device ++
          [.wait op.stopEvHandle (c.stream op.stream)]
        log := c.log ++ [.sendCallback n none (c.device.length + 1)]
        ackConnection := c.ackConnection.write n (saveAck ⟨⟩)
        sendOps := updateOperation c.sendOps n fun op =>
          { op with callback := false, state := .finished } } := by
  subst hp
  simp [advanceSendOperation, attemptTransition, h, hs, hd, he, callSendCallback,
    waitOnStopEvent, writeAck, doneReadingReply, stream, findOperation_updateOperation,
    updateOperation_updateOperation, Function.comp_def]

end Send

section Recv

variable {op : RecvOperation} {prev : RecvOperation.State}
  (h : findOperation c.recvOps n = some op)
include h

theorem advanceRecvOperation_idle
    (hs : op.state = .readingAck ∧ op.doneReadingAck = false ∨ op.state = .finished) :
    advanceRecvOperation c n prev = c := by
  rcases hs with ⟨hs, hd⟩ | hs
  · simp [advanceRecvOperation, attemptTransition, h, hs, doneReadingAck, hd]
  · simp [advanceRecvOperation, attemptTransition, h, hs]

theorem advanceRecvOperation_start (hs : op.state = .uninitialized)
    (hd : op.doneReadingAck = false) (he : c.error = none) (hp : .readingAck ≤ prev) :
    advanceRecvOperation c n prev =
      let opened := c.context.openIpcHandle op.allocationId op.bufferHandle
      let s := c.stream op.stream
      { c with
        context := opened.1
        device := c.device ++
          [.wait op.startEvHandle s,
            .memcpyAsync op.ptr (opened.2 + op.offset) op.length s, .record op.stopEv s]
        log := c.log ++ [.recvCallback n none (c.device.length + 3)]
        replyConnection := c.replyConnection.write n
          (saveReply ⟨c.context.cudaLib.ipcGetEventHandle op.stopEv⟩)
        ackConnection := c.ackConnection.read n
        recvOps := updateOperation c.recvOps n fun op =>
          { op with callback := false, state := .readingAck } } := by
  simp [advanceRecvOperation, attemptTransition, h, hs, hd, he, hp,
    waitOnStartEventAndCopyAndRecordStopEvent, callRecvCallback, writeReplyAndReadAck,
    doneReadingAck, stream, findOperation_updateOperation, updateOperation_updateOperation,
    Function.comp_def]

theorem advanceRecvOperation_abort (hs : op.state = .uninitialized) (he : c.error.isSome) :
    advanceRecvOperation c n prev =
      { c with
        log := c.log ++ [.recvCallback n c.error c.device.length]
        recvOps := updateOperation c.recvOps n fun op =>
          { op with callback := false, state := .finished } } := by
  simp [advanceRecvOperation, attemptTransition, h, hs, he, callRecvCallback, doneReadingAck,
    findOperation_updateOperation, updateOperation_updateOperation, Function.comp_def]

theorem advanceRecvOperation_finish (hs : op.state = .readingAck)
    (hd : op.doneReadingAck = true) :
    advanceRecvOperation c n prev =
      { c with recvOps := updateOperation c.recvOps n fun op => { op with state := .finished } } := by
  simp [advanceRecvOperation, attemptTransition, h, hs, hd, doneReadingAck]

end Recv

end TensorPipe.Channel.CudaIpc.ChannelImpl

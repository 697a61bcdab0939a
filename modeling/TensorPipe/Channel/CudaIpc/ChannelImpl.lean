import TensorPipe.Common.StateMachine
import TensorPipe.Common.Cuda
import TensorPipe.Channel.CudaIpc.Messages

/-! # The CUDA IPC channel

`channel_impl.cc`, one function per C++ function, over an explicit channel state. The
sticky error slot, the sequence counters and the entry points `sendFromLoop`,
`recvFromLoop`, `setError` and `closeFromLoop` belong to `ChannelImplBoilerplate`, which is
not in the source tree; they are modelled from §4.3, §5 and §7 of the design. So is the
IPC handle cache of `ContextImpl`. Completions of control-connection reads run as loop
tasks through `callbackWrapper_`, which sets the error first and then runs the body.
-/
namespace TensorPipe.Channel.CudaIpc
open OpsStateMachine

structure CudaBuffer where
  ptr : UInt64
  length : UInt64
  stream : Nat
  deriving DecidableEq, Repr

inductive SendOperation.State
  | uninitialized
  | readingReply
  | finished
  deriving DecidableEq, Repr

inductive RecvOperation.State
  | uninitialized
  | readingAck
  | finished
  deriving DecidableEq, Repr

/-- The enum's underlying value, for the `>=` comparisons of the transition tables. -/
def SendOperation.State.toNat : SendOperation.State → Nat
  | .uninitialized => 0 | .readingReply => 1 | .finished => 2

/-- The enum's underlying value, for the `>=` comparisons of the transition tables. -/
def RecvOperation.State.toNat : RecvOperation.State → Nat
  | .uninitialized => 0 | .readingAck => 1 | .finished => 2

instance : LE SendOperation.State := ⟨fun a b => a.toNat ≤ b.toNat⟩
instance : LE RecvOperation.State := ⟨fun a b => a.toNat ≤ b.toNat⟩
instance (a b : SendOperation.State) : Decidable (a ≤ b) := inferInstanceAs (Decidable (_ ≤ _))
instance (a b : RecvOperation.State) : Decidable (a ≤ b) := inferInstanceAs (Decidable (_ ≤ _))

/-- `SendOperation`; `callback` says whether the record still holds the user's callback. -/
structure SendOperation where
  sequenceNumber : Nat
  state : SendOperation.State
  doneReadingReply : Bool
  ptr : UInt64
  deviceIdx : Nat
  stream : Nat
  callback : Bool
  startEv : CudaEvent
  stopEvHandle : Bytes
  deriving DecidableEq, Repr

/-- `RecvOperation`; `callback` says whether the record still holds the user's callback. -/
structure RecvOperation where
  sequenceNumber : Nat
  state : RecvOperation.State
  doneReadingAck : Bool
  ptr : UInt64
  length : UInt64
  deviceIdx : Nat
  stream : Nat
  callback : Bool
  allocationId : Bytes
  bufferHandle : Bytes
  offset : UInt64
  startEvHandle : Bytes
  stopEv : CudaEvent
  deriving DecidableEq, Repr

instance : OpRecord SendOperation SendOperation.State where
  sequenceNumber := SendOperation.sequenceNumber
  state := SendOperation.state
  setState op s := { op with state := s }
  finished := .finished
  sequenceNumber_setState _ _ := rfl
  state_setState _ _ := rfl

instance : OpRecord RecvOperation RecvOperation.State where
  sequenceNumber := RecvOperation.sequenceNumber
  state := RecvOperation.state
  setState op s := { op with state := s }
  finished := .finished
  sequenceNumber_setState _ _ := rfl
  state_setState _ _ := rfl

/-- The fields `recvImplFromLoop` copies out of the loaded descriptor. -/
def RecvOperation.withDescriptor (op : RecvOperation) (d : Descriptor) : RecvOperation :=
  { op with
    allocationId := d.allocationId, startEvHandle := d.startEvHandle, bufferHandle := d.handle
    offset := d.offset }

/-- The parts of `ContextImpl` a channel uses. The IPC handle cache is modelled from the
spec: `openIpcHandle` opens a peer allocation once per allocation identifier. -/
structure ContextImpl where
  cudaLib : CudaDriver
  processIdentifier : Bytes
  ipcHandles : List (Bytes × UInt64)

/-- Modelled from the spec: `ContextImpl::openIpcHandle` is not in the source tree. It
reuses the mapping cached under `allocationId`, or opens the handle and caches it. -/
def ContextImpl.openIpcHandle (ctx : ContextImpl) (allocationId handle : Bytes) :
    ContextImpl × UInt64 :=
  match ctx.ipcHandles.lookup allocationId with
  | some base => (ctx, base)
  | none =>
    let base := ctx.cudaLib.ipcOpenMemHandle handle
    ({ ctx with ipcHandles := (allocationId, base) :: ctx.ipcHandles }, base)

@[simp] theorem ContextImpl.openIpcHandle_cudaLib (ctx : ContextImpl) (allocationId handle : Bytes) :
    (ctx.openIpcHandle allocationId handle).1.cudaLib = ctx.cudaLib := by
  unfold ContextImpl.openIpcHandle; split <;> rfl

@[simp] theorem ContextImpl.openIpcHandle_processIdentifier (ctx : ContextImpl)
    (allocationId handle : Bytes) :
    (ctx.openIpcHandle allocationId handle).1.processIdentifier = ctx.processIdentifier := by
  unfold ContextImpl.openIpcHandle; split <;> rfl

/-- The channel's end of one control connection: the reads it issued, each with the
iterator its callback captured, how many of their completions have run, and the messages
it wrote, each with the sequence number its callback captured. -/
structure Connection where
  reads : List Nat
  readsDone : Nat
  writes : List (Nat × Bytes)
  closed : Bool
  deriving DecidableEq, Repr

namespace Connection

/-- `read`: queue a read whose callback captured `opIter`. -/
def read (conn : Connection) (opIter : Nat) : Connection :=
  { conn with reads := conn.reads ++ [opIter] }

/-- `write`: queue a message whose callback captured `sequenceNumber`. -/
def write (conn : Connection) (sequenceNumber : Nat) (msg : Bytes) : Connection :=
  { conn with writes := conn.writes ++ [(sequenceNumber, msg)] }

/-- The reads whose completions have not run yet, oldest first. -/
def pending (conn : Connection) : List Nat :=
  conn.reads.drop conn.readsDone

/-- The oldest pending read's completion has run. -/
def completeRead (conn : Connection) : Connection :=
  { conn with readsDone := conn.readsDone + 1 }

def close (conn : Connection) : Connection :=
  { conn with closed := true }

/-- A connection nothing has gone through. -/
def empty : Connection := ⟨[], 0, [], false⟩

variable (conn : Connection) (n : Nat) (msg : Bytes)

@[simp] theorem read_reads : (conn.read n).reads = conn.reads ++ [n] := rfl
@[simp] theorem read_readsDone : (conn.read n).readsDone = conn.readsDone := rfl
@[simp] theorem read_writes : (conn.read n).writes = conn.writes := rfl
@[simp] theorem write_reads : (conn.write n msg).reads = conn.reads := rfl
@[simp] theorem write_readsDone : (conn.write n msg).readsDone = conn.readsDone := rfl
@[simp] theorem write_writes : (conn.write n msg).writes = conn.writes ++ [(n, msg)] := rfl
@[simp] theorem completeRead_reads : conn.completeRead.reads = conn.reads := rfl
@[simp] theorem completeRead_readsDone : conn.completeRead.readsDone = conn.readsDone + 1 := rfl
@[simp] theorem completeRead_writes : conn.completeRead.writes = conn.writes := rfl

end Connection

/-- What the user sees: the callbacks invoked, in order. A send or recv callback also
records how much device work had been queued when it ran. -/
inductive Effect
  | descriptorCallback (sequenceNumber : Nat) (error : Error) (descriptor : Option Bytes)
  | sendCallback (sequenceNumber : Nat) (error : Error) (deviceMark : Nat)
  | recvCallback (sequenceNumber : Nat) (error : Error) (deviceMark : Nat)
  deriving DecidableEq, Repr

/-- `ChannelImpl`, with the device work queued so far. -/
structure ChannelImpl where
  id : Bytes
  context : ContextImpl
  error : Error
  sendOps : List SendOperation
  recvOps : List RecvOperation
  nextTensorBeingSent : Nat
  nextTensorBeingReceived : Nat
  replyConnection : Connection
  ackConnection : Connection
  enrolled : Bool
  log : List Effect
  device : List DeviceOp

namespace ChannelImpl

/-- `sendOps_`. -/
def sendQueue : OpsQueue ChannelImpl SendOperation :=
  ⟨sendOps, fun c ops => { c with sendOps := ops }, fun _ _ => rfl, fun _ => rfl⟩

/-- `recvOps_`. -/
def recvQueue : OpsQueue ChannelImpl RecvOperation :=
  ⟨recvOps, fun c ops => { c with recvOps := ops }, fun _ _ => rfl, fun _ => rfl⟩

/-- A stream of this channel's process. -/
def stream (c : ChannelImpl) (s : Nat) : Stream :=
  ⟨c.context.processIdentifier, s⟩

/-- `opIter->doneReadingReply`. -/
def doneReadingReply (c : ChannelImpl) (opIter : Nat) : Bool :=
  ((findOperation c.sendOps opIter).map (·.doneReadingReply)).getD false

/-- `opIter->doneReadingAck`. -/
def doneReadingAck (c : ChannelImpl) (opIter : Nat) : Bool :=
  ((findOperation c.recvOps opIter).map (·.doneReadingAck)).getD false

def makeDescriptor (ctx : ContextImpl) (op : SendOperation) : Descriptor :=
  let handle := ctx.cudaLib.ipcGetMemHandle op.ptr
  let basePtr := ctx.cudaLib.memGetAddressRange op.ptr
  let offset := op.ptr - basePtr
  let bufferId := ctx.cudaLib.bufferId basePtr
  { allocationId := ctx.processIdentifier ++ underscore ++ decimalString bufferId.toNat
    handle := handle
    offset := offset
    startEvHandle := ctx.cudaLib.ipcGetEventHandle op.startEv }

def callSendCallback (c : ChannelImpl) (opIter : Nat) : ChannelImpl :=
  { c with
    log := c.log ++ [.sendCallback opIter c.error c.device.length]
    sendOps := updateOperation c.sendOps opIter fun op => { op with callback := false } }

/-- `readReply`: the body of its callback is `onReadReply`. -/
def readReply (c : ChannelImpl) (opIter : Nat) : ChannelImpl :=
  { c with replyConnection := c.replyConnection.read opIter }

def waitOnStopEvent (c : ChannelImpl) (opIter : Nat) : ChannelImpl :=
  match findOperation c.sendOps opIter with
  | some op => { c with device := c.device ++ [.wait op.stopEvHandle (c.stream op.stream)] }
  | none => c

def writeAck (c : ChannelImpl) (opIter : Nat) : ChannelImpl :=
  { c with ackConnection := c.ackConnection.write opIter (saveAck ⟨⟩) }

/-- `advanceSendOperation`: the send transition table. -/
def advanceSendOperation (c : ChannelImpl) (opIter : Nat)
    (prevOpState : SendOperation.State) : ChannelImpl :=
  let c := attemptTransition sendQueue c opIter .uninitialized .finished c.error.isSome
    [callSendCallback]
  let c := attemptTransition sendQueue c opIter .uninitialized .readingReply
    (c.error.isNone && decide (.readingReply ≤ prevOpState)) [readReply]
  let c := attemptTransition sendQueue c opIter .readingReply .finished
    (c.error.isSome && c.doneReadingReply opIter) [callSendCallback]
  attemptTransition sendQueue c opIter .readingReply .finished
    (c.error.isNone && c.doneReadingReply opIter && decide (.finished ≤ prevOpState))
    [waitOnStopEvent, callSendCallback, writeAck]

/-- The record `sendImplFromLoop` queues, as `SendOperation`'s constructor builds it. -/
def newSendOperation (c : ChannelImpl) (sequenceNumber : Nat) (buffer : CudaBuffer) :
    SendOperation :=
  { sequenceNumber, state := .uninitialized, doneReadingReply := false, ptr := buffer.ptr
    deviceIdx := c.context.cudaLib.deviceForPointer buffer.ptr, stream := buffer.stream
    callback := true, startEv := ⟨c.id, .startEv, sequenceNumber⟩, stopEvHandle := [] }

/-- `sendImplFromLoop`. The constructor records the start event on the stream. The
descriptor is built from the record the iterator designates after `advanceOperation`;
`none` stands for a record that was already removed. -/
def sendImplFromLoop (c : ChannelImpl) (sequenceNumber : Nat) (buffer : CudaBuffer) :
    ChannelImpl :=
  let op := c.newSendOperation sequenceNumber buffer
  let c := { c with device := c.device ++ [.record op.startEv (c.stream buffer.stream)] }
  let c := advanceOperation sendQueue advanceSendOperation (emplaceBack sendQueue c op)
    sequenceNumber
  let descriptor := (findOperation c.sendOps sequenceNumber).map fun op =>
    saveDescriptor (makeDescriptor c.context op)
  { c with log := c.log ++ [.descriptorCallback sequenceNumber none descriptor] }

def waitOnStartEventAndCopyAndRecordStopEvent (c : ChannelImpl) (opIter : Nat) :
    ChannelImpl :=
  match findOperation c.recvOps opIter with
  | some op =>
    let (context, remoteBasePtr) := c.context.openIpcHandle op.allocationId op.bufferHandle
    let s := c.stream op.stream
    { c with
      context
      device := c.device ++
        [.wait op.startEvHandle s, .memcpyAsync op.ptr (remoteBasePtr + op.offset) op.length s,
          .record op.stopEv s] }
  | none => c

def callRecvCallback (c : ChannelImpl) (opIter : Nat) : ChannelImpl :=
  { c with
    log := c.log ++ [.recvCallback opIter c.error c.device.length]
    recvOps := updateOperation c.recvOps opIter fun op => { op with callback := false } }

/-- `writeReplyAndReadAck`: the body of the ack read's callback is `onReadAck`. -/
def writeReplyAndReadAck (c : ChannelImpl) (opIter : Nat) : ChannelImpl :=
  match findOperation c.recvOps opIter with
  | some op =>
    let reply : Reply := ⟨c.context.cudaLib.ipcGetEventHandle op.stopEv⟩
    { c with
      replyConnection := c.replyConnection.write opIter (saveReply reply)
      ackConnection := c.ackConnection.read opIter }
  | none => c

/-- `advanceRecvOperation`: the receive transition table. -/
def advanceRecvOperation (c : ChannelImpl) (opIter : Nat)
    (prevOpState : RecvOperation.State) : ChannelImpl :=
  let c := attemptTransition recvQueue c opIter .uninitialized .finished c.error.isSome
    [callRecvCallback]
  let c := attemptTransition recvQueue c opIter .uninitialized .readingAck
    (c.error.isNone && decide (.readingAck ≤ prevOpState))
    [waitOnStartEventAndCopyAndRecordStopEvent, callRecvCallback, writeReplyAndReadAck]
  attemptTransition recvQueue c opIter .readingAck .finished (c.doneReadingAck opIter) []

/-- The record `recvImplFromLoop` queues, as `RecvOperation`'s constructor builds it. -/
def newRecvOperation (c : ChannelImpl) (sequenceNumber : Nat) (buffer : CudaBuffer) :
    RecvOperation :=
  { sequenceNumber, state := .uninitialized, doneReadingAck := false, ptr := buffer.ptr
    length := buffer.length, deviceIdx := c.context.cudaLib.deviceForPointer buffer.ptr
    stream := buffer.stream, callback := true, allocationId := [], bufferHandle := []
    offset := 0, startEvHandle := [], stopEv := ⟨c.id, .stopEv, sequenceNumber⟩ }

/-- `recvImplFromLoop`; `none` where `loadDescriptor` throws. A throw ends the run here,
so the model leaves out the states where the loop catches the exception with the
`UNINITIALIZED` record already queued. -/
def recvImplFromLoop (c : ChannelImpl) (sequenceNumber : Nat) (descriptor : Bytes)
    (buffer : CudaBuffer) : Option ChannelImpl :=
  let c := emplaceBack recvQueue c (c.newRecvOperation sequenceNumber buffer)
  (loadDescriptor descriptor).map fun d =>
    let c := { c with recvOps := updateOperation c.recvOps sequenceNumber (·.withDescriptor d) }
    advanceOperation recvQueue advanceRecvOperation c sequenceNumber

def handleErrorImpl (c : ChannelImpl) : ChannelImpl :=
  let c := advanceAllOperations sendQueue advanceSendOperation c
  let c := advanceAllOperations recvQueue advanceRecvOperation c
  { c with
    replyConnection := c.replyConnection.close, ackConnection := c.ackConnection.close
    enrolled := false }

/-- Modelled from the spec: `ChannelImplBoilerplate::setError` is not in the source tree.
As spec section 7 says, the first error wins and triggers `handleError`. -/
def setError (c : ChannelImpl) (error : Error) : ChannelImpl :=
  if c.error.isSome || error.isNone then c else handleErrorImpl { c with error }

@[simp] theorem setError_none (c : ChannelImpl) : c.setError none = c := by
  simp [setError]

/-- Modelled from the spec: `ChannelImplBoilerplate::closeFromLoop` is not in the source
tree. It stores `ChannelClosed` through `setError`, so a second `close` does nothing. -/
def closeFromLoop (c : ChannelImpl) : ChannelImpl :=
  c.setError (some .channelClosed)

/-- Modelled from the spec: `ChannelImplBoilerplate::sendFromLoop` is not in the source
tree. It numbers the request with the next sequence number and hands it to
`sendImplFromLoop`. -/
def sendFromLoop (c : ChannelImpl) (buffer : CudaBuffer) : ChannelImpl :=
  sendImplFromLoop { c with nextTensorBeingSent := c.nextTensorBeingSent + 1 }
    c.nextTensorBeingSent buffer

/-- Modelled from the spec: `ChannelImplBoilerplate::recvFromLoop` is not in the source
tree. It numbers the request with the next sequence number and hands it to
`recvImplFromLoop`. -/
def recvFromLoop (c : ChannelImpl) (descriptor : Bytes) (buffer : CudaBuffer) :
    Option ChannelImpl :=
  recvImplFromLoop { c with nextTensorBeingReceived := c.nextTensorBeingReceived + 1 }
    c.nextTensorBeingReceived descriptor buffer

/-- The body of the reply read's callback. -/
def onReadReply (c : ChannelImpl) (opIter : Nat) (reply : Reply) : ChannelImpl :=
  let c := { c with
    sendOps := updateOperation c.sendOps opIter fun op => { op with doneReadingReply := true } }
  let c := if c.error.isNone then
      { c with
        sendOps := updateOperation c.sendOps opIter fun op =>
          { op with stopEvHandle := reply.stopEvHandle } }
    else c
  advanceOperation sendQueue advanceSendOperation c opIter

/-- The body of the ack read's callback. -/
def onReadAck (c : ChannelImpl) (opIter : Nat) : ChannelImpl :=
  let c := { c with
    recvOps := updateOperation c.recvOps opIter fun op => { op with doneReadingAck := true } }
  advanceOperation recvQueue advanceRecvOperation c opIter

/-- Modelled from the spec: `ChannelImplBoilerplate::callbackWrapper_` is not in the source
tree. The reply connection completes its oldest pending read with `error` (on success the
holder has `reply`); as spec section 7 says, the wrapper runs `setError` and then the body. -/
def replyReadCompletion (c : ChannelImpl) (error : Error) (reply : Reply) : ChannelImpl :=
  match c.replyConnection.pending with
  | [] => c
  | opIter :: _ =>
    onReadReply ({ c with replyConnection := c.replyConnection.completeRead }.setError error)
      opIter reply

/-- Modelled from the spec: as for the reply read, `callbackWrapper_` completes the ack
connection's oldest pending read with `error`, runs `setError` and then the body. -/
def ackReadCompletion (c : ChannelImpl) (error : Error) : ChannelImpl :=
  match c.ackConnection.pending with
  | [] => c
  | opIter :: _ =>
    onReadAck ({ c with ackConnection := c.ackConnection.completeRead }.setError error) opIter

/-- A channel right after `initImplFromLoop` enrolled it with its context. -/
def init (id : Bytes) (context : ContextImpl) : ChannelImpl :=
  ⟨id, context, none, [], [], 0, 0, .empty, .empty, true, [], []⟩

end ChannelImpl

end TensorPipe.Channel.CudaIpc

import TensorPipe.Common.Nop

/-! # The CUDA surface the channel touches

Streams, events and the work queued on the GPU, and the driver calls behind IPC handles.
The driver is external: `CudaDriver` takes its answers as functions, together with the
facts the channel relies on. A peer that opens an event handle waits on the event the
handle was taken from, so a wait is recorded with the handle it opened. An opened memory
handle maps the allocation it was taken from.
-/
namespace TensorPipe

/-- A `cudaStream_t`, qualified by the process that owns it. -/
structure Stream where
  process : Bytes
  handle : Nat
  deriving DecidableEq, Repr

/-- Which operation record owns an interprocess event. -/
inductive EventRole
  | startEv
  | stopEv
  deriving DecidableEq, Repr

/-- A `CudaEvent` created with `interprocess = true`, named by the channel and the
operation that created it. -/
structure CudaEvent where
  channel : Bytes
  role : EventRole
  sequenceNumber : Nat
  deriving DecidableEq, Repr

/-- Work queued on a stream, in the order the host enqueued it. A wait names the event
through the IPC handle it was opened from. A copy's source is the exporting process's
address that the IPC mapping aliases. -/
inductive DeviceOp
  | record (event : CudaEvent) (stream : Stream)
  | wait (handle : Bytes) (stream : Stream)
  | memcpyAsync (dst src count : UInt64) (stream : Stream)
  | work (stream : Stream)
  deriving DecidableEq, Repr

/-- The stream a piece of device work was queued on. -/
def DeviceOp.stream : DeviceOp → Stream
  | .record _ s | .wait _ s | .memcpyAsync _ _ _ s | .work s => s

/-- The driver calls of `makeDescriptor` and of the IPC handle constructors. -/
structure CudaDriver where
  /-- `cudaDeviceForPointer`. -/
  deviceForPointer : UInt64 → Nat
  /-- `cudaIpcGetMemHandle`, as the raw bytes of the handle. -/
  ipcGetMemHandle : UInt64 → Bytes
  /-- The base address `memGetAddressRange` reports for a pointer. -/
  memGetAddressRange : UInt64 → UInt64
  /-- `CU_POINTER_ATTRIBUTE_BUFFER_ID` of an allocation. -/
  bufferId : UInt64 → UInt64
  /-- `cudaIpcOpenMemHandle`: the exporter's base address the mapping aliases. -/
  ipcOpenMemHandle : Bytes → UInt64
  /-- `CudaEvent::serializedHandle`. -/
  ipcGetEventHandle : CudaEvent → Bytes
  ipcOpenMemHandle_ipcGetMemHandle (p : UInt64) :
    ipcOpenMemHandle (ipcGetMemHandle p) = memGetAddressRange p
  /-- `sizeof(cudaIpcMemHandle_t)`. -/
  ipcGetMemHandle_length (p : UInt64) : (ipcGetMemHandle p).length = 64
  /-- `sizeof(cudaIpcEventHandle_t)`. -/
  ipcGetEventHandle_length (e : CudaEvent) : (ipcGetEventHandle e).length = 64
  bufferId_injective (p q : UInt64) :
    bufferId (memGetAddressRange p) = bufferId (memGetAddressRange q) →
      memGetAddressRange p = memGetAddressRange q

attribute [simp] CudaDriver.ipcOpenMemHandle_ipcGetMemHandle CudaDriver.ipcGetMemHandle_length
  CudaDriver.ipcGetEventHandle_length

/-- A driver over a flat address space, to run the model on concrete inputs: every pointer
is the base of its own allocation and its own buffer id, a memory handle is the address as
a 64-byte little-endian word, and an event handle is the event's channel, role and sequence
number, padded with zeros to 64 bytes; events of channels with short identifiers get
distinct handles. -/
def CudaDriver.flat : CudaDriver where
  deviceForPointer _ := 0
  ipcGetMemHandle p := putWord 64 p.toNat
  memGetAddressRange p := p
  bufferId p := p
  ipcOpenMemHandle h := (((getWord 64 h).map Prod.fst).getD 0).toUInt64
  ipcGetEventHandle e := (e.channel ++ [if e.role = EventRole.startEv then 0 else 1] ++
    putWord 8 e.sequenceNumber ++ List.replicate 64 0).take 64
  ipcOpenMemHandle_ipcGetMemHandle p := by
    have h := getWord_putWord 64 p.toNat []
    rw [List.append_nil] at h
    show (((getWord 64 (putWord 64 p.toNat)).map Prod.fst).getD 0).toUInt64 = p
    rw [h, Option.map_some', Option.getD_some,
      Nat.mod_eq_of_lt (lt_trans p.toNat_lt_size (by decide))]
    exact uint64_ofNat_toNat p
  ipcGetMemHandle_length _ := length_putWord _ _
  ipcGetEventHandle_length _ := List.length_take_of_le (by simp)
  bufferId_injective _ _ h := h

end TensorPipe

import TensorPipe.Common.Nop

/-! # Descriptor, Reply and Ack

The three `NOP_STRUCTURE`s of `channel_impl.cc` and their encodings. The descriptor
travels out of band from sender to receiver, a reply goes on the reply connection from
receiver to sender, and an empty ack goes on the ack connection the other way.
-/
namespace TensorPipe.Channel.CudaIpc

/-- `Descriptor`: `NOP_STRUCTURE(Descriptor, allocationId, handle, offset, startEvHandle)`. -/
structure Descriptor where
  allocationId : Bytes
  handle : Bytes
  offset : UInt64
  startEvHandle : Bytes
  deriving DecidableEq, Repr

/-- `Reply`: `NOP_STRUCTURE(Reply, stopEvHandle)`. -/
structure Reply where
  stopEvHandle : Bytes
  deriving DecidableEq, Repr

/-- `Ack`: `NOP_STRUCTURE(Ack)`, no fields. -/
structure Ack where
  deriving DecidableEq, Repr

/-- The strings of a descriptor fit their `size_t` length. -/
def Descriptor.WellFormed (d : Descriptor) : Prop :=
  d.allocationId.length < 2 ^ 64 ∧ d.handle.length < 2 ^ 64 ∧ d.startEvHandle.length < 2 ^ 64

instance (d : Descriptor) : Decidable d.WellFormed :=
  inferInstanceAs (Decidable (_ ∧ _))

def saveDescriptor (d : Descriptor) : Bytes :=
  putString d.allocationId ++ putString d.handle ++ putWord 8 d.offset.toNat ++
    putString d.startEvHandle

/-- `loadDescriptor`, `none` where the C++ throws. -/
def loadDescriptor (bs : Bytes) : Option Descriptor := do
  let (allocationId, bs) ← getString bs
  let (handle, bs) ← getString bs
  let (offset, bs) ← getWord 8 bs
  let (startEvHandle, _) ← getString bs
  pure ⟨allocationId, handle, offset.toUInt64, startEvHandle⟩

/-- The bytes a connection carries for a reply. -/
def saveReply (r : Reply) : Bytes :=
  putString r.stopEvHandle

/-- Reading a reply; a malformed one fails the read. -/
def loadReply (bs : Bytes) : Option Reply :=
  (getString bs).map fun r => ⟨r.1⟩

/-- The bytes a connection carries for an ack. -/
def saveAck (_ : Ack) : Bytes := []

theorem loadDescriptor_saveDescriptor_append (d : Descriptor) (h : d.WellFormed) (rest : Bytes) :
    loadDescriptor (saveDescriptor d ++ rest) = some d := by
  obtain ⟨ha, hh, hs⟩ := h
  have ho : d.offset.toNat % 256 ^ 8 = d.offset.toNat :=
    Nat.mod_eq_of_lt (by simpa using d.offset.toNat_lt_size)
  simp only [loadDescriptor, saveDescriptor, List.append_assoc, getString_putString _ _ ha,
    getString_putString _ _ hh, getWord_putWord, ho, getString_putString _ _ hs, bind,
    Option.bind, pure]
  simp [Nat.toUInt64, uint64_ofNat_toNat]

theorem loadDescriptor_saveDescriptor (d : Descriptor) (h : d.WellFormed) :
    loadDescriptor (saveDescriptor d) = some d := by
  simpa using loadDescriptor_saveDescriptor_append d h []

theorem loadReply_saveReply_append (r : Reply) (h : r.stopEvHandle.length < 2 ^ 64)
    (rest : Bytes) : loadReply (saveReply r ++ rest) = some r := by
  rw [loadReply, saveReply, getString_putString _ _ h]
  rfl

theorem loadReply_saveReply (r : Reply) (h : r.stopEvHandle.length < 2 ^ 64) :
    loadReply (saveReply r) = some r := by
  simpa using loadReply_saveReply_append r h []

theorem loadDescriptor_eq_some {bs : Bytes} {d : Descriptor} (h : loadDescriptor bs = some d) :
    d.WellFormed ∧ ∃ rest, bs = saveDescriptor d ++ rest := by
  obtain ⟨⟨allocationId, bs₁⟩, h₁, h⟩ := Option.bind_eq_some.1 h
  obtain ⟨⟨handle, bs₂⟩, h₂, h⟩ := Option.bind_eq_some.1 h
  obtain ⟨⟨offset, bs₃⟩, h₃, h⟩ := Option.bind_eq_some.1 h
  obtain ⟨⟨startEvHandle, rest⟩, h₄, h⟩ := Option.bind_eq_some.1 h
  cases Option.some.inj h
  obtain ⟨ha, rfl⟩ := getString_eq_some h₁
  obtain ⟨hh, rfl⟩ := getString_eq_some h₂
  obtain ⟨ho, rfl⟩ := getWord_eq_some h₃
  obtain ⟨hs, rfl⟩ := getString_eq_some h₄
  have hoff : offset.toUInt64.toNat = offset := UInt64.toNat_ofNat_of_lt (by simpa using ho)
  refine ⟨⟨ha, hh, hs⟩, rest, ?_⟩
  simp only [saveDescriptor, hoff, List.append_assoc]

theorem loadReply_eq_some {bs : Bytes} {r : Reply} (h : loadReply bs = some r) :
    r.stopEvHandle.length < 2 ^ 64 ∧ ∃ rest, bs = saveReply r ++ rest := by
  obtain ⟨⟨s, rest⟩, hs, rfl⟩ := Option.map_eq_some'.1 h
  obtain ⟨hl, rfl⟩ := getString_eq_some hs
  exact ⟨hl, rest, rfl⟩

/-- The decoders accept exactly the encodings. A byte string decodes to a descriptor exactly
when it begins with the encoding of that descriptor and the descriptor's strings fit their
`size_t` lengths; what follows the encoding is ignored. The same holds of a reply. So every
accepted input is well formed, and no two descriptors, or two replies, share an encoding. -/
theorem decoders_accept_encodings :
    (∀ bs d, loadDescriptor bs = some d ↔ d.WellFormed ∧ ∃ rest, bs = saveDescriptor d ++ rest) ∧
    ∀ bs r, loadReply bs = some r ↔
      r.stopEvHandle.length < 2 ^ 64 ∧ ∃ rest, bs = saveReply r ++ rest := by
  refine ⟨fun bs d => ⟨loadDescriptor_eq_some, ?_⟩, fun bs r => ⟨loadReply_eq_some, ?_⟩⟩
  · rintro ⟨h, rest, rfl⟩
    exact loadDescriptor_saveDescriptor_append d h rest
  · rintro ⟨h, rest, rfl⟩
    exact loadReply_saveReply_append r h rest

end TensorPipe.Channel.CudaIpc

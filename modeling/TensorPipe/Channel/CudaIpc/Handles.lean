import TensorPipe.Channel.CudaIpc.Exchange

/-! # The handles a descriptor and a reply carry

A descriptor names the sender's allocation twice: by its allocation identifier, the key of
the receiver's handle cache, and by the raw bytes of its IPC memory handle. It also carries
the start event's handle, and a reply carries the stop event's. The identifier is the
process identifier, `_` and the buffer id in decimal; since the decimal digits hold no `_`,
it names the process and the buffer whatever the process identifier holds. The handle
bytes are used as they come: neither `recvImplFromLoop` nor the reply read's completion
compares their length with the size of the CUDA type they are reinterpreted as. The design
trusts its peer, and a peer running this code only sends handles of that size.
-/
namespace TensorPipe.Channel.CudaIpc.ChannelImpl
open OpsStateMachine

section AllocationId

/-- The allocation identifier `processIdentifier + "_" + std::to_string(bufferId)` gives
back the process and the buffer, also where the process identifier holds `_` or digits: the
last `_` is the separator. So descriptors of two processes, or of two buffers, never share
a key of the handle cache. -/
theorem allocationId_injective :
    (∀ (p p' : Bytes) (b b' : UInt64),
      p ++ underscore ++ decimalString b.toNat = p' ++ underscore ++ decimalString b'.toNat →
        p = p' ∧ b = b') ∧
    ∀ (ctx ctx' : ContextImpl) (op op' : SendOperation),
      (makeDescriptor ctx op).allocationId = (makeDescriptor ctx' op').allocationId →
        ctx.processIdentifier = ctx'.processIdentifier ∧
          ctx.cudaLib.bufferId (ctx.cudaLib.memGetAddressRange op.ptr) =
            ctx'.cudaLib.bufferId (ctx'.cudaLib.memGetAddressRange op'.ptr) := by
  have key : ∀ (p p' : Bytes) (b b' : UInt64),
      p ++ underscore ++ decimalString b.toNat = p' ++ underscore ++ decimalString b'.toNat →
        p = p' ∧ b = b' := by
    intro p p' b b' h
    simp only [underscore, List.append_assoc, List.singleton_append] at h
    obtain ⟨rfl, hd⟩ := append_cons_inj_of_not_mem_tail
      (underscore_not_mem_decimalString _) (underscore_not_mem_decimalString _) h
    exact ⟨rfl, UInt64.eq_of_val_eq (Fin.ext (decimalString_injective hd))⟩
  exact ⟨key, fun ctx ctx' op op' h => key _ _ _ _ h⟩

/-- The process identifier `"h_1"` and buffer `23`: the key `"h_1_23"` gives both back. -/
theorem allocationId_injective_underscored :
    let p : Bytes := [104, 95, 49]
    p ++ underscore ++ decimalString (23 : UInt64).toNat = [104, 95, 49, 95, 50, 51] ∧
      p = p ∧ (23 : UInt64) = 23 :=
  ⟨by show _ ++ _ ++ decimalString 23 = _; norm_num [underscore, decimalString]; decide,
    allocationId_injective.1 _ _ 23 23 rfl⟩

end AllocationId

section Handles

variable {c : ChannelImpl}

theorem reachable_handles_unchecked (h : Reachable c) (he : c.error = none) :
    (∀ (descriptor : Bytes) (d : Descriptor) (buffer : CudaBuffer),
      loadDescriptor descriptor = some d → ∃ c', c.recvFromLoop descriptor buffer = some c' ∧
        c'.context = (c.context.openIpcHandle d.allocationId d.handle).1 ∧
        c'.device = c.device ++ [.wait d.startEvHandle (c.stream buffer.stream),
          .memcpyAsync buffer.ptr ((c.context.openIpcHandle d.allocationId d.handle).2 +
            d.offset) buffer.length (c.stream buffer.stream),
          .record ⟨c.id, .stopEv, c.nextTensorBeingReceived⟩ (c.stream buffer.stream)] ∧
        c'.log = c.log ++ [.recvCallback c.nextTensorBeingReceived none (c.device.length + 3)]) ∧
    ∀ (k : Nat) (rest : List Nat) (reply : Reply), c.replyConnection.pending = k :: rest →
      ∃ s, (c.replyReadCompletion none reply).device =
          c.device ++ [.wait reply.stopEvHandle s] ∧
        (c.replyReadCompletion none reply).log =
          c.log ++ [.sendCallback k none (c.device.length + 1)] := by
  have hi := h.inv
  refine ⟨fun descriptor d buffer hd => ?_, fun k rest reply hp => ?_⟩
  · obtain ⟨c', hc, hctx, hdev, hlog, -⟩ := hi.recvFromLoop_of_none he hd buffer
    exact ⟨c', hc, hctx, hdev, hlog⟩
  · obtain ⟨op, tail, -, -, heq⟩ := hi.replyReadCompletion_of_ok hp he reply
    rw [heq]
    exact ⟨_, rfl, rfl⟩

end Handles

end TensorPipe.Channel.CudaIpc.ChannelImpl

namespace TensorPipe.Channel.CudaIpc.ChannelPair
open OpsStateMachine ChannelImpl

variable {sys : ChannelPair}

end TensorPipe.Channel.CudaIpc.ChannelPair

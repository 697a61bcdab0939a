import TensorPipe.Channel.CudaIpc.Invariant

/-! # What each loop task enqueues and calls back

For a channel satisfying `Inv`, each loop task described by what the peer and the device
can observe: the device work it enqueues, the callbacks it invokes and, for a receive, the
IPC mapping it opens. A task that fails or meets an error enqueues nothing and calls back
with the error.
-/
namespace TensorPipe.Channel.CudaIpc.ChannelImpl
open OpsStateMachine

variable {c : ChannelImpl}

theorem makeDescriptor_wellFormed (ctx : ContextImpl) (op : SendOperation)
    (h : ctx.processIdentifier.length < 2 ^ 63) : (makeDescriptor ctx op).WellFormed := by
  have hd := length_decimalString_le
    (ctx.cudaLib.bufferId (ctx.cudaLib.memGetAddressRange op.ptr)).toNat_lt_size
  refine ⟨?_, ?_, ?_⟩ <;> simp [makeDescriptor, underscore]
  omega

theorem makeDescriptor_newSendOperation {c c' : ChannelImpl} (hid : c'.id = c.id)
    (hlib : c'.context.cudaLib = c.context.cudaLib)
    (hpid : c'.context.processIdentifier = c.context.processIdentifier) (k : Nat)
    (buffer : CudaBuffer) :
    makeDescriptor c'.context (c'.newSendOperation k buffer) =
      makeDescriptor c.context (c.newSendOperation k buffer) := by
  simp only [makeDescriptor, newSendOperation, hid, hlib, hpid]

/-- A send records its start event. Its callbacks are the descriptor callback, preceded by
the send callback with the error when the error is set; the descriptor, if any, is the one
`makeDescriptor` builds for the new record. -/
theorem Inv.sendFromLoop_eq (hi : Inv c) (buffer : CudaBuffer) :
    (c.sendFromLoop buffer).context = c.context ∧
    (c.sendFromLoop buffer).device =
      c.device ++ [.record ⟨c.id, .startEv, c.nextTensorBeingSent⟩ (c.stream buffer.stream)] ∧
    ∃ d : Option Bytes, (∀ bs ∈ d, bs = saveDescriptor (makeDescriptor c.context
        (c.newSendOperation c.nextTensorBeingSent buffer))) ∧
      (c.sendFromLoop buffer).log = c.log ++ ((if c.error = none then [] else
        [.sendCallback c.nextTensorBeingSent c.error (c.device.length + 1)]) ++
        [.descriptorCallback c.nextTensorBeingSent none d]) ∧
    ∀ op ∈ (c.sendFromLoop buffer).sendOps, op ∈ c.sendOps ∨
      (op.sequenceNumber = c.nextTensorBeingSent ∧ op.stream = buffer.stream) := by
  have hn := hi.send_not_mem (le_refl _)
  have hn' := hi.send_not_mem (Nat.le_succ _)
  have hops : ∀ o : SendOperation, o.sequenceNumber = c.nextTensorBeingSent →
      o.stream = buffer.stream → ∀ op ∈ c.sendOps ++ [o], op ∈ c.sendOps ∨
        (op.sequenceNumber = c.nextTensorBeingSent ∧ op.stream = buffer.stream) :=
    fun o hs ht op hop => (List.mem_append.1 hop).imp_right fun h => by
      rw [List.mem_singleton.1 h]; exact ⟨hs, ht⟩
  by_cases he : c.error = none
  · rw [ChannelImpl.sendFromLoop, sendImplFromLoop_of_none
      (c := { c with nextTensorBeingSent := c.nextTensorBeingSent + 1 }) hi.quiet.send hn hn' he]
    refine ⟨rfl, rfl, some (saveDescriptor (makeDescriptor c.context
      (c.newSendOperation c.nextTensorBeingSent buffer))), fun bs hbs => ?_, ?_,
      hops _ rfl rfl⟩
    · exact (Option.mem_some_iff.1 hbs).symm
    · simp only [he, if_true, List.nil_append]
      rfl
  · rw [ChannelImpl.sendFromLoop, sendImplFromLoop_of_some
      (c := { c with nextTensorBeingSent := c.nextTensorBeingSent + 1 }) hn hn'
      (Option.ne_none_iff_isSome.1 he)]
    let ops := popFinished (c.sendOps ++ [{ c.newSendOperation c.nextTensorBeingSent buffer with
      callback := false, state := .finished }])
    refine ⟨rfl, rfl, (findOperation ops c.nextTensorBeingSent).map fun op =>
      saveDescriptor (makeDescriptor c.context op), fun bs hbs => ?_, ?_,
      fun op hop => hops _ rfl rfl op (popFinished_subset _ hop)⟩
    swap
    · simp only [he, if_false, List.singleton_append]
      rfl
    cases hf : findOperation ops c.nextTensorBeingSent with
    | none => simp [hf] at hbs
    | some op =>
      simp only [hf, Option.map_some', Option.mem_def, Option.some.injEq] at hbs
      subst hbs
      obtain ⟨hop, hs⟩ := findOperation_mem hf
      rcases List.mem_append.1 (popFinished_subset _ hop) with hop | hop
      · exact absurd (hs ▸ List.mem_map_of_mem _ hop) hn
      · rw [List.mem_singleton.1 hop]; rfl

theorem Inv.recvFromLoop_of_none (hi : Inv c) (he : c.error = none) {descriptor : Bytes}
    {d : Descriptor} (hd : loadDescriptor descriptor = some d) (buffer : CudaBuffer) :
    ∃ c', c.recvFromLoop descriptor buffer = some c' ∧
      c'.context = (c.context.openIpcHandle d.allocationId d.handle).1 ∧
      c'.device = c.device ++ [.wait d.startEvHandle (c.stream buffer.stream),
        .memcpyAsync buffer.ptr ((c.context.openIpcHandle d.allocationId d.handle).2 + d.offset)
          buffer.length (c.stream buffer.stream),
        .record ⟨c.id, .stopEv, c.nextTensorBeingReceived⟩ (c.stream buffer.stream)] ∧
      c'.log = c.log ++ [.recvCallback c.nextTensorBeingReceived none (c.device.length + 3)] ∧
      c'.replyConnection.writes = c.replyConnection.writes ++ [(c.nextTensorBeingReceived,
        saveReply ⟨c.context.cudaLib.ipcGetEventHandle
          ⟨c.id, .stopEv, c.nextTensorBeingReceived⟩⟩)] := by
  rw [ChannelImpl.recvFromLoop, recvImplFromLoop_of_none
    (c := { c with nextTensorBeingReceived := c.nextTensorBeingReceived + 1 }) hi.quiet.recv
    (hi.recv_not_mem (le_refl _)) (hi.recv_not_mem (Nat.le_succ _)) hd he]
  exact ⟨_, rfl, rfl, rfl, rfl, rfl⟩

theorem Inv.replyReadCompletion_of_ok (hi : Inv c) {k : Nat} {rest : List Nat}
    (hp : c.replyConnection.pending = k :: rest) (he : c.error = none) (reply : Reply) :
    ∃ op tail, c.sendOps = op :: tail ∧ op.sequenceNumber = k ∧
      c.replyReadCompletion none reply = { c with
        replyConnection := c.replyConnection.completeRead
        device := c.device ++ [.wait reply.stopEvHandle (c.stream op.stream)]
        log := c.log ++ [.sendCallback k none (c.device.length + 1)]
        ackConnection := c.ackConnection.write k (saveAck ⟨⟩)
        sendOps := popFinished tail } := by
  obtain ⟨rfl, op, tail, hq, hs, hw, hn⟩ := hi.reply_head hp
  rw [← hs] at hp hn
  refine ⟨op, tail, hq, hs, ?_⟩
  rw [replyReadCompletion_of_head hi.quiet hp hq hw hn]
  simp only [setError_none, he, if_true, hs]
  rfl

theorem Inv.ackReadCompletion_of_ok (hi : Inv c) {k : Nat} {rest : List Nat}
    (hp : c.ackConnection.pending = k :: rest) :
    ∃ tail, c.ackReadCompletion none =
      { c with ackConnection := c.ackConnection.completeRead, recvOps := popFinished tail } := by
  obtain ⟨rfl, op, tail, hq, hs, hw, hn⟩ := hi.ack_head hp
  rw [← hs] at hp hn
  exact ⟨tail, by rw [ackReadCompletion_of_head hi.quiet hp hq hw hn, setError_none]⟩

/-- What a task that fails, or meets an error, leaves as it was: it enqueues nothing, opens
nothing, writes no reply and adds no record, and any callback it makes reports an error. -/
structure Silent (c c' : ChannelImpl) : Prop where
  context_eq : c'.context = c.context
  device_eq : c'.device = c.device
  log_eq : ∃ L, c'.log = c.log ++ L ∧
    ∀ k m, Effect.sendCallback k none m ∉ L ∧ Effect.recvCallback k none m ∉ L
  writes_eq : c'.replyConnection.writes = c.replyConnection.writes
  sendOps_subset : c'.sendOps ⊆ c.sendOps

theorem Silent.rfl : Silent c c :=
  ⟨Eq.refl _, Eq.refl _, ⟨[], by simp, by simp⟩, Eq.refl _, List.Subset.refl _⟩

theorem Inv.recvFromLoop_silent (hi : Inv c) (he : c.error ≠ none) {descriptor : Bytes}
    {d : Descriptor} (hd : loadDescriptor descriptor = some d) (buffer : CudaBuffer) :
    ∃ c', c.recvFromLoop descriptor buffer = some c' ∧ Silent c c' := by
  rw [ChannelImpl.recvFromLoop, recvImplFromLoop_of_some
    (c := { c with nextTensorBeingReceived := c.nextTensorBeingReceived + 1 })
    (hi.recv_not_mem (le_refl _)) (hi.recv_not_mem (Nat.le_succ _)) hd
    (Option.ne_none_iff_isSome.1 he)]
  exact ⟨_, Eq.refl _, Eq.refl _, Eq.refl _, ⟨_, Eq.refl _, by simp [Ne.symm he]⟩, Eq.refl _,
    List.Subset.refl _⟩

theorem Inv.replyReadCompletion_silent (hi : Inv c) {error : Error}
    (he : c.replyConnection.pending = [] ∨ c.error.or error ≠ none) (reply : Reply) :
    Silent c (c.replyReadCompletion error reply) := by
  cases hp : c.replyConnection.pending with
  | nil => rw [replyReadCompletion_of_nil hp]; exact Silent.rfl
  | cons k rest =>
    have he := he.resolve_left (by simp [hp])
    obtain ⟨rfl, op, tail, hq, hs, hw, hn⟩ := hi.reply_head hp
    rw [← hs] at hp hn
    rw [replyReadCompletion_of_head hi.quiet hp hq hw hn,
      setError_of_quiet (c := { c with replyConnection := c.replyConnection.completeRead })
        ⟨hi.quiet.send, hi.quiet.recv⟩]
    simp only [if_neg he]
    refine ⟨Eq.refl _, Eq.refl _, ⟨_, Eq.refl _, by simp [Ne.symm he]⟩, Eq.refl _,
      fun o ho => ?_⟩
    rw [hq]
    exact List.mem_cons_of_mem _ (popFinished_subset _ ho)

theorem Inv.ackReadCompletion_silent (hi : Inv c) (error : Error) :
    Silent c (c.ackReadCompletion error) := by
  cases hp : c.ackConnection.pending with
  | nil => rw [ackReadCompletion_of_nil hp]; exact Silent.rfl
  | cons n rest =>
    obtain ⟨rfl, op, tail, hq, hs, hw, hn⟩ := hi.ack_head hp
    rw [← hs] at hp hn
    rw [ackReadCompletion_of_head hi.quiet hp hq hw hn,
      setError_of_quiet (c := { c with ackConnection := c.ackConnection.completeRead })
        ⟨hi.quiet.send, hi.quiet.recv⟩]
    exact ⟨Eq.refl _, Eq.refl _, ⟨[], by simp, by simp⟩, Eq.refl _, List.Subset.refl _⟩

theorem Inv.setError_silent (hi : Inv c) (error : Error) : Silent c (c.setError error) := by
  rw [setError_of_quiet hi.quiet]
  exact ⟨Eq.refl _, Eq.refl _, ⟨[], by simp, by simp⟩, Eq.refl _, List.Subset.refl _⟩

end TensorPipe.Channel.CudaIpc.ChannelImpl

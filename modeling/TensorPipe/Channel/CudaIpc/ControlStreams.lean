import TensorPipe.Channel.CudaIpc.Effects

/-! # The control connections of one channel

The messages a channel exchanges with its peer: the reply reads and ack writes of the send
direction, the reply writes and ack reads of the receive direction, and the descriptor that
travels out of band. Each connection carries the I/O of records `0, 1, …` in order, with
no gap and no repeat, and every field survives the encoding.
-/
namespace TensorPipe.Channel.CudaIpc.ChannelImpl
open OpsStateMachine

variable {c : ChannelImpl}

/-- Over any run: the reply reads were issued by sends `0, 1, …` in order, at most one per
send; the reply writes and the ack reads by receives `0, 1, …`, the same receives on both
connections; the ack writes by sends `0, 1, …`, each after its own reply read completed. -/
theorem reachable_control_io (h : Reachable c) :
    c.replyConnection.reads = List.range c.replyConnection.reads.length ∧
    c.replyConnection.reads.length ≤ c.nextTensorBeingSent ∧
    c.replyConnection.writes.map Prod.fst = c.ackConnection.reads ∧
    c.ackConnection.reads = List.range c.ackConnection.reads.length ∧
    c.ackConnection.reads.length ≤ c.nextTensorBeingReceived ∧
    c.ackConnection.writes.map Prod.fst = List.range c.ackConnection.writes.length ∧
    c.ackConnection.writes.length ≤ c.replyConnection.readsDone ∧
    c.replyConnection.readsDone ≤ c.replyConnection.reads.length := by
  have hi := h.inv
  refine ⟨hi.send.reads_eq_range, hi.send.reads_le, ?_, hi.recv.reads_eq_range, hi.recv.reads_le,
    ?_, hi.send.acks_le, hi.send.readsDone_le⟩
  · rw [hi.recv.replies_eq]
    conv_rhs => rw [hi.recv.reads_eq_range]
    simp [Function.comp_def]
  · conv_lhs => rw [hi.send.acks_eq_range]
    simp [Function.comp_def]

/-- Two sends and the first reply: both reply reads are issued, one ack is written. -/
theorem reachable_control_io_two_sends :
    let c := (((init [] ⟨.flat, [], []⟩).sendFromLoop ⟨4096, 256, 0⟩).sendFromLoop
      ⟨8192, 256, 0⟩).replyReadCompletion none ⟨List.replicate 64 0⟩
    c.replyConnection.reads = [0, 1] ∧ c.ackConnection.writes.map Prod.fst = [0] ∧
    c.ackConnection.writes.map Prod.fst = List.range c.ackConnection.writes.length ∧
    c.ackConnection.writes.length ≤ c.replyConnection.readsDone :=
  let h := reachable_control_io (.step (.replyRead none _) (.step (.send ⟨8192, 256, 0⟩)
    (.step (.send ⟨4096, 256, 0⟩) (.init _ _) rfl) rfl) rfl)
  ⟨rfl, rfl, h.2.2.2.2.2.1, h.2.2.2.2.2.2.1⟩

/-- Every field a peer serializes reaches the operation that uses it. A well-formed
descriptor survives the codec into the receive record: `recvImplFromLoop` queues a record
holding exactly its allocation identifier, memory handle, offset and start event handle. A
reply read that completes without error on a reachable channel, with the bytes a receive
wrote, stores the stop event handle that was serialized, and the send waits on exactly it. -/
theorem saved_messages_reach_operations (c : ChannelImpl) :
    (∀ (n : Nat) (d : Descriptor) (buffer : CudaBuffer), d.WellFormed → n ∉ seqs c.recvOps →
      c.recvImplFromLoop n (saveDescriptor d) buffer =
        some (advanceOperation recvQueue advanceRecvOperation
          { c with recvOps := c.recvOps ++ [{ c.newRecvOperation n buffer with
            allocationId := d.allocationId, bufferHandle := d.handle, offset := d.offset,
            startEvHandle := d.startEvHandle }] } n)) ∧
    (Reachable c → c.error = none → ∀ (k : Nat) (rest : List Nat) (r : Reply),
      c.replyConnection.pending = k :: rest → r.stopEvHandle.length < 2 ^ 64 →
      ∃ c' s, ((loadReply (saveReply r)).map fun r' => c.replyReadCompletion none r') = some c' ∧
        c'.device = c.device ++ [.wait r.stopEvHandle s]) := by
  refine ⟨fun n d buffer hd hn => ?_, fun h he k rest r hp hr => ?_⟩
  · simp only [recvImplFromLoop, loadDescriptor_saveDescriptor d hd, Option.map_some', emplaceBack,
      recvQueue_get, recvQueue_set]
    rw [updateOperation_append_singleton (newRecvOperation_sequenceNumber c n buffer) hn]
    rfl
  · obtain ⟨op, tail, -, -, hc⟩ := h.inv.replyReadCompletion_of_ok hp he r
    rw [loadReply_saveReply r hr, Option.map_some', hc]
    exact ⟨_, _, rfl, rfl⟩

/-- A descriptor with an underscore and a digit in its identifier and 64-byte handles with
zero bytes, and a 64-byte reply read by the first send. -/
theorem saved_messages_reach_operations_full_handles :
    let c := init [] ⟨.flat, [], []⟩
    let c₁ := c.sendFromLoop ⟨0, 256, 0⟩
    let d : Descriptor := ⟨[95, 48], List.replicate 63 0 ++ [1], 7, 0 :: List.replicate 63 1⟩
    let r : Reply := ⟨List.replicate 63 0 ++ [2]⟩
    d.handle.length = 64 ∧ d.startEvHandle.length = 64 ∧ r.stopEvHandle.length = 64 ∧
    d.WellFormed ∧ 0 ∉ seqs c.recvOps ∧
    c.recvImplFromLoop 0 (saveDescriptor d) ⟨8192, 256, 0⟩ =
      some (advanceOperation recvQueue advanceRecvOperation
        { c with recvOps := c.recvOps ++ [{ c.newRecvOperation 0 ⟨8192, 256, 0⟩ with
          allocationId := d.allocationId, bufferHandle := d.handle, offset := d.offset,
          startEvHandle := d.startEvHandle }] } 0) ∧
    c₁.error = none ∧ c₁.replyConnection.pending = [0] ∧
    ∃ c' s, ((loadReply (saveReply r)).map fun r' => c₁.replyReadCompletion none r') = some c' ∧
      c'.device = c₁.device ++ [.wait r.stopEvHandle s] :=
  ⟨by decide, by decide, by decide, by decide, by decide,
    (saved_messages_reach_operations _).1 0 _ _ (by decide) (by decide), by decide, by decide,
    (saved_messages_reach_operations _).2 (.step (.send ⟨0, 256, 0⟩) (.init _ _) rfl) (by decide)
      0 [] _ (by decide) (by decide)⟩

end TensorPipe.Channel.CudaIpc.ChannelImpl

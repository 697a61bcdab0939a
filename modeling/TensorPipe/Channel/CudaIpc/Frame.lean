import TensorPipe.Channel.CudaIpc.Tasks

/-! # What a channel never takes back

Every action of the two transition tables only appends: to the log of callbacks, to the
device work, to the messages written on a control connection. None touches the error slot
or the count of completed reads, and none changes the driver or the process. The engine
keeps whatever its actions keep (`OpsStateMachine.Frame`), so each loop task is, in these
respects, a bump of the error or of one read count (`Event.bump`) followed by appends. This
holds in every state, reachable or not.
-/
namespace TensorPipe.Channel.CudaIpc.ChannelImpl
open OpsStateMachine

/-- What no action changes: the channel's identity and driver, its error slot, its
sequence counters and its completed reads. -/
structure Counters where
  id : Bytes
  cudaLib : CudaDriver
  processIdentifier : Bytes
  error : Error
  nextTensorBeingSent : Nat
  nextTensorBeingReceived : Nat
  replyReadsDone : Nat
  ackReadsDone : Nat

/-- The counters of a channel. -/
def counters (c : ChannelImpl) : Counters :=
  ⟨c.id, c.context.cudaLib, c.context.processIdentifier, c.error, c.nextTensorBeingSent,
    c.nextTensorBeingReceived, c.replyConnection.readsDone, c.ackConnection.readsDone⟩

/-- `c'` extends `c`: the same counters, and longer logs, device work and writes. -/
structure Grows (c c' : ChannelImpl) : Prop where
  counters_eq : c'.counters = c.counters
  replyWrites : c.replyConnection.writes <+: c'.replyConnection.writes
  ackWrites : c.ackConnection.writes <+: c'.ackConnection.writes
  device : c.device <+: c'.device
  log : c.log <+: c'.log

namespace Grows

variable {c c' c'' : ChannelImpl}

@[refl] theorem refl (c : ChannelImpl) : Grows c c :=
  ⟨rfl, List.prefix_refl _, List.prefix_refl _, List.prefix_refl _, List.prefix_refl _⟩

@[trans] theorem trans (h : Grows c c') (h' : Grows c' c'') : Grows c c'' :=
  ⟨h'.counters_eq.trans h.counters_eq, h.replyWrites.trans h'.replyWrites,
    h.ackWrites.trans h'.ackWrites, h.device.trans h'.device, h.log.trans h'.log⟩

variable (h : Grows c c')
include h

theorem id_eq : c'.id = c.id := congrArg Counters.id h.counters_eq
theorem cudaLib_eq : c'.context.cudaLib = c.context.cudaLib :=
  congrArg Counters.cudaLib h.counters_eq
theorem processIdentifier_eq : c'.context.processIdentifier = c.context.processIdentifier :=
  congrArg Counters.processIdentifier h.counters_eq
theorem error_eq : c'.error = c.error := congrArg Counters.error h.counters_eq
theorem nextTensorBeingSent_eq : c'.nextTensorBeingSent = c.nextTensorBeingSent :=
  congrArg Counters.nextTensorBeingSent h.counters_eq
theorem nextTensorBeingReceived_eq : c'.nextTensorBeingReceived = c.nextTensorBeingReceived :=
  congrArg Counters.nextTensorBeingReceived h.counters_eq
theorem replyReadsDone_eq : c'.replyConnection.readsDone = c.replyConnection.readsDone :=
  congrArg Counters.replyReadsDone h.counters_eq
theorem ackReadsDone_eq : c'.ackConnection.readsDone = c.ackConnection.readsDone :=
  congrArg Counters.ackReadsDone h.counters_eq

omit h

theorem frame_send : Frame sendQueue Grows :=
  ⟨refl, trans, fun _ _ => ⟨rfl, List.prefix_refl _, List.prefix_refl _,
    List.prefix_refl _, List.prefix_refl _⟩⟩

theorem frame_recv : Frame recvQueue Grows :=
  ⟨refl, trans, fun _ _ => ⟨rfl, List.prefix_refl _, List.prefix_refl _,
    List.prefix_refl _, List.prefix_refl _⟩⟩

end Grows

variable (c : ChannelImpl) (n : Nat)

theorem grows_callSendCallback : Grows c (c.callSendCallback n) :=
  ⟨rfl, List.prefix_refl _, List.prefix_refl _, List.prefix_refl _, List.prefix_append _ _⟩

theorem grows_readReply : Grows c (c.readReply n) :=
  ⟨rfl, List.prefix_refl _, List.prefix_refl _, List.prefix_refl _,
    List.prefix_refl _⟩

theorem grows_waitOnStopEvent : Grows c (c.waitOnStopEvent n) := by
  unfold waitOnStopEvent; split
  · exact ⟨rfl, List.prefix_refl _, List.prefix_refl _, List.prefix_append _ _,
      List.prefix_refl _⟩
  · rfl

theorem grows_writeAck : Grows c (c.writeAck n) :=
  ⟨rfl, List.prefix_refl _, List.prefix_append _ _, List.prefix_refl _, List.prefix_refl _⟩

theorem grows_waitOnStartEventAndCopyAndRecordStopEvent :
    Grows c (c.waitOnStartEventAndCopyAndRecordStopEvent n) := by
  unfold waitOnStartEventAndCopyAndRecordStopEvent; split
  · exact ⟨by simp [counters], List.prefix_refl _, List.prefix_refl _, List.prefix_append _ _,
      List.prefix_refl _⟩
  · rfl

theorem grows_callRecvCallback : Grows c (c.callRecvCallback n) :=
  ⟨rfl, List.prefix_refl _, List.prefix_refl _, List.prefix_refl _, List.prefix_append _ _⟩

theorem grows_writeReplyAndReadAck : Grows c (c.writeReplyAndReadAck n) := by
  unfold writeReplyAndReadAck; split
  · exact ⟨rfl, List.prefix_append _ _, List.prefix_refl _, List.prefix_refl _,
      List.prefix_refl _⟩
  · rfl

theorem grows_advanceSendOperation (p : SendOperation.State) :
    Grows c (c.advanceSendOperation n p) := by
  have ha : ∀ actions : List (ChannelImpl → Nat → ChannelImpl),
      (∀ a ∈ actions, ∀ c n, Grows c (a c n)) → ∀ c f t b,
        Grows c (attemptTransition sendQueue c n f t b actions) :=
    fun _ h c f t b => Grows.frame_send.attemptTransition h c n f t b
  refine (ha _ ?_ _ _ _ _).trans ((ha _ ?_ _ _ _ _).trans ((ha _ ?_ _ _ _ _).trans
    (ha _ ?_ _ _ _ _))) <;>
    simp only [List.mem_cons, List.mem_singleton, List.not_mem_nil, or_false, forall_eq_or_imp,
      forall_eq]
  · exact grows_callSendCallback
  · exact grows_readReply
  · exact grows_callSendCallback
  · exact ⟨grows_waitOnStopEvent, grows_callSendCallback, grows_writeAck⟩

theorem grows_advanceRecvOperation (p : RecvOperation.State) :
    Grows c (c.advanceRecvOperation n p) := by
  have ha : ∀ actions : List (ChannelImpl → Nat → ChannelImpl),
      (∀ a ∈ actions, ∀ c n, Grows c (a c n)) → ∀ c f t b,
        Grows c (attemptTransition recvQueue c n f t b actions) :=
    fun _ h c f t b => Grows.frame_recv.attemptTransition h c n f t b
  refine (ha _ ?_ _ _ _ _).trans ((ha _ ?_ _ _ _ _).trans (ha _ ?_ _ _ _ _)) <;>
    simp only [List.mem_cons, List.mem_singleton, List.not_mem_nil, or_false, forall_eq_or_imp,
      forall_eq, false_implies, implies_true]
  · exact grows_callRecvCallback
  · exact ⟨grows_waitOnStartEventAndCopyAndRecordStopEvent, grows_callRecvCallback,
      grows_writeReplyAndReadAck⟩

theorem grows_sendFromLoop (buffer : CudaBuffer) :
    Grows { c with nextTensorBeingSent := c.nextTensorBeingSent + 1 }
      (c.sendFromLoop buffer) := by
  let c₁ := { c with nextTensorBeingSent := c.nextTensorBeingSent + 1 }
  let op := c₁.newSendOperation c.nextTensorBeingSent buffer
  let c₂ := emplaceBack sendQueue
    { c₁ with device := c₁.device ++ [.record op.startEv (c₁.stream buffer.stream)] } op
  have h : Grows c₂
      (advanceOperation sendQueue advanceSendOperation c₂ c.nextTensorBeingSent) :=
    Grows.frame_send.advanceOperation grows_advanceSendOperation _ _
  have h₁ : Grows c₁ c₂ :=
    ⟨rfl, List.prefix_refl _, List.prefix_refl _, List.prefix_append _ _, List.prefix_refl _⟩
  have h₂ : Grows (advanceOperation sendQueue advanceSendOperation c₂ c.nextTensorBeingSent)
      (c.sendFromLoop buffer) :=
    ⟨rfl, List.prefix_refl _, List.prefix_refl _, List.prefix_refl _, List.prefix_append _ _⟩
  exact (h₁.trans h).trans h₂

theorem grows_recvFromLoop {descriptor : Bytes} {buffer : CudaBuffer} {c' : ChannelImpl}
    (h : c.recvFromLoop descriptor buffer = some c') :
    Grows { c with nextTensorBeingReceived := c.nextTensorBeingReceived + 1 } c' := by
  unfold recvFromLoop recvImplFromLoop at h
  cases hd : loadDescriptor descriptor with
  | none => simp [hd] at h
  | some d =>
    simp only [hd, Option.map_some', Option.some.injEq] at h
    subst h
    refine Grows.trans ?_ (Grows.frame_recv.advanceOperation grows_advanceRecvOperation _ _)
    exact ⟨rfl, List.prefix_refl _, List.prefix_refl _, List.prefix_refl _, List.prefix_refl _⟩

theorem grows_handleErrorImpl : Grows c c.handleErrorImpl :=
  (Grows.frame_send.advanceAllOperations grows_advanceSendOperation c).trans
    ((Grows.frame_recv.advanceAllOperations grows_advanceRecvOperation _).trans
      ⟨rfl, List.prefix_refl _, List.prefix_refl _, List.prefix_refl _, List.prefix_refl _⟩)

theorem grows_setError (error : Error) :
    Grows { c with error := c.error.or error } (c.setError error) := by
  unfold setError
  split_ifs with h
  · have he : c.error.or error = c.error := by
      cases hc : c.error <;> cases error <;> simp_all
    exact ⟨by simp [counters, he], List.prefix_refl _, List.prefix_refl _,
      List.prefix_refl _, List.prefix_refl _⟩
  · have he : c.error.or error = error := by
      cases hc : c.error <;> simp_all
    rw [he]
    exact grows_handleErrorImpl _

theorem grows_replyReadCompletion {k : Nat} {rest : List Nat}
    (hp : c.replyConnection.pending = k :: rest) (error : Error) (reply : Reply) :
    Grows { c with replyConnection := c.replyConnection.completeRead, error := c.error.or error }
      (c.replyReadCompletion error reply) := by
  simp only [replyReadCompletion, hp]
  refine (grows_setError { c with replyConnection := c.replyConnection.completeRead } error).trans
    (Grows.trans ?_ (Grows.frame_send.advanceOperation grows_advanceSendOperation _ _))
  split_ifs <;>
    exact ⟨rfl, List.prefix_refl _, List.prefix_refl _, List.prefix_refl _, List.prefix_refl _⟩

theorem grows_ackReadCompletion {k : Nat} {rest : List Nat}
    (hp : c.ackConnection.pending = k :: rest) (error : Error) :
    Grows { c with ackConnection := c.ackConnection.completeRead, error := c.error.or error }
      (c.ackReadCompletion error) := by
  simp only [ackReadCompletion, hp]
  refine (grows_setError { c with ackConnection := c.ackConnection.completeRead } error).trans
    (Grows.trans ?_ (Grows.frame_recv.advanceOperation grows_advanceRecvOperation _ _))
  exact ⟨rfl, List.prefix_refl _, List.prefix_refl _, List.prefix_refl _, List.prefix_refl _⟩

/-- What a loop task does before its appends: a submission takes a sequence number, a
completion counts its read and stores its error, an error or `close` stores its error. -/
def Event.bump (c : ChannelImpl) : Event → ChannelImpl
  | .send _ => { c with nextTensorBeingSent := c.nextTensorBeingSent + 1 }
  | .recv _ _ => { c with nextTensorBeingReceived := c.nextTensorBeingReceived + 1 }
  | .replyRead error _ =>
    if c.replyConnection.pending = [] then c
    else { c with replyConnection := c.replyConnection.completeRead, error := c.error.or error }
  | .ackRead error =>
    if c.ackConnection.pending = [] then c
    else { c with ackConnection := c.ackConnection.completeRead, error := c.error.or error }
  | .fail error => { c with error := c.error.or (some error) }
  | .close => { c with error := c.error.or (some .channelClosed) }

/-- Every loop task is its bump followed by appends. -/
theorem grows_step {e : Event} {c' : ChannelImpl} (h : c.step e = some c') :
    Grows (e.bump c) c' := by
  cases e with
  | send buffer => cases h; exact grows_sendFromLoop c buffer
  | recv descriptor buffer => exact grows_recvFromLoop c h
  | replyRead error reply =>
    cases h
    cases hp : c.replyConnection.pending with
    | nil => rw [replyReadCompletion_of_nil hp]; simp only [Event.bump, hp, if_true]; rfl
    | cons k rest =>
      simp only [Event.bump, hp, reduceCtorEq, if_false]
      exact grows_replyReadCompletion c hp error reply
  | ackRead error =>
    cases h
    cases hp : c.ackConnection.pending with
    | nil => rw [ackReadCompletion_of_nil hp]; simp only [Event.bump, hp, if_true]; rfl
    | cons k rest =>
      simp only [Event.bump, hp, reduceCtorEq, if_false]
      exact grows_ackReadCompletion c hp error
  | fail error => cases h; exact grows_setError c _
  | close => cases h; exact grows_setError c _

end TensorPipe.Channel.CudaIpc.ChannelImpl

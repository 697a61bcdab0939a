import TensorPipe.Channel.CudaIpc.Effects
import TensorPipe.Channel.CudaIpc.Frame

/-! # A sending channel and a receiving channel

The two ends of one channel, in two processes, joined by their control connections. The
reply stream carries what the receiver writes on its reply connection to the reads the
sender issues on its own; the ack stream carries the sender's acks to the receiver's reads.
Each stream is reliable and FIFO: the `i`-th read issued on it gets the `i`-th message
written to it, once that message is written, or fails. The pipe above hands the receiver,
for its `k`-th receive, the descriptor of the sender's `k`-th send.

Both processes queue work on one device through one driver. `trace` is that work in the
order the two loops and their users enqueued it, so a callback's device mark is a position
in it. A run interleaves the loop tasks of the two processes, user work on their streams,
errors, and `close` on either side.
-/
namespace TensorPipe.Channel.CudaIpc
open OpsStateMachine ChannelImpl

/-- The two channels, the device work enqueued so far, and the buffers the users submitted
to `send` and to `recv`. -/
structure ChannelPair where
  sender : ChannelImpl
  receiver : ChannelImpl
  trace : List DeviceOp
  sends : List CudaBuffer
  recvs : List CudaBuffer

namespace ChannelPair

/-- The descriptor the sender's descriptor callback for send `k` delivered. -/
def descriptorOf (log : List Effect) (k : Nat) : Option Bytes :=
  log.findSome? fun
    | .descriptorCallback n _ d => if n = k then d else none
    | _ => none

/-- The steps of a run: a submission on either side, the completion of the oldest read of
either stream with the next message or with an error, an error or `close` on either side,
and user work on a stream of either process. -/
inductive Event
  | send (buffer : CudaBuffer)
  | recv (buffer : CudaBuffer)
  | replyDelivered
  | replyFailed (error : ErrorKind)
  | ackDelivered
  | ackFailed (error : ErrorKind)
  | senderError (error : ErrorKind)
  | receiverError (error : ErrorKind)
  | senderClose
  | receiverClose
  | work (sender : Bool) (stream : Nat)

/-- Run a loop task of the sender against the shared device. -/
def onSender (sys : ChannelPair) (e : ChannelImpl.Event) : Option ChannelPair :=
  ({ sys.sender with device := sys.trace }.step e).map fun s =>
    { sys with sender := s, trace := s.device }

/-- Run a loop task of the receiver against the shared device. -/
def onReceiver (sys : ChannelPair) (e : ChannelImpl.Event) : Option ChannelPair :=
  ({ sys.receiver with device := sys.trace }.step e).map fun r =>
    { sys with receiver := r, trace := r.device }

/-- One step; `none` where it cannot happen (no descriptor yet, no message yet) or where
the C++ throws. -/
def step (sys : ChannelPair) : Event → Option ChannelPair
  | .send buffer =>
    (sys.onSender (.send buffer)).map fun sys' => { sys' with sends := sys.sends ++ [buffer] }
  | .recv buffer =>
    (descriptorOf sys.sender.log sys.receiver.nextTensorBeingReceived).bind fun d =>
      (sys.onReceiver (.recv d buffer)).map fun sys' => { sys' with recvs := sys.recvs ++ [buffer] }
  | .replyDelivered =>
    (sys.receiver.replyConnection.writes[sys.sender.replyConnection.readsDone]?).bind fun w =>
      (loadReply w.2).bind fun reply => sys.onSender (.replyRead none reply)
  | .replyFailed error => sys.onSender (.replyRead (some error) ⟨[]⟩)
  | .ackDelivered =>
    (sys.sender.ackConnection.writes[sys.receiver.ackConnection.readsDone]?).bind fun _ =>
      sys.onReceiver (.ackRead none)
  | .ackFailed error => sys.onReceiver (.ackRead (some error))
  | .senderError error => sys.onSender (.fail error)
  | .receiverError error => sys.onReceiver (.fail error)
  | .senderClose => sys.onSender .close
  | .receiverClose => sys.onReceiver .close
  | .work sender stream =>
    let c := if sender then sys.sender else sys.receiver
    some { sys with trace := sys.trace ++ [.work (c.stream stream)] }

/-- Both channels freshly enrolled, over one driver, nothing submitted. -/
def init (cudaLib : CudaDriver) (senderId senderProcess receiverId receiverProcess : Bytes) :
    ChannelPair :=
  ⟨ChannelImpl.init senderId ⟨cudaLib, senderProcess, []⟩,
    ChannelImpl.init receiverId ⟨cudaLib, receiverProcess, []⟩, [], [], []⟩

/-- The states a run reaches. The sender's process identifier is a `std::string` short
enough that its allocation identifiers, with the `_` and at most twenty digits they add,
are `std::string`s too. -/
inductive Reachable : ChannelPair → Prop
  | init (cudaLib : CudaDriver) (senderId senderProcess receiverId receiverProcess : Bytes)
    (h : senderProcess.length < 2 ^ 63) :
    Reachable (init cudaLib senderId senderProcess receiverId receiverProcess)
  | step {sys sys' : ChannelPair} (e : Event) : Reachable sys → sys.step e = some sys' →
    Reachable sys'

/-- Run steps one after another; `none` if one of them cannot happen. -/
def run (sys : ChannelPair) : List Event → Option ChannelPair
  | [] => some sys
  | e :: es => (sys.step e).bind fun sys' => run sys' es

variable {sys sys' : ChannelPair}

theorem Reachable.run (h : Reachable sys) {es : List Event} (hr : sys.run es = some sys') :
    Reachable sys' := by
  induction es generalizing sys with
  | nil => cases hr; exact h
  | cons e es ih =>
    obtain ⟨sys₁, h₁, h₂⟩ := Option.bind_eq_some.1 hr
    exact ih (.step e h h₁) h₂

theorem onSender_eq_some {e : ChannelImpl.Event} (h : sys.onSender e = some sys') :
    ∃ s, { sys.sender with device := sys.trace }.step e = some s ∧
      sys' = { sys with sender := s, trace := s.device } := by
  obtain ⟨s, hs, rfl⟩ := Option.map_eq_some'.1 h
  exact ⟨s, hs, rfl⟩

theorem onReceiver_eq_some {e : ChannelImpl.Event} (h : sys.onReceiver e = some sys') :
    ∃ r, { sys.receiver with device := sys.trace }.step e = some r ∧
      sys' = { sys with receiver := r, trace := r.device } := by
  obtain ⟨r, hr, rfl⟩ := Option.map_eq_some'.1 h
  exact ⟨r, hr, rfl⟩

theorem mem_descriptorCallbacks {log : List Effect} {k : Nat} {d : Bytes}
    (h : descriptorOf log k = some d) : k ∈ descriptorCallbacks log := by
  induction log with
  | nil => cases h
  | cons e log ih =>
    simp only [descriptorOf, List.findSome?_cons] at h
    cases e with
    | descriptorCallback n _ d' =>
      by_cases hn : n = k
      · simp [hn]
      · simp only [hn, if_false] at h
        simp [ih h]
    | sendCallback => simp [ih h]
    | recvCallback => simp [ih h]

theorem descriptorOf_append (log log' : List Effect) (k : Nat) :
    descriptorOf (log ++ log') k = (descriptorOf log k).or (descriptorOf log' k) :=
  List.findSome?_append

theorem descriptorOf_eq_none {log : List Effect} (h : descriptorCallbacks log = []) (k : Nat) :
    descriptorOf log k = none :=
  Option.eq_none_iff_forall_not_mem.2 fun _ hd => by
    simpa [h] using mem_descriptorCallbacks hd

theorem descriptorOf_of_extends {c c' : ChannelImpl} (hi : ChannelImpl.Inv c)
    (hi' : ChannelImpl.Inv c') (hl : c.log <+: c'.log)
    (hn : c'.nextTensorBeingSent = c.nextTensorBeingSent) (k : Nat) :
    descriptorOf c'.log k = descriptorOf c.log k := by
  obtain ⟨L, hL⟩ := hl
  have hd := hi'.send.descriptors_eq
  rw [← hL, descriptorCallbacks_append, hn, ← hi.send.descriptors_eq] at hd
  rw [← hL, descriptorOf_append, descriptorOf_eq_none (List.append_right_eq_self.1 hd),
    Option.or_none]

/-- What holds between two steps: each channel's own invariant, one driver, a short process
identifier, the users' submissions, the two streams (while a side has no error, every read
it completed got a message the peer wrote), and the descriptors: the one delivered for send
`k` is the one `makeDescriptor` builds for the buffer of send `k`. -/
structure Inv (sys : ChannelPair) : Prop where
  sender : ChannelImpl.Inv sys.sender
  receiver : ChannelImpl.Inv sys.receiver
  cudaLib_eq : sys.receiver.context.cudaLib = sys.sender.context.cudaLib
  processIdentifier_lt : sys.sender.context.processIdentifier.length < 2 ^ 63
  replies_le : sys.sender.error = none →
    sys.sender.replyConnection.readsDone ≤ sys.receiver.replyConnection.writes.length
  acks_le : sys.receiver.error = none →
    sys.receiver.ackConnection.readsDone ≤ sys.sender.ackConnection.writes.length
  sends_length : sys.sends.length = sys.sender.nextTensorBeingSent
  recvs_length : sys.recvs.length = sys.receiver.nextTensorBeingReceived
  descriptors : ∀ k d, descriptorOf sys.sender.log k = some d → ∃ buffer,
    sys.sends[k]? = some buffer ∧
      d = saveDescriptor (makeDescriptor sys.sender.context (sys.sender.newSendOperation k buffer))

theorem inv_init (cudaLib : CudaDriver) (senderId senderProcess receiverId receiverProcess : Bytes)
    (h : senderProcess.length < 2 ^ 63) :
    Inv (init cudaLib senderId senderProcess receiverId receiverProcess) :=
  ⟨ChannelImpl.inv_init _ _, ChannelImpl.inv_init _ _, rfl, h, fun _ => le_refl _,
    fun _ => le_refl _, rfl, rfl, fun _ _ h => by cases h⟩

theorem inv_with_device {c : ChannelImpl} (hi : ChannelImpl.Inv c) (trace : List DeviceOp) :
    ChannelImpl.Inv { c with device := trace } :=
  ⟨hi.send, hi.recv⟩

section Bump

variable (c : ChannelImpl) (e : ChannelImpl.Event)

@[simp] theorem bump_id : (e.bump c).id = c.id := by
  cases e <;> simp only [Event.bump] <;> split_ifs <;> rfl
@[simp] theorem bump_context : (e.bump c).context = c.context := by
  cases e <;> simp only [Event.bump] <;> split_ifs <;> rfl
@[simp] theorem bump_replyWrites :
    (e.bump c).replyConnection.writes = c.replyConnection.writes := by
  cases e <;> simp only [Event.bump] <;> split_ifs <;> rfl
@[simp] theorem bump_ackWrites : (e.bump c).ackConnection.writes = c.ackConnection.writes := by
  cases e <;> simp only [Event.bump] <;> split_ifs <;> rfl
@[simp] theorem bump_device : (e.bump c).device = c.device := by
  cases e <;> simp only [Event.bump] <;> split_ifs <;> rfl
@[simp] theorem bump_log : (e.bump c).log = c.log := by
  cases e <;> simp only [Event.bump] <;> split_ifs <;> rfl

end Bump

section Step

variable {c c' : ChannelImpl} {e : ChannelImpl.Event} (h : c.step e = some c')
include h

theorem step_id : c'.id = c.id := by
  rw [(grows_step _ h).id_eq, bump_id]

theorem step_cudaLib : c'.context.cudaLib = c.context.cudaLib := by
  rw [(grows_step _ h).cudaLib_eq, bump_context]

theorem step_processIdentifier :
    c'.context.processIdentifier = c.context.processIdentifier := by
  rw [(grows_step _ h).processIdentifier_eq, bump_context]

theorem makeDescriptor_of_step (k : Nat) (buffer : CudaBuffer) :
    makeDescriptor c'.context (c'.newSendOperation k buffer) =
      makeDescriptor c.context (c.newSendOperation k buffer) :=
  makeDescriptor_newSendOperation (step_id h) (step_cudaLib h) (step_processIdentifier h) k buffer

end Step

theorem Inv.onSender (hi : Inv sys) {e : ChannelImpl.Event} (h : sys.onSender e = some sys')
    (hr : (e.bump { sys.sender with device := sys.trace }).error = none →
      (e.bump { sys.sender with device := sys.trace }).replyConnection.readsDone ≤
        sys.receiver.replyConnection.writes.length)
    (hn : (e.bump { sys.sender with device := sys.trace }).nextTensorBeingSent =
      sys.sender.nextTensorBeingSent) : Inv sys' := by
  obtain ⟨s, hs, rfl⟩ := onSender_eq_some h
  have hg := grows_step _ hs
  have hi' := (inv_with_device hi.sender _).step hs
  have hnext : s.nextTensorBeingSent = sys.sender.nextTensorBeingSent :=
    hg.nextTensorBeingSent_eq.trans hn
  refine ⟨hi', hi.receiver, step_cudaLib hs ▸ hi.cudaLib_eq,
    step_processIdentifier hs ▸ hi.processIdentifier_lt, fun he => ?_, fun he => ?_,
    hnext ▸ hi.sends_length, hi.recvs_length, fun k d hd => ?_⟩
  · rw [hg.replyReadsDone_eq]; exact hr (hg.error_eq ▸ he)
  · exact le_trans (hi.acks_le he) (by simpa using hg.ackWrites.length_le)
  · have hl : sys.sender.log <+: s.log := by simpa using hg.log
    rw [descriptorOf_of_extends hi.sender hi' hl hnext] at hd
    show ∃ buffer, sys.sends[k]? = some buffer ∧
      d = saveDescriptor (makeDescriptor s.context (s.newSendOperation k buffer))
    simp only [makeDescriptor_of_step hs]
    exact hi.descriptors k d hd

theorem Inv.onReceiver (hi : Inv sys) {e : ChannelImpl.Event} (h : sys.onReceiver e = some sys')
    (ha : (e.bump { sys.receiver with device := sys.trace }).error = none →
      (e.bump { sys.receiver with device := sys.trace }).ackConnection.readsDone ≤
        sys.sender.ackConnection.writes.length)
    (hn : (e.bump { sys.receiver with device := sys.trace }).nextTensorBeingReceived =
      sys.receiver.nextTensorBeingReceived) : Inv sys' := by
  obtain ⟨r, hr, rfl⟩ := onReceiver_eq_some h
  have hg := grows_step _ hr
  refine ⟨hi.sender, (inv_with_device hi.receiver _).step hr,
    (step_cudaLib hr).trans hi.cudaLib_eq, hi.processIdentifier_lt,
    fun he => le_trans (hi.replies_le he) (by simpa using hg.replyWrites.length_le),
    fun he => ?_, hi.sends_length, hg.nextTensorBeingReceived_eq.trans hn ▸ hi.recvs_length,
    hi.descriptors⟩
  rw [hg.ackReadsDone_eq]; exact ha (hg.error_eq ▸ he)

theorem Inv.replyRead (hi : Inv sys) {error : Error} {reply : Reply}
    (h : sys.onSender (.replyRead error reply) = some sys')
    (hlt : error = none →
      sys.sender.replyConnection.readsDone < sys.receiver.replyConnection.writes.length) :
    Inv sys' := by
  refine hi.onSender h (fun he => ?_) (by simp only [Event.bump]; split_ifs <;> rfl)
  simp only [Event.bump] at he ⊢
  split_ifs at he ⊢
  · exact hi.replies_le he
  · exact hlt (Option.or_eq_none.1 he).2

theorem Inv.ackRead (hi : Inv sys) {error : Error}
    (h : sys.onReceiver (.ackRead error) = some sys')
    (hlt : error = none →
      sys.receiver.ackConnection.readsDone < sys.sender.ackConnection.writes.length) :
    Inv sys' := by
  refine hi.onReceiver h (fun he => ?_) (by simp only [Event.bump]; split_ifs <;> rfl)
  simp only [Event.bump] at he ⊢
  split_ifs at he ⊢
  · exact hi.acks_le he
  · exact hlt (Option.or_eq_none.1 he).2

theorem Inv.send (hi : Inv sys) {buffer : CudaBuffer} (h : sys.step (.send buffer) = some sys') :
    Inv sys' := by
  simp only [ChannelPair.step] at h
  obtain ⟨sys₁, h₁, rfl⟩ := Option.map_eq_some'.1 h
  obtain ⟨s, hs, rfl⟩ := onSender_eq_some h₁
  have hg := grows_step _ hs
  have hi' := (inv_with_device hi.sender _).step hs
  obtain ⟨-, -, d, hd, hlog, -⟩ := (inv_with_device hi.sender sys.trace).sendFromLoop_eq buffer
  rw [(Option.some.inj hs : _ = s)] at hlog
  dsimp only at hlog hd
  refine ⟨hi', hi.receiver, step_cudaLib hs ▸ hi.cudaLib_eq,
    step_processIdentifier hs ▸ hi.processIdentifier_lt, fun he => ?_, fun he => ?_, ?_,
    hi.recvs_length, fun k d' hd' => ?_⟩
  · rw [hg.replyReadsDone_eq]; exact hi.replies_le (hg.error_eq ▸ he)
  · exact le_trans (hi.acks_le he) hg.ackWrites.length_le
  · show (sys.sends ++ [buffer]).length = s.nextTensorBeingSent
    rw [hg.nextTensorBeingSent_eq, List.length_append, hi.sends_length]; rfl
  · show ∃ b, (sys.sends ++ [buffer])[k]? = some b ∧
      d' = saveDescriptor (makeDescriptor s.context (s.newSendOperation k b))
    simp only [makeDescriptor_of_step hs]
    rw [hlog, descriptorOf_append] at hd'
    cases hk : descriptorOf sys.sender.log k with
    | some d'' =>
      rw [hk] at hd'
      obtain rfl : d'' = d' := Option.some.inj hd'
      obtain ⟨b, hb, rfl⟩ := hi.descriptors k d'' hk
      exact ⟨b, by rw [List.getElem?_append_left (List.getElem?_eq_some_iff.1 hb).1, hb], rfl⟩
    | none =>
      have hL : descriptorOf (if sys.sender.error = none then [] else
          [Effect.sendCallback sys.sender.nextTensorBeingSent sys.sender.error
            (sys.trace.length + 1)]) k = none := by
        split_ifs <;> rfl
      rw [hk, Option.none_or, descriptorOf_append, hL, Option.none_or] at hd'
      simp only [descriptorOf, List.findSome?_cons, List.findSome?_nil, Option.or_none] at hd'
      split_ifs at hd' with hn
      subst hn
      refine ⟨buffer, ?_, hd d' (by cases d <;> exact hd')⟩
      rw [List.getElem?_append_right hi.sends_length.le, hi.sends_length,
        Nat.sub_self]
      rfl

theorem Inv.recv (hi : Inv sys) {buffer : CudaBuffer} (h : sys.step (.recv buffer) = some sys') :
    Inv sys' := by
  simp only [ChannelPair.step] at h
  obtain ⟨d, -, h₁⟩ := Option.bind_eq_some.1 h
  obtain ⟨sys₁, h₂, rfl⟩ := Option.map_eq_some'.1 h₁
  obtain ⟨r, hr, rfl⟩ := onReceiver_eq_some h₂
  have hg := grows_step _ hr
  refine ⟨hi.sender, (inv_with_device hi.receiver _).step hr,
    (step_cudaLib hr).trans hi.cudaLib_eq, hi.processIdentifier_lt,
    fun he => le_trans (hi.replies_le he) hg.replyWrites.length_le, fun he => ?_,
    hi.sends_length, ?_, hi.descriptors⟩
  · rw [hg.ackReadsDone_eq]; exact hi.acks_le (hg.error_eq ▸ he)
  · rw [hg.nextTensorBeingReceived_eq, List.length_append, hi.recvs_length]; rfl

theorem Inv.step (hi : Inv sys) {e : Event} (h : sys.step e = some sys') : Inv sys' := by
  cases e
  case send buffer => exact hi.send h
  case recv buffer => exact hi.recv h
  all_goals simp only [ChannelPair.step] at h
  case replyDelivered =>
    obtain ⟨w, hw, h₁⟩ := Option.bind_eq_some.1 h
    obtain ⟨reply, -, h₂⟩ := Option.bind_eq_some.1 h₁
    exact hi.replyRead h₂ fun _ => (List.getElem?_eq_some_iff.1 hw).1
  case replyFailed error => exact hi.replyRead h nofun
  case ackDelivered =>
    obtain ⟨w, hw, h₁⟩ := Option.bind_eq_some.1 h
    exact hi.ackRead h₁ fun _ => (List.getElem?_eq_some_iff.1 hw).1
  case ackFailed error => exact hi.ackRead h nofun
  case senderError error => exact hi.onSender h (fun he => by simp [Event.bump] at he) rfl
  case receiverError error => exact hi.onReceiver h (fun he => by simp [Event.bump] at he) rfl
  case senderClose => exact hi.onSender h (fun he => by simp [Event.bump] at he) rfl
  case receiverClose => exact hi.onReceiver h (fun he => by simp [Event.bump] at he) rfl
  case work sender stream =>
    cases h
    exact ⟨hi.1, hi.2, hi.3, hi.4, hi.5, hi.6, hi.7, hi.8, hi.9⟩

theorem Reachable.inv (h : Reachable sys) : Inv sys := by
  induction h with
  | init cudaLib senderId senderProcess receiverId receiverProcess h => exact inv_init _ _ _ _ _ h
  | step e _ hs ih => exact ih.step hs

end ChannelPair

end TensorPipe.Channel.CudaIpc
import TensorPipe.Channel.CudaIpc.Invariant

/-! # A channel after its error

`setError` keeps the first error, and the transition tables read it before any action: a
send or receive submitted afterwards goes from `UNINITIALIZED` to `FINISHED` with its
callback, and a send whose reply read completes goes to `FINISHED` without waiting or
writing its ack. So once the error is set the channel never touches the peer or the copy
engine again, whatever tasks run and in whatever order: it issues no read and writes
nothing on either connection, opens no IPC handle, enqueues on the device only the start
events the constructor of each new send records, and calls back every send and receive
with the stored error.

The error is also what `handleErrorImpl` keeps the channel's lifecycle in step with: in
every reachable state the channel is enrolled exactly while it has no error and its control
connections are closed exactly when it has one, so nothing is read or written on a closed
connection.
-/
namespace TensorPipe.Channel.CudaIpc
open OpsStateMachine

/-- A callback a channel with `error` set may make: a send or receive callback reporting
`error`, or the descriptor callback, which `sendImplFromLoop` always makes with success. -/
def Effect.Reports (error : Error) : Effect → Prop
  | .descriptorCallback _ e _ => e = none
  | .sendCallback _ e _ => e = error
  | .recvCallback _ e _ => e = error

namespace ChannelImpl

variable {c c' c'' : ChannelImpl}

/-- What tasks do to a channel whose error is set. -/
structure Aborts (c c' : ChannelImpl) : Prop where
  id_eq : c'.id = c.id
  error_eq : c'.error = c.error
  context_eq : c'.context = c.context
  replyReads_eq : c'.replyConnection.reads = c.replyConnection.reads
  replyWrites_eq : c'.replyConnection.writes = c.replyConnection.writes
  ackReads_eq : c'.ackConnection.reads = c.ackConnection.reads
  ackWrites_eq : c'.ackConnection.writes = c.ackConnection.writes
  device : ∃ new, c'.device = c.device ++ new ∧
    ∀ x ∈ new, ∃ k s, x = .record ⟨c.id, .startEv, k⟩ s
  log : ∃ L, c'.log = c.log ++ L ∧ ∀ x ∈ L, x.Reports c.error
  sends_called : ∀ k, c.nextTensorBeingSent ≤ k → k < c'.nextTensorBeingSent →
    ∃ m, Effect.sendCallback k c.error m ∈ c'.log
  recvs_called : ∀ k, c.nextTensorBeingReceived ≤ k → k < c'.nextTensorBeingReceived →
    ∃ m, Effect.recvCallback k c.error m ∈ c'.log

theorem nothing_submitted {a : Nat} {P : Nat → Prop} : ∀ k, a ≤ k → k < a → P k :=
  fun _ h₁ h₂ => absurd h₂ (Nat.not_lt.2 h₁)

namespace Aborts

theorem refl (c : ChannelImpl) : Aborts c c :=
  ⟨rfl, rfl, rfl, rfl, rfl, rfl, rfl, ⟨[], by simp, by simp⟩, ⟨[], by simp, by simp⟩,
    nothing_submitted, nothing_submitted⟩

theorem trans (h : Aborts c c') (h' : Aborts c' c'') : Aborts c c'' := by
  obtain ⟨new, hn, hnr⟩ := h.device
  obtain ⟨new', hn', hnr'⟩ := h'.device
  obtain ⟨L, hL, hLr⟩ := h.log
  obtain ⟨L', hL', hLr'⟩ := h'.log
  have keep : ∀ x, x ∈ c'.log → x ∈ c''.log := fun x hx => hL' ▸ List.mem_append_left _ hx
  refine ⟨h'.id_eq.trans h.id_eq, h'.error_eq.trans h.error_eq,
    h'.context_eq.trans h.context_eq, h'.replyReads_eq.trans h.replyReads_eq,
    h'.replyWrites_eq.trans h.replyWrites_eq, h'.ackReads_eq.trans h.ackReads_eq,
    h'.ackWrites_eq.trans h.ackWrites_eq,
    ⟨new ++ new', by rw [hn', hn, List.append_assoc], fun x hx => ?_⟩,
    ⟨L ++ L', by rw [hL', hL, List.append_assoc], fun x hx => ?_⟩,
    fun k h₁ h₂ => ?_, fun k h₁ h₂ => ?_⟩
  · rcases List.mem_append.1 hx with hx | hx
    · exact hnr x hx
    · rw [← h.id_eq]; exact hnr' x hx
  · rcases List.mem_append.1 hx with hx | hx
    · exact hLr x hx
    · rw [← h.error_eq]; exact hLr' x hx
  · by_cases hk : k < c'.nextTensorBeingSent
    · exact (h.sends_called k h₁ hk).imp fun _ => keep _
    · exact h.error_eq ▸ h'.sends_called k (Nat.not_lt.1 hk) h₂
  · by_cases hk : k < c'.nextTensorBeingReceived
    · exact (h.recvs_called k h₁ hk).imp fun _ => keep _
    · exact h.error_eq ▸ h'.recvs_called k (Nat.not_lt.1 hk) h₂

end Aborts

/-- Every loop task on a channel whose error is set. -/
theorem Inv.aborts_step (hi : Inv c) (he : c.error ≠ none) {e : Event}
    (h : c.step e = some c') : Aborts c c' := by
  obtain ⟨x, hx⟩ := Option.ne_none_iff_exists'.1 he
  have hs : c.error.isSome := by rw [hx]; rfl
  cases e with
  | send buffer =>
    cases h
    rw [ChannelImpl.sendFromLoop, sendImplFromLoop_of_some
      (c := { c with nextTensorBeingSent := c.nextTensorBeingSent + 1 })
      (hi.send_not_mem (le_refl _)) (hi.send_not_mem (Nat.le_succ _)) hs]
    refine ⟨rfl, rfl, rfl, rfl, rfl, rfl, rfl,
      ⟨_, rfl, fun x hx => ⟨_, _, List.mem_singleton.1 hx⟩⟩, ⟨_, rfl, by simp [Effect.Reports]⟩,
      fun k h₁ h₂ => ?_, nothing_submitted⟩
    obtain rfl := Nat.le_antisymm (Nat.le_of_lt_succ h₂) h₁
    exact ⟨_, List.mem_append_right _ (List.mem_cons_self _ _)⟩
  | recv descriptor buffer =>
    cases hd : loadDescriptor descriptor with
    | none =>
      rw [ChannelImpl.step, ChannelImpl.recvFromLoop, recvImplFromLoop_of_malformed hd] at h
      cases h
    | some d =>
      rw [ChannelImpl.step, ChannelImpl.recvFromLoop, recvImplFromLoop_of_some
        (c := { c with nextTensorBeingReceived := c.nextTensorBeingReceived + 1 })
        (hi.recv_not_mem (le_refl _)) (hi.recv_not_mem (Nat.le_succ _)) hd hs] at h
      cases h
      refine ⟨rfl, rfl, rfl, rfl, rfl, rfl, rfl, ⟨[], by simp, by simp⟩,
        ⟨_, rfl, by simp [Effect.Reports]⟩, nothing_submitted,
        fun k h₁ h₂ => ?_⟩
      obtain rfl := Nat.le_antisymm (Nat.le_of_lt_succ h₂) h₁
      exact ⟨_, List.mem_append_right _ (List.mem_singleton_self _)⟩
  | replyRead error reply =>
    cases h
    cases hp : c.replyConnection.pending with
    | nil => rw [replyReadCompletion_of_nil hp]; exact .refl c
    | cons k rest =>
      obtain ⟨rfl, op, tail, hq, hsq, hw, hn⟩ := hi.reply_head hp
      rw [← hsq] at hp hn
      rw [replyReadCompletion_of_head hi.quiet hp hq hw hn,
        setError_of_quiet (c := { c with replyConnection := c.replyConnection.completeRead })
          ⟨hi.quiet.send, hi.quiet.recv⟩]
      simp only [hx, Option.or_some, reduceCtorEq, if_false]
      exact ⟨rfl, hx.symm, rfl, rfl, rfl, rfl, rfl, ⟨[], by simp, by simp⟩,
        ⟨_, rfl, by simp [Effect.Reports, hx]⟩, nothing_submitted, nothing_submitted⟩
  | ackRead error =>
    cases h
    cases hp : c.ackConnection.pending with
    | nil => rw [ackReadCompletion_of_nil hp]; exact .refl c
    | cons k rest =>
      obtain ⟨rfl, op, tail, hq, hsq, hw, hn⟩ := hi.ack_head hp
      rw [← hsq] at hp hn
      rw [ackReadCompletion_of_head hi.quiet hp hq hw hn,
        setError_of_quiet (c := { c with ackConnection := c.ackConnection.completeRead })
          ⟨hi.quiet.send, hi.quiet.recv⟩]
      exact ⟨rfl, by simp [hx], rfl, rfl, rfl, rfl, rfl, ⟨[], by simp, by simp⟩,
        ⟨[], by simp, by simp⟩, nothing_submitted, nothing_submitted⟩
  | fail _ | close =>
    cases h
    show Aborts c (c.setError _)
    rw [setError_of_quiet hi.quiet]
    exact ⟨rfl, by simp [hx], rfl, rfl, rfl, rfl, rfl, ⟨[], by simp, by simp⟩,
      ⟨[], by simp, by simp⟩, nothing_submitted, nothing_submitted⟩

section Lifecycle

/-- What `handleErrorImpl` keeps in step with the error: the channel is enrolled with its
context exactly while it has no error, and each control connection is closed exactly when
it has one. -/
def Lifecycle (c : ChannelImpl) : Prop :=
  c.enrolled = c.error.isNone ∧ c.replyConnection.closed = c.error.isSome ∧
    c.ackConnection.closed = c.error.isSome

instance : DecidablePred Lifecycle := fun _ => inferInstanceAs (Decidable (_ ∧ _ ∧ _))

theorem Lifecycle.setError (hq : Quiet c) (hl : Lifecycle c) (error : Error) :
    Lifecycle (c.setError error) := by
  obtain ⟨h₁, h₂, h₃⟩ := hl
  rw [setError_of_quiet hq]
  simp only [Lifecycle, h₁, h₂, h₃]
  cases c.error <;> cases error <;> exact ⟨rfl, rfl, rfl⟩

/-- Every loop task keeps the lifecycle in step with the error: the submissions and the
actions leave the connections and the enrolment alone, and the error reaches them only
through `setError`. -/
theorem Inv.lifecycle_step (hi : Inv c) (hl : Lifecycle c) {e : Event}
    (h : c.step e = some c') : Lifecycle c' := by
  cases e with
  | send buffer =>
    cases h
    rw [ChannelImpl.sendFromLoop]
    by_cases he : c.error = none
    · rwa [sendImplFromLoop_of_none (c := { c with nextTensorBeingSent := c.nextTensorBeingSent + 1 })
        hi.quiet.send (hi.send_not_mem (le_refl _)) (hi.send_not_mem (Nat.le_succ _)) he]
    · rwa [sendImplFromLoop_of_some (c := { c with nextTensorBeingSent := c.nextTensorBeingSent + 1 })
        (hi.send_not_mem (le_refl _)) (hi.send_not_mem (Nat.le_succ _))
        (Option.ne_none_iff_isSome.1 he)]
  | recv descriptor buffer =>
    cases hd : loadDescriptor descriptor with
    | none =>
      rw [ChannelImpl.step, ChannelImpl.recvFromLoop, recvImplFromLoop_of_malformed hd] at h
      cases h
    | some d =>
      rw [ChannelImpl.step, ChannelImpl.recvFromLoop] at h
      by_cases he : c.error = none
      · rw [recvImplFromLoop_of_none
          (c := { c with nextTensorBeingReceived := c.nextTensorBeingReceived + 1 }) hi.quiet.recv
          (hi.recv_not_mem (le_refl _)) (hi.recv_not_mem (Nat.le_succ _)) hd he] at h
        cases h; exact hl
      · rw [recvImplFromLoop_of_some
          (c := { c with nextTensorBeingReceived := c.nextTensorBeingReceived + 1 })
          (hi.recv_not_mem (le_refl _)) (hi.recv_not_mem (Nat.le_succ _)) hd
          (Option.ne_none_iff_isSome.1 he)] at h
        cases h; exact hl
  | replyRead error reply =>
    cases h
    cases hp : c.replyConnection.pending with
    | nil => rwa [replyReadCompletion_of_nil hp]
    | cons k rest =>
      obtain ⟨rfl, op, tail, hq, hs, hw, hn⟩ := hi.reply_head hp
      rw [← hs] at hp hn
      have hc := Lifecycle.setError (c := { c with replyConnection := c.replyConnection.completeRead })
        ⟨hi.quiet.send, hi.quiet.recv⟩ hl error
      rw [replyReadCompletion_of_head hi.quiet hp hq hw hn]
      dsimp only
      split_ifs <;> exact hc
  | ackRead error =>
    cases h
    cases hp : c.ackConnection.pending with
    | nil => rwa [ackReadCompletion_of_nil hp]
    | cons k rest =>
      obtain ⟨rfl, op, tail, hq, hs, hw, hn⟩ := hi.ack_head hp
      rw [← hs] at hp hn
      rw [ackReadCompletion_of_head hi.quiet hp hq hw hn]
      exact Lifecycle.setError (c := { c with ackConnection := c.ackConnection.completeRead })
        ⟨hi.quiet.send, hi.quiet.recv⟩ hl error
  | fail _ | close => cases h; exact hl.setError hi.quiet _

theorem Reachable.lifecycle (h : Reachable c) : Lifecycle c := by
  induction h with
  | init => exact ⟨rfl, rfl, rfl⟩
  | step e hr hs ih => exact hr.inv.lifecycle_step ih hs

/-- `handleErrorImpl` runs once, on the first error. In every reachable state the channel is
enrolled with its context exactly while it has no error and its two control connections are
closed exactly when it has one; and once they are closed, every loop task aborts: it reads
and writes nothing more on either connection. -/
theorem reachable_lifecycle (h : Reachable c) :
    Lifecycle c ∧ ∀ {e : Event} {c' : ChannelImpl}, c.step e = some c' →
      c.replyConnection.closed = true → Aborts c c' := by
  have hl := h.lifecycle
  refine ⟨hl, fun hs hc => h.inv.aborts_step ?_ hs⟩
  rw [← Option.isSome_iff_ne_none, ← hl.2.1, hc]

/-- A channel closed after one send: unenrolled, both connections closed. -/
theorem reachable_lifecycle_after_close :
    let c := ((init [] ⟨.flat, [], []⟩).sendFromLoop ⟨0, 256, 0⟩).closeFromLoop
    c.enrolled = false ∧ c.ackConnection.closed = true ∧ Lifecycle c ∧
      ∀ {e : Event} {c' : ChannelImpl}, c.step e = some c' →
        c.replyConnection.closed = true → Aborts c c' :=
  ⟨by decide, by decide,
    reachable_lifecycle (.step .close (.step (.send ⟨0, 256, 0⟩) (.init _ _) rfl) rfl)⟩

end Lifecycle

end ChannelImpl

end TensorPipe.Channel.CudaIpc

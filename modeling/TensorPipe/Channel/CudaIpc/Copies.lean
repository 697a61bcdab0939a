import TensorPipe.Channel.CudaIpc.DeviceOrder

/-! # Every copy belongs to one receive

The only copy the pair enqueues is the one of a receive without error, between its wait on
the start event and the record of its stop event, two places before the mark of its
callback. So, over every run, the copies on the trace match the receives called back with
success one to one: each copy reads the buffer of the send whose index the receive took
into the receive's buffer, every receive called back with success has its copy, and no
receive copies twice.
-/
namespace TensorPipe.Channel.CudaIpc.ChannelPair
open OpsStateMachine ChannelImpl

variable {sys sys' : ChannelPair}

/-- The copy at `j` is receive `k`'s: receive `k` was called back with success right after
it, and it copies send `k`'s buffer into receive `k`'s. -/
def CopyOf (sys : ChannelPair) (j k : Nat) : Prop :=
  Effect.recvCallback k none (j + 2) ∈ sys.receiver.log ∧ ∃ bS bR, sys.sends[k]? = some bS ∧
    sys.recvs[k]? = some bR ∧
    sys.trace[j]? = some (.memcpyAsync bR.ptr bS.ptr bR.length (sys.receiver.stream bR.stream))

/-- Each copy on the trace is followed, two places on, by a receive's success callback. -/
def CopiesCalledBack (sys : ChannelPair) : Prop :=
  ∀ (j : Nat) (dst src count : UInt64) (s : Stream),
    sys.trace[j]? = some (.memcpyAsync dst src count s) →
      ∃ k, Effect.recvCallback k none (j + 2) ∈ sys.receiver.log

theorem CopiesCalledBack.append (hc : CopiesCalledBack sys) (hx : Stable sys sys')
    (new : List DeviceOp) (htr : sys'.trace = sys.trace ++ new)
    (hnew : ∀ i dst src count s, new[i]? = some (.memcpyAsync dst src count s) →
      ∃ k, Effect.recvCallback k none (sys.trace.length + i + 2) ∈ sys'.receiver.log) :
    CopiesCalledBack sys' := by
  intro j dst src count s hj
  rw [htr] at hj
  by_cases hlt : j < sys.trace.length
  · rw [List.getElem?_append_left hlt] at hj
    obtain ⟨k, hk⟩ := hc j dst src count s hj
    exact ⟨k, hx.receiver_log.subset hk⟩
  · rw [List.getElem?_append_right (Nat.le_of_not_lt hlt)] at hj
    obtain ⟨k, hk⟩ := hnew _ dst src count s hj
    exact ⟨k, by rwa [Nat.add_sub_cancel' (Nat.le_of_not_lt hlt)] at hk⟩

theorem CopiesCalledBack.move (hc : CopiesCalledBack sys) (hm : Move sys sys') :
    CopiesCalledBack sys' := by
  have hx := hm.stable
  have none_of_no_copy : ∀ new : List DeviceOp, (∀ x ∈ new, ∀ dst src count s,
      x ≠ .memcpyAsync dst src count s) → ∀ i dst src count s,
      new[i]? = some (.memcpyAsync dst src count s) →
        ∃ k, Effect.recvCallback k none (sys.trace.length + i + 2) ∈ sys'.receiver.log :=
    fun new hn i dst src count s h => absurd rfl (hn _ (List.getElem?_mem h) dst src count s)
  cases hm with
  | senderSilent _ _ hsil | receiverSilent _ _ _ hsil =>
    exact hc.append hx [] (by simpa using hsil.device_eq) (none_of_no_copy [] (by simp))
  | send _ _ _ _ hdev | reply _ _ _ _ _ _ _ _ _ hdev =>
    exact hc.append hx _ hdev (none_of_no_copy _ (by simp))
  | recv _ _ _ k _ _ _ _ _ _ _ hdev hlog =>
    refine hc.append hx _ hdev fun i dst src count s h => ⟨k, ?_⟩
    rcases i with _ | _ | _ | i <;> simp only [List.getElem?_cons_zero, List.getElem?_cons_succ,
      List.getElem?_nil, Option.some.injEq, reduceCtorEq] at h
    rw [hlog]
    exact List.mem_append_right _ (List.mem_singleton.2 rfl)
  | work => exact hc.append hx _ rfl (none_of_no_copy _ (by simp))

theorem Reachable.copiesCalledBack (h : Reachable sys) : CopiesCalledBack sys := by
  induction h with
  | init => intro j _ _ _ _ hj; simp [ChannelPair.init] at hj
  | step e hr hs ih => exact ih.move (hr.inv.move hs)

theorem DeviceInv.copyOf (hd : DeviceInv sys) {k m : Nat}
    (hk : Effect.recvCallback k none m ∈ sys.receiver.log) : ∃ j, m = j + 2 ∧ CopyOf sys j k := by
  obtain ⟨bS, bR, j, hbS, hbR, rfl, -, hcopy, -⟩ := hd.copied k m hk
  exact ⟨j + 1, rfl, hk, bS, bR, hbS, hbR, hcopy⟩

theorem DeviceInv.stopEv_of_copyOf (hd : DeviceInv sys) {j k : Nat} (hc : CopyOf sys j k) :
    ∃ s, sys.trace[j + 1]? = some (.record ⟨sys.receiver.id, .stopEv, k⟩ s) := by
  obtain ⟨bS, bR, j₀, -, -, hj, -, -, hrec, -⟩ := hd.copied k (j + 2) hc.1
  obtain rfl : j = j₀ + 1 := by omega
  exact ⟨_, hrec⟩

/-- Data moves once per transfer. In every reachable state of the pair, under any
interleaving and any errors, every copy on the device is the copy of exactly one receive
called back with success, from the buffer of the send with the same index into the
receive's buffer; every receive called back with success has its copy; and no receive has
two. -/
theorem reachable_copies_matched (h : Reachable sys) :
    (∀ j dst src count s, sys.trace[j]? = some (.memcpyAsync dst src count s) →
      ∃ k, CopyOf sys j k) ∧
    (∀ j k k', CopyOf sys j k → CopyOf sys j k' → k = k') ∧
    (∀ k m, Effect.recvCallback k none m ∈ sys.receiver.log → ∃ j, m = j + 2 ∧ CopyOf sys j k) ∧
    ∀ j j' k, CopyOf sys j k → CopyOf sys j' k → j = j' := by
  have hd := h.deviceInv
  refine ⟨fun j dst src count s hj => ?_, fun j k k' h₁ h₂ => ?_, fun k m hk => hd.copyOf hk,
    fun j j' k h₁ h₂ => ?_⟩
  · obtain ⟨k, hk⟩ := h.copiesCalledBack j dst src count s hj
    obtain ⟨j', hj', hcopy⟩ := hd.copyOf hk
    obtain rfl : j = j' := by omega
    exact ⟨k, hcopy⟩
  · obtain ⟨s, hs⟩ := hd.stopEv_of_copyOf h₁
    obtain ⟨s', hs'⟩ := hd.stopEv_of_copyOf h₂
    have he := hs.symm.trans hs'
    simp only [Option.some.injEq, DeviceOp.record.injEq, CudaEvent.mk.injEq] at he
    exact he.1.2.2
  · have hn := h.inv.receiver.recv.callbacks_eq ▸ List.nodup_range _
    have := (recvCallback_unique hn h₁.1 h₂.1).2
    omega

set_option maxRecDepth 100000 in
/-- The first transfer: the copy at `2` is receive `0`'s, from send `0`'s buffer. -/
theorem reachable_copies_matched_first_transfer :
    let sys := ((init .flat [1] [2] [3] [4]).run [.send ⟨0, 256, 0⟩,
      .recv ⟨4096, 256, 1⟩]).get (by decide)
    sys.trace[2]? = some (.memcpyAsync 4096 0 256 ⟨[4], 1⟩) ∧
    (∀ j dst src count s, sys.trace[j]? = some (.memcpyAsync dst src count s) →
      ∃ k, CopyOf sys j k) ∧
    (∀ j k k', CopyOf sys j k → CopyOf sys j k' → k = k') ∧
    (∀ k m, Effect.recvCallback k none m ∈ sys.receiver.log → ∃ j, m = j + 2 ∧ CopyOf sys j k) ∧
    ∀ j j' k, CopyOf sys j k → CopyOf sys j' k → j = j' :=
  ⟨by decide, reachable_copies_matched
    (Reachable.run (.init _ _ _ _ _ (by decide)) (Option.some_get _).symm)⟩

end TensorPipe.Channel.CudaIpc.ChannelPair

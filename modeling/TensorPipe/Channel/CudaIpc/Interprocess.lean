import TensorPipe.Channel.CudaIpc.DeviceOrder

/-! # Interprocess events and the handle cache

A peer reaches a channel's events through their IPC handles: a receive waits on the start
event its descriptor names, a send on the stop event its reply names. CUDA orders a wait
after the last record of the event enqueued before it, and lets a wait on an event with no
record pass at once. Over every run of the pair, whatever the interleaving and the errors,
each event is recorded at most once, by the side that owns it, for an operation that side
has submitted; the start event of every send is recorded; and each wait follows the record
of the event whose handle it names, which is that event's only record.

The receiver caches the mapping of each allocation it opens under the allocation
identifier. The cache holds one mapping per identifier, and for every descriptor the sender
can build it gives the base a fresh `cudaIpcOpenMemHandle` of the handle gives.
-/
namespace TensorPipe.Channel.CudaIpc.ChannelPair
open OpsStateMachine ChannelImpl

variable {sys sys' : ChannelPair}

section Records

/-- The events the trace records, in the order of their records. -/
def records (tr : List DeviceOp) : List CudaEvent :=
  tr.filterMap fun
    | .record e _ => some e
    | _ => none

theorem records_append (tr new : List DeviceOp) :
    records (tr ++ new) = records tr ++ records new :=
  List.filterMap_append _ _ _

theorem mem_records {tr : List DeviceOp} {i : Nat} {e : CudaEvent} {s : Stream}
    (h : tr[i]? = some (.record e s)) : e ∈ records tr :=
  List.mem_filterMap.2 ⟨_, List.getElem?_mem h, rfl⟩

theorem records_getElem?_inj {tr : List DeviceOp} (hn : (records tr).Nodup) {i i' : Nat}
    {e : CudaEvent} {s s' : Stream} (h : tr[i]? = some (.record e s))
    (h' : tr[i']? = some (.record e s')) : i = i' := by
  induction tr generalizing i i' with
  | nil => cases h
  | cons x tr ih =>
    rw [← List.singleton_append, records_append, List.nodup_append] at hn
    obtain ⟨-, hn, hd⟩ := hn
    cases i <;> cases i' <;> simp only [List.getElem?_cons_zero, List.getElem?_cons_succ,
      Option.some.injEq] at h h'
    · rfl
    · subst h; exact (hd (List.mem_singleton_self e) (mem_records h')).elim
    · subst h'; exact (hd (List.mem_singleton_self e) (mem_records h)).elim
    · exact congrArg _ (ih hn h h')

/-- The events the pair may have recorded: the start event of a send the sender has
submitted, or the stop event of a receive the receiver has submitted. -/
def Issued (sys : ChannelPair) (e : CudaEvent) : Prop :=
  e.channel = sys.sender.id ∧ e.role = .startEv ∧
      e.sequenceNumber < sys.sender.nextTensorBeingSent ∨
    e.channel = sys.receiver.id ∧ e.role = .stopEv ∧
      e.sequenceNumber < sys.receiver.nextTensorBeingReceived

instance (sys : ChannelPair) : DecidablePred (Issued sys) :=
  fun _ => inferInstanceAs (Decidable (_ ∨ _))

theorem Stable.issued (hx : Stable sys sys') (hi : Inv sys) (hi' : Inv sys') {e : CudaEvent}
    (h : Issued sys e) : Issued sys' e := by
  obtain ⟨L, hL⟩ := hx.sends
  obtain ⟨L', hL'⟩ := hx.recvs
  have hs : sys.sender.nextTensorBeingSent ≤ sys'.sender.nextTensorBeingSent := by
    rw [← hi.sends_length, ← hi'.sends_length, hL, List.length_append]; omega
  have hr : sys.receiver.nextTensorBeingReceived ≤ sys'.receiver.nextTensorBeingReceived := by
    rw [← hi.recvs_length, ← hi'.recvs_length, hL', List.length_append]; omega
  rw [Issued, hx.sender_id, hx.receiver_id]
  exact h.imp (fun ⟨h₁, h₂, h₃⟩ => ⟨h₁, h₂, h₃.trans_le hs⟩)
    fun ⟨h₁, h₂, h₃⟩ => ⟨h₁, h₂, h₃.trans_le hr⟩

end Records

section Waits

/-- Each wait on the trace names, through its handle, an event recorded before it. -/
def WaitsRecorded (lib : CudaDriver) (tr : List DeviceOp) : Prop :=
  ∀ (j : Nat) (handle : Bytes) (s : Stream), tr[j]? = some (.wait handle s) →
    ∃ i < j, ∃ (e : CudaEvent) (s' : Stream), tr[i]? = some (.record e s') ∧
      handle = lib.ipcGetEventHandle e

theorem WaitsRecorded.append {lib : CudaDriver} {tr : List DeviceOp} (h : WaitsRecorded lib tr)
    {new : List DeviceOp} (hnew : ∀ handle s, DeviceOp.wait handle s ∈ new →
      ∃ i < tr.length, ∃ e s', tr[i]? = some (.record e s') ∧ handle = lib.ipcGetEventHandle e) :
    WaitsRecorded lib (tr ++ new) := by
  intro j handle s hj
  by_cases hlt : j < tr.length
  · rw [List.getElem?_append_left hlt] at hj
    obtain ⟨i, hij, e, s', hi, he⟩ := h j handle s hj
    exact ⟨i, hij, e, s', getElem?_append_of_eq_some hi new, he⟩
  · rw [List.getElem?_append_right (Nat.le_of_not_lt hlt)] at hj
    obtain ⟨i, hi, e, s', hr, he⟩ := hnew handle s (List.getElem?_mem hj)
    exact ⟨i, by omega, e, s', getElem?_append_of_eq_some hr new, he⟩

end Waits

/-- What the records and the waits of the trace satisfy in every reachable state. -/
structure EventInv (sys : ChannelPair) : Prop where
  nodup : (records sys.trace).Nodup
  issued : ∀ e ∈ records sys.trace, Issued sys e
  waits : WaitsRecorded sys.sender.context.cudaLib sys.trace

theorem EventInv.append (hv : EventInv sys) (hi : Inv sys) (hi' : Inv sys')
    (hx : Stable sys sys') (new : List DeviceOp) (htr : sys'.trace = sys.trace ++ new)
    (hrec : ∀ e ∈ records new, Issued sys' e ∧ ¬Issued sys e) (hnd : (records new).Nodup)
    (hwait : ∀ handle s, DeviceOp.wait handle s ∈ new → ∃ i < sys.trace.length, ∃ e s',
      sys.trace[i]? = some (.record e s') ∧ handle = sys.sender.context.cudaLib.ipcGetEventHandle e) :
    EventInv sys' := by
  refine ⟨?_, ?_, ?_⟩
  · rw [htr, records_append]
    exact List.nodup_append.2 ⟨hv.nodup, hnd, fun e h h' => (hrec e h').2 (hv.issued e h)⟩
  · rw [htr, records_append]
    intro e he
    rcases List.mem_append.1 he with he | he
    · exact hx.issued hi hi' (hv.issued e he)
    · exact (hrec e he).1
  · rw [htr, hx.sender_context]
    exact hv.waits.append hwait

/-- Every move keeps the invariant: a send records its own new start event, a receive
without error its own new stop event after waiting on a start event recorded by its send,
a reply read waits on a stop event recorded by its receive, and nothing else records or
waits. -/
theorem EventInv.move (hv : EventInv sys) (hi : Inv sys) (hd : DeviceInv sys) (hi' : Inv sys')
    (hm : Move sys sys') : EventInv sys' := by
  have hx := hm.stable
  cases hm with
  | senderSilent _ _ hsil | receiverSilent _ _ _ hsil =>
    exact hv.append hi hi' hx [] (by simpa using hsil.device_eq) (by simp [records])
      List.nodup_nil (by simp)
  | send b s hid _ hdev =>
    have hn : sys.sender.nextTensorBeingSent < s.nextTensorBeingSent := by
      have hl := hi'.sends_length
      simp only [List.length_append, List.length_singleton] at hl
      have := hi.sends_length
      omega
    refine hv.append hi hi' hx _ hdev (fun e he => ?_) (List.nodup_singleton _) (by simp)
    simp only [records, List.filterMap_cons, List.filterMap_nil, List.mem_singleton] at he
    subst he
    exact ⟨.inl ⟨hid.symm, rfl, hn⟩, by simp [Issued]⟩
  | recv b b' r k d hk _ hb hd' hid _ hdev =>
    have hn : sys.receiver.nextTensorBeingReceived < r.nextTensorBeingReceived := by
      have hl := hi'.recvs_length
      simp only [List.length_append, List.length_singleton] at hl
      have := hi.recvs_length
      omega
    refine hv.append hi hi' hx _ hdev (fun e he => ?_) (List.nodup_singleton _)
      fun handle s hm => ?_
    · simp only [records, List.filterMap_cons, List.filterMap_nil, List.mem_singleton] at he
      subst he hk
      exact ⟨.inr ⟨hid.symm, rfl, hn⟩, by simp [Issued]⟩
    · simp only [List.mem_cons, DeviceOp.wait.injEq, reduceCtorEq, List.not_mem_nil,
        or_false] at hm
      obtain ⟨i, hrec⟩ := hd.started _ _ hb
      exact ⟨i, (List.getElem?_eq_some_iff.1 hrec).1, _, _, hrec, by rw [hm.1, hd']; rfl⟩
  | reply s op _ _ _ _ hlt _ _ hdev =>
    refine hv.append hi hi' hx _ hdev (by simp [records]) List.nodup_nil fun handle s hm => ?_
    simp only [List.mem_singleton, DeviceOp.wait.injEq] at hm
    obtain ⟨m, hm'⟩ := hd.replied _ hlt
    obtain ⟨bS, bR, j, -, -, rfl, -, -, hrec, -⟩ := hd.copied _ _ hm'
    exact ⟨j + 2, (List.getElem?_eq_some_iff.1 hrec).1, _, _, hrec, by rw [hm.1, hi.cudaLib_eq]⟩
  | work =>
    exact hv.append hi hi' hx _ rfl (by simp [records]) List.nodup_nil (by simp)

theorem Reachable.eventInv (h : Reachable sys) : EventInv sys := by
  induction h with
  | init => exact ⟨List.nodup_nil, by simp [ChannelPair.init, records],
      by simp [ChannelPair.init, WaitsRecorded]⟩
  | step e hr hs ih => exact ih.move hr.inv hr.deviceInv (hr.step e hs).inv (hr.inv.move hs)

/-- Each interprocess event is recorded at most once over a run, and only by the side that
owns it, for an operation that side has submitted; every send submitted has recorded its
start event. -/
theorem reachable_records_issued (h : Reachable sys) :
    (records sys.trace).Nodup ∧ (∀ e ∈ records sys.trace, Issued sys e) ∧
      ∀ k < sys.sender.nextTensorBeingSent,
        (⟨sys.sender.id, .startEv, k⟩ : CudaEvent) ∈ records sys.trace := by
  have hv := h.eventInv
  refine ⟨hv.nodup, hv.issued, fun k hk => ?_⟩
  rw [← h.inv.sends_length] at hk
  obtain ⟨i, hrec⟩ := h.deviceInv.started k _ (List.getElem?_eq_getElem hk)
  exact mem_records hrec

set_option maxRecDepth 100000 in
/-- A send and its receive record the send's start event and the receive's stop event. -/
theorem reachable_records_issued_first_transfer :
    let sys := ((init .flat [1] [2] [3] [4]).run [.send ⟨0, 256, 0⟩,
      .recv ⟨4096, 256, 1⟩]).get (by decide)
    records sys.trace = [⟨[1], .startEv, 0⟩, ⟨[3], .stopEv, 0⟩] ∧
    (records sys.trace).Nodup ∧ (∀ e ∈ records sys.trace, Issued sys e) ∧
      ∀ k < sys.sender.nextTensorBeingSent,
        (⟨sys.sender.id, .startEv, k⟩ : CudaEvent) ∈ records sys.trace :=
  ⟨by decide, reachable_records_issued
    (Reachable.run (.init _ _ _ _ _ (by decide)) (Option.some_get _).symm)⟩

section Cache

theorem openIpcHandle_keys_nodup {ctx : ContextImpl} (h : (ctx.ipcHandles.map Prod.fst).Nodup)
    (allocationId handle : Bytes) :
    ((ctx.openIpcHandle allocationId handle).1.ipcHandles.map Prod.fst).Nodup := by
  unfold ContextImpl.openIpcHandle
  split
  · exact h
  · rename_i hl
    rw [List.map_cons, List.nodup_cons]
    refine ⟨fun hm => ?_, h⟩
    obtain ⟨p, hp, rfl⟩ := List.mem_map.1 hm
    simpa using List.lookup_eq_none_iff.1 hl p hp

theorem Move.keys_nodup (hm : Move sys sys')
    (h : (sys.receiver.context.ipcHandles.map Prod.fst).Nodup) :
    (sys'.receiver.context.ipcHandles.map Prod.fst).Nodup := by
  cases hm with
  | receiverSilent r _ _ hsil => rw [hsil.context_eq]; exact h
  | recv _ _ r _ _ _ _ _ _ _ hctx => rw [hctx]; exact openIpcHandle_keys_nodup h _ _
  | senderSilent | send | reply | work => exact h

theorem Reachable.keys_nodup (h : Reachable sys) :
    (sys.receiver.context.ipcHandles.map Prod.fst).Nodup := by
  induction h with
  | init => exact List.nodup_nil
  | step e hr hs ih => exact (hr.inv.move hs).keys_nodup ih

end Cache

end TensorPipe.Channel.CudaIpc.ChannelPair

import TensorPipe.Channel.CudaIpc.Trace
import Mathlib.Data.UInt

/-! # The order of the device work

CUDA runs the work of one stream in the order it was enqueued, and work enqueued after a
wait on an event runs after the work enqueued before the event's last record. On the trace
of the pair, `HappensBefore` is that order: the transitive closure of two direct edges
between positions, same stream, and a record followed by a wait on the handle taken from the
recorded event. Every event of a run is recorded once, by the record that owns it.

`DeviceInv` says where each finished transfer put its work: the start event of each send on
its stream, the wait, copy and stop-event record of each successful receive right before its
callback's mark, and the wait of each successful send right before its own. It also says
that the receiver's handle cache maps each allocation identifier to the base the sender's
driver reports for it, so that the copy reads the sender's buffer. It holds in every
reachable state, and the order of a copy is a chain of direct edges through it.
-/
namespace TensorPipe.Channel.CudaIpc.ChannelPair
open OpsStateMachine ChannelImpl

variable {sys sys' : ChannelPair}

section Order

variable (handle : CudaEvent → Bytes) (tr : List DeviceOp)

/-- A direct edge of the device order: the work at `i` was enqueued before the work at `j`
on the same stream, or records an event that `j` waits on through its handle. -/
def DirectlyBefore (i j : Nat) : Prop :=
  i < j ∧ ∃ a b, tr[i]? = some a ∧ tr[j]? = some b ∧
    (a.stream = b.stream ∨ ∃ e s s', a = .record e s ∧ b = .wait (handle e) s')

/-- The device order: the work at `i` completes before the work at `j` starts. -/
def HappensBefore : Nat → Nat → Prop :=
  Relation.TransGen (DirectlyBefore handle tr)

variable {handle tr} {i j l : Nat}

theorem HappensBefore.of_stream {a b : DeviceOp} (hij : i < j) (ha : tr[i]? = some a)
    (hb : tr[j]? = some b) (hs : a.stream = b.stream) : HappensBefore handle tr i j :=
  .single ⟨hij, a, b, ha, hb, .inl hs⟩

theorem HappensBefore.of_event {e : CudaEvent} {s s' : Stream} (hij : i < j)
    (ha : tr[i]? = some (.record e s)) (hb : tr[j]? = some (.wait (handle e) s')) :
    HappensBefore handle tr i j :=
  .single ⟨hij, _, _, ha, hb, .inr ⟨e, s, s', rfl, rfl⟩⟩

theorem HappensBefore.trans (h₁ : HappensBefore handle tr i j)
    (h₂ : HappensBefore handle tr j l) : HappensBefore handle tr i l :=
  Relation.TransGen.trans h₁ h₂

end Order

section Facts

/-- Send `k` of `b` recorded its start event on the buffer's stream. -/
def Started (tr : List DeviceOp) (S : ChannelImpl) (k : Nat) (b : CudaBuffer) : Prop :=
  ∃ i : Nat, tr[i]? = some (.record ⟨S.id, .startEv, k⟩ (S.stream b.stream))

/-- Receive `k` of `bR`, from send `k` of `bS`, put its wait on send `k`'s start event, its
copy and the record of its stop event at `j`, `j + 1` and `j + 2` on the receive stream,
after the record of that start event. -/
def Copied (tr : List DeviceOp) (S R : ChannelImpl) (k : Nat) (bS bR : CudaBuffer)
    (j : Nat) : Prop :=
  tr[j]? = some (.wait (S.context.cudaLib.ipcGetEventHandle ⟨S.id, .startEv, k⟩)
    (R.stream bR.stream)) ∧
  tr[j + 1]? = some (.memcpyAsync bR.ptr bS.ptr bR.length (R.stream bR.stream)) ∧
  tr[j + 2]? = some (.record ⟨R.id, .stopEv, k⟩ (R.stream bR.stream)) ∧
  ∃ i < j, tr[i]? = some (.record ⟨S.id, .startEv, k⟩ (S.stream bS.stream))

/-- Send `k` of `b` put its wait on receive `k`'s stop event at `j` on the send stream. -/
def Waited (tr : List DeviceOp) (S R : ChannelImpl) (k : Nat) (b : CudaBuffer) (j : Nat) :
    Prop :=
  tr[j]? = some (.wait (R.context.cudaLib.ipcGetEventHandle ⟨R.id, .stopEv, k⟩)
    (S.stream b.stream))

/-- Every mapping in the receiver's cache is one a descriptor of the sender names: its
allocation identifier, with the base the sender's driver reports. -/
def Cached (ctx ctxS : ContextImpl) : Prop :=
  ∀ a base, (a, base) ∈ ctx.ipcHandles → ∃ op : SendOperation,
    a = (makeDescriptor ctxS op).allocationId ∧ base = ctxS.cudaLib.memGetAddressRange op.ptr

end Facts

section Cache

theorem mem_of_lookup_eq_some {l : List (Bytes × UInt64)} {a : Bytes} {b : UInt64}
    (h : l.lookup a = some b) : (a, b) ∈ l := by
  induction l with
  | nil => cases h
  | cons p l ih =>
    obtain ⟨a', b'⟩ := p
    rw [List.lookup_cons] at h
    split at h
    · rename_i ha
      cases h
      rw [beq_iff_eq.1 ha]
      exact List.mem_cons_self _ _
    · exact List.mem_cons_of_mem _ (ih h)

theorem allocationId_inj {ctx : ContextImpl} {op op' : SendOperation}
    (h : (makeDescriptor ctx op).allocationId = (makeDescriptor ctx op').allocationId) :
    ctx.cudaLib.memGetAddressRange op.ptr = ctx.cudaLib.memGetAddressRange op'.ptr := by
  simp only [makeDescriptor, List.append_cancel_left_eq] at h
  exact ctx.cudaLib.bufferId_injective _ _
    (UInt64.eq_of_val_eq (Fin.ext (decimalString_injective h)))

variable {ctx ctxS : ContextImpl} (hc : Cached ctx ctxS) (hlib : ctx.cudaLib = ctxS.cudaLib)
  (op : SendOperation)
include hc hlib

theorem openIpcHandle_base :
    (ctx.openIpcHandle (makeDescriptor ctxS op).allocationId (makeDescriptor ctxS op).handle).2 =
      ctxS.cudaLib.memGetAddressRange op.ptr := by
  unfold ContextImpl.openIpcHandle
  split
  · rename_i base hl
    obtain ⟨op', ha, rfl⟩ := hc _ _ (mem_of_lookup_eq_some hl)
    exact (allocationId_inj ha).symm
  · simp [makeDescriptor, hlib]

theorem openIpcHandle_cached :
    Cached (ctx.openIpcHandle (makeDescriptor ctxS op).allocationId
      (makeDescriptor ctxS op).handle).1 ctxS := by
  unfold ContextImpl.openIpcHandle
  split
  · exact hc
  · intro a base h
    rcases List.mem_cons.1 h with h | h
    · cases h
      exact ⟨op, rfl, by simp [makeDescriptor, hlib]⟩
    · exact hc a base h

theorem openIpcHandle_add_offset :
    (ctx.openIpcHandle (makeDescriptor ctxS op).allocationId (makeDescriptor ctxS op).handle).2 +
      (makeDescriptor ctxS op).offset = op.ptr := by
  rw [openIpcHandle_base hc hlib]
  exact add_sub_cancel _ _

end Cache

section Stable

theorem getElem?_append_of_eq_some {α : Type} {l : List α} {i : Nat} {x : α}
    (h : l[i]? = some x) (l' : List α) : (l ++ l')[i]? = some x := by
  rw [List.getElem?_append_left (List.getElem?_eq_some_iff.1 h).1, h]

theorem getElem?_append_length_add {α : Type} (l l' : List α) (n : Nat) :
    (l ++ l')[l.length + n]? = l'[n]? := by
  rw [List.getElem?_append_right (Nat.le_add_right _ _), Nat.add_sub_cancel_left]

/-- What every move keeps: the trace, the submissions and the receiver's callbacks only
grow, and neither side changes its name, its driver or its process. -/
structure Stable (sys sys' : ChannelPair) : Prop where
  trace : ∃ new, sys'.trace = sys.trace ++ new
  sends : ∃ L, sys'.sends = sys.sends ++ L
  recvs : ∃ L, sys'.recvs = sys.recvs ++ L
  sender_id : sys'.sender.id = sys.sender.id
  sender_context : sys'.sender.context = sys.sender.context
  receiver_id : sys'.receiver.id = sys.receiver.id
  receiver_cudaLib : sys'.receiver.context.cudaLib = sys.receiver.context.cudaLib
  receiver_pid :
    sys'.receiver.context.processIdentifier = sys.receiver.context.processIdentifier
  receiver_log : sys.receiver.log <+: sys'.receiver.log

theorem Move.stable (hm : Move sys sys') : Stable sys sys' := by
  cases hm with
  | senderSilent s hid h =>
    exact ⟨⟨[], by simpa using h.device_eq⟩, ⟨[], by simp⟩, ⟨[], by simp⟩, hid,
      h.context_eq, rfl, rfl, rfl, List.prefix_refl _⟩
  | receiverSilent r L hid h =>
    obtain ⟨L', hL, -⟩ := h.log_eq
    exact ⟨⟨[], by simpa using h.device_eq⟩, ⟨[], by simp⟩, ⟨L, rfl⟩, rfl, rfl, hid,
      by rw [h.context_eq], by rw [h.context_eq], ⟨L', hL.symm⟩⟩
  | send b s hid hctx hdev =>
    exact ⟨⟨_, hdev⟩, ⟨[b], rfl⟩, ⟨[], by simp⟩, hid, hctx, rfl, rfl, rfl,
      List.prefix_refl _⟩
  | recv b b' r k d hk he hb hd hid hctx hdev hlog =>
    exact ⟨⟨_, hdev⟩, ⟨[], by simp⟩, ⟨[b], rfl⟩, rfl, rfl, hid, by simp [hctx],
      by simp [hctx], ⟨_, hlog.symm⟩⟩
  | reply s op tail he hq hk hlt hid hctx hdev =>
    exact ⟨⟨_, hdev⟩, ⟨[], by simp⟩, ⟨[], by simp⟩, hid, hctx, rfl, rfl, rfl,
      List.prefix_refl _⟩
  | work sender stream =>
    exact ⟨⟨_, rfl⟩, ⟨[], by simp⟩, ⟨[], by simp⟩, rfl, rfl, rfl, rfl, rfl,
      List.prefix_refl _⟩

variable (hx : Stable sys sys') {k j : Nat} {b bS bR : CudaBuffer}
include hx

theorem Stable.trace_getElem? {i : Nat} {x : DeviceOp} (h : sys.trace[i]? = some x) :
    sys'.trace[i]? = some x := by
  obtain ⟨new, hn⟩ := hx.trace
  rw [hn]
  exact getElem?_append_of_eq_some h new

theorem Stable.sends_getElem? (h : sys.sends[k]? = some b) : sys'.sends[k]? = some b := by
  obtain ⟨L, hL⟩ := hx.sends
  rw [hL]
  exact getElem?_append_of_eq_some h L

theorem Stable.recvs_getElem? (h : sys.recvs[k]? = some b) : sys'.recvs[k]? = some b := by
  obtain ⟨L, hL⟩ := hx.recvs
  rw [hL]
  exact getElem?_append_of_eq_some h L

theorem Stable.sender_stream : sys'.sender.stream = sys.sender.stream := by
  funext s
  simp only [stream, hx.sender_context]

theorem Stable.receiver_stream : sys'.receiver.stream = sys.receiver.stream := by
  funext s
  simp only [stream, hx.receiver_pid]

theorem Stable.started (h : Started sys.trace sys.sender k b) :
    Started sys'.trace sys'.sender k b := by
  obtain ⟨i, hi⟩ := h
  exact ⟨i, by rw [hx.sender_id, hx.sender_stream]; exact hx.trace_getElem? hi⟩

theorem Stable.copied (h : Copied sys.trace sys.sender sys.receiver k bS bR j) :
    Copied sys'.trace sys'.sender sys'.receiver k bS bR j := by
  obtain ⟨h₁, h₂, h₃, i, hij, h₄⟩ := h
  unfold Copied
  rw [hx.sender_id, hx.sender_context, hx.receiver_id, hx.sender_stream, hx.receiver_stream]
  exact ⟨hx.trace_getElem? h₁, hx.trace_getElem? h₂, hx.trace_getElem? h₃, i, hij,
    hx.trace_getElem? h₄⟩

theorem Stable.waited (h : Waited sys.trace sys.sender sys.receiver k b j) :
    Waited sys'.trace sys'.sender sys'.receiver k b j := by
  unfold Waited
  rw [hx.receiver_cudaLib, hx.receiver_id, hx.sender_stream]
  exact hx.trace_getElem? h

end Stable

/-- Where the work of each transfer is, and what the receiver's handle cache holds. -/
structure DeviceInv (sys : ChannelPair) : Prop where
  started : ∀ k b, sys.sends[k]? = some b → Started sys.trace sys.sender k b
  copied : ∀ k m, Effect.recvCallback k none m ∈ sys.receiver.log → ∃ bS bR j,
    sys.sends[k]? = some bS ∧ sys.recvs[k]? = some bR ∧ m = j + 3 ∧
      Copied sys.trace sys.sender sys.receiver k bS bR j
  replied : ∀ k < sys.receiver.replyConnection.writes.length,
    ∃ m, Effect.recvCallback k none m ∈ sys.receiver.log
  waited : ∀ k m, Effect.sendCallback k none m ∈ sys.sender.log → ∃ bS j mR,
    sys.sends[k]? = some bS ∧ m = j + 1 ∧ Waited sys.trace sys.sender sys.receiver k bS j ∧
      Effect.recvCallback k none mR ∈ sys.receiver.log ∧ mR ≤ j
  cached : Cached sys.receiver.context sys.sender.context
  streams : ∀ op ∈ sys.sender.sendOps,
    ∃ b, sys.sends[op.sequenceNumber]? = some b ∧ op.stream = b.stream

theorem deviceInv_init (cudaLib : CudaDriver)
    (senderId senderProcess receiverId receiverProcess : Bytes) :
    DeviceInv (init cudaLib senderId senderProcess receiverId receiverProcess) :=
  ⟨fun _ _ h => by simp [init] at h, fun _ _ h => by simp [init, ChannelImpl.init] at h,
    fun _ h => by simp [init, ChannelImpl.init, Connection.empty] at h,
    fun _ _ h => by simp [init, ChannelImpl.init] at h, fun _ _ h => (by cases h),
    fun _ h => by simp [init, ChannelImpl.init] at h⟩

section Step

variable (hd : DeviceInv sys) (hx : Stable sys sys') (k m : Nat) (b : CudaBuffer)
include hd hx

theorem DeviceInv.started_of (hb : sys.sends[k]? = some b) : Started sys'.trace sys'.sender k b :=
  hx.started (hd.started k b hb)

theorem DeviceInv.copied_of (hm : Effect.recvCallback k none m ∈ sys.receiver.log) :
    ∃ bS bR j, sys'.sends[k]? = some bS ∧ sys'.recvs[k]? = some bR ∧ m = j + 3 ∧
      Copied sys'.trace sys'.sender sys'.receiver k bS bR j := by
  obtain ⟨bS, bR, j, h₁, h₂, h₃, h₄⟩ := hd.copied k m hm
  exact ⟨bS, bR, j, hx.sends_getElem? h₁, hx.recvs_getElem? h₂, h₃, hx.copied h₄⟩

theorem DeviceInv.waited_of (hm : Effect.sendCallback k none m ∈ sys.sender.log) :
    ∃ bS j mR, sys'.sends[k]? = some bS ∧ m = j + 1 ∧
      Waited sys'.trace sys'.sender sys'.receiver k bS j ∧
      Effect.recvCallback k none mR ∈ sys'.receiver.log ∧ mR ≤ j := by
  obtain ⟨bS, j, mR, h₁, h₂, h₃, h₄, h₅⟩ := hd.waited k m hm
  exact ⟨bS, j, mR, hx.sends_getElem? h₁, h₂, hx.waited h₃, hx.receiver_log.subset h₄,
    h₅⟩

end Step

/-- Every move keeps the device invariant. -/
theorem DeviceInv.move (hi : Inv sys) (hd : DeviceInv sys) (hm : Move sys sys') :
    DeviceInv sys' := by
  have hx := hm.stable
  cases hm with
  | senderSilent s hid hsil =>
    obtain ⟨L, hL, hLs⟩ := hsil.log_eq
    refine ⟨hd.started_of hx, hd.copied_of hx, hd.replied,
      fun k m hm => hd.waited_of hx _ _ ((List.mem_append.1 (hL ▸ hm)).resolve_right (hLs k m).1),
      by rw [hsil.context_eq]; exact hd.cached,
      fun op hop => hd.streams op (hsil.sendOps_subset hop)⟩
  | receiverSilent r L hid hsil =>
    obtain ⟨L', hL, hLs⟩ := hsil.log_eq
    refine ⟨hd.started_of hx,
      fun k m hm => hd.copied_of hx _ _ ((List.mem_append.1 (hL ▸ hm)).resolve_right (hLs k m).2),
      fun k hk => ?_, hd.waited_of hx, by rw [hsil.context_eq]; exact hd.cached,
      hd.streams⟩
    obtain ⟨m, hm⟩ := hd.replied k (hsil.writes_eq ▸ hk)
    exact ⟨m, hx.receiver_log.subset hm⟩
  | send b s hid hctx hdev hlog hops =>
    obtain ⟨L, hL, hLs⟩ := hlog
    refine ⟨fun k b' hb => ?_, hd.copied_of hx, hd.replied,
      fun k m hm => hd.waited_of hx _ _ ((List.mem_append.1 (hL ▸ hm)).resolve_right (hLs k m)),
      by rw [hctx]; exact hd.cached, fun op hop => ?_⟩
    · rw [List.getElem?_append, List.getElem?_cons] at hb
      split_ifs at hb with hk hk'
      · exact hd.started_of hx _ _ hb
      · obtain ⟨rfl, rfl⟩ : k = sys.sends.length ∧ b = b' := ⟨by omega, Option.some.inj hb⟩
        refine ⟨sys.trace.length, ?_⟩
        rw [hx.sender_stream]
        show s.device[sys.trace.length]? = _
        rw [hdev, hid, hi.sends_length, List.getElem?_concat_length]
      · simp at hb
    · rcases hops op hop with hop | ⟨hn, hs⟩
      · obtain ⟨b', hb', hs⟩ := hd.streams op hop
        exact ⟨b', hx.sends_getElem? hb', hs⟩
      · refine ⟨b, ?_, hs⟩
        rw [hn, ← hi.sends_length]
        exact List.getElem?_concat_length _ _
  | recv b b' r k d hk he hb hd' hid hctx hdev hlog hw =>
    subst hk hd'
    have hlen : sys.receiver.replyConnection.writes.length =
        sys.receiver.nextTensorBeingReceived := by
      rw [hi.receiver.recv.replies_eq, List.length_map, List.length_range,
        hi.receiver.recv.reads_eq he]
    refine ⟨hd.started_of hx, fun k m hm => ?_, fun k hk => ?_, hd.waited_of hx, ?_,
      hd.streams⟩
    · rw [hlog] at hm
      rcases List.mem_append.1 hm with hm | hm
      · exact hd.copied_of hx _ _ hm
      · simp only [List.mem_singleton, Effect.recvCallback.injEq, true_and] at hm
        obtain ⟨rfl, rfl⟩ := hm
        obtain ⟨i, hi'⟩ := hd.started _ _ hb
        have hit := (List.getElem?_eq_some_iff.1 hi').1
        refine ⟨b', b, sys.trace.length, hb, ?_, rfl, ?_⟩
        · show (sys.recvs ++ [b])[_]? = _
          rw [← hi.recvs_length]
          exact List.getElem?_concat_length _ _
        · unfold Copied
          rw [hx.receiver_stream]
          show r.device[_]? = _ ∧ r.device[_]? = _ ∧ r.device[_]? = _ ∧
            ∃ i < _, r.device[i]? = _
          rw [hdev, hid]
          unfold sentDescriptor
          rw [openIpcHandle_add_offset hd.cached hi.cudaLib_eq]
          refine ⟨?_, ?_, ?_, i, hit, getElem?_append_of_eq_some hi' _⟩
          · rw [List.getElem?_append_right (le_refl _), Nat.sub_self]; rfl
          · rw [getElem?_append_length_add]; rfl
          · rw [getElem?_append_length_add]; rfl
    · rw [hw, List.length_append, List.length_singleton] at hk
      rcases Nat.lt_succ_iff_lt_or_eq.1 hk with hk | hk
      · obtain ⟨m, hm⟩ := hd.replied k hk
        exact ⟨m, hx.receiver_log.subset hm⟩
      · exact ⟨sys.trace.length + 3, by rw [hlog, hk, hlen]; simp⟩
    · show Cached r.context sys.sender.context
      rw [hctx]
      exact openIpcHandle_cached hd.cached hi.cudaLib_eq _
  | reply s op tail he hq hk hlt hid hctx hdev hlog hops =>
    refine ⟨hd.started_of hx, hd.copied_of hx, hd.replied,
      fun k m hm => ?_, by rw [hctx]; exact hd.cached,
      fun o ho => hd.streams o (hq ▸ List.mem_cons_of_mem _ (hops ho))⟩
    rw [hlog] at hm
    rcases List.mem_append.1 hm with hm | hm
    · exact hd.waited_of hx _ _ hm
    · simp only [List.mem_singleton, Effect.sendCallback.injEq, true_and] at hm
      obtain ⟨rfl, rfl⟩ := hm
      obtain ⟨b, hb, hs⟩ := hd.streams op (hq ▸ List.mem_cons_self _ _)
      obtain ⟨mR, hmR⟩ := hd.replied _ hlt
      obtain ⟨bS', bR', j, -, -, rfl, -, -, hrec, -⟩ := hd.copied _ _ hmR
      have hjt := (List.getElem?_eq_some_iff.1 hrec).1
      refine ⟨b, sys.trace.length, j + 3, hb, rfl, ?_, hmR, by omega⟩
      unfold Waited
      rw [hx.sender_stream, ← hs]
      show s.device[_]? = _
      rw [hdev, List.getElem?_concat_length]
  | work sender stream =>
    exact ⟨hd.started_of hx, hd.copied_of hx, hd.replied, hd.waited_of hx, hd.cached,
      hd.streams⟩

theorem Reachable.deviceInv (h : Reachable sys) : DeviceInv sys := by
  induction h with
  | init cudaLib senderId senderProcess receiverId receiverProcess => exact deviceInv_init _ _ _ _ _
  | step e hr hs ih => exact ih.move hr.inv (hr.inv.move hs)

/-- Each receive is called back once. -/
theorem recvCallback_unique {log : List Effect} (hn : (recvCallbacks log).Nodup) {k : Nat}
    {e₁ e₂ : Error} {m₁ m₂ : Nat} (h₁ : Effect.recvCallback k e₁ m₁ ∈ log)
    (h₂ : Effect.recvCallback k e₂ m₂ ∈ log) : e₁ = e₂ ∧ m₁ = m₂ := by
  induction log with
  | nil => cases h₁
  | cons x log ih =>
    have hk : ∀ e m, Effect.recvCallback k e m ∈ log → k ∈ recvCallbacks log := fun e m h =>
      List.mem_filterMap.2 ⟨_, h, rfl⟩
    cases x
    case recvCallback n e m =>
      simp only [recvCallbacks, List.filterMap_cons, List.nodup_cons] at hn
      rcases List.mem_cons.1 h₁ with h₁ | h₁' <;>
        rcases List.mem_cons.1 h₂ with h₂ | h₂'
      · cases h₁; cases h₂; exact ⟨rfl, rfl⟩
      · cases h₁; exact absurd (hk _ _ h₂') hn.1
      · cases h₂; exact absurd (hk _ _ h₁') hn.1
      · exact ih hn.2 h₁' h₂'
    all_goals
      simp only [recvCallbacks, List.filterMap_cons] at hn
      exact ih hn (List.mem_of_ne_of_mem (by simp) h₁) (List.mem_of_ne_of_mem (by simp) h₂)

/-- The copy of receive `k` of `bR` from send `k` of `bS` reads `bS.length` bytes from the
sender's buffer. It runs after the work the send stream held when send `k` recorded its start
event, and before the work either side enqueues on its stream after its own callback, whose
marks are `mS` and `mR`. -/
def CopyOrdered (sys : ChannelPair) (k : Nat) (bS bR : CudaBuffer) (mS mR : Nat) : Prop :=
  let before := HappensBefore sys.sender.context.cudaLib.ipcGetEventHandle sys.trace
  ∃ c, sys.trace[c]? = some (.memcpyAsync bR.ptr bS.ptr bS.length
      (sys.receiver.stream bR.stream)) ∧
    (∃ i, sys.trace[i]? = some (.record ⟨sys.sender.id, .startEv, k⟩
        (sys.sender.stream bS.stream)) ∧
      ∀ j a, j < i → sys.trace[j]? = some a → a.stream = sys.sender.stream bS.stream →
        before j c) ∧
    (∀ j a, mS ≤ j → sys.trace[j]? = some a → a.stream = sys.sender.stream bS.stream →
      before c j) ∧
    (∀ j a, mR ≤ j → sys.trace[j]? = some a → a.stream = sys.receiver.stream bR.stream →
      before c j)

end TensorPipe.Channel.CudaIpc.ChannelPair

import TensorPipe.Channel.CudaIpc.Quiet

/-! # The two directions of a channel, abstractly

Each direction of a channel between loop tasks, described by its counters alone. The send
direction issued `reads` reply reads, one per send made before the error, and `readsDone`
of them have completed; the queue holds the sends still waiting for theirs, then the sends
made after the error. The receive direction is the mirror image over the ack reads. Each
lemma here is one kind of loop task seen from one direction: a record queued with or
without the error, or the head leaving on a completion.
-/
namespace TensorPipe.Channel.CudaIpc
open OpsStateMachine ChannelImpl

/-- The send direction: its reply reads, ack writes, queue and callbacks. -/
structure SendInv (error : Error) (reads : List Nat) (readsDone : Nat)
    (acks : List (Nat × Bytes)) (next : Nat) (ops : List SendOperation)
    (callbacks descriptors : List Nat) : Prop where
  reads_eq_range : reads = List.range reads.length
  readsDone_le : readsDone ≤ reads.length
  reads_le : reads.length ≤ next
  reads_eq : error = none → reads.length = next
  window : Window SendWaiting ops readsDone reads.length next
  callbacks_lt : callbacks.filter (· < reads.length) = List.range readsDone
  callbacks_ge : callbacks.filter (reads.length ≤ ·) =
    List.range' reads.length (next - reads.length)
  descriptors_eq : descriptors = List.range next
  acks_eq_range : acks = (List.range acks.length).map fun k => (k, saveAck ⟨⟩)
  acks_le : acks.length ≤ readsDone
  acks_eq : error = none → acks.length = readsDone

/-- The receive direction: its ack reads, reply writes, queue and callbacks; `handle k` is
the stop event handle receive `k` sends back. -/
structure RecvInv (error : Error) (reads : List Nat) (readsDone : Nat)
    (replies : List (Nat × Bytes)) (next : Nat) (ops : List RecvOperation)
    (callbacks : List Nat) (handle : Nat → Bytes) : Prop where
  reads_eq_range : reads = List.range reads.length
  readsDone_le : readsDone ≤ reads.length
  reads_le : reads.length ≤ next
  reads_eq : error = none → reads.length = next
  window : Window RecvWaiting ops readsDone reads.length next
  callbacks_eq : callbacks = List.range next
  replies_eq : replies = (List.range reads.length).map fun k => (k, saveReply ⟨handle k⟩)

theorem sendWaiting_not_finished (op : SendOperation) (h : SendWaiting op) :
    op.state ≠ .finished := by
  simp [h.1]

theorem recvWaiting_not_finished (op : RecvOperation) (h : RecvWaiting op) :
    op.state ≠ .finished := by
  simp [h.1]

private theorem filter_of_forall_lt {l : List Nat} {r : Nat} (h : l.filter (r ≤ ·) = []) :
    l.filter (· < r + 1) = l.filter (· < r) ∧ l.filter (r + 1 ≤ ·) = [] := by
  have hl : ∀ x ∈ l, x < r := fun x hx => by
    by_contra hc
    have : x ∈ l.filter (r ≤ ·) := List.mem_filter.2 ⟨hx, by simpa using hc⟩
    simp [h] at this
  refine ⟨List.filter_congr fun x hx => ?_, List.filter_eq_nil_iff.2 fun x hx => ?_⟩ <;>
    have := hl x hx <;> simp <;> omega

private theorem mem_drop_range {n m k : Nat} (h : k ∈ (List.range n).drop m) : m ≤ k ∧ k < n := by
  obtain ⟨i, hi, rfl⟩ := List.getElem_of_mem h
  simp only [List.length_drop, List.length_range] at hi
  simp only [List.getElem_drop, List.getElem_range]
  omega

namespace SendInv

variable {error : Error} {reads : List Nat} {readsDone : Nat} {acks : List (Nat × Bytes)}
  {next : Nat} {ops : List SendOperation} {callbacks descriptors : List Nat}
  (h : SendInv error reads readsDone acks next ops callbacks descriptors)
include h

theorem of_error (error' : Error) (he : error' = none → error = none) :
    SendInv error' reads readsDone acks next ops callbacks descriptors :=
  { h with reads_eq := fun h' => h.reads_eq (he h'), acks_eq := fun h' => h.acks_eq (he h') }

theorem push_waiting (he : error = none) (op : SendOperation) (hs : op.sequenceNumber = next)
    (hw : SendWaiting op) :
    SendInv error (reads ++ [next]) readsDone acks (next + 1) (ops ++ [op]) callbacks
      (descriptors ++ [next]) := by
  have hr := h.reads_eq he
  have hge : callbacks.filter (reads.length ≤ ·) = [] := by simpa [hr] using h.callbacks_ge
  have hl : (reads ++ [next]).length = reads.length + 1 := List.length_append _ _
  refine ⟨?_, ?_, ?_, fun _ => ?_, ?_, ?_, ?_, by rw [h.descriptors_eq, List.range_succ],
    h.acks_eq_range, h.acks_le, h.acks_eq⟩ <;> rw [hl]
  · rw [List.range_succ, ← h.reads_eq_range, hr]
  · exact Nat.le_succ_of_le h.readsDone_le
  · omega
  · omega
  · exact h.window.push_idle h.readsDone_le hr hs hw
  · rw [(filter_of_forall_lt hge).1, h.callbacks_lt]
  · rw [(filter_of_forall_lt hge).2, hr]; simp

theorem push_finished (he : error ≠ none) (op : SendOperation) (hs : op.sequenceNumber = next)
    (hf : op.state = .finished) :
    SendInv error reads readsDone acks (next + 1) (popFinished (ops ++ [op]))
      (callbacks ++ [next]) (descriptors ++ [next]) := by
  have hle := h.reads_le
  refine ⟨h.reads_eq_range, h.readsDone_le, Nat.le_succ_of_le hle, fun h' => absurd h' he,
    h.window.push_finished sendWaiting_not_finished hle hs hf, ?_, ?_,
    by rw [h.descriptors_eq, List.range_succ], h.acks_eq_range, h.acks_le,
    fun h' => absurd h' he⟩
  · rw [List.filter_append, h.callbacks_lt]; simp [hle]
  · rw [List.filter_append, h.callbacks_ge, show next + 1 - reads.length =
      next - reads.length + 1 by omega, List.range'_1_concat, Nat.add_sub_cancel' hle]
    simp [hle]

theorem pop_ok (he : error = none) {op : SendOperation} {tail : List SendOperation}
    (hq : ops = op :: tail) :
    SendInv error reads (readsDone + 1) (acks ++ [(readsDone, saveAck ⟨⟩)]) next
      (popFinished tail) (callbacks ++ [readsDone]) descriptors := by
  subst hq
  have hlt := h.window.head_seq.1
  have ha := h.acks_eq he
  refine ⟨h.reads_eq_range, hlt, h.reads_le, h.reads_eq,
    (h.window.pop sendWaiting_not_finished h.reads_le).2, ?_, ?_, h.descriptors_eq, ?_, ?_,
    fun _ => ?_⟩
  · rw [List.filter_append, h.callbacks_lt]; simp [hlt, List.range_succ]
  · rw [List.filter_append, h.callbacks_ge]; simp [hlt]
  · rw [List.length_append, List.length_singleton, List.range_succ, List.map_append,
      ← h.acks_eq_range, ha]; rfl
  · simp [ha]
  · simp [ha]

theorem pop_error (he : error ≠ none) {op : SendOperation} {tail : List SendOperation}
    (hq : ops = op :: tail) :
    SendInv error reads (readsDone + 1) acks next (popFinished tail) (callbacks ++ [readsDone])
      descriptors := by
  subst hq
  have hlt := h.window.head_seq.1
  refine ⟨h.reads_eq_range, hlt, h.reads_le, h.reads_eq,
    (h.window.pop sendWaiting_not_finished h.reads_le).2, ?_, ?_, h.descriptors_eq,
    h.acks_eq_range, Nat.le_succ_of_le h.acks_le, fun h' => absurd h' he⟩
  · rw [List.filter_append, h.callbacks_lt]; simp [hlt, List.range_succ]
  · rw [List.filter_append, h.callbacks_ge]; simp [hlt]

theorem mem_callbacks {k : Nat} :
    k ∈ callbacks ↔ k < readsDone ∨ (reads.length ≤ k ∧ k < next) := by
  have hle := h.readsDone_le
  by_cases hk : k < reads.length
  · have : k ∈ callbacks ↔ k ∈ callbacks.filter (· < reads.length) := by simp [hk]
    rw [this, h.callbacks_lt, List.mem_range]; omega
  · have : k ∈ callbacks ↔ k ∈ callbacks.filter (reads.length ≤ ·) := by simp; omega
    rw [this, h.callbacks_ge, List.mem_range'_1]; omega

theorem nodup_callbacks : callbacks.Nodup := by
  refine List.nodup_iff_count_le_one.2 fun k => ?_
  by_cases hk : k < reads.length
  · rw [← List.count_filter (p := (· < reads.length)) (by simpa using hk), h.callbacks_lt]
    exact List.nodup_iff_count_le_one.1 (List.nodup_range _) k
  · rw [← List.count_filter (p := (reads.length ≤ ·)) (by simpa using hk), h.callbacks_ge]
    exact List.nodup_iff_count_le_one.1 (List.nodup_range' _ _) k

theorem mem_callbacks_iff_finished {op : SendOperation} (hop : op ∈ ops) :
    op.sequenceNumber ∈ callbacks ↔ op.state = .finished := by
  have hm : readsDone ≤ op.sequenceNumber ∧ op.sequenceNumber < next := (h.window.mem_seq hop).2
  rw [h.mem_callbacks]
  by_cases hs : op.sequenceNumber < reads.length
  · have hw : SendWaiting op := h.window.idle op hop hs
    simp only [hw.1, reduceCtorEq, iff_false]; omega
  · have hf : op.state = .finished := h.window.finished_of_le op hop (Nat.le_of_not_lt hs)
    simp only [hf, iff_true]; omega

theorem mem_callbacks_of_not_mem {k : Nat} (hk : k < next) (hn : k ∉ seqs ops) :
    k ∈ callbacks := by
  rw [h.mem_callbacks]
  by_contra hc
  exact hn (h.window.mem_of_lt h.reads_le (by omega) (by omega))

theorem mem_of_pending {k : Nat} (hk : k ∈ reads.drop readsDone) : k ∈ seqs ops := by
  rw [h.reads_eq_range] at hk
  obtain ⟨h₁, h₂⟩ := mem_drop_range hk
  exact h.window.mem_of_lt h.reads_le h₁ h₂

theorem of_all_done (hd : readsDone = reads.length) :
    ops = [] ∧ callbacks.Perm (List.range next) :=
  ⟨h.window.eq_nil hd.ge, (List.perm_ext_iff_of_nodup h.nodup_callbacks (List.nodup_range _)).2
    fun k => by rw [h.mem_callbacks, List.mem_range]; have := h.reads_le; omega⟩

theorem callbacks_of_none (he : error = none) : callbacks = List.range readsDone := by
  have hge := h.callbacks_ge
  rw [h.reads_eq he, Nat.sub_self, List.range'_zero, List.filter_eq_nil_iff] at hge
  rw [← h.callbacks_lt, eq_comm, List.filter_eq_self, h.reads_eq he]
  intro k hk
  simpa using hge k hk

end SendInv

namespace RecvInv

variable {error : Error} {reads : List Nat} {readsDone : Nat} {replies : List (Nat × Bytes)}
  {next : Nat} {ops : List RecvOperation} {callbacks : List Nat} {handle : Nat → Bytes}
  (h : RecvInv error reads readsDone replies next ops callbacks handle)
include h

theorem of_error (error' : Error) (he : error' = none → error = none) :
    RecvInv error' reads readsDone replies next ops callbacks handle :=
  { h with reads_eq := fun h' => h.reads_eq (he h') }

theorem push_waiting (he : error = none) (op : RecvOperation) (hs : op.sequenceNumber = next)
    (hw : RecvWaiting op) :
    RecvInv error (reads ++ [next]) readsDone (replies ++ [(next, saveReply ⟨handle next⟩)])
      (next + 1) (ops ++ [op]) (callbacks ++ [next]) handle := by
  have hr := h.reads_eq he
  have hl : (reads ++ [next]).length = reads.length + 1 := List.length_append _ _
  refine ⟨?_, ?_, ?_, fun _ => ?_, ?_, by rw [h.callbacks_eq, List.range_succ], ?_⟩ <;> rw [hl]
  · rw [List.range_succ, ← h.reads_eq_range, hr]
  · exact Nat.le_succ_of_le h.readsDone_le
  · omega
  · omega
  · exact h.window.push_idle h.readsDone_le hr hs hw
  · rw [List.range_succ, List.map_append, ← h.replies_eq, hr]; rfl

theorem push_finished (he : error ≠ none) (op : RecvOperation) (hs : op.sequenceNumber = next)
    (hf : op.state = .finished) :
    RecvInv error reads readsDone replies (next + 1) (popFinished (ops ++ [op]))
      (callbacks ++ [next]) handle :=
  ⟨h.reads_eq_range, h.readsDone_le, Nat.le_succ_of_le h.reads_le, fun h' => absurd h' he,
    h.window.push_finished recvWaiting_not_finished h.reads_le hs hf,
    by rw [h.callbacks_eq, List.range_succ], h.replies_eq⟩

theorem pop {op : RecvOperation} {tail : List RecvOperation} (hq : ops = op :: tail) :
    RecvInv error reads (readsDone + 1) replies next (popFinished tail) callbacks handle := by
  subst hq
  exact ⟨h.reads_eq_range, h.window.head_seq.1, h.reads_le, h.reads_eq,
    (h.window.pop recvWaiting_not_finished h.reads_le).2, h.callbacks_eq, h.replies_eq⟩

theorem done_of_not_mem {k : Nat} (hn : k ∉ seqs ops) :
    k < readsDone ∨ reads.length ≤ k := by
  by_contra hc
  exact hn (h.window.mem_of_lt h.reads_le (by omega) (by omega))

theorem mem_of_pending {k : Nat} (hk : k ∈ reads.drop readsDone) : k ∈ seqs ops := by
  rw [h.reads_eq_range] at hk
  obtain ⟨h₁, h₂⟩ := mem_drop_range hk
  exact h.window.mem_of_lt h.reads_le h₁ h₂

end RecvInv

end TensorPipe.Channel.CudaIpc

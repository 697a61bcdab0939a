import TensorPipe.Common.Defs

/-! # Operation queues and their transition engine

Modelled from the spec: `OpsStateMachine` (`tensorpipe/common/state_machine.h`) is not in
the source tree, so this module follows §4.1 of the design. A subject keeps each direction's
operations in a FIFO queue. An iterator is the operation's sequence number. `advance`
runs the subject's transition table against the state of the operation's immediate
predecessor, or a synthetic `finished` for the head. Whenever an operation moves it
advances the next one in turn, and finished records are removed from the head.
-/
namespace TensorPipe

/-- What the engine reads and writes of an operation record. -/
class OpRecord (Op : Type) (State : outParam Type) where
  sequenceNumber : Op → Nat
  state : Op → State
  setState : Op → State → Op
  finished : State
  sequenceNumber_setState (op : Op) (s : State) : sequenceNumber (setState op s) = sequenceNumber op
  state_setState (op : Op) (s : State) : state (setState op s) = s

/-- Where a subject keeps one of its queues (`sendOps_`, `recvOps_`). -/
structure OpsQueue (σ Op : Type) where
  get : σ → List Op
  set : σ → List Op → σ
  get_set (s : σ) (ops : List Op) : get (set s ops) = ops
  set_get (s : σ) : set s (get s) = s

namespace OpsStateMachine
open OpRecord

variable {Op State σ : Type} [OpRecord Op State]

/-- The queued record an iterator designates. -/
def findOperation (ops : List Op) (opIter : Nat) : Option Op :=
  ops.find? fun op => sequenceNumber op = opIter

/-- Apply `f` to the record an iterator designates. -/
def updateOperation (ops : List Op) (opIter : Nat) (f : Op → Op) : List Op :=
  ops.map fun op => if sequenceNumber op = opIter then f op else op

/-- The state of the record queued just before record `opIter`; `prev` seeds the head. -/
def prevOpStateFrom (prev : State) : List Op → Nat → State
  | [], _ => finished Op
  | op :: ops, opIter =>
    if sequenceNumber op = opIter then prev else prevOpStateFrom (state op) ops opIter

/-- The predecessor's state, with the synthetic `finished` for the head. -/
def prevOpState (ops : List Op) (opIter : Nat) : State :=
  prevOpStateFrom (finished Op) ops opIter

/-- The sequence numbers of a queue. -/
abbrev seqs (ops : List Op) : List Nat := ops.map sequenceNumber

theorem findOperation_cons (op : Op) (ops : List Op) (n : Nat) :
    findOperation (op :: ops) n =
      if sequenceNumber op = n then some op else findOperation ops n := by
  by_cases h : sequenceNumber op = n <;> simp [findOperation, List.find?_cons, h]

@[simp] theorem findOperation_cons_self (op : Op) (ops : List Op) :
    findOperation (op :: ops) (sequenceNumber op) = some op := by
  simp [findOperation_cons]

theorem findOperation_eq_none {ops : List Op} {n : Nat} (h : n ∉ seqs ops) :
    findOperation ops n = none := by
  induction ops with
  | nil => rfl
  | cons op ops ih =>
    simp only [seqs, List.map_cons, List.mem_cons, not_or] at h
    rw [findOperation_cons, if_neg (Ne.symm h.1), ih h.2]

theorem findOperation_append_left {q : List Op} {n : Nat} (h : n ∉ seqs q) (r : List Op) :
    findOperation (q ++ r) n = findOperation r n := by
  induction q with
  | nil => rfl
  | cons op q ih =>
    simp only [seqs, List.map_cons, List.mem_cons, not_or] at h
    rw [List.cons_append, findOperation_cons, if_neg (Ne.symm h.1), ih h.2]

theorem findOperation_append_singleton {q : List Op} {op : Op} (h : sequenceNumber op ∉ seqs q) :
    findOperation (q ++ [op]) (sequenceNumber op) = some op := by
  rw [findOperation_append_left h, findOperation_cons_self]

theorem findOperation_mem {ops : List Op} {n : Nat} {op : Op}
    (h : findOperation ops n = some op) : op ∈ ops ∧ sequenceNumber op = n := by
  have := List.find?_some h
  exact ⟨List.mem_of_find?_eq_some h, by simpa using this⟩

theorem findOperation_updateOperation {ops : List Op} {n : Nat} {f : Op → Op}
    (hf : ∀ op, sequenceNumber (f op) = sequenceNumber op) (m : Nat) :
    findOperation (updateOperation ops n f) m =
      (findOperation ops m).map fun op => if m = n then f op else op := by
  induction ops with
  | nil => rfl
  | cons op ops ih =>
    simp only [updateOperation, List.map_cons] at ih ⊢
    rw [findOperation_cons, findOperation_cons, ih]
    by_cases hm : sequenceNumber op = m
    · subst hm
      by_cases hn : sequenceNumber op = n <;> simp [hn, hf]
    · by_cases hn : sequenceNumber op = n
      · subst hn
        simp [hm, hf]
      · simp [hn, hm]

theorem updateOperation_eq_self {ops : List Op} {n : Nat} (h : n ∉ seqs ops) (f : Op → Op) :
    updateOperation ops n f = ops := by
  induction ops with
  | nil => rfl
  | cons op ops ih =>
    simp only [seqs, List.map_cons, List.mem_cons, not_or] at h
    simp only [updateOperation, List.map_cons] at ih ⊢
    rw [if_neg (Ne.symm h.1), ih h.2]

theorem updateOperation_append (q r : List Op) (n : Nat) (f : Op → Op) :
    updateOperation (q ++ r) n f = updateOperation q n f ++ updateOperation r n f :=
  List.map_append _ _ _

theorem updateOperation_append_singleton {ops : List Op} {op : Op} {n : Nat}
    (hs : sequenceNumber op = n) (h : n ∉ seqs ops) (f : Op → Op) :
    updateOperation (ops ++ [op]) n f = ops ++ [f op] := by
  rw [updateOperation_append, updateOperation_eq_self h]
  simp [updateOperation, hs]

theorem updateOperation_cons_self {op : Op} {ops : List Op} (h : sequenceNumber op ∉ seqs ops)
    (f : Op → Op) :
    updateOperation (op :: ops) (sequenceNumber op) f = f op :: ops := by
  simp only [updateOperation, List.map_cons, if_true]
  exact congrArg _ (updateOperation_eq_self h f)

theorem updateOperation_updateOperation {ops : List Op} {n : Nat} {f : Op → Op}
    (hf : ∀ op, sequenceNumber (f op) = sequenceNumber op) (g : Op → Op) :
    updateOperation (updateOperation ops n f) n g = updateOperation ops n (g ∘ f) := by
  simp only [updateOperation, List.map_map]
  exact List.map_congr_left fun op _ => by by_cases h : sequenceNumber op = n <;> simp [h, hf]

theorem prevOpStateFrom_append_singleton (prev : State) {q : List Op} {op : Op}
    (h : sequenceNumber op ∉ seqs q) :
    prevOpStateFrom prev (q ++ [op]) (sequenceNumber op) = ((q.getLast?).map state).getD prev := by
  induction q generalizing prev with
  | nil => simp [prevOpStateFrom]
  | cons o q ih =>
    simp only [seqs, List.map_cons, List.mem_cons, not_or] at h
    rw [List.cons_append, prevOpStateFrom, if_neg (Ne.symm h.1), ih _ h.2,
      List.getLast?_cons, Option.map_some', Option.getD_some]
    cases q.getLast? <;> rfl

theorem prevOpState_append_singleton {q : List Op} {op : Op} (h : sequenceNumber op ∉ seqs q) :
    prevOpState (q ++ [op]) (sequenceNumber op) = ((q.getLast?).map state).getD (finished Op) :=
  prevOpStateFrom_append_singleton _ h

@[simp] theorem prevOpState_cons_self (op : Op) (ops : List Op) :
    prevOpState (op :: ops) (sequenceNumber op) = finished Op := by
  simp [prevOpState, prevOpStateFrom]

variable [DecidableEq State]

/-- Remove the finished records at the head of the queue. -/
def popFinished (ops : List Op) : List Op :=
  ops.dropWhile fun op => state op = finished Op

variable (Q : OpsQueue σ Op)

/-- `emplaceBack`: queue a freshly built record at the tail. -/
def emplaceBack (s : σ) (op : Op) : σ :=
  Q.set s (Q.get s ++ [op])

/-- `attemptTransition`: if the record is in `fromState` and `cond` holds, run the actions
in order and then move the record to `toState`. -/
def attemptTransition (s : σ) (opIter : Nat) (fromState toState : State) (cond : Bool)
    (actions : List (σ → Nat → σ)) : σ :=
  match findOperation (Q.get s) opIter with
  | some op =>
    if state op = fromState ∧ cond = true then
      let s := actions.foldl (fun s action => action s opIter) s
      Q.set s (updateOperation (Q.get s) opIter (setState · toState))
    else s
  | none => s

variable (transitioner : σ → Nat → State → σ)

/-- One round of the transition table on one record; the flag says whether it moved. -/
def advanceOneOperation (s : σ) (op : Op) : σ × Bool :=
  let opIter := sequenceNumber op
  let s := transitioner s opIter (prevOpState (Q.get s) opIter)
  let newState := ((findOperation (Q.get s) opIter).map state).getD (state op)
  (if newState = finished Op then Q.set s (popFinished (Q.get s)) else s, newState ≠ state op)

/-- The loop of `advanceOperation`: advance a record and, while records move, the next
one. The queue never grows while it is advanced, so one round per record is enough. -/
def advanceLoop : Nat → σ → Nat → σ
  | 0, s, _ => s
  | fuel + 1, s, opIter =>
    match findOperation (Q.get s) opIter with
    | none => s
    | some op =>
      let r := advanceOneOperation Q transitioner s op
      if r.2 then advanceLoop fuel r.1 (opIter + 1) else r.1

def advanceOperation (s : σ) (opIter : Nat) : σ :=
  advanceLoop Q transitioner (Q.get s).length s opIter

/-- `advanceAllOperations`: advance every queued record, head to tail. -/
def advanceAllOperations (s : σ) : σ :=
  ((Q.get s).map sequenceNumber).foldl (advanceOperation Q transitioner) s

section Lemmas

variable {Q : OpsQueue σ Op} {transitioner : σ → Nat → State → σ}

theorem popFinished_cons_of_ne {op : Op} (h : state op ≠ finished Op) (ops : List Op) :
    popFinished (op :: ops) = op :: ops := by
  simp [popFinished, List.dropWhile_cons, h]

theorem popFinished_cons_of_eq {op : Op} (h : state op = finished Op) (ops : List Op) :
    popFinished (op :: ops) = popFinished ops := by
  simp [popFinished, List.dropWhile_cons, h]

theorem popFinished_subset (ops : List Op) : popFinished ops ⊆ ops :=
  List.dropWhile_subset _

theorem attemptTransition_of_none {s : σ} {opIter : Nat}
    (h : findOperation (Q.get s) opIter = none) (fromState toState : State) (cond : Bool)
    (actions : List (σ → Nat → σ)) :
    attemptTransition Q s opIter fromState toState cond actions = s := by
  simp [attemptTransition, h]

theorem attemptTransition_of_not {s : σ} {opIter : Nat} {op : Op}
    (h : findOperation (Q.get s) opIter = some op) {fromState : State} {cond : Bool}
    (hn : ¬(state op = fromState ∧ cond = true)) (toState : State)
    (actions : List (σ → Nat → σ)) :
    attemptTransition Q s opIter fromState toState cond actions = s := by
  simp only [attemptTransition, h, if_neg hn]

theorem attemptTransition_of {s : σ} {opIter : Nat} {op : Op}
    (h : findOperation (Q.get s) opIter = some op) {fromState : State} {cond : Bool}
    (hs : state op = fromState) (hc : cond = true) (toState : State)
    (actions : List (σ → Nat → σ)) :
    attemptTransition Q s opIter fromState toState cond actions =
      let s := actions.foldl (fun s action => action s opIter) s
      Q.set s (updateOperation (Q.get s) opIter (setState · toState)) := by
  simp only [attemptTransition, h, if_pos (And.intro hs hc)]

theorem advanceLoop_of_none {s : σ} {opIter : Nat} (h : findOperation (Q.get s) opIter = none)
    (fuel : Nat) : advanceLoop Q transitioner fuel s opIter = s := by
  cases fuel <;> simp [advanceLoop, h]

theorem advanceLoop_succ {s : σ} {opIter : Nat} {op : Op}
    (h : findOperation (Q.get s) opIter = some op) (fuel : Nat) :
    advanceLoop Q transitioner (fuel + 1) s opIter =
      let r := advanceOneOperation Q transitioner s op
      if r.2 then advanceLoop Q transitioner fuel r.1 (opIter + 1) else r.1 := by
  simp only [advanceLoop, h]

end Lemmas

section Frame

/-- A preorder on the subject that no write to the queue can break: what the engine leaves
alone whatever the records do. -/
structure Frame (Q : OpsQueue σ Op) (R : σ → σ → Prop) : Prop where
  refl : ∀ s, R s s
  trans : ∀ {s₁ s₂ s₃}, R s₁ s₂ → R s₂ s₃ → R s₁ s₃
  set : ∀ s ops, R s (Q.set s ops)

variable {Q : OpsQueue σ Op} {R : σ → σ → Prop} (hR : Frame Q R)
  {transitioner : σ → Nat → State → σ}
include hR

theorem Frame.foldl_actions {actions : List (σ → Nat → σ)}
    (ha : ∀ a ∈ actions, ∀ s n, R s (a s n)) (s : σ) (n : Nat) :
    R s (actions.foldl (fun s action => action s n) s) := by
  induction actions generalizing s with
  | nil => exact hR.refl s
  | cons a actions ih =>
    exact hR.trans (ha a (List.mem_cons_self _ _) s n)
      (ih (fun a' h => ha a' (List.mem_cons_of_mem _ h)) _)

theorem Frame.attemptTransition {actions : List (σ → Nat → σ)}
    (ha : ∀ a ∈ actions, ∀ s n, R s (a s n)) (s : σ) (opIter : Nat)
    (fromState toState : State) (cond : Bool) :
    R s (attemptTransition Q s opIter fromState toState cond actions) := by
  unfold OpsStateMachine.attemptTransition
  split
  · split_ifs
    · exact hR.trans (hR.foldl_actions ha s opIter) (hR.set _ _)
    · exact hR.refl s
  · exact hR.refl s

variable (htr : ∀ s n p, R s (transitioner s n p))
include htr

theorem Frame.advanceLoop (fuel : Nat) (s : σ) (opIter : Nat) :
    R s (advanceLoop Q transitioner fuel s opIter) := by
  induction fuel generalizing s opIter with
  | zero => exact hR.refl s
  | succ fuel ih =>
    unfold OpsStateMachine.advanceLoop
    split
    · exact hR.refl s
    · rename_i op _
      have h₁ : R s (advanceOneOperation Q transitioner s op).1 := by
        unfold advanceOneOperation
        dsimp only
        split_ifs
        · exact hR.trans (htr _ _ _) (hR.set _ _)
        · exact htr _ _ _
      dsimp only
      split_ifs
      · exact hR.trans h₁ (ih _ _)
      · exact h₁

theorem Frame.advanceOperation (s : σ) (opIter : Nat) :
    R s (advanceOperation Q transitioner s opIter) :=
  hR.advanceLoop htr _ s opIter

theorem Frame.advanceAllOperations (s : σ) : R s (advanceAllOperations Q transitioner s) := by
  unfold OpsStateMachine.advanceAllOperations
  generalize (Q.get s).map sequenceNumber = ns
  induction ns generalizing s with
  | nil => exact hR.refl s
  | cons n ns ih => exact hR.trans (hR.advanceOperation htr s n) (ih _)

end Frame

section AtRest

variable {Q : OpsQueue σ Op} {transitioner : σ → Nat → State → σ} (Idle : Op → Prop)

/-- A queue between two loop tasks: every record waits on some I/O or is finished, and
the head waits. -/
structure AtRest (ops : List Op) : Prop where
  idle_or_finished : ∀ op ∈ ops, Idle op ∨ state op = finished Op
  head_idle : ∀ op ∈ ops.head?, Idle op

variable {Idle} (hIdle : ∀ op, Idle op → state op ≠ finished Op)
  (hstay : ∀ s op p, findOperation (Q.get s) (sequenceNumber op) = some op →
    Idle op ∨ state op = finished Op → transitioner s (sequenceNumber op) p = s)
include hIdle

theorem popFinished_of_atRest {ops : List Op} (hr : AtRest Idle ops) : popFinished ops = ops := by
  cases ops with
  | nil => rfl
  | cons op ops => exact popFinished_cons_of_ne (hIdle op (hr.head_idle op rfl)) ops

omit hIdle in
theorem AtRest.popFinished {ops : List Op} (hr : ∀ op ∈ ops, Idle op ∨ state op = finished Op) :
    AtRest Idle (popFinished ops) := by
  refine ⟨fun op hop => hr op (List.dropWhile_subset _ hop), fun op hop => ?_⟩
  induction ops with
  | nil => simp [OpsStateMachine.popFinished] at hop
  | cons o ops ih =>
    by_cases ho : state o = finished Op
    · rw [popFinished_cons_of_eq ho] at hop
      exact ih (fun op h => hr op (List.mem_cons_of_mem _ h)) hop
    · rw [popFinished_cons_of_ne ho] at hop
      obtain rfl : o = op := by simpa using hop
      exact (hr o (List.mem_cons_self _ _)).resolve_right ho

include hstay

theorem advanceLoop_of_atRest {s : σ} (hr : AtRest Idle (Q.get s)) (fuel n : Nat) :
    advanceLoop Q transitioner fuel s n = s := by
  cases fuel with
  | zero => rfl
  | succ fuel =>
    cases hf : findOperation (Q.get s) n with
    | none => exact advanceLoop_of_none hf _
    | some op =>
      obtain ⟨hmem, rfl⟩ := findOperation_mem hf
      have hs := hstay s op (prevOpState (Q.get s) (sequenceNumber op)) hf
        (hr.idle_or_finished op hmem)
      rw [advanceLoop_succ hf]
      simp only [advanceOneOperation, hs, hf, Option.map_some', Option.getD_some, ne_eq,
        not_true_eq_false, decide_False, Bool.false_eq_true, if_false,
        popFinished_of_atRest hIdle hr, Q.set_get, ite_self]

theorem advanceOperation_of_atRest {s : σ} (hr : AtRest Idle (Q.get s)) (n : Nat) :
    advanceOperation Q transitioner s n = s :=
  advanceLoop_of_atRest hIdle hstay hr _ n

theorem advanceAllOperations_of_atRest {s : σ} (hr : AtRest Idle (Q.get s)) :
    advanceAllOperations Q transitioner s = s := by
  unfold advanceAllOperations
  generalize (Q.get s).map sequenceNumber = ns
  induction ns with
  | nil => rfl
  | cons n ns ih => rw [List.foldl_cons, advanceOperation_of_atRest hIdle hstay hr, ih]

/-- The head record moves to `finished`: it and the finished records behind it leave the
queue, and the record after them, which waits, does not move. -/
theorem advanceOperation_head {s s₁ : σ} {op op' : Op} {ops : List Op}
    (hq : Q.get s = op :: ops) (hop : state op ≠ finished Op)
    (ht : transitioner s (sequenceNumber op) (finished Op) = s₁)
    (hq₁ : Q.get s₁ = op' :: ops) (hseq : sequenceNumber op' = sequenceNumber op)
    (hfin : state op' = finished Op) (hr : ∀ o ∈ ops, Idle o ∨ state o = finished Op) :
    advanceOperation Q transitioner s (sequenceNumber op) = Q.set s₁ (popFinished ops) := by
  have hf : findOperation (Q.get s) (sequenceNumber op) = some op := by
    rw [hq, findOperation_cons_self]
  have hf₁ : findOperation (op' :: ops) (sequenceNumber op) = some op' := by
    rw [← hseq, findOperation_cons_self]
  have hrest : AtRest Idle (Q.get (Q.set s₁ (popFinished ops))) := by
    rw [Q.get_set]; exact AtRest.popFinished hr
  have hne : finished Op ≠ state op := Ne.symm hop
  unfold advanceOperation
  rw [show (Q.get s).length = ops.length + 1 by rw [hq]; rfl, advanceLoop_succ hf]
  simp only [advanceOneOperation, hq, prevOpState_cons_self, ht, hf₁, Option.map_some',
    Option.getD_some, hfin, if_true, hq₁, popFinished_cons_of_eq hfin, hne, ne_eq,
    not_false_eq_true, decide_True]
  exact advanceLoop_of_atRest hIdle hstay hrest _ _

omit hIdle hstay in
/-- A record queued at the tail moves (or not) once; nothing follows it. -/
theorem advanceOperation_last {s s₁ : σ} {op op' : Op} {ops : List Op}
    (hq : Q.get s = ops ++ [op]) (hn : sequenceNumber op ∉ seqs ops)
    (hnext : sequenceNumber op + 1 ∉ seqs ops)
    (ht : transitioner s (sequenceNumber op) ((ops.getLast?.map state).getD (finished Op)) = s₁)
    (hq₁ : Q.get s₁ = ops ++ [op']) (hseq : sequenceNumber op' = sequenceNumber op) :
    advanceOperation Q transitioner s (sequenceNumber op) =
      if state op' = finished Op then Q.set s₁ (popFinished (ops ++ [op'])) else s₁ := by
  have hf : findOperation (Q.get s) (sequenceNumber op) = some op := by
    rw [hq, findOperation_append_singleton hn]
  have hf₁ : findOperation (ops ++ [op']) (sequenceNumber op) = some op' := by
    rw [← hseq, findOperation_append_singleton (hseq ▸ hn)]
  have hnone : ∀ l : List Op, l ⊆ ops ++ [op'] →
      findOperation l (sequenceNumber op + 1) = none := fun l hl =>
    findOperation_eq_none fun hm => by
      obtain ⟨o, ho, he⟩ := List.mem_map.1 hm
      rcases List.mem_append.1 (hl ho) with ho | ho
      · exact hnext (List.mem_map.2 ⟨o, ho, he⟩)
      · rw [List.mem_singleton.1 ho, hseq] at he; omega
  unfold advanceOperation
  rw [show (Q.get s).length = ops.length + 1 by simp [hq], advanceLoop_succ hf]
  simp only [advanceOneOperation, hq, prevOpState_append_singleton hn, ht, hq₁, hf₁,
    Option.map_some', Option.getD_some]
  by_cases hfin : state op' = finished Op
  · simp only [hfin, if_true]
    split_ifs
    · exact advanceLoop_of_none (by rw [Q.get_set]; exact hnone _ (List.dropWhile_subset _)) _
    · rfl
  · simp only [hfin, if_false]
    split_ifs
    · exact advanceLoop_of_none (by rw [hq₁]; exact hnone _ (List.Subset.refl _)) _
    · rfl

end AtRest

section Window

variable (Idle : Op → Prop)

/-- A queue holding the records `done, …, next - 1` in order: those numbered below
`issued` are idle, the others finished. Once `done` reaches `issued` the finished records
have all been removed and the queue is empty. -/
structure Window (ops : List Op) (done issued next : Nat) : Prop where
  seqs_eq : seqs ops = if done < issued then List.range' done (next - done) else []
  idle : ∀ op ∈ ops, sequenceNumber op < issued → Idle op
  finished_of_le : ∀ op ∈ ops, issued ≤ sequenceNumber op → state op = finished Op

variable {Idle} {ops : List Op} {done issued next : Nat}

omit [DecidableEq State] in
@[simp] theorem Window.nil (done next : Nat) : Window Idle [] done done next :=
  ⟨by simp, by simp, by simp⟩

omit [DecidableEq State] in
theorem Window.idle_or_finished (h : Window Idle ops done issued next) :
    ∀ op ∈ ops, Idle op ∨ state op = finished Op := fun op hop =>
  if hs : sequenceNumber op < issued then .inl (h.idle op hop hs)
  else .inr (h.finished_of_le op hop (Nat.le_of_not_lt hs))

omit [DecidableEq State] in
theorem Window.head_seq {op : Op} {tail : List Op} (h : Window Idle (op :: tail) done issued next) :
    done < issued ∧ sequenceNumber op = done ∧ seqs tail = List.range' (done + 1) (next - done - 1) := by
  have hs := h.seqs_eq
  split_ifs at hs with hdi
  · obtain ⟨h₁, -, h₂⟩ := List.range'_eq_cons_iff.1 hs.symm
    exact ⟨hdi, h₁.symm, h₁ ▸ h₂⟩
  · simp at hs

omit [DecidableEq State] in
theorem Window.exists_cons (h : Window Idle ops done issued next) (hdi : done < issued)
    (hin : issued ≤ next) : ∃ op tail, ops = op :: tail ∧ sequenceNumber op = done := by
  have hs := h.seqs_eq
  rw [if_pos hdi] at hs
  cases ops with
  | nil => simp at hs; omega
  | cons op tail => exact ⟨op, tail, rfl, h.head_seq.2.1⟩

omit [DecidableEq State] in
theorem Window.mem_seq (h : Window Idle ops done issued next) {op : Op} (hop : op ∈ ops) :
    done < issued ∧ done ≤ sequenceNumber op ∧ sequenceNumber op < next := by
  have hs := h.seqs_eq
  have hm : sequenceNumber op ∈ seqs ops := List.mem_map_of_mem _ hop
  split_ifs at hs with hdi
  · rw [hs, List.mem_range'_1] at hm; omega
  · rw [hs] at hm; cases hm

omit [DecidableEq State] in
theorem Window.idle_iff (h : Window Idle ops done issued next)
    (hIdle : ∀ op, Idle op → state op ≠ finished Op) {op : Op} (hop : op ∈ ops) :
    Idle op ↔ state op ≠ finished Op :=
  ⟨hIdle op, fun hne => (h.idle_or_finished op hop).resolve_right hne⟩

omit [DecidableEq State] in
theorem Window.mem_of_lt (h : Window Idle ops done issued next) (hin : issued ≤ next) {k : Nat}
    (hd : done ≤ k) (hk : k < issued) : k ∈ seqs ops := by
  rw [h.seqs_eq, if_pos (by omega), List.mem_range'_1]; omega

omit [DecidableEq State] in
theorem Window.eq_nil (h : Window Idle ops done issued next) (hdi : issued ≤ done) : ops = [] := by
  have hs := h.seqs_eq
  rw [if_neg (by omega)] at hs
  exact List.map_eq_nil_iff.1 hs

omit [DecidableEq State] in
theorem Window.atRest (h : Window Idle ops done issued next) : AtRest Idle ops := by
  refine ⟨h.idle_or_finished, fun op hop => ?_⟩
  cases ops with
  | nil => cases hop
  | cons o tail =>
    obtain rfl : o = op := Option.some_inj.1 hop
    obtain ⟨hdi, hs, -⟩ := h.head_seq
    exact h.idle o (List.mem_cons_self _ _) (hs ▸ hdi)

theorem Window.popFinished_append (h : Window Idle ops done issued next)
    (hIdle : ∀ op, Idle op → state op ≠ finished Op) (hin : issued ≤ next) {op : Op}
    (hop : state op = finished Op) :
    popFinished (ops ++ [op]) = if done < issued then ops ++ [op] else [] := by
  cases ops with
  | nil =>
    have hs := h.seqs_eq
    split_ifs at hs ⊢ with hdi
    · simp at hs; omega
    · simp [popFinished, hop]
  | cons o tail =>
    obtain ⟨hdi, hs, -⟩ := h.head_seq
    rw [if_pos hdi, List.cons_append, popFinished_cons_of_ne (hIdle o (h.idle o (List.mem_cons_self _ _) (hs ▸ hdi)))]

omit [DecidableEq State] in
theorem Window.push_idle (h : Window Idle ops done issued next) (hdi : done ≤ issued)
    (hin : issued = next) {op : Op} (hs : sequenceNumber op = next) (hop : Idle op) :
    Window Idle (ops ++ [op]) done (issued + 1) (next + 1) := by
  refine ⟨?_, fun o ho hlt => ?_, fun o ho hle => ?_⟩
  · have hq := h.seqs_eq
    rw [if_pos (by omega), seqs, List.map_append, ← seqs, hq, List.map_singleton, hs]
    split_ifs with hd
    · rw [show next + 1 - done = next - done + 1 by omega, List.range'_1_concat,
        Nat.add_sub_cancel' (by omega)]
    · rw [show done = next by omega, Nat.add_sub_cancel_left]; rfl
  · rcases List.mem_append.1 ho with ho | ho
    · exact h.idle o ho (by have := h.mem_seq ho; omega)
    · rw [List.mem_singleton.1 ho]; exact hop
  · rcases List.mem_append.1 ho with ho | ho
    · have := h.mem_seq ho; omega
    · rw [List.mem_singleton.1 ho] at hle ⊢; omega

theorem Window.push_finished (h : Window Idle ops done issued next)
    (hIdle : ∀ op, Idle op → state op ≠ finished Op) (hin : issued ≤ next) {op : Op}
    (hs : sequenceNumber op = next) (hop : state op = finished Op) :
    Window Idle (popFinished (ops ++ [op])) done issued (next + 1) := by
  rw [h.popFinished_append hIdle hin hop]
  split_ifs with hdi
  · refine ⟨?_, fun o ho hlt => ?_, fun o ho hle => ?_⟩
    · rw [if_pos hdi, seqs, List.map_append, ← seqs, h.seqs_eq, if_pos hdi, List.map_singleton,
        hs, show next + 1 - done = next - done + 1 by omega, List.range'_1_concat,
        Nat.add_sub_cancel' (by omega)]
    · rcases List.mem_append.1 ho with ho | ho
      · exact h.idle o ho hlt
      · rw [List.mem_singleton.1 ho] at hlt; omega
    · rcases List.mem_append.1 ho with ho | ho
      · exact h.finished_of_le o ho hle
      · rw [List.mem_singleton.1 ho]; exact hop
  · exact ⟨by simp [hdi], by simp, by simp⟩

theorem Window.pop {op : Op} {tail : List Op} (h : Window Idle (op :: tail) done issued next)
    (hIdle : ∀ op, Idle op → state op ≠ finished Op) (hin : issued ≤ next) :
    popFinished tail = (if done + 1 < issued then tail else []) ∧
      Window Idle (popFinished tail) (done + 1) issued next := by
  obtain ⟨hdi, -, hs⟩ := h.head_seq
  have ht : ∀ o ∈ tail, o ∈ op :: tail := fun o => List.mem_cons_of_mem op
  by_cases hd : done + 1 < issued
  · have hpop : popFinished tail = tail := by
      cases tail with
      | nil => simp at hs; omega
      | cons o tail' =>
        rw [seqs, List.map_cons, eq_comm, List.range'_eq_cons_iff] at hs
        exact popFinished_cons_of_ne (hIdle o (h.idle o (by simp) (by omega))) tail'
    refine ⟨by rw [if_pos hd, hpop], ?_⟩
    rw [hpop]
    exact ⟨by rw [if_pos hd, hs, Nat.sub_sub], fun o ho => h.idle o (ht o ho),
      fun o ho => h.finished_of_le o (ht o ho)⟩
  · have hpop : popFinished tail = [] := List.dropWhile_eq_nil_iff.2 fun o ho =>
      decide_eq_true (h.finished_of_le o (ht o ho) (by
        have : sequenceNumber o ∈ seqs tail := List.mem_map_of_mem _ ho
        rw [hs, List.mem_range'_1] at this; omega))
    rw [hpop, if_neg hd]
    exact ⟨rfl, by simp [hd], by simp, by simp⟩

end Window

end OpsStateMachine

end TensorPipe

import TensorPipe.Common.Defs

/-! # The listener boilerplate

`ListenerImplBoilerplate` of `transport/listener_impl_boilerplate.h`: the sticky error, the
two accept counters and the wrapper that `acceptFromLoop` puts around every accept callback.
The backend behind `acceptImplFromLoop` and `handleErrorImpl` is a transport; here it is the
one the boilerplate is written against: it keeps the callbacks it was handed in a FIFO,
invokes each at most once and in the order received, and its `handleErrorImpl` invokes all
that are still pending. `setIdFromLoop` and `addrFromLoop` touch neither the error nor the
callbacks and are left out.
-/
namespace TensorPipe.Transport

/-- What the user and the logs see: an accept callback invoked through the wrapper, with
its sequence number, the value of `nextAcceptCallbackToCall_` the `TP_DCHECK_EQ` compares it
with, the error and whether a connection was passed; or a run of `handleError`. -/
inductive ListenerEffect
  | acceptCallback (sequenceNumber expected : Nat) (error : Error) (connection : Bool)
  | handleError
  deriving DecidableEq, Repr

/-- The state of a `ListenerImplBoilerplate`, with the backend's queue of wrapped
callbacks, oldest first, each named by the sequence number it captured. -/
structure ListenerImplBoilerplate where
  error : Error
  nextConnectionBeingAccepted : Nat
  nextAcceptCallbackToCall : Nat
  pending : List Nat
  log : List ListenerEffect
  deriving DecidableEq, Repr

namespace ListenerImplBoilerplate

/-- The wrapped callback of accept `sequenceNumber`: check the counter, bump it, call. -/
def callAcceptCallback (l : ListenerImplBoilerplate) (sequenceNumber : Nat) (error : Error)
    (connection : Bool) : ListenerImplBoilerplate :=
  { l with
    nextAcceptCallbackToCall := l.nextAcceptCallbackToCall + 1
    log := l.log ++
      [.acceptCallback sequenceNumber l.nextAcceptCallbackToCall error connection] }

/-- The backend's `acceptImplFromLoop`: keep the wrapped callback. -/
def acceptImplFromLoop (l : ListenerImplBoilerplate) (sequenceNumber : Nat) :
    ListenerImplBoilerplate :=
  { l with pending := l.pending ++ [sequenceNumber] }

/-- Invoke the given wrapped callbacks in order with `error_` and no connection. -/
def flushPending (l : ListenerImplBoilerplate) : List Nat → ListenerImplBoilerplate
  | [] => l
  | n :: ns => (l.callAcceptCallback n l.error false).flushPending ns

/-- The backend's `handleErrorImpl`: every pending callback fires with the error. -/
def handleErrorImpl (l : ListenerImplBoilerplate) : ListenerImplBoilerplate :=
  { l.flushPending l.pending with pending := [] }

def handleError (l : ListenerImplBoilerplate) : ListenerImplBoilerplate :=
  handleErrorImpl { l with log := l.log ++ [.handleError] }

/-- `setError`: don't overwrite an error that's already set. -/
def setError (l : ListenerImplBoilerplate) (error : Error) : ListenerImplBoilerplate :=
  if l.error.isSome || error.isNone then l else handleError { l with error }

def closeFromLoop (l : ListenerImplBoilerplate) : ListenerImplBoilerplate :=
  l.setError (some .listenerClosed)

/-- `acceptFromLoop`: number the request, wrap the callback, and either answer at once with
the error or hand it to the backend. -/
def acceptFromLoop (l : ListenerImplBoilerplate) : ListenerImplBoilerplate :=
  let sequenceNumber := l.nextConnectionBeingAccepted
  let l := { l with nextConnectionBeingAccepted := sequenceNumber + 1 }
  if l.error.isSome then l.callAcceptCallback sequenceNumber l.error false
  else l.acceptImplFromLoop sequenceNumber

/-- The backend invokes its oldest pending callback. -/
def acceptCompletion (l : ListenerImplBoilerplate) (error : Error) (connection : Bool) :
    ListenerImplBoilerplate :=
  match l.pending with
  | [] => l
  | n :: rest => { l with pending := rest }.callAcceptCallback n error connection

/-- A listener right after `initFromLoop`. -/
def init : ListenerImplBoilerplate := ⟨none, 0, 0, [], []⟩

/-- The loop tasks of a listener. -/
inductive Event
  | accept
  | close
  | setError (error : Error)
  | acceptCompletion (error : Error) (connection : Bool)

/-- The error an event passes to `setError`, if any. -/
def Event.error : Event → Error
  | .close => some .listenerClosed
  | .setError error => error
  | _ => none

/-- Run one loop task. -/
def step (l : ListenerImplBoilerplate) : Event → ListenerImplBoilerplate
  | .accept => l.acceptFromLoop
  | .close => l.closeFromLoop
  | .setError error => l.setError error
  | .acceptCompletion error connection => l.acceptCompletion error connection

/-- The states a listener reaches. -/
inductive Reachable : ListenerImplBoilerplate → Prop
  | init : Reachable init
  | step {l : ListenerImplBoilerplate} (e : Event) : Reachable l → Reachable (l.step e)

/-- The accept callbacks invoked so far, each as its sequence number and the counter the
wrapper compared it with. -/
def acceptCallbacks (log : List ListenerEffect) : List (Nat × Nat) :=
  log.filterMap fun | .acceptCallback n k _ _ => some (n, k) | _ => none

@[simp] theorem acceptCallbacks_append (l l' : List ListenerEffect) :
    acceptCallbacks (l ++ l') = acceptCallbacks l ++ acceptCallbacks l' :=
  List.filterMap_append _ _ _

@[simp] theorem acceptCallbacks_acceptCallback (n k : Nat) (error : Error) (connection : Bool) :
    acceptCallbacks [.acceptCallback n k error connection] = [(n, k)] := rfl

@[simp] theorem acceptCallbacks_handleError : acceptCallbacks [.handleError] = [] := rfl

@[simp] theorem acceptCallbacks_map (ns : List Nat) (error : Error) (connection : Bool) :
    acceptCallbacks (ns.map fun j => .acceptCallback j j error connection) =
      ns.map fun j => (j, j) := by
  induction ns with
  | nil => rfl
  | cons n ns ih => exact congrArg ((n, n) :: ·) ih

variable {l : ListenerImplBoilerplate}

@[simp] theorem callAcceptCallback_error (n : Nat) (error : Error) (connection : Bool) :
    (l.callAcceptCallback n error connection).error = l.error := rfl

theorem flushPending_range' (n k : Nat) (h : l.nextAcceptCallbackToCall = n) :
    l.flushPending (List.range' n k) =
      { l with
        nextAcceptCallbackToCall := n + k
        log := l.log ++ (List.range' n k).map fun j => .acceptCallback j j l.error false } := by
  induction k generalizing l n with
  | zero =>
    subst h
    simp only [List.range'_zero, List.map_nil, List.append_nil, Nat.add_zero]
    rfl
  | succ k ih =>
    rw [List.range'_succ, flushPending, ih (n + 1) (by simp [callAcceptCallback, h])]
    simp [callAcceptCallback, h, Nat.add_right_comm _ 1, Nat.add_assoc]

@[simp] theorem flushPending_error (ns : List Nat) : (l.flushPending ns).error = l.error := by
  induction ns generalizing l with
  | nil => rfl
  | cons n ns ih => exact ih

theorem setError_error (error : Error) : (l.setError error).error = l.error.or error := by
  unfold setError
  split_ifs with h
  · revert h; cases l.error <;> cases error <;> simp
  · revert h; cases l.error <;> simp [handleError, handleErrorImpl]

theorem step_error (e : Event) : (l.step e).error = l.error.or e.error := by
  cases e with
  | accept =>
    simp only [step, acceptFromLoop, Event.error, Option.or_none]
    split_ifs <;> rfl
  | close => exact setError_error _
  | setError error => exact setError_error _
  | acceptCompletion error connection =>
    simp only [step, acceptCompletion, Event.error, Option.or_none]
    split <;> rfl

theorem closeFromLoop_closeFromLoop : l.closeFromLoop.closeFromLoop = l.closeFromLoop := by
  have h : l.closeFromLoop.error.isSome := by
    rw [closeFromLoop, setError_error]; cases l.error <;> rfl
  conv_lhs => rw [closeFromLoop, setError, if_pos (by simp [h])]

/-- What holds between two loop tasks: the backend holds the callbacks not yet invoked, in
order, none once the error is set; the callbacks invoked so far are `0, 1, …`, each
matching its check; `handleError` ran once exactly if the error is set. -/
structure Inv (l : ListenerImplBoilerplate) : Prop where
  counters_le : l.nextAcceptCallbackToCall ≤ l.nextConnectionBeingAccepted
  pending_eq : l.pending = List.range' l.nextAcceptCallbackToCall
    (l.nextConnectionBeingAccepted - l.nextAcceptCallbackToCall)
  pending_of_error : l.error.isSome → l.pending = []
  callbacks_eq : acceptCallbacks l.log =
    (List.range l.nextAcceptCallbackToCall).map fun k => (k, k)
  handled : l.log.count .handleError = if l.error.isSome then 1 else 0

theorem inv_init : Inv init := ⟨le_refl _, rfl, fun _ => rfl, rfl, rfl⟩

theorem Inv.caught_up (hi : Inv l) (he : l.error.isSome) :
    l.nextConnectionBeingAccepted = l.nextAcceptCallbackToCall := by
  have h := hi.pending_eq
  rw [hi.pending_of_error he, eq_comm, List.range'_eq_nil] at h
  have := hi.counters_le; omega

theorem Inv.acceptFromLoop_of_error (hi : Inv l) (he : l.error.isSome) :
    l.acceptFromLoop =
      { l with
        nextConnectionBeingAccepted := l.nextConnectionBeingAccepted + 1
        nextAcceptCallbackToCall := l.nextAcceptCallbackToCall + 1
        log := l.log ++ [.acceptCallback l.nextConnectionBeingAccepted
          l.nextConnectionBeingAccepted l.error false] } := by
  simp [acceptFromLoop, he, callAcceptCallback, hi.caught_up he]

theorem Inv.acceptFromLoop (hi : Inv l) : Inv l.acceptFromLoop := by
  by_cases he : l.error.isSome
  · rw [hi.acceptFromLoop_of_error he]
    have hc := hi.caught_up he
    refine ⟨by simp [hc], by simp [hc, hi.pending_of_error he],
      fun _ => by simpa using hi.pending_of_error he, ?_, ?_⟩
    · simp [hi.callbacks_eq, hc, List.range_succ]
    · simp [List.count_append, hi.handled]
  · have hle := hi.counters_le
    simp only [ListenerImplBoilerplate.acceptFromLoop, he, Bool.false_eq_true, if_false,
      acceptImplFromLoop]
    refine ⟨by simp; omega, ?_, fun h => absurd h he, hi.callbacks_eq, hi.handled⟩
    rw [hi.pending_eq, show l.nextConnectionBeingAccepted + 1 - l.nextAcceptCallbackToCall =
      l.nextConnectionBeingAccepted - l.nextAcceptCallbackToCall + 1 by omega,
      List.range'_1_concat, Nat.add_sub_cancel' hle]

theorem Inv.acceptCompletion (hi : Inv l) (error : Error) (connection : Bool) :
    Inv (l.acceptCompletion error connection) := by
  unfold ListenerImplBoilerplate.acceptCompletion
  split
  · exact hi
  · rename_i n rest hp
    have hq := hi.pending_eq
    rw [hp, eq_comm, List.range'_eq_cons_iff] at hq
    obtain ⟨rfl, hpos, rfl⟩ := hq
    refine ⟨by simp [callAcceptCallback]; omega, by simp [callAcceptCallback, Nat.sub_sub],
      fun he => absurd (hi.pending_of_error he) (by simp [hp]), ?_, ?_⟩
    · simp [callAcceptCallback, hi.callbacks_eq, List.range_succ]
    · simp [callAcceptCallback, List.count_append, hi.handled]

theorem Inv.setError (hi : Inv l) (error : Error) : Inv (l.setError error) := by
  unfold ListenerImplBoilerplate.setError
  split_ifs with h
  · exact hi
  · obtain ⟨he, hs⟩ : l.error = none ∧ error.isSome := by
      revert h; cases l.error <;> cases error <;> simp
    have hle := hi.counters_le
    simp only [handleError, handleErrorImpl]
    rw [hi.pending_eq, flushPending_range' _ _ rfl]
    refine ⟨by simp; omega, by simp; omega, fun _ => rfl, ?_, ?_⟩
    · have hr : List.range l.nextAcceptCallbackToCall ++ List.range' l.nextAcceptCallbackToCall
          (l.nextConnectionBeingAccepted - l.nextAcceptCallbackToCall) =
          List.range l.nextConnectionBeingAccepted := by
        have := List.range'_append_1 0 l.nextAcceptCallbackToCall
          (l.nextConnectionBeingAccepted - l.nextAcceptCallbackToCall)
        rw [Nat.zero_add, Nat.sub_add_cancel hle] at this
        rw [List.range_eq_range', List.range_eq_range', this]
      dsimp only
      rw [acceptCallbacks_append, acceptCallbacks_append, hi.callbacks_eq,
        acceptCallbacks_handleError, List.append_nil, acceptCallbacks_map, ← List.map_append, hr,
        Nat.add_sub_cancel' hle]
    · simp [List.count_append, hi.handled, he, hs, List.count_eq_zero]

theorem Inv.step (hi : Inv l) (e : Event) : Inv (l.step e) := by
  cases e with
  | accept => exact hi.acceptFromLoop
  | close => exact hi.setError _
  | setError error => exact hi.setError error
  | acceptCompletion error connection => exact hi.acceptCompletion error connection

theorem Reachable.inv (h : Reachable l) : Inv l := by
  induction h with
  | init => exact inv_init
  | step e _ ih => exact ih.step e

/-- Over any run of accepts, closes, errors and backend completions: the error changes only
from success to the first error passed to `setError`, so `close` is idempotent, and
`handleError` runs once exactly when the error is set; the accept callbacks invoked are
`0, 1, …`, each once, in order and with its `TP_DCHECK_EQ` holding; and an accept requested
while the error is set is answered at once with the error and no connection. -/
theorem reachable_error_and_callbacks (h : Reachable l) :
    (∀ e : Event, (l.step e).error = l.error.or e.error) ∧
    l.closeFromLoop.closeFromLoop = l.closeFromLoop ∧
    l.log.count .handleError = (if l.error.isSome then 1 else 0) ∧
    acceptCallbacks l.log = (List.range l.nextAcceptCallbackToCall).map (fun k => (k, k)) ∧
    (l.error.isSome → l.acceptFromLoop =
      { l with
        nextConnectionBeingAccepted := l.nextConnectionBeingAccepted + 1
        nextAcceptCallbackToCall := l.nextAcceptCallbackToCall + 1
        log := l.log ++ [.acceptCallback l.nextConnectionBeingAccepted
          l.nextConnectionBeingAccepted l.error false] }) :=
  ⟨step_error, closeFromLoop_closeFromLoop, h.inv.handled, h.inv.callbacks_eq,
    h.inv.acceptFromLoop_of_error⟩

/-- Two accepts, then `close`: both callbacks fire with `ListenerClosed` in submission
order, with no connection, and a third accept is answered at once. -/
theorem reachable_error_and_callbacks_close_drains :
    let l := ((init.step .accept).step .accept).step .close
    l.log = [.handleError, .acceptCallback 0 0 (some .listenerClosed) false,
      .acceptCallback 1 1 (some .listenerClosed) false] ∧
    l.acceptFromLoop = { l with
      nextConnectionBeingAccepted := 3, nextAcceptCallbackToCall := 3
      log := l.log ++ [.acceptCallback 2 2 (some .listenerClosed) false] } :=
  ⟨rfl, (reachable_error_and_callbacks (.step _ (.step _ (.step _ .init)))).2.2.2.2 rfl⟩

theorem Inv.closeFromLoop_of_none (hi : Inv l) (he : l.error = none) :
    l.closeFromLoop =
      { l with
        error := some .listenerClosed, pending := []
        nextAcceptCallbackToCall := l.nextConnectionBeingAccepted
        log := l.log ++ .handleError :: (List.range' l.nextAcceptCallbackToCall
          (l.nextConnectionBeingAccepted - l.nextAcceptCallbackToCall)).map fun j =>
            .acceptCallback j j (some .listenerClosed) false } := by
  have hle := hi.counters_le
  rw [closeFromLoop, ListenerImplBoilerplate.setError, if_neg (by simp [he])]
  simp only [handleError, handleErrorImpl]
  rw [hi.pending_eq, flushPending_range' _ _ rfl]
  simp only [List.append_assoc, List.singleton_append, Nat.add_sub_cancel' hle]

/-- Closing answers every accept. Whatever the run before, after `close` the listener has an
error, its backend holds no callback, every accept requested so far has been called back
exactly once and in order, `close` runs `handleError` once if the listener had no error and
not at all otherwise, and the only callbacks it makes carry the listener's error and no
connection. -/
theorem reachable_close_answers_accepts (h : Reachable l) :
    l.closeFromLoop.error.isSome ∧ l.closeFromLoop.pending = [] ∧
      acceptCallbacks l.closeFromLoop.log =
        (List.range l.nextConnectionBeingAccepted).map (fun k => (k, k)) ∧
      ∃ L, l.closeFromLoop.log = l.log ++ L ∧
        L.count .handleError = (if l.error = none then 1 else 0) ∧
        ∀ x ∈ L, x = .handleError ∨ ∃ n, x = .acceptCallback n n l.closeFromLoop.error false := by
  have hi := h.inv
  cases he : l.error with
  | some error =>
    have hs : l.error.isSome := by rw [he]; rfl
    have hl : l.closeFromLoop = l := by simp [closeFromLoop, setError, hs]
    rw [hl]
    exact ⟨hs, hi.pending_of_error hs, by rw [hi.callbacks_eq, hi.caught_up hs], [], by simp,
      by simp, by simp⟩
  | none =>
    have hi' : Inv l.closeFromLoop := hi.setError _
    rw [hi.closeFromLoop_of_none he] at hi' ⊢
    refine ⟨rfl, rfl, by simpa using hi'.callbacks_eq, _, rfl, by simp [List.count_eq_zero],
      fun x hx => ?_⟩
    rcases List.mem_cons.1 hx with rfl | hx
    · exact .inl rfl
    · obtain ⟨j, -, rfl⟩ := List.mem_map.1 hx
      exact .inr ⟨j, rfl⟩

/-- Two accepts wait in the backend; `close` answers both, in order. -/
theorem reachable_close_answers_accepts_two_waiting :
    let l := (init.step .accept).step .accept
    l.pending = [0, 1] ∧ l.closeFromLoop.error.isSome ∧ l.closeFromLoop.pending = [] ∧
      acceptCallbacks l.closeFromLoop.log =
        (List.range l.nextConnectionBeingAccepted).map (fun k => (k, k)) ∧
      ∃ L, l.closeFromLoop.log = l.log ++ L ∧
        L.count .handleError = (if l.error = none then 1 else 0) ∧
        ∀ x ∈ L, x = .handleError ∨ ∃ n, x = .acceptCallback n n l.closeFromLoop.error false :=
  ⟨rfl, reachable_close_answers_accepts (.step _ (.step _ .init))⟩

end ListenerImplBoilerplate

end TensorPipe.Transport

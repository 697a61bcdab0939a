import Mathlib.Data.Nat.Digits

/-! # Errors and byte strings

`Error` is the sticky error slot of channels and listeners: `none` is `Error::kSuccess`
and the C++ `operator bool` is `Option.isSome`. A `std::string` that carries binary data
(an IPC handle, a serialized descriptor) is a list of bytes.
-/
namespace TensorPipe

/-- The error kinds that reach the channel and the listener (§7 of the design). -/
inductive ErrorKind
  | channelClosed
  | listenerClosed
  | connection
  | device
  | protocol
  deriving DecidableEq, Repr

/-- `tensorpipe::Error`; `none` is `Error::kSuccess`. -/
abbrev Error := Option ErrorKind

/-- A `std::string` holding arbitrary bytes, embedded zeros included. -/
abbrev Bytes := List UInt8

/-- `std::to_string` of an unsigned integer: its decimal digits in ASCII, most significant
first, and `"0"` for zero. -/
def decimalString (n : Nat) : Bytes :=
  if n = 0 then [48] else (Nat.digits 10 n).reverse.map fun d => (48 + d).toUInt8

/-- The one-byte string `"_"`. -/
def underscore : Bytes := [95]

example : decimalString 407 = [52, 48, 55] := by norm_num [decimalString]; decide

private theorem decimalString_digits (n : Nat) :
    (decimalString n).map (fun b => b.toNat - 48) =
      if n = 0 then [0] else (Nat.digits 10 n).reverse := by
  unfold decimalString
  split_ifs with h
  · rfl
  · rw [List.map_map]
    conv_rhs => rw [← List.map_id (Nat.digits 10 n).reverse]
    refine List.map_congr_left fun d hd => ?_
    have : d < 10 := Nat.digits_lt_base (by norm_num) (List.mem_reverse.1 hd)
    simp only [Function.comp_apply, Nat.toUInt8, id]
    rw [UInt8.toNat_ofNat_of_lt (by simp [UInt8.size]; omega)]
    omega

private theorem digits_ne_singleton_zero {m : Nat} (hm : m ≠ 0) :
    [0] ≠ (Nat.digits 10 m).reverse := by
  intro h
  have hd : Nat.digits 10 m = [0] := by simpa using (congrArg List.reverse h).symm
  have := Nat.getLast_digit_ne_zero 10 hm
  simp [hd] at this

theorem decimalString_injective : Function.Injective decimalString := by
  intro n m h
  have := congrArg (List.map fun b => b.toNat - 48) h
  rw [decimalString_digits, decimalString_digits] at this
  split_ifs at this with hn hm hm
  · omega
  · exact absurd this (digits_ne_singleton_zero hm)
  · exact absurd this.symm (digits_ne_singleton_zero hn)
  · exact Nat.digits_inj_iff.1 (List.reverse_inj.1 this)

theorem underscore_not_mem_decimalString (n : Nat) : (95 : UInt8) ∉ decimalString n := by
  unfold decimalString
  split_ifs
  · decide
  · simp only [List.mem_map, List.mem_reverse, not_exists, not_and]
    intro d hd h
    have hd10 : d < 10 := Nat.digits_lt_base (by norm_num) hd
    have h95 := congrArg UInt8.toNat h
    rw [Nat.toUInt8, UInt8.toNat_ofNat_of_lt (by simp only [UInt8.size]; omega)] at h95
    exact absurd h95 (show 48 + d ≠ 95 by omega)

theorem takeWhile_reverse_append_cons {α : Type} [DecidableEq α] {sep : α} (p : List α)
    {D : List α} (hD : sep ∉ D) : ((p ++ sep :: D).reverse.takeWhile (· != sep)) = D.reverse := by
  rw [List.reverse_append, List.reverse_cons, List.append_assoc,
    List.takeWhile_append_of_pos fun a ha =>
      bne_iff_ne.2 fun (h : a = sep) => hD (List.mem_reverse.1 (h ▸ ha))]
  simp

theorem append_cons_inj_of_not_mem_tail {α : Type} [DecidableEq α] {sep : α}
    {p p' D D' : List α} (hD : sep ∉ D) (hD' : sep ∉ D')
    (h : p ++ sep :: D = p' ++ sep :: D') : p = p' ∧ D = D' := by
  have hDD : D = D' := List.reverse_injective <| by
    rw [← takeWhile_reverse_append_cons p hD, ← takeWhile_reverse_append_cons p' hD', h]
  subst hDD
  exact ⟨List.append_cancel_right h, rfl⟩

theorem length_decimalString_le {n : Nat} (h : n < 2 ^ 64) : (decimalString n).length ≤ 20 := by
  unfold decimalString
  split_ifs with hn
  · simp
  · rw [List.length_map, List.length_reverse]
    by_contra hc
    have h₁ := Nat.base_pow_length_digits_le 10 n (by norm_num) hn
    have h₂ : 10 ^ 21 ≤ 10 ^ (Nat.digits 10 n).length :=
      Nat.pow_le_pow_right (by norm_num) (by omega)
    omega

end TensorPipe

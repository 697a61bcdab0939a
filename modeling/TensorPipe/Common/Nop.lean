import TensorPipe.Common.Defs

/-! # The wire codec of descriptors, replies and acks

Modelled from the spec: the `nop` serializer behind `saveDescriptor`, `loadDescriptor` and
the connections' object reads and writes is not in the source tree. §4.4 and §6 ask for a
deterministic structural encoding: the fields in `NOP_STRUCTURE` order, every string
length-prefixed, every integer at a fixed width. Here that is a little-endian 64-bit word.
Decoding fails on a short input.
-/
namespace TensorPipe

/-- The `width` low bytes of `n`, least significant first. -/
def putWord : Nat → Nat → Bytes
  | 0, _ => []
  | width + 1, n => (n % 256).toUInt8 :: putWord width (n / 256)

/-- Read a `width`-byte little-endian word off the front of the input. -/
def getWord : Nat → Bytes → Option (Nat × Bytes)
  | 0, bs => some (0, bs)
  | _ + 1, [] => none
  | width + 1, b :: bs => (getWord width bs).map fun r => (b.toNat + 256 * r.1, r.2)

/-- A string: its length as a 64-bit word, then its bytes. -/
def putString (s : Bytes) : Bytes :=
  putWord 8 s.length ++ s

/-- Read a length-prefixed string off the front of the input. -/
def getString (bs : Bytes) : Option (Bytes × Bytes) :=
  (getWord 8 bs).bind fun r =>
    if r.1 ≤ r.2.length then some (r.2.take r.1, r.2.drop r.1) else none

@[simp] theorem length_putWord (width n : Nat) : (putWord width n).length = width := by
  induction width generalizing n with
  | zero => rfl
  | succ width ih => simp [putWord, ih]

theorem uint64_ofNat_toNat (x : UInt64) : UInt64.ofNat x.toNat = x :=
  UInt64.eq_of_toBitVec_eq (BitVec.eq_of_toNat_eq (by
    simp only [UInt64.ofNat, BitVec.toNat_ofNat]; exact Nat.mod_eq_of_lt x.toNat_lt_size))

theorem getWord_putWord (width n : Nat) (rest : Bytes) :
    getWord width (putWord width n ++ rest) = some (n % 256 ^ width, rest) := by
  induction width generalizing n with
  | zero => simp [getWord, putWord, Nat.mod_one]
  | succ width ih =>
    have hb : ((n % 256).toUInt8).toNat = n % 256 :=
      UInt8.toNat_ofNat_of_lt (Nat.mod_lt _ (by decide))
    show getWord (width + 1) ((n % 256).toUInt8 :: (putWord width (n / 256) ++ rest)) = _
    simp only [getWord, ih, Option.map_some', hb]
    rw [Nat.pow_succ', Nat.mod_mul]

theorem getString_putString (s rest : Bytes) (h : s.length < 2 ^ 64) :
    getString (putString s ++ rest) = some (s, rest) := by
  have hw : s.length % 256 ^ 8 = s.length := Nat.mod_eq_of_lt (by simpa using h)
  rw [getString, putString, List.append_assoc, getWord_putWord, hw]
  simp

theorem getWord_eq_some {width : Nat} {bs rest : Bytes} {n : Nat}
    (h : getWord width bs = some (n, rest)) : n < 256 ^ width ∧ bs = putWord width n ++ rest := by
  induction width generalizing bs n with
  | zero =>
    obtain ⟨rfl, rfl⟩ := Prod.mk.inj (Option.some.inj h)
    exact ⟨by simp, rfl⟩
  | succ width ih =>
    cases bs with
    | nil => cases h
    | cons b bs =>
      simp only [getWord, Option.map_eq_some', Prod.mk.injEq] at h
      obtain ⟨⟨r, rest'⟩, hr, rfl, rfl⟩ := h
      obtain ⟨hlt, rfl⟩ := ih hr
      have hb := b.toNat_lt_size
      simp only [UInt8.size] at hb
      refine ⟨by rw [Nat.pow_succ']; omega, ?_⟩
      have hm : (b.toNat + 256 * r) % 256 = b.toNat := by omega
      have hd : (b.toNat + 256 * r) / 256 = r := by omega
      simp only [putWord, hm, hd, List.cons_append, List.cons.injEq, and_true]
      exact (UInt8.toNat.inj (UInt8.toNat_ofNat_of_lt hb)).symm

theorem getString_eq_some {bs s rest : Bytes} (h : getString bs = some (s, rest)) :
    s.length < 2 ^ 64 ∧ bs = putString s ++ rest := by
  obtain ⟨⟨n, bs'⟩, hw, hs⟩ := Option.bind_eq_some.1 h
  obtain ⟨hlt, rfl⟩ := getWord_eq_some hw
  dsimp only at hs
  split_ifs at hs with hn
  obtain ⟨rfl, rfl⟩ := Prod.mk.inj (Option.some.inj hs)
  have hl : (bs'.take n).length = n := List.length_take_of_le hn
  refine ⟨by rw [hl]; simpa using hlt, ?_⟩
  rw [putString, hl, List.append_assoc, List.take_append_drop]

end TensorPipe

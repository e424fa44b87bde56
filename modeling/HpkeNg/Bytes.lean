import Mathlib.Data.List.GetD
import Mathlib.Data.Nat.Basic
import Mathlib.Tactic.Linarith

/-!
# Byte strings

The byte strings a wire format is made of, with the facts a proof about concatenated fields needs.

* `Bytes`, fixed-size arrays `Arr n`, and the in-place update `Arr.modify`;
* single bits: `Arr.bit`, `Arr.ext_bit`, and the bits of masked bytes;
* big-endian encodings: `i2osp`, `i2osp_inj`, `i2osp_add`, and `os2ip`, their inverse;
* little-endian encodings: `os2ipLe`, `os2ipLe_inj`, `os2ipLe_clear_top`;
* byte-wise XOR: `xorBytes`, `xorBytes_right_inj`.
-/

namespace HpkeNg

/-- A byte string. -/
abbrev Bytes : Type := List UInt8

/-- An array of `n` bytes. -/
abbrev Arr (n : ℕ) : Type := {b : Bytes // b.length = n}

/-- `n` zero bytes. -/
def zeros (n : ℕ) : Arr n := ⟨List.replicate n 0, List.length_replicate⟩

/-- Update the byte at index `i`. -/
def Arr.modify {n : ℕ} (a : Arr n) (i : ℕ) (f : UInt8 → UInt8) : Arr n :=
  ⟨a.1.modify i f, by rw [List.length_modify, a.2]⟩

/-- A byte string of the right length is an array. -/
def Arr.ofBytes? {n : ℕ} (b : Bytes) : Option (Arr n) :=
  if h : b.length = n then some ⟨b, h⟩ else none

@[simp] theorem Arr.length_val {n : ℕ} (a : Arr n) : a.1.length = n := a.2

@[simp] theorem Arr.modify_val {n : ℕ} (a : Arr n) (i : ℕ) (f : UInt8 → UInt8) :
    (a.modify i f).1 = a.1.modify i f := rfl

@[simp] theorem Arr.ofBytes?_val {n : ℕ} (a : Arr n) : Arr.ofBytes? a.1 = some a := by
  rw [Arr.ofBytes?, dif_pos a.2]

theorem Arr.ofBytes?_of_length {n : ℕ} {b : Bytes} (h : b.length = n) :
    Arr.ofBytes? b = some (⟨b, h⟩ : Arr n) := dif_pos h

theorem Arr.ofBytes?_eq_some {n : ℕ} {b : Bytes} {a : Arr n} :
    Arr.ofBytes? b = some a ↔ a.1 = b := by
  constructor
  · intro h
    unfold Arr.ofBytes? at h
    split_ifs at h
    rw [← Option.some.inj h]
  · rintro rfl
    exact a.ofBytes?_val

theorem Arr.ofBytes?_of_ne {n : ℕ} {b : Bytes} (h : b.length ≠ n) :
    Arr.ofBytes? b = (none : Option (Arr n)) := dif_neg h

/-! ## Bits -/

section Bits

variable {n : ℕ}

/-- Bit `j` of byte `i`, the least significant bit first. -/
def Arr.bit (a : Arr n) (i j : ℕ) : Bool := (a.1.getD i 0).toBitVec.getLsbD j

theorem Arr.ext_bit {a b : Arr n} (h : ∀ i < n, ∀ j < 8, a.bit i j = b.bit i j) : a = b := by
  apply Subtype.ext
  refine List.ext_getElem (by rw [a.2, b.2]) fun i hi _ => ?_
  rw [a.2] at hi
  apply UInt8.toBitVec_inj.mp
  refine BitVec.eq_of_getLsbD_eq fun j hj => ?_
  have := h i hi j hj
  rwa [Arr.bit, Arr.bit, List.getD_eq_getElem _ _ (by rwa [a.2]),
    List.getD_eq_getElem _ _ (by rwa [b.2])] at this

theorem Arr.bit_modify (a : Arr n) (k : ℕ) (f : UInt8 → UInt8) {i : ℕ} (hi : i < n) (j : ℕ) :
    (a.modify k f).bit i j =
      if k = i then (f (a.1.getD i 0)).toBitVec.getLsbD j else a.bit i j := by
  have hm : i < (a.1.modify k f).length := by rw [List.length_modify, a.2]; exact hi
  have ha : i < a.1.length := by rw [a.2]; exact hi
  rw [Arr.bit, Arr.bit, Arr.modify_val, List.getD_eq_getElem _ _ hm, List.getElem_modify,
    List.getD_eq_getElem _ _ ha]
  split_ifs <;> rfl

theorem Arr.bit_modify_and (a : Arr n) (k : ℕ) (m : UInt8) {i : ℕ} (hi : i < n) (j : ℕ) :
    (a.modify k (· &&& m)).bit i j = (a.bit i j && (decide (k ≠ i) || m.toBitVec.getLsbD j)) := by
  rw [Arr.bit_modify _ _ _ hi]
  by_cases h : k = i
  · simp [h, Arr.bit]
  · simp [h]

theorem Arr.bit_modify_or (a : Arr n) (k : ℕ) (m : UInt8) {i : ℕ} (hi : i < n) (j : ℕ) :
    (a.modify k (· ||| m)).bit i j = (a.bit i j || (decide (k = i) && m.toBitVec.getLsbD j)) := by
  rw [Arr.bit_modify _ _ _ hi]
  by_cases h : k = i
  · simp [h, Arr.bit]
  · simp [h]

end Bits

/-! ## Big-endian encodings -/

/-- The low `n` bytes of `v`, most significant first. -/
def i2osp : ℕ → ℕ → Bytes
  | 0, _ => []
  | n + 1, v => i2osp n (v / 256) ++ [UInt8.ofNat v]

@[simp] theorem length_i2osp (n v : ℕ) : (i2osp n v).length = n := by
  induction n generalizing v with
  | zero => rfl
  | succ n ih => rw [i2osp, List.length_append, ih, List.length_singleton]

/-- The number with these bytes, most significant first. -/
def os2ip (b : Bytes) : ℕ := b.foldl (fun v x => 256 * v + x.toNat) 0

theorem os2ip_concat (b : Bytes) (x : UInt8) : os2ip (b ++ [x]) = 256 * os2ip b + x.toNat := by
  rw [os2ip, List.foldl_append]
  rfl

theorem os2ip_i2osp {n v : ℕ} (hv : v < 256 ^ n) : os2ip (i2osp n v) = v := by
  induction n generalizing v with
  | zero => simp only [pow_zero, Nat.lt_one_iff] at hv; rw [hv]; rfl
  | succ n ih =>
    have hd : v / 256 < 256 ^ n := by
      rw [Nat.div_lt_iff_lt_mul (by norm_num), ← pow_succ]; exact hv
    rw [i2osp, os2ip_concat, ih hd, UInt8.toNat_ofNat']
    omega

theorem i2osp_os2ip {n : ℕ} {b : Bytes} (h : b.length = n) : i2osp n (os2ip b) = b := by
  induction n generalizing b with
  | zero => rw [List.length_eq_zero_iff.mp h]; rfl
  | succ n ih =>
    obtain ⟨b, x, rfl⟩ := (List.eq_nil_or_concat b).resolve_left (by rintro rfl; cases h)
    rw [List.concat_eq_append] at h ⊢
    rw [List.length_append, List.length_singleton, Nat.add_right_cancel_iff] at h
    have hx := x.toNat_lt
    have hd : (256 * os2ip b + x.toNat) / 256 = os2ip b := by omega
    rw [os2ip_concat, i2osp, hd, ih h]
    congr 2
    apply UInt8.toNat_inj.mp
    rw [UInt8.toNat_ofNat']
    omega

theorem i2osp_inj {n v w : ℕ} (hv : v < 256 ^ n) (hw : w < 256 ^ n) (h : i2osp n v = i2osp n w) :
    v = w := by
  rw [← os2ip_i2osp hv, h, os2ip_i2osp hw]

theorem i2osp_zero (n : ℕ) : i2osp n 0 = List.replicate n 0 := by
  induction n with
  | zero => rfl
  | succ n ih => rw [i2osp, Nat.zero_div, ih, List.replicate_succ']; rfl

/-- A number that fits in `n` bytes is padded with zero bytes on the left. -/
theorem i2osp_add (k : ℕ) {n v : ℕ} (hv : v < 256 ^ n) :
    i2osp (k + n) v = List.replicate k 0 ++ i2osp n v := by
  induction n generalizing v with
  | zero =>
    have hv0 : v = 0 := by simpa using hv
    rw [hv0, Nat.add_zero, i2osp_zero, i2osp, List.append_nil]
  | succ n ih =>
    have hd : v / 256 < 256 ^ n := by
      rw [Nat.div_lt_iff_lt_mul (by norm_num), ← pow_succ]; exact hv
    rw [← Nat.add_assoc, i2osp, ih hd, i2osp, List.append_assoc]

/-- The number with these bytes, least significant first. -/
def os2ipLe (b : Bytes) : ℕ := b.foldr (fun x v => x.toNat + 256 * v) 0

theorem os2ipLe_cons (x : UInt8) (b : Bytes) : os2ipLe (x :: b) = x.toNat + 256 * os2ipLe b := rfl

theorem os2ipLe_inj {b b' : Bytes} (hl : b.length = b'.length) (h : os2ipLe b = os2ipLe b') :
    b = b' := by
  induction b generalizing b' with
  | nil => exact (List.length_eq_zero_iff.mp hl.symm).symm
  | cons x b ih =>
    cases b' with
    | nil => cases hl
    | cons x' b' =>
      have hx := x.toNat_lt
      have hx' := x'.toNat_lt
      rw [os2ipLe_cons, os2ipLe_cons] at h
      rw [UInt8.toNat_inj.mp (by omega : x.toNat = x'.toNat), ih (Nat.succ.inj hl) (by omega)]

/-- Clearing the top bit of the last byte clears the top bit of the number. -/
theorem os2ipLe_clear_top {b : Bytes} {n : ℕ} (h : b.length = n + 1) :
    os2ipLe (b.modify n (· &&& 0x7F)) = os2ipLe b % (256 ^ n * 128) := by
  induction n generalizing b with
  | zero =>
    obtain ⟨x, rfl⟩ := List.length_eq_one_iff.mp h
    have hx : (x &&& 0x7F).toNat = x.toNat % 128 := by
      rw [UInt8.toNat_and]
      exact Nat.and_two_pow_sub_one_eq_mod x.toNat 7
    change (x &&& 0x7F).toNat + 256 * 0 = (x.toNat + 256 * 0) % (256 ^ 0 * 128)
    rw [hx]
    rfl
  | succ n ih =>
    obtain ⟨x, b, rfl⟩ := List.exists_cons_of_length_eq_add_one h
    have hx := x.toNat_lt
    have h0 : (x.toNat + 256 * os2ipLe b) % 256 = x.toNat := by omega
    have h1 : (x.toNat + 256 * os2ipLe b) / 256 = os2ipLe b := by omega
    have hm : (x.toNat + 256 * os2ipLe b) % (256 * (256 ^ n * 128)) =
        x.toNat + 256 * (os2ipLe b % (256 ^ n * 128)) := by
      rw [Nat.mod_mul, h0, h1]
    rw [List.modify_succ_cons, os2ipLe_cons, os2ipLe_cons, ih (Nat.succ.inj h), pow_succ',
      Nat.mul_assoc, hm]

/-- The two bytes of a 16-bit number, most significant first. -/
def be16 (x : UInt16) : Bytes := i2osp 2 x.toNat

/-- The eight bytes of a 64-bit number, most significant first. -/
def be64 (x : UInt64) : Bytes := i2osp 8 x.toNat

@[simp] theorem length_be16 (x : UInt16) : (be16 x).length = 2 := length_i2osp _ _
@[simp] theorem length_be64 (x : UInt64) : (be64 x).length = 8 := length_i2osp _ _

theorem be16_inj {x y : UInt16} (h : be16 x = be16 y) : x = y :=
  UInt16.toNat_inj.mp (i2osp_inj x.toNat_lt y.toNat_lt h)

/-! ## XOR -/

/-- Byte-wise XOR, to the length of the shorter string. -/
def xorBytes (a b : Bytes) : Bytes := List.zipWith (· ^^^ ·) a b

@[simp] theorem length_xorBytes (a b : Bytes) : (xorBytes a b).length = min a.length b.length :=
  List.length_zipWith

theorem xorBytes_append {a a' b b' : Bytes} (h : a.length = a'.length) :
    xorBytes (a ++ b) (a' ++ b') = xorBytes a a' ++ xorBytes b b' := List.zipWith_append h

theorem xorBytes_zeros {a : Bytes} {n : ℕ} (h : a.length = n) :
    xorBytes a (List.replicate n 0) = a := by
  induction a generalizing n with
  | nil => rfl
  | cons x a ih =>
    subst h
    rw [List.length_cons, List.replicate_succ]
    exact congrArg₂ List.cons (UInt8.xor_zero) (ih rfl)

theorem xorBytes_right_inj {a b c : Bytes} (hb : b.length = a.length) (hc : c.length = a.length)
    (h : xorBytes a b = xorBytes a c) : b = c := by
  induction a generalizing b c with
  | nil => rw [List.length_eq_zero_iff.mp hb, List.length_eq_zero_iff.mp hc]
  | cons x a ih =>
    obtain ⟨y, b, rfl⟩ := List.exists_cons_of_length_eq_add_one hb
    obtain ⟨z, c, rfl⟩ := List.exists_cons_of_length_eq_add_one hc
    obtain ⟨hx, ht⟩ := List.cons.inj h
    rw [(UInt8.xor_right_inj x).mp hx, ih (Nat.succ.inj hb) (Nat.succ.inj hc) ht]

end HpkeNg

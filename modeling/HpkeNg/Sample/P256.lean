import HpkeNg.Kem.PrimeOrder
import HpkeNg.Sample

/-!
# P-256, computed

The curve of `p256` with its own arithmetic, for the runs in which the points matter.

* `P256.add`, `P256.mul`: the group law in affine coordinates;
* `P256.crate`, with `documented`, `affinePoints`, `scalars` and `scalarOne`;
* `P256.crateOne`, where the scalars act trivially, with `affinePointsOne` and `multiplicationOne`;
* `crates256`, `crates256One`: the small crates with one of them as `p256`, and what is documented.
-/

namespace HpkeNg

namespace Sample

namespace P256

/-- The order of the field. -/
@[irreducible] def p : ℕ := 0xffffffff00000001000000000000000000000000ffffffffffffffffffffffff

/-- The constant of the equation `y² = x³ - 3x + b`. -/
@[irreducible] def b : ℕ := 0x5ac635d8aa3a93e7b3ebbd55769886bc651d06b0cc53b0f63bce3c3e27d2604b

/-- The order of the group. -/
@[irreducible] def n : ℕ := 0xffffffff00000000ffffffffffffffffbce6faada7179e84f3b9cac2fc632551

/-- `a ^ e` in the field, for `e < 2 ^ fuel`. -/
def pow (a : ℕ) : ℕ → ℕ → ℕ
  | 0, _ => 1
  | fuel + 1, e =>
    if e = 0 then 1
    else
      let r := pow a fuel (e / 2)
      if e % 2 = 0 then r * r % p else r * r * a % p

/-- The inverse, by Fermat. -/
def inv (a : ℕ) : ℕ := pow a 256 (p - 2)

/-- The difference modulo `p`. -/
def sub (x y : ℕ) : ℕ := (x + (p - y % p)) % p

/-- Point addition; `none` is the point at infinity. -/
def add : Option (ℕ × ℕ) → Option (ℕ × ℕ) → Option (ℕ × ℕ)
  | none, q => q
  | some q, none => some q
  | some (x, y), some (x', y') =>
    if x = x' ∧ (y + y') % p = 0 then none
    else
      let slope :=
        if x = x' then (3 * x * x + (p - 3)) * inv (2 * y) % p else sub y' y * inv (sub x' x) % p
      let x3 := sub (sub (slope * slope) x) x'
      some (x3, sub (slope * sub x x3) y)

/-- Double and add, for `k < 2 ^ fuel`. -/
def mul (q : Option (ℕ × ℕ)) : ℕ → ℕ → Option (ℕ × ℕ)
  | 0, _ => none
  | fuel + 1, k =>
    if k = 0 then none
    else
      let r := mul q fuel (k / 2)
      let d := add r r
      if k % 2 = 0 then d else add d q

theorem mul_one (q : Option (ℕ × ℕ)) : mul q 256 1 = q := rfl

/-- `y² = x³ - 3x + b` between reduced coordinates. -/
def OnCurve (q : ℕ × ℕ) : Prop :=
  q.1 < p ∧ q.2 < p ∧ q.2 * q.2 % p = (q.1 * q.1 * q.1 + (p - 3) * q.1 + b) % p

instance (q : ℕ × ℕ) : Decidable (OnCurve q) := by unfold OnCurve; infer_instance

/-- An affine point. -/
abbrev Point : Type := {q : ℕ × ℕ // OnCurve q}

/-- The base point. -/
def generator : Point :=
  ⟨(0x6b17d1f2e12c4247f8bce6e563a440f277037d812deb33a0f4a13945d898c296,
    0x4fe342e2fe1a7f9b8ee7eb4a7c0f9e162bce33576b315ececbb6406837bf51f5), by decide +kernel⟩

/-- A scalar. -/
abbrev Scalar : Type := {k : ℕ // 0 < k ∧ k < n}

/-- 32 bytes of a scalar. -/
def scalarFromSlice (s : Bytes) : Option Scalar :=
  if h : s.length = 32 ∧ 0 < os2ip s ∧ os2ip s < n then some ⟨os2ip s, h.2⟩ else none

/-- Every multiple of the base point is on the curve; what is not is never returned. -/
def publicKey (s : Scalar) : Point :=
  match mul (some generator.1) 256 s.1 with
  | none => generator
  | some q => if h : OnCurve q then ⟨q, h⟩ else generator

/-- The uncompressed form. -/
def toSec1 (q : Point) : Bytes := 0x04 :: (i2osp 32 q.1.1 ++ i2osp 32 q.1.2)

/-- Only the uncompressed form is parsed. -/
def fromSec1 (s : Bytes) : Option Point :=
  let xy := s.drop 1
  let q := (os2ip (xy.take 32), os2ip (xy.drop 32))
  if h : s.length = 65 ∧ s[0]? = some 0x04 ∧ OnCurve q then some ⟨q, h.2.2⟩ else none

/-- The `X`-coordinate of the product. -/
def diffieHellman (s : Scalar) (q : Point) : Arr 32 :=
  match mul (some q.1) 256 s.1 with
  | none => zeros 32
  | some r => ⟨i2osp 32 r.1, length_i2osp _ _⟩

theorem generated_lt (rng : ℕ) : 0 < rng % (n - 1) + 1 ∧ rng % (n - 1) + 1 < n := by
  have hn : 1 < n := by decide +kernel
  have hm := Nat.mod_lt rng (by omega : 0 < n - 1)
  omega

/-- P-256 by double and add. -/
def crate : CurveCrate ℕ 32 where
  SecretKey := Scalar
  PublicKey := Point
  generateFromRng rng := (⟨rng % (n - 1) + 1, generated_lt rng⟩, rng + 1)
  fromSlice := scalarFromSlice
  toBytes s := ⟨i2osp 32 s.1, length_i2osp _ _⟩
  publicKey := publicKey
  fromSec1Bytes := fromSec1
  toSec1Point := toSec1
  diffieHellman := diffieHellman

theorem p_lt : p < 256 ^ 32 := by decide +kernel

theorem n_lt : n < 256 ^ 32 := by decide +kernel

theorem scalarFromSlice_i2osp (s : Scalar) : scalarFromSlice (i2osp 32 s.1) = some s := by
  have hv : os2ip (i2osp 32 s.1) = s.1 := os2ip_i2osp (s.2.2.trans n_lt)
  have h : (i2osp 32 s.1).length = 32 ∧ 0 < os2ip (i2osp 32 s.1) ∧ os2ip (i2osp 32 s.1) < n := by
    rw [hv]
    exact ⟨length_i2osp _ _, s.2⟩
  rw [scalarFromSlice, dif_pos h, Option.some.injEq, Subtype.mk.injEq]
  exact hv

theorem i2osp_of_scalarFromSlice {t : Bytes} {s : Scalar} (h : scalarFromSlice t = some s) :
    i2osp 32 s.1 = t := by
  unfold scalarFromSlice at h
  split_ifs at h with ht
  rw [← Option.some.inj h]
  exact i2osp_os2ip ht.1

theorem fromSec1_toSec1 (q : Point) : fromSec1 (toSec1 q) = some q := by
  have hx : os2ip (i2osp 32 q.1.1) = q.1.1 := os2ip_i2osp (q.2.1.trans p_lt)
  have hy : os2ip (i2osp 32 q.1.2) = q.1.2 := os2ip_i2osp (q.2.2.1.trans p_lt)
  have hq : (os2ip (((toSec1 q).drop 1).take 32), os2ip (((toSec1 q).drop 1).drop 32)) = q.1 := by
    rw [toSec1, List.drop_one, List.tail_cons, List.take_left' (length_i2osp _ _),
      List.drop_left' (length_i2osp _ _), hx, hy]
  have h : (toSec1 q).length = 65 ∧ (toSec1 q)[0]? = some 0x04 ∧
      OnCurve (os2ip (((toSec1 q).drop 1).take 32), os2ip (((toSec1 q).drop 1).drop 32)) := by
    rw [hq]
    exact ⟨by simp [toSec1], rfl, q.2⟩
  rw [fromSec1, dif_pos h, Option.some.injEq, Subtype.mk.injEq]
  exact hq

theorem toSec1_of_fromSec1 {t : Bytes} {q : Point} (h : fromSec1 t = some q) : toSec1 q = t := by
  unfold fromSec1 at h
  simp only at h
  split_ifs at h with ht
  rw [← Option.some.inj h]
  obtain ⟨hl, h0, -⟩ := ht
  obtain ⟨x, xy, rfl⟩ := List.exists_cons_of_length_pos (by omega : 0 < t.length)
  obtain rfl : x = 0x04 := Option.some.inj h0
  rw [List.length_cons, Nat.add_right_cancel_iff] at hl
  simp only [toSec1, List.drop_one, List.tail_cons]
  rw [i2osp_os2ip (by rw [List.length_take]; omega), i2osp_os2ip (by rw [List.length_drop]; omega),
    List.take_append_drop]

theorem toSec1_uncompressed (q : Point) : ∃ xy, xy.length = 2 * 32 ∧ toSec1 q = 0x04 :: xy := by
  refine ⟨i2osp 32 q.1.1 ++ i2osp 32 q.1.2, ?_, rfl⟩
  rw [List.length_append, length_i2osp, length_i2osp]

theorem documented : crate.Documented where
  fromSlice_toBytes s := by
    dsimp only [crate]
    exact scalarFromSlice_i2osp s
  toBytes_fromSlice _ h := i2osp_of_scalarFromSlice h
  fromSec1Bytes_toSec1Point q := by
    dsimp only [crate]
    exact fromSec1_toSec1 q
  toSec1Point_uncompressed := toSec1_uncompressed
  toSec1Point_fromSec1Bytes _ h := toSec1_of_fromSec1 h

theorem onCurve_iff (q : ℕ × ℕ) : OnCurve q ↔ PrimeGroup.p256.curve.OnCurve q := by
  unfold OnCurve p b
  exact Iff.rfl

theorem fromSec1_eq_some {x y : Arr 32} {q : Point} :
    fromSec1 (0x04 :: (x.1 ++ y.1)) = some q ↔ q.1 = (os2ip x.1, os2ip y.1) := by
  have hx : q.1.1 < 256 ^ 32 := q.2.1.trans p_lt
  have hy : q.1.2 < 256 ^ 32 := q.2.2.1.trans p_lt
  refine Iff.trans ?_ (uncompressed_eq_iff hx hy x.2 y.2)
  constructor
  · exact toSec1_of_fromSec1
  · intro h
    rw [← h]
    exact fromSec1_toSec1 q

/-- Its public keys are the affine points. -/
def affinePoints : crate.AffinePoints PrimeGroup.p256.curve where
  affine := Equiv.subtypeEquivRight onCurve_iff
  toSec1Point_eq _ := rfl
  fromSec1Bytes_eq_some := fromSec1_eq_some

theorem order_eq : PrimeGroup.p256.order = n := by
  unfold n
  rfl

theorem scalars : crate.Scalars PrimeGroup.p256.order where
  fromSlice_isSome {s} hs := by
    dsimp only [crate]
    rw [order_eq, scalarFromSlice]
    by_cases h : 0 < os2ip s ∧ os2ip s < n
    · rw [dif_pos ⟨hs, h⟩]
      exact iff_of_true rfl h
    · rw [dif_neg fun h' => h h'.2]
      exact iff_of_false (by decide) h

/-- The scalar 1. -/
def one : Scalar := ⟨1, by decide +kernel⟩

theorem fromSlice_one : crate.fromSlice (i2osp 32 1) = some one := by
  dsimp only [crate]
  exact scalarFromSlice_i2osp one

/-- The raw secret with the scalar 1 is the `X`-coordinate. -/
theorem diffieHellman_one (q : Point) : (diffieHellman one q).1 = ((toSec1 q).drop 1).take 32 := by
  rw [diffieHellman, one, mul_one, toSec1, List.drop_one, List.tail_cons,
    List.take_left' (length_i2osp _ _)]

theorem scalarOne : crate.ScalarOne := by
  refine ⟨by rw [HpkeNg.scalarOne, fromSlice_one]; rfl, ?_⟩
  intro s q h
  obtain rfl := Option.some.inj (fromSlice_one.symm.trans h)
  exact diffieHellman_one q

/-- The same points and scalars, where every scalar multiplies as 1 does. -/
def crateOne : CurveCrate ℕ 32 :=
  { crate with
    diffieHellman := fun _ q => ⟨i2osp 32 q.1.1, length_i2osp _ _⟩ }

theorem fromSec1Bytes_uncompressed (q : Point) :
    crateOne.fromSec1Bytes (uncompressed 32 q.1) = some q := by
  dsimp only [crateOne, crate]
  exact fromSec1_toSec1 q

/-- Its public keys are the same points. -/
def affinePointsOne : crateOne.AffinePoints PrimeGroup.p256.curve where
  affine := Equiv.subtypeEquivRight onCurve_iff
  toSec1Point_eq _ := rfl
  fromSec1Bytes_eq_some := fromSec1_eq_some

/-- The one scalar fixes every point. -/
def multiplicationOne : affinePointsOne.Multiplication where
  mul _ q := q
  inv s := s
  mul_inv _ _ := rfl
  inv_mul _ _ := rfl
  diffieHellman_eq _ _ := rfl

end P256

/-- The small crates, with the computed P-256. -/
def crates256 : Crates ℕ := { crates with p256 := P256.crate }

theorem hkdfDocumented256 : crates256.HkdfDocumented := { hkdfDocumented with }

theorem curvesDocumented256 :
    crates256.CurvesDocumented := { curvesDocumented with p256 := P256.documented }

theorem replacementDocumented256 : crates256.ReplacementDocumented :=
  { replacementDocumented with p256 := P256.scalarOne }

/-- The small crates, with the P-256 of the scalar 1. -/
def crates256One : Crates ℕ := { crates with p256 := P256.crateOne }

end Sample

end HpkeNg

import HpkeNg.Bytes
import Mathlib.NumberTheory.LegendreSymbol.JacobiSymbol

/-!
# Short Weierstrass curves

The affine points of a curve in natural-number coordinates, and their uncompressed encoding.

* `Weierstrass`, `Weierstrass.OnCurve`, `Weierstrass.Point`;
* `uncompressed`, and `uncompressed_eq_iff`: on coordinates that fit, it is read back;
* `Weierstrass.onCurve_zero_iff`: the points with `X = 0` are the square roots of `b`;
* `Weierstrass.not_onCurve_zero`: there is none when the Jacobi symbol of `b` is `-1`.
-/

namespace HpkeNg

/-- The curve `y² = x³ + a x + b` over the integers modulo `p`. -/
structure Weierstrass where
  p : ℕ
  a : ℕ
  b : ℕ

/-- The tag `0x04` and the two coordinates, `k` bytes each. -/
def uncompressed (k : ℕ) (q : ℕ × ℕ) : Bytes := 0x04 :: (i2osp k q.1 ++ i2osp k q.2)

@[simp] theorem length_uncompressed (k : ℕ) (q : ℕ × ℕ) : (uncompressed k q).length = 1 + 2 * k := by
  rw [uncompressed, List.length_cons, List.length_append, length_i2osp, length_i2osp]
  omega

/-- **The coordinates are read back from the encoding.** -/
theorem uncompressed_eq_iff {k : ℕ} {q : ℕ × ℕ} (hx : q.1 < 256 ^ k) (hy : q.2 < 256 ^ k)
    {x y : Bytes} (hlx : x.length = k) (hly : y.length = k) :
    uncompressed k q = 0x04 :: (x ++ y) ↔ q = (os2ip x, os2ip y) := by
  constructor
  · intro h
    obtain ⟨h1, h2⟩ := List.append_inj (List.cons.inj h).2 (by rw [length_i2osp, hlx])
    rw [← h1, ← h2, os2ip_i2osp hx, os2ip_i2osp hy]
  · rintro rfl
    rw [uncompressed, i2osp_os2ip hlx, i2osp_os2ip hly]

theorem exists_coordinates {k : ℕ} {b : Bytes} (hl : b.length = 1 + 2 * k)
    (ht : b[0]? = some 0x04) :
    ∃ x y : Arr k, b = 0x04 :: (x.1 ++ y.1) := by
  obtain ⟨z, xy, rfl⟩ := List.exists_cons_of_length_pos (by omega : 0 < b.length)
  obtain rfl : z = 0x04 := Option.some.inj ht
  rw [List.length_cons] at hl
  refine ⟨⟨xy.take k, ?_⟩, ⟨xy.drop k, ?_⟩, ?_⟩
  · rw [List.length_take]; omega
  · rw [List.length_drop]; omega
  · rw [List.take_append_drop]

namespace Weierstrass

variable (E : Weierstrass)

/-- Reduced coordinates that satisfy the equation. -/
def OnCurve (q : ℕ × ℕ) : Prop :=
  q.1 < E.p ∧ q.2 < E.p ∧ q.2 * q.2 % E.p = (q.1 * q.1 * q.1 + E.a * q.1 + E.b) % E.p

instance (q : ℕ × ℕ) : Decidable (E.OnCurve q) := by unfold OnCurve; infer_instance

/-- An affine point. -/
abbrev Point : Type := {q : ℕ × ℕ // E.OnCurve q}

variable {E}

/-- **The points with `X = 0` are the square roots of `b`.** -/
theorem onCurve_zero_iff {y : ℕ} : E.OnCurve (0, y) ↔ y < E.p ∧ y * y % E.p = E.b % E.p := by
  unfold OnCurve
  simp only [Nat.mul_zero, Nat.zero_add]
  exact ⟨fun h => h.2, fun h => ⟨by omega, h⟩⟩

theorem not_onCurve_zero (h : jacobiSym E.b E.p = -1) (y : ℕ) : ¬ E.OnCurve (0, y) := by
  intro hy
  have hb : ((y : ZMod E.p) * y) = ((E.b : ℤ) : ZMod E.p) := by
    rw [← Nat.cast_mul, Int.cast_natCast]
    exact (ZMod.natCast_eq_natCast_iff _ _ _).mpr (onCurve_zero_iff.mp hy).2
  exact ZMod.nonsquare_of_jacobiSym_eq_neg_one h ⟨y, hb.symm⟩

end Weierstrass

end HpkeNg

import HpkeNg.Kem.PrimeOrder
import HpkeNg.Sample.P256
import Mathlib.Tactic.NormNum.LegendreSymbol

/-!
# The zero check of the prime-order groups

`dh` compares the `X`-coordinate of the product with zero. No product is the point at infinity, but
P-256, P-384 and P-521 have points with `X = 0`.

* `PrimeGroup.onCurve_zero`, `PrimeGroup.not_onCurve_zero`: which curves have such points;
* `CurveCrate.AffinePoints.Multiplication.raw_eq_zeros`: the check rejects the keys that the scalar
  multiplies to one;
* `dh_isOk_iff`: when `dh` accepts; `dh_refused_p256`: a key that it does not accept.
-/

namespace HpkeNg

variable {R : Type}

/-! ## Points with `X = 0` -/

namespace PrimeGroup

/-- A square root of `b`, where there is one. -/
def sqrtB : PrimeGroup → ℕ
  | .p256 => 0x66485c780e2f83d72433bd5d84a06bb6541c2af31dae871728bf856a174f93f4
  | .p384 => 0xc306610fb0ae5a159cf45c06069f22a6c5eb3641c602d42dea2c4b4f75550793406d80d2b91ad54f9048bd487af1ade1
  | .p521 => 0x12df13601594a883ef2d935e44bb90bf4d6619b74e52af7552f97769011c0719eb439cfab2a88d40fe59a2bed1f43557169a2d0a2ccd280c607b92bbf51ffe0b078
  | .k256 => 0

theorem onCurve_zero {g : PrimeGroup} (h : g ≠ .k256) : g.curve.OnCurve (0, g.sqrtB) := by
  rw [Weierstrass.onCurve_zero_iff]
  cases g with
  | p256 => decide +kernel
  | p384 => decide +kernel
  | p521 => decide +kernel
  | k256 => exact absurd rfl h

/-- 7 is not a square modulo the prime of secp256k1. -/
theorem not_onCurve_zero (y : ℕ) : ¬ k256.curve.OnCurve (0, y) := by
  have h : jacobiSym (7 : ℕ) (2 ^ 256 - 2 ^ 32 - 977) = -1 := by norm_num
  exact Weierstrass.not_onCurve_zero h y

end PrimeGroup

/-! ## The products that are rejected -/

section Check

variable {nsk : ℕ} {crate : CurveCrate R nsk} {E : Weierstrass} {A : crate.AffinePoints E}

theorem CurveCrate.AffinePoints.Multiplication.raw_eq_zeros_iff (M : A.Multiplication)
    (hp : E.p < 256 ^ nsk) {s pk} :
    crate.diffieHellman s pk = zeros nsk ↔ (A.affine (M.mul s pk)).1.1 = 0 := by
  have hx := (A.affine (M.mul s pk)).2.1.trans hp
  have h0 : (zeros nsk).1 = i2osp nsk 0 := (i2osp_zero nsk).symm
  rw [Subtype.ext_iff, M.diffieHellman_eq, h0]
  exact ⟨fun h => i2osp_inj hx (by positivity) h, fun h => by rw [h]⟩

/-- **The check rejects the keys that the scalar multiplies to a point with `X = 0`.** -/
theorem CurveCrate.AffinePoints.Multiplication.raw_eq_zeros (M : A.Multiplication)
    (hp : E.p < 256 ^ nsk) {s pk} :
    crate.diffieHellman s pk = zeros nsk ↔ ∃ T, (A.affine T).1.1 = 0 ∧ pk = M.mul (M.inv s) T := by
  rw [M.raw_eq_zeros_iff hp]
  constructor
  · intro h
    exact ⟨M.mul s pk, h, (M.inv_mul s pk).symm⟩
  · rintro ⟨T, hT, rfl⟩
    rwa [M.mul_inv]

theorem nistDh_isOk_iff {sk : NistPrivateKey crate} {pk : NistPublicKey crate} :
    (∃ d, nistDh crate sk pk = .ok d) ↔ crate.diffieHellman sk.val pk.pk ≠ zeros nsk := by
  unfold nistDh
  by_cases h : crate.diffieHellman sk.val pk.pk = zeros nsk
  · rw [if_pos h]
    exact iff_of_false (by rintro ⟨d, ⟨⟩⟩) (not_not.mpr h)
  · rw [if_neg h]
    exact iff_of_true ⟨_, rfl⟩ h

variable {kdf : Kdf} {id : UInt16} {nsecret : ℕ} {bitmask : UInt8}

theorem nistCurve_dh_of_zeros {sk : NistPrivateKey crate} {pk : NistPublicKey crate}
    (h : crate.diffieHellman sk.val pk.pk = zeros nsk) :
    (nistCurve crate kdf id nsecret bitmask).dh sk pk = throwErr .encapError := if_pos h

theorem nistCurve_answers {b b' : Bytes} {sk : NistPrivateKey crate} {pk : NistPublicKey crate}
    {r : Outcome Bytes} (hsk : nistSkFromBytes crate b = .ok sk)
    (hpk : nistPkFromBytes crate b' = .ok pk)
    (h : (nistCurve crate kdf id nsecret bitmask).dh sk pk = r) :
    ∃ sk pk, (nistCurve crate kdf id nsecret bitmask).skFromBytes b = .ok sk ∧
      (nistCurve crate kdf id nsecret bitmask).pkFromBytes b' = .ok pk ∧
      (nistCurve crate kdf id nsecret bitmask).dh sk pk = r := ⟨sk, pk, hsk, hpk, h⟩

end Check

variable {c : Crates R}

/-- **When DH on a prime-order curve is accepted.** Always on secp256k1; on P-256, P-384 and P-521
unless the public key is a point with `X = 0`, multiplied by the inverse of the scalar, and every
scalar has such a key. -/
theorem dh_isOk_iff (g : PrimeGroup) (A : (g.crate c).AffinePoints g.curve) (M : A.Multiplication)
    (b : Bytes) (sk : NistPrivateKey (g.crate c)) (hsk : (g.dh c).skFromBytes b = .ok sk) :
    (∀ (b' : Bytes) (pk : NistPublicKey (g.crate c)), (g.dh c).pkFromBytes b' = .ok pk →
      ((∃ d, (g.dh c).dh sk pk = .ok d) ↔
        g = .k256 ∨ ∀ T, (A.affine T).1.1 = 0 → pk.pk ≠ M.mul (M.inv sk.val) T)) ∧
    (g ≠ .k256 → ∃ (b' : Bytes) (pk : NistPublicKey (g.crate c)), (g.dh c).pkFromBytes b' = .ok pk ∧
      (g.dh c).dh sk pk = throwErr .encapError) := by
  refine ⟨fun b' pk _ => ?_, fun hg => ?_⟩
  · refine nistDh_isOk_iff.trans ?_
    rw [ne_eq, M.raw_eq_zeros g.p_lt]
    push Not
    refine ⟨Or.inr, ?_⟩
    rintro (rfl | h)
    · intro T hT
      have hq : PrimeGroup.k256.curve.OnCurve ((A.affine T).1.1, (A.affine T).1.2) := (A.affine T).2
      rw [hT] at hq
      exact absurd hq (PrimeGroup.not_onCurve_zero _)
    · exact h
  · let T := A.affine.symm ⟨_, PrimeGroup.onCurve_zero hg⟩
    let pk := makePk (g.crate c) (M.mul (M.inv sk.val) T)
    have hT : (A.affine T).1.1 = 0 := by rw [A.affine.apply_symm_apply]
    have hpk := (A.pkFromBytes_eq_ok g.p_lt).mpr (rfl : _ = uncompressed g.nsk (A.affine pk.pk).1)
    exact ⟨_, pk, hpk, nistCurve_dh_of_zeros ((M.raw_eq_zeros g.p_lt).mpr ⟨T, hT, rfl⟩)⟩

/-- **A key that is refused**: with the scalar 1, P-256 refuses the point `(0, √b)`. -/
theorem dh_refused_p256 :
    let D := PrimeGroup.p256.dh Sample.crates256
    ∃ sk pk, D.skFromBytes (i2osp 32 1) = .ok sk ∧
      D.pkFromBytes (uncompressed 32 (0, PrimeGroup.p256.sqrtB)) = .ok pk ∧
      D.dh sk pk = throwErr .encapError := by
  obtain ⟨q, hq⟩ : ∃ q : Sample.P256.Point, q.1 = (0, PrimeGroup.p256.sqrtB) :=
    ⟨⟨_, (Sample.P256.onCurve_iff _).mpr (PrimeGroup.onCurve_zero (by decide))⟩, rfl⟩
  have hsk : nistSkFromBytes Sample.P256.crate (i2osp 32 1) = .ok ⟨Sample.P256.one⟩ :=
    nistSkFromBytes_eq_ok.mpr ⟨length_i2osp _ _, Sample.P256.fromSlice_one⟩
  have hpk : nistPkFromBytes Sample.P256.crate (uncompressed 32 q.1) =
      .ok (makePk Sample.P256.crate q) :=
    nistPkFromBytes_encoded Sample.P256.documented (makePk Sample.P256.crate q)
  have hx : Sample.P256.crate.diffieHellman Sample.P256.one q = zeros 32 := by
    apply Subtype.ext
    refine (Sample.P256.diffieHellman_one q).trans ?_
    rw [Sample.P256.toSec1, List.drop_one, List.tail_cons, List.take_left' (length_i2osp _ _), hq]
    exact i2osp_zero 32
  rw [← hq]
  exact nistCurve_answers hsk hpk (nistCurve_dh_of_zeros hx)

/-- The base point is accepted. -/
theorem dh_isOk_iff_p256 :
    let D := PrimeGroup.p256.dh Sample.crates256One
    ∃ d sk pk, D.skFromBytes (i2osp 32 1) = .ok sk ∧
      D.pkFromBytes (uncompressed 32 Sample.P256.generator.1) = .ok pk ∧ D.dh sk pk = .ok d := by
  have hsk : nistSkFromBytes Sample.P256.crateOne (i2osp 32 1) = .ok ⟨Sample.P256.one⟩ :=
    nistSkFromBytes_eq_ok.mpr ⟨length_i2osp _ _, Sample.P256.fromSlice_one⟩
  have hx : Sample.P256.generator.1.1 ≠ 0 := by decide
  generalize i2osp 32 1 = b, Sample.P256.one = s at hsk ⊢
  generalize Sample.P256.generator = q at hx ⊢
  obtain ⟨pk, hpk, rfl⟩ : ∃ pk : NistPublicKey Sample.P256.crateOne,
      nistPkFromBytes Sample.P256.crateOne (uncompressed 32 q.1) = .ok pk ∧ pk.pk = q :=
    ⟨makePk Sample.P256.crateOne q, nistPkFromBytes_eq_ok.mpr
      ⟨length_uncompressed _ _, rfl, Sample.P256.fromSec1Bytes_uncompressed q⟩, rfl⟩
  generalize uncompressed 32 pk.pk.1 = b' at hpk ⊢
  -- the scalar 1 multiplies only points with `X = 0` to such points
  have hT : ∀ T : Sample.P256.Point, T.1.1 = 0 → pk.pk ≠ T := by
    rintro T hT rfl
    exact hx hT
  have h := (@dh_isOk_iff ℕ Sample.crates256One .p256 Sample.P256.affinePointsOne
    Sample.P256.multiplicationOne b ⟨s⟩ hsk).1
  obtain ⟨d, hd⟩ := (h b' pk hpk).mpr (Or.inr hT)
  exact ⟨d, nistCurve_answers hsk hpk hd⟩

end HpkeNg

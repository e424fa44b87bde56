import HpkeNg.Kem.PrimeOrder
import HpkeNg.Kem.Transcript
import HpkeNg.Sample.P256

/-!
# Public keys of the prime-order groups

A public key has one wire form, and every party folds that form into `kem_context`.

* `PrimeGroup.lawful`, from what is documented about the points;
* `Kem.OneWireForm`: a key has one encoding, which decodes to it;
* `pkFromBytes_wireForm`: which strings are accepted, and as what.
-/

namespace HpkeNg

variable {R : Type}

namespace PrimeGroup

variable {c : Crates R} (g : PrimeGroup)

theorem kdf_lawful (hc : c.HkdfDocumented) : (g.dh c).kdf.Lawful := KdfAlg.lawful hc g.kdfAlg

theorem lawful (A : (g.crate c).AffinePoints g.curve) : (g.dh c).Lawful := by
  refine nistCurve_lawful (fun p => by rw [A.toSec1Point_eq, length_uncompressed]) ?_
  cases g
  · exact (by decide : 32 ≤ 255 * 32)
  · exact (by decide : 48 ≤ 255 * 48)
  · exact (by decide : 64 ≤ 255 * 64)
  · exact (by decide : 32 ≤ 255 * 32)

end PrimeGroup

/-! ## One wire form -/

/-- The key encodes as `b`, and only `b` decodes to it. -/
def Kem.OneWireForm (K : Kem R) (pk : K.PublicKey) (b : Bytes) : Prop :=
  K.pkToBytes pk = b ∧ ∀ b', K.pkFromBytes b' = .ok pk → b' = b

variable {c : Crates R}

/-- **Which strings are public keys.** Exactly the uncompressed forms of the affine points of the
curve are accepted, every other string is an `InvalidPublicKey`, and an accepted string is the one
wire form of its key, folded into `kem_context` by every party. -/
theorem pkFromBytes_wireForm (hc : c.HkdfDocumented) (g : PrimeGroup)
    (A : (g.crate c).AffinePoints g.curve) (b : Bytes) :
    ((∃ pk, (dhKem (g.dh c)).pkFromBytes b = .ok pk) ↔
      ∃ x y : Bytes, b = 0x04 :: (x ++ y) ∧ x.length = g.nsk ∧ y.length = g.nsk ∧
        g.curve.OnCurve (os2ip x, os2ip y)) ∧
    (∀ f, (dhKem (g.dh c)).pkFromBytes b = .error f → f = .err .invalidPublicKey) ∧
    ∀ pk : DhPublicKey (g.dh c), (dhKem (g.dh c)).pkFromBytes b = .ok pk →
      (dhKem (g.dh c)).OneWireForm pk b ∧ pk.FoldedAs b := by
  have hok : ∀ {b} {pk : DhPublicKey (g.dh c)}, (dhKem (g.dh c)).pkFromBytes b = .ok pk ↔
      b = uncompressed g.nsk (A.affine (NistPublicKey.pk pk.val)).1 := by
    intro b pk
    refine Iff.trans ?_ (A.pkFromBytes_eq_ok g.p_lt)
    constructor
    · intro h
      obtain ⟨p, hp, h⟩ := bind_eq_ok.mp h
      cases h
      exact hp
    · exact fun h => bind_eq_ok.mpr ⟨pk.val, h, rfl⟩
  refine ⟨⟨?_, ?_⟩, fun f h => ?_, fun pk h => ?_⟩
  · rintro ⟨pk, h⟩
    have hq := (A.affine (NistPublicKey.pk pk.val)).2
    refine ⟨_, _, hok.mp h, length_i2osp _ _, length_i2osp _ _, ?_⟩
    rwa [os2ip_i2osp (hq.1.trans g.p_lt), os2ip_i2osp (hq.2.1.trans g.p_lt)]
  · rintro ⟨x, y, rfl, hx, hy, hq⟩
    refine ⟨⟨makePk (g.crate c) (A.affine.symm ⟨_, hq⟩)⟩, hok.mpr ?_⟩
    rw [makePk, A.affine.apply_symm_apply, uncompressed, i2osp_os2ip hx, i2osp_os2ip hy]
  · cases hp : (g.dh c).pkFromBytes b with
    | ok p => simp [dhKem, hp] at h
    | error f' =>
      obtain rfl := (g.lawful A).pkFromBytes_fault hp
      simp only [dhKem, hp, error_bind] at h
      exact (Except.error.inj h).symm
  · have hb : (g.dh c).pkToBytes pk.val = b := by
      rw [hok.mp h, ← A.toSec1Point_eq]
      exact NistPublicKey.encoded_eq pk.val
    exact ⟨⟨hb, fun b' h' => (hok.mp h').trans (hok.mp h).symm⟩,
      hb ▸ pk.foldedAs (g.kdf_lawful hc) (g.lawful A)⟩

/-- The base point of P-256. -/
theorem pkFromBytes_wireForm_p256 :
    let D := PrimeGroup.p256.dh Sample.crates256
    let b := Sample.P256.toSec1 Sample.P256.generator
    ∃ pk : DhPublicKey D, (dhKem D).pkFromBytes b = .ok pk ∧ (dhKem D).OneWireForm pk b ∧
      pk.FoldedAs b := by
  intro D b
  have h := pkFromBytes_wireForm Sample.hkdfDocumented256 .p256 Sample.P256.affinePoints b
  have hq := Sample.P256.generator.2
  have hx := os2ip_i2osp (hq.1.trans Sample.P256.p_lt)
  have hy := os2ip_i2osp (hq.2.1.trans Sample.P256.p_lt)
  obtain ⟨pk, hpk⟩ := h.1.mpr ⟨_, _, rfl, length_i2osp _ _, length_i2osp _ _, by
    rw [hx, hy]
    exact (Sample.P256.onCurve_iff _).mp hq⟩
  exact ⟨pk, hpk, h.2.2 pk hpk⟩

end HpkeNg

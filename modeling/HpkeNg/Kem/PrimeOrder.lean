import HpkeNg.Kem.All
import HpkeNg.Weierstrass

/-!
# The prime-order groups

P-256, P-384, P-521 and secp256k1: their curves, and what is documented about the points, the
scalars and the multiplication of each curve crate.

* `PrimeGroup`, the four instances of `nist_curve!` with the curve of each one;
* `CurveCrate.AffinePoints`, `CurveCrate.Scalars`, `CurveCrate.Multiplication`;
* `PrimeGroup.pkFromBytes_eq_ok`: which strings parse as a public key.
-/

namespace HpkeNg

variable {R : Type}

/-! ## The four groups -/

/-- The groups that `nist_curve!` emits. -/
inductive PrimeGroup : Type where
  | p256
  | p384
  | p521
  | k256
  deriving DecidableEq

namespace PrimeGroup

/-- `$nsk`, the bytes of a scalar. -/
def nsk : PrimeGroup → ℕ
  | .p256 => 32
  | .p384 => 48
  | .p521 => 66
  | .k256 => 32

/-- `SHARED_SECRET_LEN`. -/
def nsecret : PrimeGroup → ℕ
  | .p256 => 32
  | .p384 => 48
  | .p521 => 64
  | .k256 => 32

/-- The KEM ID. -/
def id : PrimeGroup → UInt16
  | .p256 => 0x0010
  | .p384 => 0x0011
  | .p521 => 0x0012
  | .k256 => 0x0016

/-- The mask of the first byte of a candidate. -/
def bitmask : PrimeGroup → UInt8
  | .p256 => 0xFF
  | .p384 => 0xFF
  | .p521 => 0x01
  | .k256 => 0xFF

/-- `D::Kdf`. -/
def kdfAlg : PrimeGroup → KdfAlg
  | .p256 => .hkdfSha256
  | .p384 => .hkdfSha384
  | .p521 => .hkdfSha512
  | .k256 => .hkdfSha256

/-- The curve crate. -/
def crate (c : Crates R) : (g : PrimeGroup) → CurveCrate R g.nsk
  | .p256 => c.p256
  | .p384 => c.p384
  | .p521 => c.p521
  | .k256 => c.k256

/-- The group, as `nist_curve!` emits it. -/
def dh (c : Crates R) (g : PrimeGroup) : DiffieHellman R :=
  nistCurve (g.crate c) (g.kdfAlg.kdf c) g.id g.nsecret g.bitmask

/-- Its name among all groups. -/
def group : PrimeGroup → DhGroup
  | .p256 => .p256
  | .p384 => .p384
  | .p521 => .p521
  | .k256 => .k256

/-- They are four of the groups of the crate. -/
theorem group_dh [CryptoRng R] (c : Crates R) (g : PrimeGroup) : g.group.dh c = g.dh c := by
  cases g <;> rfl

/-- The field, and the coefficients of the equation. -/
def curve : PrimeGroup → Weierstrass
  | .p256 =>
    { p := 0xffffffff00000001000000000000000000000000ffffffffffffffffffffffff
      a := 0xffffffff00000001000000000000000000000000fffffffffffffffffffffffc
      b := 0x5ac635d8aa3a93e7b3ebbd55769886bc651d06b0cc53b0f63bce3c3e27d2604b }
  | .p384 =>
    { p := 0xfffffffffffffffffffffffffffffffffffffffffffffffffffffffffffffffeffffffff0000000000000000ffffffff
      a := 0xfffffffffffffffffffffffffffffffffffffffffffffffffffffffffffffffeffffffff0000000000000000fffffffc
      b := 0xb3312fa7e23ee7e4988e056be3f82d19181d9c6efe8141120314088f5013875ac656398d8a2ed19d2a85c8edd3ec2aef }
  | .p521 =>
    { p := 2 ^ 521 - 1
      a := 2 ^ 521 - 4
      b := 0x051953eb9618e1c9a1f929a21a0b68540eea2da725b99b315f3b8b489918ef109e156193951ec7e937b1652c0bd3bb1bf073573df883d2c34f1ef451fd46b503f00 }
  | .k256 =>
    { p := 2 ^ 256 - 2 ^ 32 - 977
      a := 0
      b := 7 }

/-- The order of the group. -/
def order : PrimeGroup → ℕ
  | .p256 => 0xffffffff00000000ffffffffffffffffbce6faada7179e84f3b9cac2fc632551
  | .p384 => 0xffffffffffffffffffffffffffffffffffffffffffffffffc7634d81f4372ddf581a0db248b0a77aecec196accc52973
  | .p521 => 0x1fffffffffffffffffffffffffffffffffffffffffffffffffffffffffffffffffa51868783bf2f966b7fcc0148f709a5d03bb5c9b8899c47aebb6fb71e91386409
  | .k256 => 0xfffffffffffffffffffffffffffffffebaaedce6af48a03bbfd25e8cd0364141

theorem nsk_pos (g : PrimeGroup) : 0 < g.nsk := by cases g <;> decide

theorem p_lt (g : PrimeGroup) : g.curve.p < 256 ^ g.nsk := by cases g <;> decide +kernel

end PrimeGroup

/-! ## What is documented about the curve crates -/

section Documented

variable {nsk : ℕ} (crate : CurveCrate R nsk)

/-- The public keys are the affine points of `E`; the uncompressed SEC1 form has their coordinates,
and is accepted when its coordinates are those of a point. What else is accepted is left open. -/
structure CurveCrate.AffinePoints (E : Weierstrass) where
  affine : crate.PublicKey ≃ E.Point
  toSec1Point_eq : ∀ pk, crate.toSec1Point pk = uncompressed nsk (affine pk).1
  fromSec1Bytes_eq_some : ∀ {x y : Arr nsk} {pk},
    crate.fromSec1Bytes (0x04 :: (x.1 ++ y.1)) = some pk ↔ (affine pk).1 = (os2ip x.1, os2ip y.1)

/-- A secret key is a number from 1 to `n - 1`. -/
structure CurveCrate.Scalars (n : ℕ) : Prop where
  fromSlice_isSome : ∀ {b : Bytes}, b.length = nsk →
    ((crate.fromSlice b).isSome ↔ 0 < os2ip b ∧ os2ip b < n)

variable {crate}

/-- Secret keys multiply points and can be inverted, since the order is prime; the raw secret of
`ecdh` is the `X`-coordinate of the product. -/
structure CurveCrate.AffinePoints.Multiplication {E : Weierstrass} (A : crate.AffinePoints E) where
  mul : crate.SecretKey → crate.PublicKey → crate.PublicKey
  inv : crate.SecretKey → crate.SecretKey
  mul_inv : ∀ s pk, mul s (mul (inv s) pk) = pk
  inv_mul : ∀ s pk, mul (inv s) (mul s pk) = pk
  diffieHellman_eq : ∀ s pk, (crate.diffieHellman s pk).1 = i2osp nsk (A.affine (mul s pk)).1.1

end Documented

/-! ## Parsing a public key -/

section Parse

variable {nsk : ℕ} {crate : CurveCrate R nsk} {E : Weierstrass}

/-- **A string parses as a public key exactly when it is the uncompressed form of the point.** -/
theorem CurveCrate.AffinePoints.pkFromBytes_eq_ok (A : crate.AffinePoints E) (hp : E.p < 256 ^ nsk)
    {b : Bytes} {pk : NistPublicKey crate} :
    nistPkFromBytes crate b = .ok pk ↔ b = uncompressed nsk (A.affine pk.pk).1 := by
  have hx : (A.affine pk.pk).1.1 < 256 ^ nsk := (A.affine pk.pk).2.1.trans hp
  have hy : (A.affine pk.pk).1.2 < 256 ^ nsk := (A.affine pk.pk).2.2.1.trans hp
  rw [nistPkFromBytes_eq_ok]
  constructor
  · rintro ⟨hl, ht, h⟩
    obtain ⟨x, y, rfl⟩ := exists_coordinates hl ht
    exact ((uncompressed_eq_iff hx hy x.2 y.2).mpr (A.fromSec1Bytes_eq_some.mp h)).symm
  · intro h
    refine ⟨by rw [h, length_uncompressed], by rw [h]; rfl, ?_⟩
    obtain ⟨x, y, hb⟩ :=
      exists_coordinates (b := b) (by rw [h, length_uncompressed]) (by rw [h]; rfl)
    rw [hb, A.fromSec1Bytes_eq_some]
    exact (uncompressed_eq_iff hx hy x.2 y.2).mp (h.symm.trans hb)

end Parse

end HpkeNg

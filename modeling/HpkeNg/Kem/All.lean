import HpkeNg.Kem.Nist
import HpkeNg.Kem.Pq
import HpkeNg.Kem.X25519
import HpkeNg.Kem.X448

/-!
# The nine KEMs of the crate

* `DhGroup`, `PqAlg`, `KemAlg`, and the group or KEM each one names;
* `DhGroup.kdf_lawful`, `lawful`, `commutes`, `roundTrips`, `rawDh`: what every group satisfies.
-/

namespace HpkeNg

variable {R : Type} [CryptoRng R]

/-- The Diffie-Hellman groups. -/
inductive DhGroup : Type where
  | p256
  | p384
  | p521
  | k256
  | x25519
  | x448
  deriving DecidableEq

/-- The post-quantum KEMs. -/
inductive PqAlg : Type where
  | xWingDraft06
  | mlKem768
  | mlKem1024
  deriving DecidableEq

/-- The KEMs. -/
inductive KemAlg : Type where
  | dhKem (g : DhGroup)
  | pq (p : PqAlg)
  deriving DecidableEq

/-- The `impl DiffieHellman` of each group. -/
def DhGroup.dh (c : Crates R) : DhGroup → DiffieHellman R
  | .p256 => HpkeNg.p256 c
  | .p384 => HpkeNg.p384 c
  | .p521 => HpkeNg.p521 c
  | .k256 => HpkeNg.k256 c
  | .x25519 => HpkeNg.x25519 c
  | .x448 => HpkeNg.x448 c

/-- The `impl Kem` of each post-quantum KEM. -/
def PqAlg.kem (c : Crates R) : PqAlg → Kem R
  | .xWingDraft06 => HpkeNg.xWingDraft06 c
  | .mlKem768 => HpkeNg.mlKem768 c
  | .mlKem1024 => HpkeNg.mlKem1024 c

/-- The `impl AuthKem for DhKem` of a group. -/
def DhGroup.kem (c : Crates R) (g : DhGroup) : AuthKem R := dhKem (g.dh c)

/-- The `impl Kem` of each KEM. -/
def KemAlg.kem (c : Crates R) : KemAlg → Kem R
  | .dhKem g => (g.kem c).toKem
  | .pq p => p.kem c

/-! ## What every group satisfies -/

variable {c : Crates R}

theorem DhGroup.kdf_lawful (hc : c.HkdfDocumented) : ∀ g : DhGroup, (g.dh c).kdf.Lawful
  | .p256 | .k256 | .x25519 => KdfAlg.lawful hc .hkdfSha256
  | .p384 => KdfAlg.lawful hc .hkdfSha384
  | .p521 | .x448 => KdfAlg.lawful hc .hkdfSha512

theorem DhGroup.lawful (hd : c.CurvesDocumented) : ∀ g : DhGroup, (g.dh c).Lawful
  | .p256 => nistCurve_lawful hd.p256.length_toSec1Point (by decide : 32 ≤ 255 * 32)
  | .p384 => nistCurve_lawful hd.p384.length_toSec1Point (by decide : 48 ≤ 255 * 48)
  | .p521 => nistCurve_lawful hd.p521.length_toSec1Point (by decide : 64 ≤ 255 * 64)
  | .k256 => nistCurve_lawful hd.k256.length_toSec1Point (by decide : 32 ≤ 255 * 32)
  | .x25519 => x25519_lawful c
  | .x448 => x448_lawful c

theorem DhGroup.commutes (hx : c.CurvesCommute) : ∀ g : DhGroup, (g.dh c).Commutes
  | .p256 => nistCurve_commutes hx.p256
  | .p384 => nistCurve_commutes hx.p384
  | .p521 => nistCurve_commutes hx.p521
  | .k256 => nistCurve_commutes hx.k256
  | .x25519 => x25519_commutes hx.x25519Dalek
  | .x448 => x448_commutes hx.ed448Goldilocks

theorem DhGroup.roundTrips (hd : c.CurvesDocumented) : ∀ g : DhGroup, (g.dh c).RoundTrips
  | .p256 => nistCurve_roundTrips hd.p256
  | .p384 => nistCurve_roundTrips hd.p384
  | .p521 => nistCurve_roundTrips hd.p521
  | .k256 => nistCurve_roundTrips hd.k256
  | .x25519 => x25519_roundTrips hd.x25519Dalek
  | .x448 => x448_roundTrips c

/-- The raw Diffie-Hellman function of each group. -/
def DhGroup.rawDh (c : Crates R) : (g : DhGroup) → RawDh (g.dh c)
  | .p256 => nistCurveRawDh
  | .p384 => nistCurveRawDh
  | .p521 => nistCurveRawDh
  | .k256 => nistCurveRawDh
  | .x25519 => x25519RawDh c
  | .x448 => x448RawDh c

end HpkeNg

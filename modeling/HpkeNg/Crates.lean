import HpkeNg.Error

/-!
# The crates underneath

The hash, AEAD, curve and post-quantum code is not part of this repository. Each dependency is a
structure of the functions the crate calls, and its documented behaviour is a proposition about
that structure, which a theorem assumes only where it needs it.

* `HkdfCrate`, `ShakeCrate`, `AeadCrate`, `X25519Crate`, `X448Crate`, `CurveCrate`, `XWingCrate`,
  `MlKemCrate`, and what is documented about each (`HkdfCrate.Documented` and so on);
* `Crates`: one of each, as linked by `Cargo.toml`, with `HkdfDocumented`, `AeadDocumented`,
  `CurvesDocumented`, `CurvesCommute`, `PqDocumented`, `PqCorrect`, `ReplacementDocumented`.
-/

namespace HpkeNg

/-- A random number generator (`rand_core::CryptoRng`). -/
class CryptoRng (R : Type) where
  fillBytes : R → (n : ℕ) → Arr n × R

/-! ## `hkdf` and `shake` -/

/-- `hkdf` over a hash with `nh`-byte digests. -/
structure HkdfCrate (nh : ℕ) where
  HkdfExtract : Type
  new : Bytes → HkdfExtract
  inputIkm : HkdfExtract → Bytes → HkdfExtract
  finalize : HkdfExtract → Arr nh
  Hkdf : Type
  fromPrk : Bytes → Option Hkdf
  expandMultiInfo : Hkdf → List Bytes → (n : ℕ) → Option (Arr n)

/-- Both steps absorb their pieces as the concatenation; `from_prk` wants at least a digest, and
Expand stops at `255` digests. -/
structure HkdfCrate.Documented {nh : ℕ} (h : HkdfCrate nh) : Prop where
  extract_flatten : ∀ (salt : Bytes) (ikm : List Bytes),
    h.finalize (ikm.foldl h.inputIkm (h.new salt)) =
    h.finalize (h.inputIkm (h.new salt) ikm.flatten)
  expand_flatten :
    ∀ hk (info : List Bytes) n, h.expandMultiInfo hk info n = h.expandMultiInfo hk [info.flatten] n
  fromPrk_isSome : ∀ prk, (h.fromPrk prk).isSome ↔ nh ≤ prk.length
  expand_isSome : ∀ hk info n, (h.expandMultiInfo hk info n).isSome ↔ n ≤ 255 * nh

/-- `shake::Shake256`. -/
structure ShakeCrate where
  Shake256 : Type
  default : Shake256
  update : Shake256 → Bytes → Shake256
  finalizeXofRead : Shake256 → (n : ℕ) → Arr n

/-! ## `aes-gcm` and `chacha20poly1305` -/

/-- An AEAD with `nk`-byte keys and 12-byte nonces. -/
structure AeadCrate (nk : ℕ) where
  Cipher : Type
  newFromSlice : Bytes → Option Cipher
  encrypt : Cipher → (nonce : Arr 12) → (aad msg : Bytes) → Option Bytes
  decrypt : Cipher → (nonce : Arr 12) → (aad msg : Bytes) → Option Bytes

/-- The key has the right length, and decryption inverts encryption. -/
structure AeadCrate.Documented {nk : ℕ} (a : AeadCrate nk) : Prop where
  newFromSlice_isSome : ∀ key, (a.newFromSlice key).isSome ↔ key.length = nk
  decrypt_encrypt : ∀ {c nonce aad pt ct},
    a.encrypt c nonce aad pt = some ct → a.decrypt c nonce aad ct = some pt

/-! ## Curves -/

/-- `x25519_dalek`. -/
structure X25519Crate where
  StaticSecret : Type
  secretFrom : Arr 32 → StaticSecret
  toBytes : StaticSecret → Arr 32
  publicKeyFrom : StaticSecret → Arr 32
  diffieHellman : StaticSecret → Arr 32 → Arr 32

/-- A `StaticSecret` is its 32 bytes, and a computed public key is a reduced `u`-coordinate. -/
structure X25519Crate.Documented (x : X25519Crate) : Prop where
  toBytes_secretFrom : ∀ b, x.toBytes (x.secretFrom b) = b
  secretFrom_toBytes : ∀ s, x.secretFrom (x.toBytes s) = s
  publicKeyFrom_lt : ∀ s, (x.publicKeyFrom s).modify 31 (· &&& 0x7F) = x.publicKeyFrom s

/-- Diffie-Hellman commutes. -/
def X25519Crate.Commutes (x : X25519Crate) : Prop :=
  ∀ a b, x.diffieHellman a (x.publicKeyFrom b) = x.diffieHellman b (x.publicKeyFrom a)

/-- `ed448_goldilocks`: multiplication of a Montgomery point by an unreduced scalar. -/
structure X448Crate where
  generator : Arr 56
  mul : (point scalar : Arr 56) → Arr 56

/-- Multiplying the generator by two scalars commutes. -/
def X448Crate.Commutes (x : X448Crate) : Prop :=
  ∀ a b, x.mul (x.mul x.generator a) b = x.mul (x.mul x.generator b) a

/-- One of `p256`, `p384`, `p521`, `k256`, with `nsk`-byte field elements. -/
structure CurveCrate (R : Type) (nsk : ℕ) where
  SecretKey : Type
  PublicKey : Type
  generateFromRng : R → SecretKey × R
  fromSlice : Bytes → Option SecretKey
  toBytes : SecretKey → Arr nsk
  publicKey : SecretKey → PublicKey
  fromSec1Bytes : Bytes → Option PublicKey
  toSec1Point : PublicKey → Bytes
  diffieHellman : SecretKey → PublicKey → Arr nsk

/-- Parsing and serialising scalars and uncompressed points are inverse to each other. -/
structure CurveCrate.Documented {R : Type} {nsk : ℕ} (c : CurveCrate R nsk) : Prop where
  fromSlice_toBytes : ∀ s, c.fromSlice (c.toBytes s).1 = some s
  toBytes_fromSlice : ∀ {b s}, b.length = nsk → c.fromSlice b = some s → (c.toBytes s).1 = b
  fromSec1Bytes_toSec1Point : ∀ p, c.fromSec1Bytes (c.toSec1Point p) = some p
  toSec1Point_uncompressed : ∀ p, ∃ xy, xy.length = 2 * nsk ∧ c.toSec1Point p = 0x04 :: xy
  toSec1Point_fromSec1Bytes : ∀ {xy p}, xy.length = 2 * nsk →
    c.fromSec1Bytes (0x04 :: xy) = some p → c.toSec1Point p = 0x04 :: xy

/-- Diffie-Hellman commutes. -/
def CurveCrate.Commutes {R : Type} {nsk : ℕ} (c : CurveCrate R nsk) : Prop :=
  ∀ a b, c.diffieHellman a (c.publicKey b) = c.diffieHellman b (c.publicKey a)

/-! ### The replacement keys

What the curve crates compute with the private keys that zeroizing leaves behind. -/

/-- The `u`-coordinates below `2^255` of the points of small order on Curve25519 and its twist:
`0`, `1`, two of order 8, `p - 1`, `p` and `p + 1`. -/
def smallOrder25519 : List ℕ :=
  [0, 1, 325606250916557431795983626356110631294008115727848805560023387167927233504,
    39382357235489614581723060781553021112529911719440698176882885853963445705823,
    2 ^ 255 - 20, 2 ^ 255 - 19, 2 ^ 255 - 18]

/-- The point is of small order, bit 255 being ignored. -/
def isSmallOrder25519 (pk : Arr 32) : Prop :=
  os2ipLe (pk.modify 31 (· &&& 0x7F)).1 ∈ smallOrder25519

instance (pk : Arr 32) : Decidable (isSmallOrder25519 pk) := by
  unfold isSmallOrder25519; infer_instance

/-- Every secret is clamped at use, so the raw secret is zero for the points of small order only. -/
def X25519Crate.Contributory (x : X25519Crate) : Prop :=
  ∀ s pk, x.diffieHellman s pk = zeros 32 ↔ isSmallOrder25519 pk

/-- The zero scalar sends every point to zero. -/
def X448Crate.ZeroScalar (x : X448Crate) : Prop := ∀ p, x.mul p (zeros 56) = zeros 56

/-- The scalar 1. -/
def scalarOne (nsk : ℕ) : Bytes := i2osp nsk 1

/-- The scalar 1 is a valid secret key, and its raw secret with a point is the point's
`X`-coordinate. -/
structure CurveCrate.ScalarOne {R : Type} {nsk : ℕ} (c : CurveCrate R nsk) : Prop where
  fromSlice_isSome : (c.fromSlice (scalarOne nsk)).isSome
  diffieHellman_eq : ∀ {s p}, c.fromSlice (scalarOne nsk) = some s →
    (c.diffieHellman s p).1 = ((c.toSec1Point p).drop 1).take nsk

/-! ## Post-quantum KEMs -/

/-- `x_wing`. -/
structure XWingCrate (R : Type) where
  DecapsulationKey : Type
  EncapsulationKey : Type
  dkFrom : Arr 32 → DecapsulationKey
  encapsulationKey : DecapsulationKey → EncapsulationKey
  toBytes : EncapsulationKey → Arr 1216
  tryFrom : Bytes → Option EncapsulationKey
  encapsulateWithRng : R → EncapsulationKey → (Arr 1120 × Arr 32) × R
  decapsulateSlice : DecapsulationKey → Bytes → Option (Arr 32)

/-- Parsing inverts serialising. -/
def XWingCrate.Documented {R : Type} (x : XWingCrate R) : Prop :=
  ∀ ek, x.tryFrom (x.toBytes ek).1 = some ek

/-- Decapsulation inverts encapsulation. -/
def XWingCrate.Correct {R : Type} (x : XWingCrate R) : Prop :=
  ∀ rng dk, x.decapsulateSlice dk (x.encapsulateWithRng rng (x.encapsulationKey dk)).1.1.1 =
    some (x.encapsulateWithRng rng (x.encapsulationKey dk)).1.2

/-- `ml_kem` at one parameter set, with `nek`-byte encapsulation keys and `nct`-byte ciphertexts. -/
structure MlKemCrate (R : Type) (nek nct : ℕ) where
  DecapsulationKey : Type
  EncapsulationKey : Type
  fromSeed : Arr 64 → DecapsulationKey
  encapsulationKey : DecapsulationKey → EncapsulationKey
  toBytes : EncapsulationKey → Arr nek
  new : Arr nek → Option EncapsulationKey
  encapsulateWithRng : R → EncapsulationKey → (Arr nct × Arr 32) × R
  decapsulate : DecapsulationKey → Arr nct → Arr 32

/-- Parsing inverts serialising. -/
def MlKemCrate.Documented {R : Type} {nek nct : ℕ} (x : MlKemCrate R nek nct) : Prop :=
  ∀ ek, x.new (x.toBytes ek) = some ek

/-- Decapsulation inverts encapsulation. -/
def MlKemCrate.Correct {R : Type} {nek nct : ℕ} (x : MlKemCrate R nek nct) : Prop :=
  ∀ rng dk, x.decapsulate dk (x.encapsulateWithRng rng (x.encapsulationKey dk)).1.1 =
    (x.encapsulateWithRng rng (x.encapsulationKey dk)).1.2

/-! ## All of them -/

/-- The dependencies the crate is linked with. -/
structure Crates (R : Type) where
  hkdfSha256 : HkdfCrate 32
  hkdfSha384 : HkdfCrate 48
  hkdfSha512 : HkdfCrate 64
  shake : ShakeCrate
  aes128Gcm : AeadCrate 16
  aes256Gcm : AeadCrate 32
  chacha20Poly1305 : AeadCrate 32
  x25519Dalek : X25519Crate
  ed448Goldilocks : X448Crate
  p256 : CurveCrate R 32
  p384 : CurveCrate R 48
  p521 : CurveCrate R 66
  k256 : CurveCrate R 32
  xWing : XWingCrate R
  mlKem768 : MlKemCrate R 1184 1088
  mlKem1024 : MlKemCrate R 1568 1568

variable {R : Type}

/-- The documented behaviour of `hkdf`, over each hash. -/
structure Crates.HkdfDocumented (c : Crates R) : Prop where
  sha256 : c.hkdfSha256.Documented
  sha384 : c.hkdfSha384.Documented
  sha512 : c.hkdfSha512.Documented

/-- The documented behaviour of the AEAD crates. -/
structure Crates.AeadDocumented (c : Crates R) : Prop where
  aes128Gcm : c.aes128Gcm.Documented
  aes256Gcm : c.aes256Gcm.Documented
  chacha20Poly1305 : c.chacha20Poly1305.Documented

/-- How the curve crates serialise and parse. -/
structure Crates.CurvesDocumented (c : Crates R) : Prop where
  x25519Dalek : c.x25519Dalek.Documented
  p256 : c.p256.Documented
  p384 : c.p384.Documented
  p521 : c.p521.Documented
  k256 : c.k256.Documented

/-- The raw Diffie-Hellman of each group commutes. -/
structure Crates.CurvesCommute (c : Crates R) : Prop where
  x25519Dalek : c.x25519Dalek.Commutes
  ed448Goldilocks : c.ed448Goldilocks.Commutes
  p256 : c.p256.Commutes
  p384 : c.p384.Commutes
  p521 : c.p521.Commutes
  k256 : c.k256.Commutes

/-- How the post-quantum crates serialise and parse. -/
structure Crates.PqDocumented (c : Crates R) : Prop where
  xWing : c.xWing.Documented
  mlKem768 : c.mlKem768.Documented
  mlKem1024 : c.mlKem1024.Documented

/-- The post-quantum KEMs decapsulate what they encapsulate. -/
structure Crates.PqCorrect (c : Crates R) : Prop where
  xWing : c.xWing.Correct
  mlKem768 : c.mlKem768.Correct
  mlKem1024 : c.mlKem1024.Correct

/-- What the curve crates compute with the replacement keys. -/
structure Crates.ReplacementDocumented (c : Crates R) : Prop where
  x25519Dalek : c.x25519Dalek.Contributory
  ed448Goldilocks : c.ed448Goldilocks.ZeroScalar
  p256 : c.p256.ScalarOne
  p384 : c.p384.ScalarOne
  p521 : c.p521.ScalarOne
  k256 : c.k256.ScalarOne

end HpkeNg

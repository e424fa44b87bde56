import HpkeNg.Kdf

/-!
# Key encapsulation mechanisms (`src/kem/mod.rs`)

* `kemSuiteId`, `Kem`, `AuthKem`;
* `Kem.BuiltSk`, `Kem.HeldSk`, `Kem.BuiltPk`, `Kem.BuiltEnc`: what a caller can hold;
  `Kem.RoundTrips`.
-/

namespace HpkeNg

/-- `suite_id = "KEM" || I2OSP(kem_id, 2)`. -/
def kemSuiteId (id : UInt16) : Bytes := ascii "KEM" ++ be16 id

@[simp] theorem length_kemSuiteId (id : UInt16) : (kemSuiteId id).length = 5 := by
  rw [kemSuiteId, List.length_append, length_be16]; rfl

theorem kemSuiteId_inj {id id' : UInt16} (h : kemSuiteId id = kemSuiteId id') : id = id' :=
  be16_inj (List.append_cancel_left h)

/-- A KEM, called with a random number generator of type `R`. A call that draws randomness returns
the generator it leaves behind. -/
structure Kem (R : Type) where
  id : UInt16
  encappedKeyLen : ℕ
  publicKeyLen : ℕ
  privateKeyLen : ℕ
  PublicKey : Type
  PrivateKey : Type
  EncappedKey : Type
  SharedSecret : Type
  pkAsRef : PublicKey → Bytes
  encAsRef : EncappedKey → Bytes
  ssAsRef : SharedSecret → Bytes
  /-- `Zeroize::zeroize` on a private key. -/
  zeroize : PrivateKey → Outcome PrivateKey
  generate : R → Outcome (PrivateKey × PublicKey) × R
  deriveKeyPair : (ikm : Bytes) → Outcome (PrivateKey × PublicKey)
  encap : R → (pkR : PublicKey) → Outcome (SharedSecret × EncappedKey) × R
  decap : (enc : EncappedKey) → (skR : PrivateKey) → Outcome SharedSecret
  pkFromBytes : Bytes → Outcome PublicKey
  skFromBytes : Bytes → Outcome PrivateKey
  encFromBytes : Bytes → Outcome EncappedKey
  pkToBytes : PublicKey → Bytes
  skToBytes : PrivateKey → Bytes

/-- A KEM with the authenticated operations. -/
structure AuthKem (R : Type) extends Kem R where
  authEncap : R → (pkR : PublicKey) → (skS : PrivateKey) → Outcome (SharedSecret × EncappedKey) × R
  authDecap : (enc : EncappedKey) → (skR : PrivateKey) → (pkS : PublicKey) → Outcome SharedSecret

/-! ## What a caller can hold -/

section Built

variable {R : Type} (K : Kem R)

/-- A private key that a constructor returned. -/
inductive Kem.BuiltSk : K.PrivateKey → Prop
  | generate {rng rng' sk pk} (h : K.generate rng = (.ok (sk, pk), rng')) : BuiltSk sk
  | derive {ikm sk pk} (h : K.deriveKeyPair ikm = .ok (sk, pk)) : BuiltSk sk
  | load {b sk} (h : K.skFromBytes b = .ok sk) : BuiltSk sk

/-- A private key in a caller's hands: built by a constructor, and perhaps zeroized since. -/
inductive Kem.HeldSk : K.PrivateKey → Prop
  | built {sk} (h : K.BuiltSk sk) : HeldSk sk
  | zeroized {sk sk'} (h : HeldSk sk) (hz : K.zeroize sk = .ok sk') : HeldSk sk'

/-- A public key that a constructor returned. -/
inductive Kem.BuiltPk : K.PublicKey → Prop
  | generate {rng rng' sk pk} (h : K.generate rng = (.ok (sk, pk), rng')) : BuiltPk pk
  | derive {ikm sk pk} (h : K.deriveKeyPair ikm = .ok (sk, pk)) : BuiltPk pk
  | load {b pk} (h : K.pkFromBytes b = .ok pk) : BuiltPk pk

/-- An encapsulated key that was received or produced. -/
inductive Kem.BuiltEnc : K.EncappedKey → Prop
  | encap {rng rng' pkR ss enc} (h : K.encap rng pkR = (.ok (ss, enc), rng')) : BuiltEnc enc
  | load {b enc} (h : K.encFromBytes b = .ok enc) : BuiltEnc enc

/-- Decoding the encoding of a key or an encapsulated key gives it back, with all that it caches. -/
structure Kem.RoundTrips : Prop where
  sk : ∀ {sk}, K.BuiltSk sk → K.skFromBytes (K.skToBytes sk) = .ok sk
  pk : ∀ {pk}, K.BuiltPk pk → K.pkFromBytes (K.pkToBytes pk) = .ok pk
  enc : ∀ {enc}, K.BuiltEnc enc → K.encFromBytes (K.encAsRef enc) = .ok enc

end Built

end HpkeNg

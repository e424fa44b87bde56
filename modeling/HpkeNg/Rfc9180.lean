import HpkeNg.Kem.Dh

/-!
# The algorithms of RFC 9180

The specification the crate is compared with, written as in the RFC: single strings, no cached
public keys, no split between modes. No definition here is taken from the source.

* `Rfc9180.labeledExtract`, `Rfc9180.labeledExpand` (section 4);
* `Rfc9180.IsScalar`, `Rfc9180.candidate` (sections 7.1.2 and 7.1.3);
* `Rfc9180.extractAndExpand`, `encap`, `decap`, `authEncap`, `authDecap` (section 4.1);
* `Rfc9180.verifyPskInputs`, `Rfc9180.keySchedule` (section 5.1).
-/

namespace HpkeNg

namespace Rfc9180

/-- Why an algorithm of the RFC stops without a result. -/
inductive Rejection : Type where
  | deserialize (f : Fault HpkeError)
  | zeroDh
  | inconsistentPskInputs
  | pskNotNeeded
  | missingPsk
  | kdf (f : Fault HpkeError)

/-- Name the step that failed. -/
def reject {α : Type} (e : Fault HpkeError → Rejection) : Outcome α → Except Rejection α
  | .ok a => .ok a
  | .error f => .error (e f)

section Kdf

variable (F : Kdf) (suiteId : Bytes)

/-- `LabeledExtract(salt, label, ikm)`. -/
def labeledExtract (salt label ikm : Bytes) : Bytes :=
  F.extract salt [ascii "HPKE-v1" ++ suiteId ++ label ++ ikm]

/-- `LabeledExpand(prk, label, info, L)`. -/
def labeledExpand (prk label info : Bytes) (l : ℕ) : Except Rejection Bytes :=
  reject .kdf (F.expand prk [i2osp 2 l ++ ascii "HPKE-v1" ++ suiteId ++ label ++ info] l)

variable {F}

/-- The crate's labeled functions are the RFC's. -/
theorem labeledExtract_eq (hF : F.Lawful) (salt label ikm : Bytes) :
    labeledExtract F suiteId salt label ikm = HpkeNg.labeledExtract F salt suiteId label ikm :=
  Except.ok.inj (hF.labeledExtract_run salt suiteId label ikm)

theorem labeledExpand_eq (prk label info : Bytes) (n : ℕ) :
    labeledExpand F suiteId prk label info n =
    reject .kdf (F.run (labeledExpandCall prk suiteId label info n)) := rfl

end Kdf

/-! ## Key pairs of the prime-order groups -/

/-- The bytes of a private key, in a group of the given order (section 7.1.2). -/
def IsScalar (order : ℕ) (b : Bytes) : Prop := 0 < os2ip b ∧ os2ip b < order

instance (order : ℕ) (b : Bytes) : Decidable (IsScalar order b) := by
  unfold IsScalar; infer_instance

/-- What `DeriveKeyPair(ikm)` tries for one counter (section 7.1.3). -/
def candidate (F : Kdf) (kemId : UInt16) (nsk : ℕ) (bitmask : UInt8) (ikm : Bytes) (counter : ℕ) :
    Except Rejection Bytes := do
  let suiteId := ascii "KEM" ++ i2osp 2 kemId.toNat
  let dkpPrk := labeledExtract F suiteId [] (ascii "dkp_prk") ikm
  let bytes ← labeledExpand F suiteId dkpPrk (ascii "candidate") (i2osp 1 counter) nsk
  return bytes.modify 0 (· &&& bitmask)

/-! ## DHKEM -/

section Dhkem

variable {R : Type} (D : DiffieHellman R) (X : RawDh D)

/-- `ExtractAndExpand(dh, kem_context)`. -/
def extractAndExpand (dh kemContext : Bytes) : Except Rejection Bytes :=
  let suiteId := ascii "KEM" ++ i2osp 2 D.id.toNat
  let eaePrk := labeledExtract D.kdf suiteId [] (ascii "eae_prk") dh
  labeledExpand D.kdf suiteId eaePrk (ascii "shared_secret") kemContext D.sharedSecretLen

/-- `DH(skX, pkY)`, with the check of section 7.1.4. -/
def dh (skX : D.PrivateKey) (pkY : D.PublicKey) : Except Rejection Bytes :=
  if X.raw skX pkY = zeros X.len then .error .zeroDh else .ok (X.raw skX pkY).1

/-- `Encap(pkR)`, on the ephemeral key pair drawn. -/
def encap (keyE : D.PrivateKey × D.PublicKey) (pkR : D.PublicKey) :
    Except Rejection (Bytes × Bytes) := do
  let (skE, pkE) := keyE
  let dh ← dh D X skE pkR
  let enc := D.pkToBytes pkE
  let pkRm := D.pkToBytes pkR
  let sharedSecret ← extractAndExpand D dh (enc ++ pkRm)
  return (sharedSecret, enc)

/-- `Decap(enc, skR)`. -/
def decap (enc : Bytes) (skR : D.PrivateKey) : Except Rejection Bytes := do
  let pkE ← reject .deserialize (D.pkFromBytes enc)
  let dh ← dh D X skR pkE
  let pkRm := D.pkToBytes (D.skToPk skR)
  extractAndExpand D dh (enc ++ pkRm)

/-- `AuthEncap(pkR, skS)`, on the ephemeral key pair drawn. -/
def authEncap (keyE : D.PrivateKey × D.PublicKey) (pkR : D.PublicKey) (skS : D.PrivateKey) :
    Except Rejection (Bytes × Bytes) := do
  let (skE, pkE) := keyE
  let dh1 ← dh D X skE pkR
  let dh2 ← dh D X skS pkR
  let enc := D.pkToBytes pkE
  let pkRm := D.pkToBytes pkR
  let pkSm := D.pkToBytes (D.skToPk skS)
  let sharedSecret ← extractAndExpand D (dh1 ++ dh2) (enc ++ pkRm ++ pkSm)
  return (sharedSecret, enc)

/-- `AuthDecap(enc, skR, pkS)`. -/
def authDecap (enc : Bytes) (skR : D.PrivateKey) (pkS : D.PublicKey) : Except Rejection Bytes := do
  let pkE ← reject .deserialize (D.pkFromBytes enc)
  let dh1 ← dh D X skR pkE
  let dh2 ← dh D X skR pkS
  let pkRm := D.pkToBytes (D.skToPk skR)
  let pkSm := D.pkToBytes pkS
  extractAndExpand D (dh1 ++ dh2) (enc ++ pkRm ++ pkSm)

end Dhkem

/-! ## The key schedule -/

/-- The four modes. -/
inductive Mode : Type where
  | base
  | psk
  | auth
  | authPsk
  deriving DecidableEq

/-- `mode_base`, `mode_psk`, `mode_auth`, `mode_auth_psk`. -/
def Mode.byte : Mode → UInt8
  | .base => 0x00
  | .psk => 0x01
  | .auth => 0x02
  | .authPsk => 0x03

theorem Mode.byte_inj {m m' : Mode} (h : m.byte = m'.byte) : m = m' := by
  cases m <;> cases m' <;> first | rfl | exact absurd h (by decide)

/-- `VerifyPSKInputs(mode, psk, psk_id)`; the defaults are empty strings. -/
def verifyPskInputs (mode : Mode) (psk pskId : Bytes) : Except Rejection Unit :=
  let gotPsk := psk ≠ []
  let gotPskId := pskId ≠ []
  if ¬ (gotPsk ↔ gotPskId) then .error .inconsistentPskInputs
  else if gotPsk ∧ (mode = .base ∨ mode = .auth) then .error .pskNotNeeded
  else if ¬ gotPsk ∧ (mode = .psk ∨ mode = .authPsk) then .error .missingPsk
  else .ok ()

/-- `Context(key, base_nonce, seq, exporter_secret)`. -/
structure Context where
  key : Bytes
  baseNonce : Bytes
  seq : ℕ
  exporterSecret : Bytes
  deriving DecidableEq

/-- `KeySchedule(mode, shared_secret, info, psk, psk_id)`. -/
def keySchedule (F : Kdf) (kemId aeadId : UInt16) (nk nn : ℕ) (mode : Mode)
    (sharedSecret info psk pskId : Bytes) : Except Rejection Context := do
  verifyPskInputs mode psk pskId
  let suiteId := ascii "HPKE" ++ i2osp 2 kemId.toNat ++ i2osp 2 F.id.toNat ++ i2osp 2 aeadId.toNat
  let pskIdHash := labeledExtract F suiteId [] (ascii "psk_id_hash") pskId
  let infoHash := labeledExtract F suiteId [] (ascii "info_hash") info
  let keyScheduleContext := [mode.byte] ++ pskIdHash ++ infoHash
  let secret := labeledExtract F suiteId sharedSecret (ascii "secret") psk
  let key ← labeledExpand F suiteId secret (ascii "key") keyScheduleContext nk
  let baseNonce ← labeledExpand F suiteId secret (ascii "base_nonce") keyScheduleContext nn
  let exporterSecret ← labeledExpand F suiteId secret (ascii "exp") keyScheduleContext F.hashLen
  return { key, baseNonce, seq := 0, exporterSecret }

end Rfc9180

end HpkeNg

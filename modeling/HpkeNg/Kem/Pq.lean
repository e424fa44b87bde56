import HpkeNg.Kem.Basic

/-!
# Post-quantum KEMs (`src/kem/pq.rs`)

* `shake256LabeledDerive`, the one-stage labeled derivation behind `derive_key_pair`;
* `xWingDraft06`, and `mlKem`, the body of `ml_kem_variant!`, with `mlKem768` and `mlKem1024`;
* `xWing_builtSk`, `mlKem_builtSk`: every constructor caches the key expanded from the seed;
* `xWing_roundTrips`, `mlKem_roundTrips`: every key is decoded back from its encoding.
-/

namespace HpkeNg

variable {R : Type}

/-- `DeriveKeyPair` label. -/
def deriveKeyPairLabel : Bytes := ascii "DeriveKeyPair"

/-- `SHAKE256.LabeledDerive(ikm, label, "", n)`. -/
def shake256LabeledDerive (shake : ShakeCrate) (suiteId label ikm : Bytes) (n : ℕ) :
    Outcome (Arr n) := do
  let labelLen ← okOr .deriveKeyPairError (tryIntoU16 label.length)
  let outLen ← okOr .deriveKeyPairError (tryIntoU16 n)
  let h := [ikm, hpkeV1, suiteId, be16 labelLen, label, be16 outLen].foldl shake.update
    shake.default
  return shake.finalizeXofRead h n

/-! ## X-Wing -/

section XWing

variable (crate : XWingCrate R)

/-- Public key: the wire bytes and the parsed key. -/
structure XWingPublicKey where
  bytes : Bytes
  parsed : crate.EncapsulationKey

/-- Private key: the seed and the cached decapsulation key. -/
structure XWingPrivateKey where
  seed : Arr 32
  dk : Option crate.DecapsulationKey

/-- Encapsulated key. -/
structure XWingEncappedKey where
  val : Bytes

/-- Shared secret. -/
structure XWingSharedSecret where
  val : Arr 32

/-- The seed is wiped and the cached key dropped. -/
def XWingPrivateKey.zeroize (_ : XWingPrivateKey crate) : XWingPrivateKey crate := ⟨zeros 32, none⟩

/-- The key pair of a seed, with both parsed keys cached. -/
def keypairFromSeed (seed : Arr 32) : XWingPrivateKey crate × XWingPublicKey crate :=
  let dk := crate.dkFrom seed
  let ek := crate.encapsulationKey dk
  let pkBytes := (crate.toBytes ek).1
  ({ seed, dk := some dk }, { bytes := pkBytes, parsed := ek })

/-- `XWingDraft06::decap`. -/
def xWingDecap (enc : XWingEncappedKey) (skR : XWingPrivateKey crate) :
    Outcome XWingSharedSecret := do
  let dk ← okOr .decapError skR.dk
  let ss ← okOr .invalidEncappedKey (crate.decapsulateSlice dk enc.val)
  return ⟨ss⟩

/-- `XWingDraft06::pk_from_bytes`. -/
def xWingPkFromBytes (b : Bytes) : Outcome (XWingPublicKey crate) :=
  if b.length ≠ 1216 then throwErr .invalidPublicKey
  else do
    let parsed ← okOr .invalidPublicKey (crate.tryFrom b)
    return { bytes := b, parsed }

/-- `XWingDraft06::sk_from_bytes`. -/
def xWingSkFromBytes (b : Bytes) : Outcome (XWingPrivateKey crate) :=
  if b.length ≠ 32 then throwErr .invalidPrivateKey
  else do
    let seed ← copyFromSlice (zeros 32) 0 32 b
    let dk := crate.dkFrom seed
    return { seed, dk := some dk }

end XWing

/-! ## ML-KEM -/

section MlKem

variable {nek nct : ℕ} (crate : MlKemCrate R nek nct)

/-- Public key: the wire bytes and the parsed key. -/
structure MlKemPublicKey where
  bytes : Bytes
  parsed : crate.EncapsulationKey

/-- Private key: the expanded decapsulation key and the seed `d || z`. -/
structure MlKemPrivateKey where
  dk : Option crate.DecapsulationKey
  seed : Arr 64

/-- Encapsulated key. -/
structure MlKemEncappedKey where
  val : Bytes

/-- Shared secret. -/
structure MlKemSharedSecret where
  val : Arr 32

/-- The cached key is dropped and the seed wiped. -/
def MlKemPrivateKey.zeroize (_ : MlKemPrivateKey crate) : MlKemPrivateKey crate := ⟨none, zeros 64⟩

/-- `$from_seed`. -/
def mlKemFromSeed (seed : Arr 64) : MlKemPrivateKey crate × MlKemPublicKey crate :=
  let dk := crate.fromSeed seed
  let ek := crate.encapsulationKey dk
  let ekBytes := (crate.toBytes ek).1
  ({ dk := some dk, seed }, { bytes := ekBytes, parsed := ek })

/-- `decap` of the macro. -/
def mlKemDecap (enc : MlKemEncappedKey) (skR : MlKemPrivateKey crate) :
    Outcome MlKemSharedSecret := do
  let dk ← okOr .decapError skR.dk
  let ct ← okOr .invalidEncappedKey (Arr.ofBytes? enc.val)
  return ⟨crate.decapsulate dk ct⟩

/-- `pk_from_bytes` of the macro. -/
def mlKemPkFromBytes (b : Bytes) : Outcome (MlKemPublicKey crate) :=
  if b.length ≠ nek then throwErr .invalidPublicKey
  else do
    let ekBytes ← okOr .invalidPublicKey (Arr.ofBytes? b)
    let parsed ← okOr .invalidPublicKey (crate.new ekBytes)
    return { bytes := b, parsed }

/-- `sk_from_bytes` of the macro. -/
def mlKemSkFromBytes (b : Bytes) : Outcome (MlKemPrivateKey crate) :=
  if b.length ≠ 64 then throwErr .invalidPrivateKey
  else do
    let seed ← copyFromSlice (zeros 64) 0 64 b
    let (sk, _) := mlKemFromSeed crate seed
    return sk

end MlKem

/-! ## Parsing -/

section XWing

variable {crate : XWingCrate R} {b : Bytes}

theorem xWingPkFromBytes_eq_ok {pk : XWingPublicKey crate} : xWingPkFromBytes crate b = .ok pk ↔
    b.length = 1216 ∧ pk.bytes = b ∧ crate.tryFrom b = some pk.parsed := by
  unfold xWingPkFromBytes
  by_cases hb : b.length = 1216
  · rw [if_neg (not_not.mpr hb), bind_eq_ok]
    constructor
    · rintro ⟨p, hp, h⟩
      cases h
      exact ⟨hb, rfl, okOr_eq_ok.mp hp⟩
    · rintro ⟨-, rfl, hp⟩
      exact ⟨pk.parsed, okOr_eq_ok.mpr hp, rfl⟩
  · rw [if_pos hb]
    refine ⟨fun h => ?_, fun h => absurd h.1 hb⟩
    cases h

theorem xWingSkFromBytes_eq_ok {sk : XWingPrivateKey crate} : xWingSkFromBytes crate b = .ok sk ↔
    ∃ seed : Arr 32, seed.1 = b ∧ sk = (keypairFromSeed crate seed).1 := by
  unfold xWingSkFromBytes
  by_cases hb : b.length = 32
  · rw [if_neg (not_not.mpr hb)]
    refine bind_eq_ok.trans (exists_congr fun seed => and_congr (copyFromSlice_eq_ok hb) ?_)
    rw [pure_eq_ok, Except.ok.injEq, eq_comm]
    rfl
  · rw [if_pos hb]
    refine ⟨fun h => ?_, fun ⟨seed, hs, _⟩ => absurd (hs ▸ seed.2) hb⟩
    cases h

theorem xWing_parse_seed (hx : crate.Documented) (seed : Arr 32) :
    xWingPkFromBytes crate (keypairFromSeed crate seed).2.bytes =
      .ok (keypairFromSeed crate seed).2 :=
  xWingPkFromBytes_eq_ok.mpr ⟨(crate.toBytes _).2, rfl, hx _⟩

end XWing

section MlKem

variable {nek nct : ℕ} {crate : MlKemCrate R nek nct} {b : Bytes}

theorem mlKemPkFromBytes_eq_ok {pk : MlKemPublicKey crate} : mlKemPkFromBytes crate b = .ok pk ↔
    ∃ ekBytes : Arr nek, ekBytes.1 = b ∧ pk.bytes = b ∧ crate.new ekBytes = some pk.parsed := by
  unfold mlKemPkFromBytes
  by_cases hb : b.length = nek
  · rw [if_neg (not_not.mpr hb), Arr.ofBytes?_of_length hb, okOr_some, ok_bind, bind_eq_ok]
    constructor
    · rintro ⟨p, hp, h⟩
      cases h
      exact ⟨⟨b, hb⟩, rfl, rfl, okOr_eq_ok.mp hp⟩
    · rintro ⟨ekBytes, rfl, hpk, hp⟩
      exact ⟨pk.parsed, okOr_eq_ok.mpr hp, by rw [← hpk]; rfl⟩
  · rw [if_pos hb]
    refine ⟨fun h => ?_, fun ⟨ekBytes, he, _⟩ => absurd (he ▸ ekBytes.2) hb⟩
    cases h

theorem mlKemSkFromBytes_eq_ok {sk : MlKemPrivateKey crate} : mlKemSkFromBytes crate b = .ok sk ↔
    ∃ seed : Arr 64, seed.1 = b ∧ sk = (mlKemFromSeed crate seed).1 := by
  unfold mlKemSkFromBytes
  by_cases hb : b.length = 64
  · rw [if_neg (not_not.mpr hb)]
    refine bind_eq_ok.trans (exists_congr fun seed => and_congr (copyFromSlice_eq_ok hb) ?_)
    change Except.ok (mlKemFromSeed crate seed).1 = .ok sk ↔ _
    rw [Except.ok.injEq, eq_comm]
  · rw [if_pos hb]
    refine ⟨fun h => ?_, fun ⟨seed, hs, _⟩ => absurd (hs ▸ seed.2) hb⟩
    cases h

theorem mlKem_parse_seed (hx : crate.Documented) (seed : Arr 64) :
    mlKemPkFromBytes crate (mlKemFromSeed crate seed).2.bytes = .ok (mlKemFromSeed crate seed).2 :=
  mlKemPkFromBytes_eq_ok.mpr ⟨crate.toBytes _, rfl, rfl, hx _⟩

end MlKem

/-! ## The KEMs -/

variable [CryptoRng R]

/-- X-Wing KEM (draft 06). -/
def xWingDraft06 (c : Crates R) : Kem R where
  id := 0x647A
  encappedKeyLen := 1120
  publicKeyLen := 1216
  privateKeyLen := 32
  PublicKey := XWingPublicKey c.xWing
  PrivateKey := XWingPrivateKey c.xWing
  EncappedKey := XWingEncappedKey
  SharedSecret := XWingSharedSecret
  pkAsRef pk := pk.bytes
  encAsRef enc := enc.val
  ssAsRef ss := ss.val.1
  zeroize sk := return sk.zeroize
  generate rng :=
    let (seed, rng) := CryptoRng.fillBytes rng 32
    (.ok (keypairFromSeed c.xWing seed), rng)
  deriveKeyPair ikm := do
    let seed ← shake256LabeledDerive c.shake (kemSuiteId 0x647A) deriveKeyPairLabel ikm 32
    return keypairFromSeed c.xWing seed
  encap rng pkR :=
    let ((ct, ss), rng) := c.xWing.encapsulateWithRng rng pkR.parsed
    (.ok (⟨ss⟩, ⟨ct.1⟩), rng)
  decap := xWingDecap c.xWing
  pkFromBytes := xWingPkFromBytes c.xWing
  skFromBytes := xWingSkFromBytes c.xWing
  encFromBytes b := if b.length ≠ 1120 then throwErr .invalidEncappedKey else return ⟨b⟩
  pkToBytes pk := pk.bytes
  skToBytes sk := sk.seed.1

/-- The KEM that `ml_kem_variant!` emits. -/
def mlKem {nek nct : ℕ} (c : Crates R) (crate : MlKemCrate R nek nct) (id : UInt16) : Kem R where
  id := id
  encappedKeyLen := nct
  publicKeyLen := nek
  privateKeyLen := 64
  PublicKey := MlKemPublicKey crate
  PrivateKey := MlKemPrivateKey crate
  EncappedKey := MlKemEncappedKey
  SharedSecret := MlKemSharedSecret
  pkAsRef pk := pk.bytes
  encAsRef enc := enc.val
  ssAsRef ss := ss.val.1
  zeroize sk := return sk.zeroize
  generate rng :=
    let (seed, rng) := CryptoRng.fillBytes rng 64
    (.ok (mlKemFromSeed crate seed), rng)
  deriveKeyPair ikm := do
    let seed ← shake256LabeledDerive c.shake (kemSuiteId id) deriveKeyPairLabel ikm 64
    return mlKemFromSeed crate seed
  encap rng pkR :=
    let ((ct, ss), rng) := crate.encapsulateWithRng rng pkR.parsed
    (.ok (⟨ss⟩, ⟨ct.1⟩), rng)
  decap := mlKemDecap crate
  pkFromBytes := mlKemPkFromBytes crate
  skFromBytes := mlKemSkFromBytes crate
  encFromBytes b := if b.length ≠ nct then throwErr .invalidEncappedKey else return ⟨b⟩
  pkToBytes pk := pk.bytes
  skToBytes sk := sk.seed.1

/-- `MlKem768`. -/
def mlKem768 (c : Crates R) : Kem R := mlKem c c.mlKem768 0x0041

/-- `MlKem1024`. -/
def mlKem1024 (c : Crates R) : Kem R := mlKem c c.mlKem1024 0x0042

/-! ## The keys a caller can hold -/

section Built

variable {c : Crates R}

theorem xWing_builtSk {sk : (xWingDraft06 c).PrivateKey} (h : (xWingDraft06 c).BuiltSk sk) :
    ∃ seed, sk = (keypairFromSeed c.xWing seed).1 := by
  cases h with
  | @generate rng _ _ pk h => exact ⟨_, congrArg Prod.fst (Except.ok.inj (Prod.mk.inj h).1).symm⟩
  | derive h =>
    obtain ⟨seed, -, h⟩ := bind_eq_ok.mp h
    exact ⟨seed, congrArg Prod.fst (Except.ok.inj h).symm⟩
  | load h =>
    obtain ⟨seed, -, h⟩ := xWingSkFromBytes_eq_ok.mp h
    exact ⟨seed, h⟩

theorem mlKem_builtSk {nek nct : ℕ} {crate : MlKemCrate R nek nct} {id : UInt16}
    {sk : (mlKem c crate id).PrivateKey} (h : (mlKem c crate id).BuiltSk sk) :
    ∃ seed, sk = (mlKemFromSeed crate seed).1 := by
  cases h with
  | @generate rng _ _ pk h => exact ⟨_, congrArg Prod.fst (Except.ok.inj (Prod.mk.inj h).1).symm⟩
  | derive h =>
    obtain ⟨seed, -, h⟩ := bind_eq_ok.mp h
    exact ⟨seed, congrArg Prod.fst (Except.ok.inj h).symm⟩
  | load h =>
    obtain ⟨seed, -, h⟩ := mlKemSkFromBytes_eq_ok.mp h
    exact ⟨seed, h⟩

theorem xWing_roundTrips (hx : c.xWing.Documented) : (xWingDraft06 c).RoundTrips where
  sk h := by
    obtain ⟨seed, rfl⟩ := xWing_builtSk h
    exact xWingSkFromBytes_eq_ok.mpr ⟨seed, rfl, rfl⟩
  pk {pk} h := by
    cases h with
    | @generate rng _ sk _ h =>
      obtain rfl : _ = pk := congrArg Prod.snd (Except.ok.inj (Prod.mk.inj h).1)
      exact xWing_parse_seed hx _
    | derive h =>
      obtain ⟨seed, -, h⟩ := bind_eq_ok.mp h
      obtain rfl : _ = pk := congrArg Prod.snd (Except.ok.inj h)
      exact xWing_parse_seed hx seed
    | @load b _ h =>
      obtain ⟨-, rfl, -⟩ := xWingPkFromBytes_eq_ok.mp h
      exact h
  enc {enc} h := by
    refine guard_eq_ok.mpr ⟨not_not.mpr ?_, rfl⟩
    cases h with
    | @encap rng _ pkR ss _ h =>
      obtain ⟨-, rfl⟩ := Prod.mk.inj (Except.ok.inj (Prod.mk.inj h).1)
      exact (c.xWing.encapsulateWithRng rng _).1.1.2
    | load h =>
      obtain ⟨hb, rfl⟩ := guard_eq_ok.mp h
      exact not_not.mp hb

theorem mlKem_roundTrips {nek nct : ℕ} {crate : MlKemCrate R nek nct} (hx : crate.Documented)
    (id : UInt16) : (mlKem c crate id).RoundTrips where
  sk h := by
    obtain ⟨seed, rfl⟩ := mlKem_builtSk h
    exact mlKemSkFromBytes_eq_ok.mpr ⟨seed, rfl, rfl⟩
  pk {pk} h := by
    cases h with
    | @generate rng _ sk _ h =>
      obtain rfl : _ = pk := congrArg Prod.snd (Except.ok.inj (Prod.mk.inj h).1)
      exact mlKem_parse_seed hx _
    | derive h =>
      obtain ⟨seed, -, h⟩ := bind_eq_ok.mp h
      obtain rfl : _ = pk := congrArg Prod.snd (Except.ok.inj h)
      exact mlKem_parse_seed hx seed
    | @load b _ h =>
      obtain ⟨-, -, rfl, -⟩ := mlKemPkFromBytes_eq_ok.mp h
      exact h
  enc {enc} h := by
    refine guard_eq_ok.mpr ⟨not_not.mpr ?_, rfl⟩
    cases h with
    | @encap rng _ pkR ss _ h =>
      obtain ⟨-, rfl⟩ := Prod.mk.inj (Except.ok.inj (Prod.mk.inj h).1)
      exact (crate.encapsulateWithRng rng _).1.1.2
    | load h =>
      obtain ⟨hb, rfl⟩ := guard_eq_ok.mp h
      exact not_not.mp hb

end Built

end HpkeNg

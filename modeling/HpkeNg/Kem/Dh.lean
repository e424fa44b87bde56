import HpkeNg.Collision
import HpkeNg.Kem.Basic

/-!
# DHKEM (`src/kem/dh.rs`)

* `DiffieHellman`, the operations of one group, and `dhKem`, the KEM over it;
* `extractAndExpand`, `extractAndExpandPieces`, `encapWith`;
* `DiffieHellman.Lawful`, `DiffieHellman.Commutes`, `DiffieHellman.RoundTrips`, `RawDh`: what the
  KEM relies on in a group. Each group proves them from the documented behaviour of its curve crate;
* `dhKem_builtSk`: on every constructor path the cached bytes are those of the matching public key;
* `extractAndExpand_run`, `extractAndExpandPieces_run`: the shared secret as one expand.
-/

namespace HpkeNg

variable {R : Type}

/-- The Diffie-Hellman operations of one group. -/
structure DiffieHellman (R : Type) where
  kdf : Kdf
  id : UInt16
  publicKeyLen : ℕ
  privateKeyLen : ℕ
  sharedSecretLen : ℕ
  PublicKey : Type
  PrivateKey : Type
  pkAsRef : PublicKey → Bytes
  /-- `Zeroize::zeroize` on a private key. -/
  skZeroize : PrivateKey → Outcome PrivateKey
  generate : R → (PrivateKey × PublicKey) × R
  derive : (ikm : Bytes) → Outcome (PrivateKey × PublicKey)
  dh : (sk : PrivateKey) → (pk : PublicKey) → Outcome Bytes
  pkFromBytes : Bytes → Outcome PublicKey
  skFromBytes : Bytes → Outcome PrivateKey
  pkToBytes : PublicKey → Bytes
  skToBytes : PrivateKey → Bytes
  skToPk : PrivateKey → PublicKey

/-- Public-key wrapper. -/
structure DhPublicKey (D : DiffieHellman R) where
  val : D.PublicKey

/-- Private-key wrapper, with the cached serialisation of the matching public key. -/
structure DhPrivateKey (D : DiffieHellman R) where
  sk : D.PrivateKey
  pkBytes : Bytes

/-- Encapsulated key wrapper. -/
structure DhEncappedKey where
  val : Bytes

/-- Shared secret wrapper. -/
structure DhSharedSecret where
  val : Bytes

variable (D : DiffieHellman R)

/-- `DhPrivateKey::from_pair`. -/
def DhPrivateKey.fromPair (sk : D.PrivateKey) (pk : D.PublicKey) : DhPrivateKey D :=
  { pkBytes := D.pkToBytes pk, sk }

/-- `DhPrivateKey::from_sk`. -/
def DhPrivateKey.fromSk (sk : D.PrivateKey) : DhPrivateKey D :=
  let pk := D.skToPk sk
  { pkBytes := D.pkToBytes pk, sk }

variable {D} in
/-- Zeroizing scrubs the secret scalar and leaves the cached public key. -/
def DhPrivateKey.zeroize (self : DhPrivateKey D) : Outcome (DhPrivateKey D) := do
  return { self with sk := ← D.skZeroize self.sk }

/-- `"KEM" || kem_id`. -/
def suiteId : Bytes := kemSuiteId D.id

/-- `extract_and_expand`. -/
def extractAndExpand (dh : Bytes) (kemContext : List Bytes) : Outcome Bytes :=
  let suite := suiteId D
  let eaePrk := labeledExtract D.kdf [] suite (ascii "eae_prk") dh
  labeledExpandPieces D.kdf eaePrk suite (ascii "shared_secret") kemContext D.sharedSecretLen

/-- `extract_and_expand_pieces`. -/
def extractAndExpandPieces (dhPieces kemContext : List Bytes) : Outcome Bytes := do
  let suite := suiteId D
  let eaePrk ← labeledExtractPieces D.kdf [] suite (ascii "eae_prk") dhPieces
  labeledExpandPieces D.kdf eaePrk suite (ascii "shared_secret") kemContext D.sharedSecretLen

/-- `Encap`, or `AuthEncap` when a sender key is given. -/
def encapWith (rng : R) (pkR : DhPublicKey D) (skSender : Option (DhPrivateKey D)) :
    Outcome (DhSharedSecret × DhEncappedKey) × R :=
  let ((skE, pkE), rng) := D.generate rng
  (do
    let dh1 ← D.dh skE pkR.val
    let enc := D.pkToBytes pkE
    let pkRecipient := D.pkAsRef pkR.val
    let ss ← match skSender with
      | none => extractAndExpand D dh1 [enc, pkRecipient]
      | some skS => do
        let dh2 ← D.dh skS.sk pkR.val
        extractAndExpandPieces D [dh1, dh2] [enc, pkRecipient, skS.pkBytes]
    return (⟨ss⟩, ⟨enc⟩), rng)

/-- `DHKEM(D, D::Kdf)`. -/
def dhKem : AuthKem R where
  id := D.id
  encappedKeyLen := D.publicKeyLen
  publicKeyLen := D.publicKeyLen
  privateKeyLen := D.privateKeyLen
  PublicKey := DhPublicKey D
  PrivateKey := DhPrivateKey D
  EncappedKey := DhEncappedKey
  SharedSecret := DhSharedSecret
  pkAsRef pk := D.pkAsRef pk.val
  encAsRef enc := enc.val
  ssAsRef ss := ss.val
  zeroize := DhPrivateKey.zeroize
  generate rng :=
    let ((sk, pk), rng) := D.generate rng
    (.ok (DhPrivateKey.fromPair D sk pk, ⟨pk⟩), rng)
  deriveKeyPair ikm := do
    let (sk, pk) ← D.derive ikm
    return (DhPrivateKey.fromPair D sk pk, ⟨pk⟩)
  encap rng pkR := encapWith D rng pkR none
  decap enc skR := do
    let pkE ← D.pkFromBytes enc.val
    let dh ← D.dh skR.sk pkE
    return ⟨← extractAndExpand D dh [enc.val, skR.pkBytes]⟩
  pkFromBytes b := do return ⟨← D.pkFromBytes b⟩
  skFromBytes b := do return DhPrivateKey.fromSk D (← D.skFromBytes b)
  encFromBytes b := if b.length ≠ D.publicKeyLen then throwErr .invalidEncappedKey else return ⟨b⟩
  pkToBytes pk := D.pkToBytes pk.val
  skToBytes sk := D.skToBytes sk.sk
  authEncap rng pkR skS := encapWith D rng pkR (some skS)
  authDecap enc skR pkS := do
    let pkE ← D.pkFromBytes enc.val
    let dh1 ← D.dh skR.sk pkE
    let dh2 ← D.dh skR.sk pkS.val
    return ⟨← extractAndExpandPieces D [dh1, dh2] [enc.val, skR.pkBytes, D.pkAsRef pkS.val]⟩

/-- The key pair that `generate` returns. -/
def DiffieHellman.keyPair (rng : R) : DhPrivateKey D × DhPublicKey D :=
  (DhPrivateKey.fromPair D (D.generate rng).1.1 (D.generate rng).1.2, ⟨(D.generate rng).1.2⟩)

theorem dhKem_generate (rng : R) :
    (dhKem D).generate rng = (.ok (D.keyPair rng), (D.generate rng).2) := rfl

theorem builtSk_keyPair (rng : R) : (dhKem D).BuiltSk (D.keyPair rng).1 :=
  .generate (dhKem_generate D rng)

/-! ## Rejection sampling -/

/-- The loop of `derive_p_curve_sk` over the remaining counters. -/
def derivePCurveLoop {SK : Type} (kdf : Kdf) (suite : Bytes) (skFromBytes : Bytes → Outcome SK)
    (dkpPrk : Bytes) (nsk : ℕ) (bitmask : UInt8) : List UInt8 → Outcome Bytes
  | [] => throwErr .deriveKeyPairError
  | counter :: counters => do
    let bytes ← labeledExpand kdf dkpPrk suite (ascii "candidate") [counter] nsk
    let bytes ← modifyAt bytes 0 (· &&& bitmask)
    match skFromBytes bytes with
    | .ok _ => return bytes
    | .error .panic => .error .panic
    | .error (.err _) => derivePCurveLoop kdf suite skFromBytes dkpPrk nsk bitmask counters

/-- `derive_p_curve_sk`; the group enters through its KDF, its ID and its `sk_from_bytes`. -/
def derivePCurveSk {SK : Type} (kdf : Kdf) (id : UInt16) (skFromBytes : Bytes → Outcome SK)
    (ikm : Bytes) (nsk : ℕ) (bitmask : UInt8) : Outcome Bytes :=
  let suite := kemSuiteId id
  let dkpPrk := labeledExtract kdf [] suite (ascii "dkp_prk") ikm
  derivePCurveLoop kdf suite skFromBytes dkpPrk nsk bitmask ((List.range 256).map UInt8.ofNat)

/-! ## What the KEM relies on in a group -/

/-- A private key that a constructor of the group returned. -/
inductive DiffieHellman.Built : D.PrivateKey → Prop
  | generate (rng : R) : Built (D.generate rng).1.1
  | derive {ikm : Bytes} {sk pk} (h : D.derive ikm = .ok (sk, pk)) : Built sk
  | load {b : Bytes} {sk} (h : D.skFromBytes b = .ok sk) : Built sk

/-- A public key that a constructor of the group returned. -/
inductive DiffieHellman.BuiltPk : D.PublicKey → Prop
  | computed (sk : D.PrivateKey) : BuiltPk (D.skToPk sk)
  | load {b : Bytes} {pk} (h : D.pkFromBytes b = .ok pk) : BuiltPk pk

/-- The raw Diffie-Hellman function of a group: `dh` is that function with the all-zero output
rejected. -/
structure RawDh where
  len : ℕ
  raw : D.PrivateKey → D.PublicKey → Arr len
  dh_eq : ∀ sk pk, D.dh sk pk =
    if raw sk pk = zeros len then throwErr .encapError else .ok (raw sk pk).1

variable {D} in
theorem RawDh.dh_ok_spec (X : RawDh D) {sk pk d} (h : D.dh sk pk = .ok d) :
    d.length = X.len ∧ d ≠ (zeros X.len).1 := by
  rw [X.dh_eq] at h
  split_ifs at h with h0
  rw [← Except.ok.inj h]
  exact ⟨(X.raw sk pk).2, fun hz => h0 (Subtype.ext hz)⟩

/-- Lengths, the two serialisations, and the key pairs of a group. -/
structure DiffieHellman.Lawful : Prop where
  sharedSecretLen_le : D.sharedSecretLen ≤ 255 * D.kdf.hashLen
  publicKeyLen_pos : 0 < D.publicKeyLen
  pkAsRef_eq : ∀ pk, D.pkAsRef pk = D.pkToBytes pk
  length_pkToBytes : ∀ pk, (D.pkToBytes pk).length = D.publicKeyLen
  length_of_pkFromBytes : ∀ {b pk}, D.pkFromBytes b = .ok pk → b.length = D.publicKeyLen
  pkFromBytes_fault : ∀ {b f}, D.pkFromBytes b = .error f → f = .err .invalidPublicKey
  generate_pk : ∀ rng, (D.generate rng).1.2 = D.skToPk (D.generate rng).1.1
  derive_pk : ∀ {ikm sk pk}, D.derive ikm = .ok (sk, pk) → pk = D.skToPk sk

/-- Both parties compute one DH output. -/
def DiffieHellman.Commutes : Prop := ∀ a b, D.dh a (D.skToPk b) = D.dh b (D.skToPk a)

/-- Every key a constructor returned is parsed back from its bytes. -/
structure DiffieHellman.RoundTrips : Prop where
  pkFromBytes_pkToBytes : ∀ {pk}, D.BuiltPk pk → D.pkFromBytes (D.pkToBytes pk) = .ok pk
  skFromBytes_skToBytes : ∀ {sk}, D.Built sk → D.skFromBytes (D.skToBytes sk) = .ok sk

variable {D}

/-! ## The keys a caller can hold -/

theorem DiffieHellman.Lawful.builtPk (hD : D.Lawful) {sk pk} {ikm : Bytes}
    (h : D.derive ikm = .ok (sk, pk)) :
    D.BuiltPk pk := hD.derive_pk h ▸ .computed sk

/-- **Every constructor caches the serialisation of the matching public key.** -/
theorem dhKem_builtSk (hD : D.Lawful) {sk : (dhKem D).PrivateKey} (h : (dhKem D).BuiltSk sk) :
    D.Built (DhPrivateKey.sk sk) ∧ sk = DhPrivateKey.fromSk D (DhPrivateKey.sk sk) := by
  cases h with
  | @generate rng rng' _ pk h =>
    have h1 : (D.keyPair rng).1 = sk := (Prod.mk.inj (Except.ok.inj (Prod.mk.inj h).1)).1
    rw [← h1]
    refine ⟨.generate rng, ?_⟩
    rw [DiffieHellman.keyPair, hD.generate_pk]
    rfl
  | @derive ikm _ pk h =>
    obtain ⟨⟨s, p⟩, hs, h⟩ := bind_eq_ok.mp h
    obtain ⟨rfl, -⟩ := Prod.mk.inj (Except.ok.inj h)
    refine ⟨.derive hs, ?_⟩
    rw [hD.derive_pk hs]
    rfl
  | @load b _ h =>
    obtain ⟨s, hs, h⟩ := bind_eq_ok.mp h
    obtain rfl := Except.ok.inj h
    exact ⟨.load hs, rfl⟩

theorem pkBytes_of_builtSk (hD : D.Lawful) {sk : (dhKem D).PrivateKey} (h : (dhKem D).BuiltSk sk) :
    DhPrivateKey.pkBytes sk = D.pkToBytes (D.skToPk (DhPrivateKey.sk sk)) :=
  congrArg DhPrivateKey.pkBytes (dhKem_builtSk hD h).2

/-- The cached bytes are those of a public key, and zeroizing leaves them alone. -/
theorem pkBytes_of_heldSk (hD : D.Lawful) {sk : (dhKem D).PrivateKey} (h : (dhKem D).HeldSk sk) :
    ∃ pk, DhPrivateKey.pkBytes sk = D.pkToBytes pk := by
  induction h with
  | built h => exact ⟨_, pkBytes_of_builtSk hD h⟩
  | zeroized h hz ih =>
    obtain ⟨s, -, hz⟩ := bind_eq_ok.mp hz
    rw [← Except.ok.inj hz]
    exact ih

theorem dhKem_builtPk (hD : D.Lawful) {pk : (dhKem D).PublicKey} (h : (dhKem D).BuiltPk pk) :
    D.BuiltPk (DhPublicKey.val pk) := by
  cases h with
  | @generate rng rng' _ sk h =>
    have h1 : (D.keyPair rng).2 = pk := (Prod.mk.inj (Except.ok.inj (Prod.mk.inj h).1)).2
    rw [← h1, DiffieHellman.keyPair, hD.generate_pk]
    exact .computed _
  | @derive ikm _ sk h =>
    obtain ⟨⟨s, p⟩, hs, h⟩ := bind_eq_ok.mp h
    obtain ⟨-, rfl⟩ := Prod.mk.inj (Except.ok.inj h)
    exact hD.builtPk hs
  | @load b _ h =>
    obtain ⟨p, hp, h⟩ := bind_eq_ok.mp h
    obtain rfl := Except.ok.inj h
    exact .load hp

/-! ## The encapsulated key -/

theorem encapWith_enc {rng : R} {pkR : DhPublicKey D} {skS : Option (DhPrivateKey D)}
    {ss : DhSharedSecret} {enc : DhEncappedKey} (h : (encapWith D rng pkR skS).1 = .ok (ss, enc)) :
    enc = ⟨D.pkToBytes (D.generate rng).1.2⟩ := by
  obtain ⟨dh1, -, h⟩ := bind_eq_ok.mp h
  cases skS with
  | none =>
    obtain ⟨s, -, h⟩ := bind_eq_ok.mp h
    exact (Prod.mk.inj (Except.ok.inj h)).2.symm
  | some skS =>
    obtain ⟨dh2, -, h⟩ := bind_eq_ok.mp h
    obtain ⟨s, -, h⟩ := bind_eq_ok.mp h
    exact (Prod.mk.inj (Except.ok.inj h)).2.symm

theorem dhKem_encFromBytes (hD : D.Lawful) {rng : R} {pkR : DhPublicKey D}
    {skS : Option (DhPrivateKey D)} {ss : DhSharedSecret} {enc : DhEncappedKey}
    (h : (encapWith D rng pkR skS).1 = .ok (ss, enc)) :
    (dhKem D).encFromBytes enc.val = .ok enc := by
  obtain rfl := encapWith_enc h
  exact guard_eq_ok.mpr ⟨not_not.mpr (hD.length_pkToBytes _), rfl⟩

/-! ## The shared secret -/

section SharedSecret

variable (D)

/-- The call that extracts `eae_prk`. -/
def eaeCall (dh : Bytes) : KdfCall := labeledExtractCall [] (suiteId D) (ascii "eae_prk") dh

/-- The call that expands the shared secret. -/
def sharedSecretCall (dh kemContext : Bytes) : KdfCall :=
  labeledExpandCall (labeledExtract D.kdf [] (suiteId D) (ascii "eae_prk") dh) (suiteId D)
    (ascii "shared_secret") kemContext D.sharedSecretLen

variable {D}

/-- **Both helpers are one expand of one extract**, on the concatenated pieces. -/
theorem extractAndExpandPieces_run (hF : D.kdf.Lawful) (hD : D.Lawful)
    {dhPieces kemContext : List Bytes} (hd : 3 + dhPieces.length ≤ maxExtractPieces)
    (hk : 4 + kemContext.length ≤ maxExpandPieces) :
    extractAndExpandPieces D dhPieces kemContext =
      D.kdf.run (sharedSecretCall D dhPieces.flatten kemContext.flatten) := by
  simp only [extractAndExpandPieces, hF.labeledExtractPieces_run _ _ _ hd, ok_bind]
  exact hF.labeledExpandPieces_run _ _ _ hD.sharedSecretLen_le hk

theorem extractAndExpand_run (hF : D.kdf.Lawful) (hD : D.Lawful) (dh : Bytes)
    {kemContext : List Bytes} (hk : 4 + kemContext.length ≤ maxExpandPieces) :
    extractAndExpand D dh kemContext = D.kdf.run (sharedSecretCall D dh kemContext.flatten) :=
  hF.labeledExpandPieces_run _ _ _ hD.sharedSecretLen_le hk

theorem sharedSecretCall_ok (hF : D.kdf.Lawful) (hD : D.Lawful) (dh kemContext : Bytes) :
    ∃ ss, D.kdf.run (sharedSecretCall D dh kemContext) = .ok ss := by
  obtain ⟨ss, h, -⟩ := hF.run_expand_ok (suiteId D) (ascii "shared_secret") kemContext
    (hF.length_labeledExtract [] (suiteId D) (ascii "eae_prk") dh) hD.sharedSecretLen_le
  exact ⟨ss, h⟩

end SharedSecret

end HpkeNg

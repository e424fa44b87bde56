import HpkeNg.Kem.Dh

/-!
# The NIST curves and secp256k1 (`nist_curve!` in `src/kem/dh.rs`)

* `nistCurve`, the body of the macro, and its four instances `p256`, `p384`, `p521`, `k256`;
* `nistCurve_lawful`, `nistCurve_commutes`, `nistCurve_roundTrips`, `nistCurveRawDh`.
-/

namespace HpkeNg

variable {R : Type} {nsk : ℕ}

/-- Public key wrapper: the decoded key and its cached SEC1 bytes. -/
structure NistPublicKey (crate : CurveCrate R nsk) where
  pk : crate.PublicKey
  encoded : Bytes
  encoded_eq : encoded = crate.toSec1Point pk

/-- Private key wrapper. -/
structure NistPrivateKey (crate : CurveCrate R nsk) where
  val : crate.SecretKey

section Macro

variable (crate : CurveCrate R nsk) (kdf : Kdf) (id : UInt16) (nsecret : ℕ) (bitmask : UInt8)

/-- `$make_pk`. -/
def makePk (pk : crate.PublicKey) : NistPublicKey crate := ⟨pk, crate.toSec1Point pk, rfl⟩

/-- Zeroizing replaces the key with the scalar 1. -/
def NistPrivateKey.zeroize (_ : NistPrivateKey crate) : Outcome (NistPrivateKey crate) := do
  let dummy ← modifyAt (zeros nsk).1 (nsk - 1) fun _ => 1
  let d ← expect (crate.fromSlice dummy)
  return ⟨d⟩

/-- `sk_from_bytes` of the macro. -/
def nistSkFromBytes (b : Bytes) : Outcome (NistPrivateKey crate) :=
  if b.length ≠ nsk then throwErr .invalidPrivateKey
  else do
    let sk ← okOr .invalidPrivateKey (crate.fromSlice b)
    return ⟨sk⟩

/-- Only the uncompressed SEC1 form is accepted: its exact length, and then its tag, which is read
only if the length is right. -/
def nistPkFromBytes (b : Bytes) : Outcome (NistPublicKey crate) :=
  if b.length ≠ 1 + 2 * nsk then throwErr .invalidPublicKey
  else do
    let tag ← index b 0
    if tag ≠ 0x04 then throwErr .invalidPublicKey
    else
      let pk ← okOr .invalidPublicKey (crate.fromSec1Bytes b)
      return makePk crate pk

/-- The raw secret of `ecdh::diffie_hellman`, with the all-zero output rejected. -/
def nistDh (sk : NistPrivateKey crate) (pk : NistPublicKey crate) : Outcome Bytes :=
  let bytes := crate.diffieHellman sk.val pk.pk
  if bytes = zeros nsk then throwErr .encapError else return bytes.1

/-- The group that `nist_curve!` emits. -/
def nistCurve : DiffieHellman R where
  kdf := kdf
  id := id
  publicKeyLen := 1 + 2 * nsk
  privateKeyLen := nsk
  sharedSecretLen := nsecret
  PublicKey := NistPublicKey crate
  PrivateKey := NistPrivateKey crate
  pkAsRef pk := pk.encoded
  skZeroize := NistPrivateKey.zeroize crate
  generate rng :=
    let (sk, rng) := crate.generateFromRng rng
    let pk := crate.publicKey sk
    ((⟨sk⟩, makePk crate pk), rng)
  derive ikm := do
    let bytes ← derivePCurveSk kdf id (nistSkFromBytes crate) ikm nsk bitmask
    let sk ← okOr .invalidPrivateKey (crate.fromSlice bytes)
    let pk := crate.publicKey sk
    return (⟨sk⟩, makePk crate pk)
  dh := nistDh crate
  pkFromBytes := nistPkFromBytes crate
  skFromBytes := nistSkFromBytes crate
  pkToBytes pk := pk.encoded
  skToBytes sk := (crate.toBytes sk.val).1
  skToPk sk := makePk crate (crate.publicKey sk.val)

end Macro

/-- `P256`. -/
def p256 (c : Crates R) : DiffieHellman R := nistCurve c.p256 (hkdfSha256 c) 0x0010 32 0xFF

/-- `P384`. -/
def p384 (c : Crates R) : DiffieHellman R := nistCurve c.p384 (hkdfSha384 c) 0x0011 48 0xFF

/-- `P521`. -/
def p521 (c : Crates R) : DiffieHellman R := nistCurve c.p521 (hkdfSha512 c) 0x0012 64 0x01

/-- `K256`. -/
def k256 (c : Crates R) : DiffieHellman R := nistCurve c.k256 (hkdfSha256 c) 0x0016 32 0xFF

/-! ## Parsing -/

section Parse

variable {crate : CurveCrate R nsk} {b : Bytes}

theorem makePk_pk (pk : NistPublicKey crate) : makePk crate pk.pk = pk := by
  obtain ⟨pk, encoded, rfl⟩ := pk
  rfl

theorem nistSkFromBytes_eq_ok {sk : NistPrivateKey crate} :
    nistSkFromBytes crate b = .ok sk ↔ b.length = nsk ∧ crate.fromSlice b = some sk.val := by
  unfold nistSkFromBytes
  by_cases hb : b.length = nsk
  · rw [if_neg (not_not.mpr hb)]
    constructor
    · intro h
      obtain ⟨s, hs, h⟩ := bind_eq_ok.mp h
      cases h
      exact ⟨hb, okOr_eq_ok.mp hs⟩
    · rintro ⟨-, hs⟩
      exact bind_eq_ok.mpr ⟨sk.val, okOr_eq_ok.mpr hs, rfl⟩
  · rw [if_pos hb]
    refine ⟨fun h => ?_, fun h => absurd h.1 hb⟩
    cases h

/-- On the right length the tag is there to be read. -/
theorem nistPkFromBytes_of_length (hb : b.length = 1 + 2 * nsk) : ∃ tag, b[0]? = some tag ∧
    nistPkFromBytes crate b = if tag ≠ 0x04 then throwErr .invalidPublicKey
      else okOr .invalidPublicKey (crate.fromSec1Bytes b) >>= fun pk => .ok (makePk crate pk) := by
  obtain ⟨tag, htag⟩ : ∃ tag, (index b 0 : Outcome UInt8) = .ok tag := index_ok (by omega)
  refine ⟨tag, index_eq_ok.mp htag, ?_⟩
  rw [nistPkFromBytes, if_neg (not_not.mpr hb), htag]
  rfl

theorem nistPkFromBytes_fault {f : Fault HpkeError} (h : nistPkFromBytes crate b = .error f) :
    f = .err .invalidPublicKey := by
  by_cases hb : b.length = 1 + 2 * nsk
  · obtain ⟨tag, -, heq⟩ : ∃ tag, _ ∧ nistPkFromBytes crate b = _ := nistPkFromBytes_of_length hb
    rw [heq] at h
    split_ifs at h
    · exact (Except.error.inj h).symm
    · cases hp : crate.fromSec1Bytes b with
      | none =>
        rw [hp] at h
        exact (Except.error.inj h).symm
      | some p =>
        rw [hp] at h
        cases h
  · rw [nistPkFromBytes, if_pos hb] at h
    exact (Except.error.inj h).symm

theorem nistPkFromBytes_eq_ok {pk : NistPublicKey crate} :
    nistPkFromBytes crate b = .ok pk ↔
      b.length = 1 + 2 * nsk ∧ b[0]? = some 0x04 ∧ crate.fromSec1Bytes b = some pk.pk := by
  by_cases hb : b.length = 1 + 2 * nsk
  · obtain ⟨tag, htag, heq⟩ : ∃ tag, _ ∧ nistPkFromBytes crate b = _ := nistPkFromBytes_of_length hb
    rw [heq, htag, Option.some.injEq]
    by_cases ht : tag = 0x04
    · rw [if_neg (not_not.mpr ht)]
      constructor
      · intro h
        obtain ⟨p, hp, h⟩ := bind_eq_ok.mp h
        cases h
        exact ⟨hb, ht, okOr_eq_ok.mp hp⟩
      · rintro ⟨-, -, hp⟩
        exact bind_eq_ok.mpr ⟨pk.pk, okOr_eq_ok.mpr hp, congrArg Except.ok (makePk_pk pk)⟩
    · rw [if_pos ht]
      exact iff_of_false (by rintro ⟨⟩) fun h => ht h.2.1
  · rw [nistPkFromBytes, if_pos hb]
    exact iff_of_false (by rintro ⟨⟩) fun h => hb h.1

end Parse

/-! ## The group -/

section Laws

variable {crate : CurveCrate R nsk} {kdf : Kdf} {id : UInt16} {nsecret : ℕ} {bitmask : UInt8}

theorem CurveCrate.Documented.length_toSec1Point (hc : crate.Documented) (p : crate.PublicKey) :
    (crate.toSec1Point p).length = 1 + 2 * nsk := by
  obtain ⟨xy, hl, h⟩ := hc.toSec1Point_uncompressed p
  rw [h, List.length_cons, hl, Nat.add_comm]

theorem nistPkFromBytes_encoded (hc : crate.Documented) (pk : NistPublicKey crate) :
    nistPkFromBytes crate pk.encoded = .ok pk := by
  obtain ⟨xy, hl, h⟩ := hc.toSec1Point_uncompressed pk.pk
  have he : pk.encoded = 0x04 :: xy := pk.encoded_eq.trans h
  refine nistPkFromBytes_eq_ok.mpr ⟨?_, ?_, ?_⟩
  · rw [he, List.length_cons, hl, Nat.add_comm]
  · rw [he]
    rfl
  · rw [pk.encoded_eq, hc.fromSec1Bytes_toSec1Point]

theorem nistCurve_lawful (hl : ∀ p, (crate.toSec1Point p).length = 1 + 2 * nsk)
    (hs : nsecret ≤ 255 * kdf.hashLen) :
    (nistCurve crate kdf id nsecret bitmask).Lawful where
  sharedSecretLen_le := hs
  publicKeyLen_pos := (by omega : 0 < 1 + 2 * nsk)
  pkAsRef_eq _ := rfl
  length_pkToBytes pk := (congrArg List.length pk.encoded_eq).trans (hl pk.pk)
  length_of_pkFromBytes h := (nistPkFromBytes_eq_ok.mp h).1
  pkFromBytes_fault := nistPkFromBytes_fault
  generate_pk _ := rfl
  derive_pk {ikm sk pk} h := by
    obtain ⟨bytes, -, h⟩ := bind_eq_ok.mp h
    obtain ⟨s, -, h⟩ := bind_eq_ok.mp h
    cases h
    rfl

theorem nistCurve_commutes (hc : crate.Commutes) :
    (nistCurve crate kdf id nsecret bitmask).Commutes := by
  intro a b
  change nistDh crate a (makePk crate (crate.publicKey b.val)) =
    nistDh crate b (makePk crate (crate.publicKey a.val))
  simp only [nistDh, makePk, hc a.val b.val]
  rfl

theorem nistCurve_roundTrips (hc : crate.Documented) :
    (nistCurve crate kdf id nsecret bitmask).RoundTrips where
  pkFromBytes_pkToBytes {pk} _ := nistPkFromBytes_encoded hc pk
  skFromBytes_skToBytes {sk} _ :=
    nistSkFromBytes_eq_ok.mpr ⟨(crate.toBytes sk.val).2, hc.fromSlice_toBytes sk.val⟩

/-- The raw secret of the curve crate. -/
def nistCurveRawDh : RawDh (nistCurve crate kdf id nsecret bitmask) where
  len := nsk
  raw sk pk := crate.diffieHellman sk.val pk.pk
  dh_eq _ _ := rfl

end Laws

end HpkeNg

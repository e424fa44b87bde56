import HpkeNg.Kem.Dh
import Mathlib.Tactic.IntervalCases

/-!
# X25519 (`src/kem/dh.rs`)

* `clamp25519`, the scalar clamp, and `mask25519`, which clears bit 255 of a received point;
* `x25519`, the group;
* `clamp25519_idem`, `mask25519_idem`, `x25519_built`: every constructor clamps;
* `x25519_lawful`, `x25519_commutes`, `x25519_roundTrips`, `x25519RawDh`.
-/

namespace HpkeNg

variable {R : Type}

/-- Clamp a scalar (RFC 7748, section 5). -/
def clamp25519 (bytes : Arr 32) : Arr 32 :=
  ((bytes.modify 0 (· &&& 0xF8)).modify 31 (· &&& 0x7F)).modify 31 (· ||| 0x40)

/-- Mask the most significant bit of a received public key (RFC 7748, section 5). -/
def mask25519 (arr : Arr 32) : Arr 32 := arr.modify 31 (· &&& 0x7F)

/-- Public key wrapper. -/
structure X25519PublicKey where
  val : Arr 32

/-- Private key wrapper. -/
structure X25519PrivateKey (crate : X25519Crate) where
  val : crate.StaticSecret

section Group

variable (crate : X25519Crate)

/-- Zeroizing replaces the key with the secret of 32 zero bytes. -/
def X25519PrivateKey.zeroize (_ : X25519PrivateKey crate) : Outcome (X25519PrivateKey crate) :=
  return ⟨crate.secretFrom (zeros 32)⟩

/-- `X25519::derive`. -/
def x25519Derive (kdf : Kdf) (id : UInt16) (ikm : Bytes) :
    Outcome (X25519PrivateKey crate × X25519PublicKey) := do
  let suite := kemSuiteId id
  let dkpPrk := labeledExtract kdf [] suite (ascii "dkp_prk") ikm
  let skBytes ← labeledExpand kdf dkpPrk suite (ascii "sk") [] 32
  let arr ← copyFromSlice (zeros 32) 0 32 skBytes
  let arr := clamp25519 arr
  let sk := crate.secretFrom arr
  let pk := crate.publicKeyFrom sk
  return (⟨sk⟩, ⟨pk⟩)

/-- The raw secret, with the all-zero output rejected. -/
def x25519Dh (sk : X25519PrivateKey crate) (pk : X25519PublicKey) : Outcome Bytes :=
  let shared := crate.diffieHellman sk.val pk.val
  if shared = zeros 32 then throwErr .encapError else return shared.1

/-- `X25519::pk_from_bytes`, with bit 255 cleared. -/
def x25519PkFromBytes (b : Bytes) : Outcome X25519PublicKey :=
  if b.length ≠ 32 then throwErr .invalidPublicKey
  else do
    let arr ← copyFromSlice (zeros 32) 0 32 b
    return ⟨mask25519 arr⟩

/-- `X25519::sk_from_bytes`. -/
def x25519SkFromBytes (b : Bytes) : Outcome (X25519PrivateKey crate) :=
  if b.length ≠ 32 then throwErr .invalidPrivateKey
  else do
    let arr ← copyFromSlice (zeros 32) 0 32 b
    return ⟨crate.secretFrom (clamp25519 arr)⟩

end Group

variable [CryptoRng R]

/-- `X25519`. -/
def x25519 (c : Crates R) : DiffieHellman R where
  kdf := hkdfSha256 c
  id := 0x0020
  publicKeyLen := 32
  privateKeyLen := 32
  sharedSecretLen := 32
  PublicKey := X25519PublicKey
  PrivateKey := X25519PrivateKey c.x25519Dalek
  pkAsRef pk := pk.val.1
  skZeroize := X25519PrivateKey.zeroize c.x25519Dalek
  generate rng :=
    let (bytes, rng) := CryptoRng.fillBytes rng 32
    let sk := c.x25519Dalek.secretFrom (clamp25519 bytes)
    let pk := c.x25519Dalek.publicKeyFrom sk
    ((⟨sk⟩, ⟨pk⟩), rng)
  derive := x25519Derive c.x25519Dalek (hkdfSha256 c) 0x0020
  dh := x25519Dh c.x25519Dalek
  pkFromBytes := x25519PkFromBytes
  skFromBytes := x25519SkFromBytes c.x25519Dalek
  pkToBytes pk := pk.val.1
  skToBytes sk := (c.x25519Dalek.toBytes sk.val).1
  skToPk sk := ⟨c.x25519Dalek.publicKeyFrom sk.val⟩

/-! ## Masking and clamping -/

theorem mask25519_bit (a : Arr 32) {i : ℕ} (hi : i < 32) {j : ℕ} (hj : j < 8) :
    (mask25519 a).bit i j = (a.bit i j && !decide (i = 31 ∧ j = 7)) := by
  rw [mask25519, Arr.bit_modify_and _ _ _ hi]
  by_cases h : i = 31
  · subst h
    interval_cases j <;> simp
  · simp [h, Ne.symm h]

theorem clamp25519_bit (a : Arr 32) {i : ℕ} (hi : i < 32) {j : ℕ} (hj : j < 8) :
    (clamp25519 a).bit i j =
      if i = 0 ∧ j < 3 then false else if i = 31 ∧ 6 ≤ j then decide (j = 6) else a.bit i j := by
  rw [clamp25519, Arr.bit_modify_or _ _ _ hi, Arr.bit_modify_and _ _ _ hi,
    Arr.bit_modify_and _ _ _ hi]
  by_cases h0 : i = 0
  · subst h0
    interval_cases j <;> simp
  · by_cases h31 : i = 31
    · subst h31
      interval_cases j <;> simp
    · simp [h0, h31, Ne.symm h0, Ne.symm h31]

theorem mask25519_idem (a : Arr 32) : mask25519 (mask25519 a) = mask25519 a := by
  refine Arr.ext_bit fun i hi j hj => ?_
  rw [mask25519_bit _ hi hj, mask25519_bit _ hi hj, Bool.and_assoc, Bool.and_self]

theorem clamp25519_idem (a : Arr 32) : clamp25519 (clamp25519 a) = clamp25519 a := by
  refine Arr.ext_bit fun i hi j hj => ?_
  rw [clamp25519_bit (clamp25519 a) hi hj, clamp25519_bit a hi hj]
  split_ifs <;> rfl

/-- **What clamping forgets**: the low three bits of byte 0 and the top two of byte 31. -/
theorem clamp25519_eq_iff {a b : Arr 32} : clamp25519 a = clamp25519 b ↔
    ∀ i < 32, ∀ j < 8, ¬ (i = 0 ∧ j < 3) → ¬ (i = 31 ∧ 6 ≤ j) → a.bit i j = b.bit i j := by
  constructor
  · intro h i hi j hj h0 h31
    have hb := congrArg (fun x => Arr.bit x i j) h
    simpa only [clamp25519_bit _ hi hj, if_neg h0, if_neg h31] using hb
  · intro h
    refine Arr.ext_bit fun i hi j hj => ?_
    rw [clamp25519_bit _ hi hj, clamp25519_bit _ hi hj]
    split_ifs with h0 h31
    · rfl
    · rfl
    · exact h i hi j hj h0 h31

/-! ## The group -/

section Parse

variable {crate : X25519Crate} {b : Bytes}

theorem x25519PkFromBytes_fault {f : Fault HpkeError} (h : x25519PkFromBytes b = .error f) :
    f = .err .invalidPublicKey := by
  unfold x25519PkFromBytes at h
  split_ifs at h with hb
  · exact (Except.error.inj h).symm
  · rw [(copyFromSlice_eq_ok (r := ⟨b, not_not.mp hb⟩) (not_not.mp hb)).mpr rfl] at h
    cases h

theorem x25519PkFromBytes_eq_ok {pk : X25519PublicKey} :
    x25519PkFromBytes b = .ok pk ↔ ∃ arr : Arr 32, arr.1 = b ∧ pk = ⟨mask25519 arr⟩ := by
  unfold x25519PkFromBytes
  by_cases hb : b.length = 32
  · rw [if_neg (not_not.mpr hb)]
    refine bind_eq_ok.trans (exists_congr fun arr => and_congr (copyFromSlice_eq_ok hb) ?_)
    rw [pure_eq_ok, Except.ok.injEq, eq_comm]
  · rw [if_pos hb]
    refine ⟨fun h => ?_, fun ⟨arr, ha, _⟩ => absurd (ha ▸ arr.2) hb⟩
    cases h

theorem x25519SkFromBytes_eq_ok {sk : X25519PrivateKey crate} :
    x25519SkFromBytes crate b = .ok sk ↔
      ∃ arr : Arr 32, arr.1 = b ∧ sk = ⟨crate.secretFrom (clamp25519 arr)⟩ := by
  unfold x25519SkFromBytes
  by_cases hb : b.length = 32
  · rw [if_neg (not_not.mpr hb)]
    refine bind_eq_ok.trans (exists_congr fun arr => and_congr (copyFromSlice_eq_ok hb) ?_)
    rw [pure_eq_ok, Except.ok.injEq, eq_comm]
  · rw [if_pos hb]
    refine ⟨fun h => ?_, fun ⟨arr, ha, _⟩ => absurd (ha ▸ arr.2) hb⟩
    cases h

end Parse

variable {c : Crates R}

theorem x25519Derive_eq_ok {crate : X25519Crate} {kdf : Kdf} {id : UInt16} {ikm : Bytes}
    {kp : X25519PrivateKey crate × X25519PublicKey} (h : x25519Derive crate kdf id ikm = .ok kp) :
    ∃ arr, kp.1 = ⟨crate.secretFrom (clamp25519 arr)⟩ ∧ kp.2 = ⟨crate.publicKeyFrom kp.1.val⟩ := by
  obtain ⟨skBytes, -, h⟩ := bind_eq_ok.mp h
  obtain ⟨arr, -, h⟩ := bind_eq_ok.mp h
  cases h
  exact ⟨arr, rfl, rfl⟩

theorem x25519_built {sk : (x25519 c).PrivateKey} (h : (x25519 c).Built sk) :
    ∃ arr, sk = X25519PrivateKey.mk (c.x25519Dalek.secretFrom (clamp25519 arr)) := by
  cases h with
  | generate rng => exact ⟨_, rfl⟩
  | derive h =>
    obtain ⟨arr, h, -⟩ := x25519Derive_eq_ok h
    exact ⟨arr, h⟩
  | load h =>
    obtain ⟨arr, -, h⟩ := x25519SkFromBytes_eq_ok.mp h
    exact ⟨arr, h⟩

theorem x25519_lawful (c : Crates R) : (x25519 c).Lawful where
  sharedSecretLen_le := (by decide : 32 ≤ 255 * 32)
  publicKeyLen_pos := (by decide : 0 < 32)
  pkAsRef_eq _ := rfl
  length_pkToBytes pk := pk.val.2
  length_of_pkFromBytes h := by
    obtain ⟨arr, rfl, -⟩ := x25519PkFromBytes_eq_ok.mp h
    exact arr.2
  pkFromBytes_fault := x25519PkFromBytes_fault
  generate_pk _ := rfl
  derive_pk h := by
    obtain ⟨arr, -, h⟩ := x25519Derive_eq_ok h
    exact h

theorem x25519_builtPk (hx : c.x25519Dalek.Documented) {pk : (x25519 c).PublicKey}
    (h : (x25519 c).BuiltPk pk) : mask25519 (X25519PublicKey.val pk) = X25519PublicKey.val pk := by
  cases h with
  | computed sk => exact hx.publicKeyFrom_lt sk.val
  | load h =>
    obtain ⟨arr, -, rfl⟩ := x25519PkFromBytes_eq_ok.mp h
    exact mask25519_idem arr

theorem x25519_commutes (hx : c.x25519Dalek.Commutes) : (x25519 c).Commutes := by
  intro a b
  change x25519Dh c.x25519Dalek a ⟨c.x25519Dalek.publicKeyFrom b.val⟩ =
    x25519Dh c.x25519Dalek b ⟨c.x25519Dalek.publicKeyFrom a.val⟩
  unfold x25519Dh
  rw [hx a.val b.val]

theorem x25519_roundTrips (hx : c.x25519Dalek.Documented) : (x25519 c).RoundTrips where
  pkFromBytes_pkToBytes h :=
    x25519PkFromBytes_eq_ok.mpr ⟨_, rfl, congrArg X25519PublicKey.mk (x25519_builtPk hx h).symm⟩
  skFromBytes_skToBytes {sk} h := by
    obtain ⟨arr, rfl⟩ := x25519_built h
    refine x25519SkFromBytes_eq_ok.mpr ⟨clamp25519 arr, ?_, by rw [clamp25519_idem]⟩
    exact congrArg Subtype.val (hx.toBytes_secretFrom _).symm

/-- The raw secret of `x25519_dalek`. -/
def x25519RawDh (c : Crates R) : RawDh (x25519 c) where
  len := 32
  raw sk pk := c.x25519Dalek.diffieHellman sk.val pk.val
  dh_eq _ _ := rfl

end HpkeNg

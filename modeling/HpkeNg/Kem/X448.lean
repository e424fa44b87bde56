import HpkeNg.Kem.Dh
import Mathlib.Tactic.IntervalCases

/-!
# X448 (`src/kem/dh.rs`)

* `clamp448`, the scalar clamp, and `x448`, the group;
* `clamp448_idem`, `clamp448_eq_iff`, `x448_built`: every constructor clamps;
* `x448_lawful`, `x448_commutes`, `x448_roundTrips`, `x448RawDh`.
-/

namespace HpkeNg

variable {R : Type}

/-- Clamp a scalar (RFC 7748, section 5). -/
def clamp448 (sk : Arr 56) : Arr 56 := (sk.modify 0 (· &&& 0xFC)).modify 55 (· ||| 0x80)

/-- Public key wrapper. -/
structure X448PublicKey where
  val : Arr 56

/-- Private key wrapper. -/
structure X448PrivateKey where
  val : Arr 56

/-- Zeroizing clears the 56 bytes. -/
def X448PrivateKey.zeroize (_ : X448PrivateKey) : Outcome X448PrivateKey := return ⟨zeros 56⟩

section Group

variable (crate : X448Crate)

/-- Base-point multiplication. -/
def x448ScalarMultBase (sk : Arr 56) : Arr 56 := crate.mul crate.generator sk

/-- Multiplication of a received point. -/
def x448ScalarMult (sk pk : Arr 56) : Arr 56 := crate.mul pk sk

/-- `X448::derive`. -/
def x448Derive (kdf : Kdf) (id : UInt16) (ikm : Bytes) :
    Outcome (X448PrivateKey × X448PublicKey) := do
  let suite := kemSuiteId id
  let prk := labeledExtract kdf [] suite (ascii "dkp_prk") ikm
  let bytes ← labeledExpand kdf prk suite (ascii "sk") [] 56
  let sk ← copyFromSlice (zeros 56) 0 56 bytes
  let sk := clamp448 sk
  let pk := x448ScalarMultBase crate sk
  return (⟨sk⟩, ⟨pk⟩)

/-- The raw secret, with the all-zero output rejected. -/
def x448Dh (sk : X448PrivateKey) (pk : X448PublicKey) : Outcome Bytes :=
  let shared := x448ScalarMult crate sk.val pk.val
  if shared = zeros 56 then throwErr .encapError else return shared.1

/-- `X448::pk_from_bytes`. -/
def x448PkFromBytes (b : Bytes) : Outcome X448PublicKey :=
  if b.length ≠ 56 then throwErr .invalidPublicKey
  else do
    let arr ← copyFromSlice (zeros 56) 0 56 b
    return ⟨arr⟩

/-- `X448::sk_from_bytes`. -/
def x448SkFromBytes (b : Bytes) : Outcome X448PrivateKey :=
  if b.length ≠ 56 then throwErr .invalidPrivateKey
  else do
    let arr ← copyFromSlice (zeros 56) 0 56 b
    return ⟨clamp448 arr⟩

end Group

variable [CryptoRng R]

/-- `X448`. -/
def x448 (c : Crates R) : DiffieHellman R where
  kdf := hkdfSha512 c
  id := 0x0021
  publicKeyLen := 56
  privateKeyLen := 56
  sharedSecretLen := 64
  PublicKey := X448PublicKey
  PrivateKey := X448PrivateKey
  pkAsRef pk := pk.val.1
  skZeroize := X448PrivateKey.zeroize
  generate rng :=
    let (sk, rng) := CryptoRng.fillBytes rng 56
    let sk := clamp448 sk
    let pk := x448ScalarMultBase c.ed448Goldilocks sk
    ((⟨sk⟩, ⟨pk⟩), rng)
  derive := x448Derive c.ed448Goldilocks (hkdfSha512 c) 0x0021
  dh := x448Dh c.ed448Goldilocks
  pkFromBytes := x448PkFromBytes
  skFromBytes := x448SkFromBytes
  pkToBytes pk := pk.val.1
  skToBytes sk := sk.val.1
  skToPk sk := ⟨x448ScalarMultBase c.ed448Goldilocks sk.val⟩

/-! ## Clamping -/

theorem clamp448_bit (a : Arr 56) {i : ℕ} (hi : i < 56) {j : ℕ} (hj : j < 8) :
    (clamp448 a).bit i j =
      if i = 0 ∧ j < 2 then false else if i = 55 ∧ j = 7 then true else a.bit i j := by
  rw [clamp448, Arr.bit_modify_or _ _ _ hi, Arr.bit_modify_and _ _ _ hi]
  by_cases h0 : i = 0
  · subst h0
    interval_cases j <;> simp
  · by_cases h55 : i = 55
    · subst h55
      interval_cases j <;> simp
    · simp [h0, h55, Ne.symm h0, Ne.symm h55]

theorem clamp448_idem (a : Arr 56) : clamp448 (clamp448 a) = clamp448 a := by
  refine Arr.ext_bit fun i hi j hj => ?_
  rw [clamp448_bit (clamp448 a) hi hj, clamp448_bit a hi hj]
  split_ifs <;> rfl

/-- **What clamping forgets**: the low two bits of byte 0 and the top one of byte 55. -/
theorem clamp448_eq_iff {a b : Arr 56} : clamp448 a = clamp448 b ↔
    ∀ i < 56, ∀ j < 8, ¬ (i = 0 ∧ j < 2) → ¬ (i = 55 ∧ j = 7) → a.bit i j = b.bit i j := by
  constructor
  · intro h i hi j hj h0 h55
    have hb := congrArg (fun x => Arr.bit x i j) h
    simpa only [clamp448_bit _ hi hj, if_neg h0, if_neg h55] using hb
  · intro h
    refine Arr.ext_bit fun i hi j hj => ?_
    rw [clamp448_bit _ hi hj, clamp448_bit _ hi hj]
    split_ifs with h0 h55
    · rfl
    · rfl
    · exact h i hi j hj h0 h55

/-! ## The group -/

section Parse

variable {b : Bytes}

theorem x448PkFromBytes_fault {f : Fault HpkeError} (h : x448PkFromBytes b = .error f) :
    f = .err .invalidPublicKey := by
  unfold x448PkFromBytes at h
  split_ifs at h with hb
  · exact (Except.error.inj h).symm
  · rw [(copyFromSlice_eq_ok (r := ⟨b, not_not.mp hb⟩) (not_not.mp hb)).mpr rfl] at h
    cases h

theorem x448PkFromBytes_eq_ok {pk : X448PublicKey} : x448PkFromBytes b = .ok pk ↔ pk.val.1 = b := by
  unfold x448PkFromBytes
  by_cases hb : b.length = 56
  · rw [if_neg (not_not.mpr hb), bind_eq_ok]
    constructor
    · rintro ⟨arr, ha, h⟩
      cases h
      exact (copyFromSlice_eq_ok hb).mp ha
    · intro h
      exact ⟨pk.val, (copyFromSlice_eq_ok hb).mpr h, rfl⟩
  · rw [if_pos hb]
    refine ⟨fun h => ?_, fun h => absurd (h ▸ pk.val.2) hb⟩
    cases h

theorem x448SkFromBytes_eq_ok {sk : X448PrivateKey} :
    x448SkFromBytes b = .ok sk ↔ ∃ arr : Arr 56, arr.1 = b ∧ sk = ⟨clamp448 arr⟩ := by
  unfold x448SkFromBytes
  by_cases hb : b.length = 56
  · rw [if_neg (not_not.mpr hb)]
    refine bind_eq_ok.trans (exists_congr fun arr => and_congr (copyFromSlice_eq_ok hb) ?_)
    rw [pure_eq_ok, Except.ok.injEq, eq_comm]
  · rw [if_pos hb]
    refine ⟨fun h => ?_, fun ⟨arr, ha, _⟩ => absurd (ha ▸ arr.2) hb⟩
    cases h

end Parse

variable {c : Crates R}

theorem x448Derive_eq_ok {crate : X448Crate} {kdf : Kdf} {id : UInt16} {ikm : Bytes}
    {kp : X448PrivateKey × X448PublicKey} (h : x448Derive crate kdf id ikm = .ok kp) :
    ∃ arr, kp.1 = ⟨clamp448 arr⟩ ∧ kp.2 = ⟨x448ScalarMultBase crate kp.1.val⟩ := by
  obtain ⟨bytes, -, h⟩ := bind_eq_ok.mp h
  obtain ⟨arr, -, h⟩ := bind_eq_ok.mp h
  cases h
  exact ⟨arr, rfl, rfl⟩

theorem x448_built {sk : (x448 c).PrivateKey} (h : (x448 c).Built sk) :
    ∃ arr, sk = X448PrivateKey.mk (clamp448 arr) := by
  cases h with
  | generate rng => exact ⟨_, rfl⟩
  | derive h =>
    obtain ⟨arr, h, -⟩ := x448Derive_eq_ok h
    exact ⟨arr, h⟩
  | load h =>
    obtain ⟨arr, -, h⟩ := x448SkFromBytes_eq_ok.mp h
    exact ⟨arr, h⟩

theorem x448_lawful (c : Crates R) : (x448 c).Lawful where
  sharedSecretLen_le := (by decide : 64 ≤ 255 * 64)
  publicKeyLen_pos := (by decide : 0 < 56)
  pkAsRef_eq _ := rfl
  length_pkToBytes pk := pk.val.2
  length_of_pkFromBytes {_ pk} h := x448PkFromBytes_eq_ok.mp h ▸ pk.val.2
  pkFromBytes_fault := x448PkFromBytes_fault
  generate_pk _ := rfl
  derive_pk h := by
    obtain ⟨arr, -, h⟩ := x448Derive_eq_ok h
    exact h

theorem x448_commutes (hx : c.ed448Goldilocks.Commutes) : (x448 c).Commutes := by
  intro a b
  change x448Dh c.ed448Goldilocks a ⟨x448ScalarMultBase c.ed448Goldilocks b.val⟩ =
    x448Dh c.ed448Goldilocks b ⟨x448ScalarMultBase c.ed448Goldilocks a.val⟩
  unfold x448Dh x448ScalarMult x448ScalarMultBase
  rw [hx b.val a.val]

theorem x448_roundTrips (c : Crates R) : (x448 c).RoundTrips where
  pkFromBytes_pkToBytes _ := x448PkFromBytes_eq_ok.mpr rfl
  skFromBytes_skToBytes h := by
    obtain ⟨arr, rfl⟩ := x448_built h
    exact x448SkFromBytes_eq_ok.mpr ⟨clamp448 arr, rfl, by rw [clamp448_idem]⟩

/-- The raw secret of `ed448_goldilocks`. -/
def x448RawDh (c : Crates R) : RawDh (x448 c) where
  len := 56
  raw sk pk := x448ScalarMult c.ed448Goldilocks sk.val pk.val
  dh_eq _ _ := rfl

end HpkeNg

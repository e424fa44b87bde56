import HpkeNg.Collision
import HpkeNg.Context
import HpkeNg.Psk

/-!
# The key schedule (`src/lib.rs`)

* the four modes, `PskFreeMode` and `PskMode`;
* `keySchedulePskFree` and `keySchedulePsk`, the two bodies of the source;
* `ScheduleCall`: a call of either, with its intermediate values and the list of its KDF calls;
* `ScheduleCall.run_eq`: both bodies are one computation on these values; `run_eq_ok`, `run_ok`.
-/

namespace HpkeNg

variable {R : Type}

/-- The modes without a PSK. -/
inductive PskFreeMode : Type where
  | base
  | auth
  deriving DecidableEq

/-- The modes with a PSK. -/
inductive PskMode : Type where
  | psk
  | authPsk
  deriving DecidableEq

/-- `HpkeMode::MODE_BYTE`. -/
def PskFreeMode.modeByte : PskFreeMode → UInt8
  | .base => 0x00
  | .auth => 0x02

/-- `HpkeMode::MODE_BYTE`. -/
def PskMode.modeByte : PskMode → UInt8
  | .psk => 0x01
  | .authPsk => 0x03

variable (K : Kem R) (F : Kdf) (A : Aead)

/-- `key_schedule_psk_free_impl`. -/
def keySchedulePskFree (M : PskFreeMode) (sharedSecret info : Bytes) : Outcome (Context K F A) := do
  let suite := ciphersuite K F A
  let pskIdHash := labeledExtract F [] suite (ascii "psk_id_hash") []
  let infoHash := labeledExtract F [] suite (ascii "info_hash") info
  let ksPieces := [[M.modeByte], pskIdHash, infoHash]
  let secret := labeledExtract F sharedSecret suite (ascii "secret") []
  let key ← labeledExpandPieces F secret suite (ascii "key") ksPieces A.keyLen
  let baseNonce ← labeledExpandPieces F secret suite (ascii "base_nonce") ksPieces A.nonceLen
  let exporterSecret ← labeledExpandPieces F secret suite (ascii "exp") ksPieces F.hashLen
  Context.new key baseNonce exporterSecret

/-- `key_schedule_psk_impl`. -/
def keySchedulePsk (M : PskMode) (sharedSecret info : Bytes) (psk : Psk) :
    Outcome (Context K F A) := do
  let suite := ciphersuite K F A
  let pskIdHash := labeledExtract F [] suite (ascii "psk_id_hash") psk.id
  let infoHash := labeledExtract F [] suite (ascii "info_hash") info
  let ksPieces := [[M.modeByte], pskIdHash, infoHash]
  let secret := labeledExtract F sharedSecret suite (ascii "secret") psk.secret
  let key ← labeledExpandPieces F secret suite (ascii "key") ksPieces A.keyLen
  let baseNonce ← labeledExpandPieces F secret suite (ascii "base_nonce") ksPieces A.nonceLen
  let exporterSecret ← labeledExpandPieces F secret suite (ascii "exp") ksPieces F.hashLen
  Context.new key baseNonce exporterSecret

/-! ## Both bodies as one computation -/

/-- A call of either body. -/
inductive ScheduleCall : Type where
  | pskFree (M : PskFreeMode) (sharedSecret info : Bytes)
  | psk (M : PskMode) (sharedSecret info : Bytes) (psk : Psk)

namespace ScheduleCall

/-- What the call returns. -/
def run : ScheduleCall → Outcome (Context K F A)
  | .pskFree M sharedSecret info => keySchedulePskFree K F A M sharedSecret info
  | .psk M sharedSecret info p => keySchedulePsk K F A M sharedSecret info p

/-- `M::MODE_BYTE`. -/
def modeByte : ScheduleCall → UInt8
  | .pskFree M _ _ => M.modeByte
  | .psk M _ _ _ => M.modeByte

/-- The shared secret of the KEM. -/
def sharedSecret : ScheduleCall → Bytes
  | .pskFree _ ss _ => ss
  | .psk _ ss _ _ => ss

/-- The application's `info`. -/
def info : ScheduleCall → Bytes
  | .pskFree _ _ info => info
  | .psk _ _ info _ => info

/-- The PSK, empty in the modes without one. -/
def pskSecret : ScheduleCall → Bytes
  | .pskFree _ _ _ => []
  | .psk _ _ _ p => p.secret

/-- The PSK identifier, empty in the modes without a PSK. -/
def pskId : ScheduleCall → Bytes
  | .pskFree _ _ _ => []
  | .psk _ _ _ p => p.id

section Values

variable (F : Kdf) (suite : Bytes) (s : ScheduleCall)

/-- `psk_id_hash`. -/
def pskIdHash : Bytes := labeledExtract F [] suite (ascii "psk_id_hash") s.pskId

/-- `info_hash`. -/
def infoHash : Bytes := labeledExtract F [] suite (ascii "info_hash") s.info

/-- `secret`. -/
def secret : Bytes := labeledExtract F s.sharedSecret suite (ascii "secret") s.pskSecret

/-- `key_schedule_context`. -/
def ksContext : Bytes := [s.modeByte] ++ s.pskIdHash F suite ++ s.infoHash F suite

/-- One of the three outputs. -/
def output (label : Bytes) (n : ℕ) : KdfCall :=
  labeledExpandCall (s.secret F suite) suite label (s.ksContext F suite) n

/-- The KDF calls of the run, in order. -/
def calls (keyLen nonceLen : ℕ) : List KdfCall :=
  [labeledExtractCall [] suite (ascii "psk_id_hash") s.pskId,
    labeledExtractCall [] suite (ascii "info_hash") s.info,
    labeledExtractCall s.sharedSecret suite (ascii "secret") s.pskSecret,
    s.output F suite (ascii "key") keyLen, s.output F suite (ascii "base_nonce") nonceLen,
    s.output F suite (ascii "exp") F.hashLen]

end Values

variable {K F A}

theorem run_eq_pieces (s : ScheduleCall) : s.run K F A = (do
    let suite := ciphersuite K F A
    let ksPieces := [[s.modeByte], s.pskIdHash F suite, s.infoHash F suite]
    let key ← labeledExpandPieces F (s.secret F suite) suite (ascii "key") ksPieces A.keyLen
    let baseNonce ← labeledExpandPieces F (s.secret F suite) suite (ascii "base_nonce")
      ksPieces A.nonceLen
    let exporterSecret ← labeledExpandPieces F (s.secret F suite) suite (ascii "exp")
      ksPieces F.hashLen
    Context.new key baseNonce exporterSecret) := by
  cases s <;> rfl

/-- **Either body is three expands of one secret over one context.** -/
theorem run_eq (hF : F.Lawful) (hk : A.keyLen ≤ 255 * F.hashLen) (hn : A.nonceLen ≤ 255 * F.hashLen)
    (s : ScheduleCall) : s.run K F A = (do
      let key ← F.run (s.output F (ciphersuite K F A) (ascii "key") A.keyLen)
      let baseNonce ← F.run (s.output F (ciphersuite K F A) (ascii "base_nonce") A.nonceLen)
      let exporterSecret ← F.run (s.output F (ciphersuite K F A) (ascii "exp") F.hashLen)
      Context.new key baseNonce exporterSecret) := by
  have hx : F.hashLen ≤ 255 * F.hashLen := by omega
  have hp : ∀ label n, n ≤ 255 * F.hashLen →
      labeledExpandPieces F (s.secret F (ciphersuite K F A)) (ciphersuite K F A) label
        [[s.modeByte], s.pskIdHash F (ciphersuite K F A), s.infoHash F (ciphersuite K F A)] n =
      F.run (s.output F (ciphersuite K F A) label n) := by
    intro label n hn
    rw [hF.labeledExpandPieces_run _ _ _ hn (by simp [maxExpandPieces]), output, ksContext]
    simp
  rw [← hp _ _ hk, ← hp _ _ hn, ← hp _ _ hx]
  exact s.run_eq_pieces

theorem run_new {s : ScheduleCall} {ctx : Context K F A} (h : s.run K F A = .ok ctx) :
    ∃ key baseNonce exporterSecret,
      labeledExpandPieces F (s.secret F (ciphersuite K F A)) (ciphersuite K F A)
        (ascii "exp") [[s.modeByte], s.pskIdHash F (ciphersuite K F A),
          s.infoHash F (ciphersuite K F A)]
        F.hashLen = .ok exporterSecret ∧ Context.new key baseNonce exporterSecret = .ok ctx := by
  rw [run_eq_pieces] at h
  obtain ⟨key, -, h⟩ := bind_eq_ok.mp h
  obtain ⟨nonce, -, h⟩ := bind_eq_ok.mp h
  obtain ⟨exp, hexp, h⟩ := bind_eq_ok.mp h
  exact ⟨key, nonce, exp, hexp, h⟩

theorem run_seq {s : ScheduleCall} {ctx : Context K F A} (h : s.run K F A = .ok ctx) :
    ctx.seq = 0 := by
  obtain ⟨key, nonce, exp, -, hnew⟩ := run_new h
  exact (Context.new_fields hnew).1

theorem run_exporterSecret (hF : F.Lawful) {s : ScheduleCall} {ctx : Context K F A}
    (h : s.run K F A = .ok ctx) : ctx.exporterSecret.length = F.hashLen := by
  obtain ⟨key, nonce, exp, hexp, hnew⟩ := run_new h
  rw [labeledExpandPieces_eq _ _ _ _ _ (by simp [maxExpandPieces])] at hexp
  obtain ⟨l, -, hexp⟩ := bind_eq_ok.mp hexp
  rw [(Context.new_fields hnew).2]
  exact hF.length_expand hexp

theorem run_eq_ok (hF : F.Lawful) (hk : A.keyLen ≤ 255 * F.hashLen) (hn : A.nonceLen ≤ maxNonceLen)
    {s : ScheduleCall} {ctx : Context K F A} (h : s.run K F A = .ok ctx) :
    F.run (s.output F (ciphersuite K F A) (ascii "key") A.keyLen) = .ok ctx.rawKey ∧
      F.run (s.output F (ciphersuite K F A) (ascii "base_nonce") A.nonceLen) =
        .ok (ctx.baseNonce.1.take A.nonceLen) ∧
      F.run (s.output F (ciphersuite K F A) (ascii "exp") F.hashLen) = .ok ctx.exporterSecret ∧
      A.init ctx.rawKey = .ok ctx.cipher ∧ ctx.seq = 0 := by
  have hn' : A.nonceLen ≤ 255 * F.hashLen := by
    have := hF.hashLen_pos; unfold maxNonceLen at hn; omega
  rw [run_eq hF hk hn'] at h
  obtain ⟨key, h1, h⟩ := bind_eq_ok.mp h
  obtain ⟨baseNonce, h2, h⟩ := bind_eq_ok.mp h
  obtain ⟨exporterSecret, h3, h⟩ := bind_eq_ok.mp h
  obtain ⟨cipher, h4, h⟩ := bind_eq_ok.mp h
  obtain ⟨nonce, h5, h⟩ := bind_eq_ok.mp h
  cases h
  have hl : baseNonce.length = A.nonceLen := hF.length_expand h2
  obtain ⟨r, hr, hv⟩ : ∃ r : Arr maxNonceLen,
      (copyFromSlice (zeros maxNonceLen) 0 A.nonceLen baseNonce : Outcome (Arr maxNonceLen)) =
          .ok r ∧
        r.1 = [] ++ baseNonce ++ (zeros maxNonceLen).1.drop A.nonceLen :=
    copyFromSlice_ok _ (Nat.zero_le _) hn hl
  have hrn : nonce = r := Except.ok.inj (h5.symm.trans hr)
  have ht : nonce.1.take A.nonceLen = baseNonce := by
    rw [hrn, hv, List.nil_append, List.take_append_of_le_length hl.ge, List.take_of_length_le hl.le]
  exact ⟨h1, by rw [ht]; exact h2, h3, h4, rfl⟩

/-- **The key schedule always returns a context.** -/
theorem run_ok (hF : F.Lawful) (hk : A.keyLen ≤ 255 * F.hashLen) (hn : A.nonceLen ≤ maxNonceLen)
    (hi : ∀ key : Bytes, key.length = A.keyLen → ∃ k, A.init key = .ok k) (s : ScheduleCall) :
    ∃ ctx : Context K F A, s.run K F A = .ok ctx := by
  have hn' : A.nonceLen ≤ 255 * F.hashLen := by
    have := hF.hashLen_pos; unfold maxNonceLen at hn; omega
  have hs : (s.secret F (ciphersuite K F A)).length = F.hashLen := hF.length_labeledExtract _ _ _ _
  obtain ⟨key, h1, hl1⟩ := hF.run_expand_ok (ciphersuite K F A) (ascii "key")
    (s.ksContext F (ciphersuite K F A)) hs hk
  obtain ⟨nonce, h2, hl2⟩ := hF.run_expand_ok (ciphersuite K F A) (ascii "base_nonce")
    (s.ksContext F (ciphersuite K F A)) hs hn'
  obtain ⟨exp, h3, -⟩ := hF.run_expand_ok (ciphersuite K F A) (ascii "exp")
    (s.ksContext F (ciphersuite K F A)) hs (by omega : F.hashLen ≤ 255 * F.hashLen)
  obtain ⟨k, h4⟩ := hi key hl1
  obtain ⟨r, h5, -⟩ : ∃ r : Arr maxNonceLen,
      (copyFromSlice (zeros maxNonceLen) 0 A.nonceLen nonce : Outcome (Arr maxNonceLen)) = .ok r ∧
        r.1 = [] ++ nonce ++ (zeros maxNonceLen).1.drop A.nonceLen :=
    copyFromSlice_ok _ (Nat.zero_le _) hn hl2
  refine ⟨⟨k, r, exp, 0, key⟩, ?_⟩
  rw [run_eq hF hk hn']
  simp only [output, h1, h2, h3, ok_bind, Context.new, h4, h5]
  rfl

end ScheduleCall

/-! ## Every suite of the crate -/

section Suites

variable {c : Crates R}

theorem AeadAlg.keyLen_le_kdf (hc : c.HkdfDocumented) (f : KdfAlg) (a : AeadAlg) :
    (a.aead c).keyLen ≤ 255 * (f.kdf c).hashLen := by
  have h1 := AeadAlg.keyLen_le c a
  have h2 := (KdfAlg.lawful hc f).hashLen_pos
  omega

theorem ScheduleCall.run_isOk (hc : c.HkdfDocumented) (ha : c.AeadDocumented) (K : Kem R)
    (f : KdfAlg) (a : AeadAlg) (s : ScheduleCall) :
    ∃ ctx : Context K (f.kdf c) (a.aead c), s.run K (f.kdf c) (a.aead c) = .ok ctx :=
  s.run_ok (KdfAlg.lawful hc f) (AeadAlg.keyLen_le_kdf hc f a) (AeadAlg.nonceLen_le c a)
    fun _ hl => AeadAlg.init_ok ha a hl

end Suites

end HpkeNg

import HpkeNg.Crates

/-!
# AEAD primitives (`src/aead.rs`)

* `Aead` and `SealingAead`; the calls of a sealing AEAD run in a monad, so that one definition of
  `Context::seal` serves both the crate's AEADs (`Id`) and one that records its calls;
* `aeadImpl`, `sealingImpl`: the bodies the three ciphers share; `exportOnly`;
* `sealingImpl_seal_eq_ok`, `sealingImpl_open_eq_ok`, `SealingAlg.open_fault`: when they succeed and
  how `open` fails;
* `SealingAlg.Committing`: an ideal AEAD, whose ciphertexts commit to key, nonce and associated
  data.
-/

namespace HpkeNg

variable {R : Type}

/-- An HPKE AEAD. -/
structure Aead where
  id : UInt16
  keyLen : ℕ
  nonceLen : ℕ
  Cipher : Type
  init : (key : Bytes) → Outcome Cipher

/-- The width of the sequence counter. -/
def seqLen : ℕ := 8

/-- The width of the nonce buffer. -/
def maxNonceLen : ℕ := 12

/-- An AEAD that encrypts. `check` is `AssertNonceRange`, which the compiler evaluates for every
AEAD whose `seal` or `open` is instantiated. -/
structure SealingAead (m : Type → Type) (A : Aead) where
  «seal» : A.Cipher → (nonce aad pt : Bytes) → m (Outcome Bytes)
  «open» : A.Cipher → (nonce aad ct : Bytes) → m (Outcome Bytes)
  check : seqLen ≤ A.nonceLen ∧ A.nonceLen ≤ maxNonceLen

/-- `Aead` for one of the ciphers. -/
def aeadImpl {nk : ℕ} (id : UInt16) (crate : AeadCrate nk) : Aead where
  id := id
  keyLen := nk
  nonceLen := 12
  Cipher := crate.Cipher
  init key := okOr .aeadInitError (crate.newFromSlice key)

/-- `SealingAead` for one of the ciphers. -/
def sealingImpl {nk : ℕ} (id : UInt16) (crate : AeadCrate nk) :
    SealingAead Id (aeadImpl id crate) where
  «seal» cipher nonce aad pt := show Outcome Bytes from do
    let nonce ← okOr .sealError (Arr.ofBytes? nonce)
    okOr .sealError (crate.encrypt cipher nonce aad pt)
  «open» cipher nonce aad ct := show Outcome Bytes from do
    let nonce ← okOr .openError (Arr.ofBytes? nonce)
    okOr .openError (crate.decrypt cipher nonce aad ct)
  check := (by decide : 8 ≤ 12 ∧ 12 ≤ 12)

/-- `ChaCha20Poly1305`. -/
def chaCha20Poly1305 (c : Crates R) : Aead := aeadImpl 0x0003 c.chacha20Poly1305

/-- `Aes128Gcm`. -/
def aes128Gcm (c : Crates R) : Aead := aeadImpl 0x0001 c.aes128Gcm

/-- `Aes256Gcm`. -/
def aes256Gcm (c : Crates R) : Aead := aeadImpl 0x0002 c.aes256Gcm

/-- The export-only marker. -/
def exportOnly : Aead where
  id := 0xFFFF
  keyLen := 0
  nonceLen := 0
  Cipher := Unit
  init _ := return ()

/-- The AEADs that encrypt. -/
inductive SealingAlg : Type where
  | aes128Gcm
  | aes256Gcm
  | chaCha20Poly1305
  deriving DecidableEq

/-- The AEADs of the crate. -/
inductive AeadAlg : Type where
  | sealing (a : SealingAlg)
  | exportOnly
  deriving DecidableEq

/-- The `impl Aead` of a sealing AEAD. -/
def SealingAlg.aead (c : Crates R) : SealingAlg → Aead
  | .aes128Gcm => HpkeNg.aes128Gcm c
  | .aes256Gcm => HpkeNg.aes256Gcm c
  | .chaCha20Poly1305 => HpkeNg.chaCha20Poly1305 c

/-- Its `impl SealingAead`. -/
def SealingAlg.sealing (c : Crates R) : (a : SealingAlg) → SealingAead Id (a.aead c)
  | .aes128Gcm => sealingImpl 0x0001 c.aes128Gcm
  | .aes256Gcm => sealingImpl 0x0002 c.aes256Gcm
  | .chaCha20Poly1305 => sealingImpl 0x0003 c.chacha20Poly1305

/-- The `impl Aead` of each AEAD. -/
def AeadAlg.aead (c : Crates R) : AeadAlg → Aead
  | .sealing a => a.aead c
  | .exportOnly => HpkeNg.exportOnly

/-! ## When the ciphers succeed -/

section Impl

variable {nk : ℕ} {id : UInt16} {crate : AeadCrate nk}

theorem sealingImpl_seal_eq_ok {k : crate.Cipher} {nonce aad pt ct : Bytes} :
    (sealingImpl id crate).seal k nonce aad pt = .ok ct ↔
      ∃ n, Arr.ofBytes? nonce = some n ∧ crate.encrypt k n aad pt = some ct := by
  refine bind_eq_ok.trans (exists_congr fun n => ?_)
  rw [okOr_eq_ok, okOr_eq_ok]

theorem sealingImpl_open_eq_ok {k : crate.Cipher} {nonce aad pt ct : Bytes} :
    (sealingImpl id crate).open k nonce aad ct = .ok pt ↔
      ∃ n, Arr.ofBytes? nonce = some n ∧ crate.decrypt k n aad ct = some pt := by
  refine bind_eq_ok.trans (exists_congr fun n => ?_)
  rw [okOr_eq_ok, okOr_eq_ok]

theorem sealingImpl_open_fault {k : crate.Cipher} {nonce aad ct : Bytes} {f : Fault HpkeError}
    (h : (sealingImpl id crate).open k nonce aad ct = .error f) : f = .err .openError := by
  change (okOr HpkeError.openError (Arr.ofBytes? nonce) >>= fun n =>
    okOr HpkeError.openError (crate.decrypt k n aad ct)) = .error f at h
  cases hn : (Arr.ofBytes? nonce : Option (Arr 12)) with
  | none => rw [hn] at h; cases h; rfl
  | some n =>
    rw [hn, okOr_some, ok_bind] at h
    cases hd : crate.decrypt k n aad ct with
    | none => rw [hd] at h; cases h; rfl
    | some pt => rw [hd] at h; cases h

theorem sealingImpl_open_seal (hc : crate.Documented) {k : crate.Cipher} {nonce aad pt ct : Bytes}
    (h : (sealingImpl id crate).seal k nonce aad pt = .ok ct) :
    (sealingImpl id crate).open k nonce aad ct = .ok pt := by
  obtain ⟨n, hn, he⟩ := sealingImpl_seal_eq_ok.mp h
  exact sealingImpl_open_eq_ok.mpr ⟨n, hn, hc.decrypt_encrypt he⟩

theorem aeadImpl_init_ok (hc : crate.Documented) {key : Bytes} (h : key.length = nk) :
    ∃ k, (aeadImpl id crate).init key = .ok k := by
  obtain ⟨k, hk⟩ := Option.isSome_iff_exists.mp ((hc.newFromSlice_isSome key).mpr h)
  exact ⟨k, okOr_eq_ok.mpr hk⟩

end Impl

variable {c : Crates R}

theorem SealingAlg.open_fault (a : SealingAlg) {k : (a.aead c).Cipher} {nonce aad ct : Bytes}
    {f : Fault HpkeError} (h : (a.sealing c).open k nonce aad ct = .error f) :
    f = .err .openError := by
  cases a <;> exact sealingImpl_open_fault h

theorem SealingAlg.open_seal (hc : c.AeadDocumented) (a : SealingAlg) {k : (a.aead c).Cipher}
    {nonce aad pt ct : Bytes} (h : (a.sealing c).seal k nonce aad pt = .ok ct) :
    (a.sealing c).open k nonce aad ct = .ok pt := by
  cases a
  · exact sealingImpl_open_seal hc.aes128Gcm h
  · exact sealingImpl_open_seal hc.aes256Gcm h
  · exact sealingImpl_open_seal hc.chacha20Poly1305 h

theorem AeadAlg.init_ok (hc : c.AeadDocumented) (a : AeadAlg) {key : Bytes}
    (h : key.length = (a.aead c).keyLen) : ∃ k, (a.aead c).init key = .ok k := by
  rcases a with (_ | _ | _) | _
  · exact aeadImpl_init_ok hc.aes128Gcm h
  · exact aeadImpl_init_ok hc.aes256Gcm h
  · exact aeadImpl_init_ok hc.chacha20Poly1305 h
  · exact ⟨(), rfl⟩

/-- Every AEAD's key is short enough for any KDF to produce. -/
theorem AeadAlg.keyLen_le (c : Crates R) : ∀ a : AeadAlg, (a.aead c).keyLen ≤ 32
  | .sealing .aes128Gcm => (by decide : 16 ≤ 32)
  | .sealing .aes256Gcm => le_refl 32
  | .sealing .chaCha20Poly1305 => le_refl 32
  | .exportOnly => Nat.zero_le 32

theorem AeadAlg.nonceLen_le (c : Crates R) : ∀ a : AeadAlg, (a.aead c).nonceLen ≤ maxNonceLen
  | .sealing a => (a.sealing c).check.2
  | .exportOnly => Nat.zero_le _

/-- A ciphertext made under a key, a nonce and associated data opens only under the same ones, and
to the same plaintext. -/
def SealingAlg.Committing (c : Crates R) (a : SealingAlg) : Prop :=
  ∀ {key key' : Bytes} {k k' : (a.aead c).Cipher} {n n' aad aad' pt pt' ct : Bytes},
    (a.aead c).init key = .ok k → (a.aead c).init key' = .ok k' →
      (a.sealing c).seal k n aad pt = .ok ct → (a.sealing c).open k' n' aad' ct = .ok pt' →
        key = key' ∧ n = n' ∧ aad = aad' ∧ pt = pt'

end HpkeNg

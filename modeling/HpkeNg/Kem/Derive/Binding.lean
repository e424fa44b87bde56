import HpkeNg.Kem.Derive

/-!
# A derived private key binds its input

* `DhGroup.deriveCall`, `DhGroup.kept`: the expand a private key is taken from, and what is kept of
  it;
* `DhGroup.derive_cases`: how a derivation ends; `DhGroup.derive_fault`: its only error;
* `DhGroup.DeriveCollision`: the KDF calls of two derivations collide;
* `deriveKeyPair_binds`: equal private keys come from equal inputs, unless calls collide.
-/

namespace HpkeNg

variable {R : Type}

/-! ## The expand of a derivation -/

theorem nistCurve_derive {nsk : ℕ} {crate : CurveCrate R nsk} (hd : crate.Documented) {kdf : Kdf}
    (hF : kdf.Lawful) {id : UInt16} {nsecret : ℕ} {bitmask : UInt8} (hn : 0 < nsk)
    (hle : nsk ≤ 255 * kdf.hashLen) (ikm : Bytes) : let D := nistCurve crate kdf id nsecret bitmask
    (∃ counter out sk, kdf.run (labeledExpandCall
        (labeledExtract kdf [] (kemSuiteId id) (ascii "dkp_prk") ikm) (kemSuiteId id)
        (ascii "candidate") [counter] nsk) = .ok out ∧
      D.derive ikm = .ok (sk, D.skToPk sk) ∧ D.skToBytes sk = out.modify 0 (· &&& bitmask)) ∨
    D.derive ikm = throwErr .deriveKeyPairError := by
  intro D
  have hD : D.derive ikm = (do
      let bytes ← derivePCurveSk kdf id (nistSkFromBytes crate) ikm nsk bitmask
      let sk ← okOr .invalidPrivateKey (crate.fromSlice bytes)
      return (⟨sk⟩, makePk crate (crate.publicKey sk))) := rfl
  have hexp : ∀ counter : UInt8, ∃ out, labeledExpand kdf
      (labeledExtract kdf [] (kemSuiteId id) (ascii "dkp_prk") ikm) (kemSuiteId id)
      (ascii "candidate") [counter] nsk = .ok out ∧ out.length = nsk := by
    intro counter
    rw [hF.labeledExpand_run _ _ _ _ hle]
    exact hF.run_expand_ok _ _ _ (hF.length_labeledExtract _ _ _ _) hle
  have hp : ∀ b, nistSkFromBytes crate b ≠ .error .panic := nistSkFromBytes_ne_panic
  rcases @derivePCurveLoop_cases _ kdf (kemSuiteId id) (nistSkFromBytes crate) _ nsk bitmask hn hp
    hexp ((List.range 256).map UInt8.ofNat) with ⟨counter, out, sk, hout, hsk, hloop⟩ | hloop
  · obtain ⟨hl, hs⟩ := nistSkFromBytes_eq_ok.mp hsk
    rw [hF.labeledExpand_run _ _ _ _ hle] at hout
    refine Or.inl ⟨counter, out, sk, hout, ?_, hd.toBytes_fromSlice hl hs⟩
    exact hD.trans (bind_eq_ok.mpr ⟨_, hloop, bind_eq_ok.mpr ⟨sk.val, okOr_eq_ok.mpr hs, rfl⟩⟩)
  · refine Or.inr (hD.trans ?_)
    rw [derivePCurveSk, hloop]
    rfl

variable [CryptoRng R]

namespace DhGroup

/-- The label of the expand and its info. -/
def deriveInfo : DhGroup → (counter : UInt8) → Bytes × Bytes
  | .x25519, _ | .x448, _ => (ascii "sk", [])
  | _, counter => (ascii "candidate", [counter])

/-- `dkp_prk`, the key of every expand of a derivation. -/
def dkpPrk (c : Crates R) (g : DhGroup) (ikm : Bytes) : Bytes :=
  labeledExtract (g.dh c).kdf [] (suiteId (g.dh c)) (ascii "dkp_prk") ikm

/-- The expand a private key is taken from; only the prime-order groups count. -/
def deriveCall (c : Crates R) (g : DhGroup) (ikm : Bytes) (counter : UInt8) : KdfCall :=
  labeledExpandCall (g.dkpPrk c ikm) (suiteId (g.dh c))
  (g.deriveInfo counter).1 (g.deriveInfo counter).2
    (g.dh c).privateKeyLen

/-- What is kept of its output. -/
def kept : DhGroup → Bytes → Bytes
  | .x25519, out => overwrite out (KemAlg.dhKem .x25519).skBits
  | .x448, out => overwrite out (KemAlg.dhKem .x448).skBits
  | .p521, out => out.modify 0 (· &&& 0x01)
  | .p256, out | .p384, out | .k256, out => out.modify 0 (· &&& 0xFF)

/-- The KDF calls of two derivations collide: the extracts do, or two different expands agree on all
that is kept. -/
def DeriveCollision (c : Crates R) (g : DhGroup) (ikm ikm' : Bytes) : Prop :=
  let F := (g.dh c).kdf
  let S := suiteId (g.dh c)
  F.Collide (labeledExtractCall [] S (ascii "dkp_prk") ikm)
    (labeledExtractCall [] S (ascii "dkp_prk") ikm') ∨
    ∃ i i' out out', g.deriveCall c ikm i ≠ g.deriveCall c ikm' i' ∧
      F.run (g.deriveCall c ikm i) = .ok out ∧ F.run (g.deriveCall c ikm' i') = .ok out' ∧
      g.kept out = g.kept out'

variable {c : Crates R}

/-- A derivation returns what is kept of the output of one expand, or `DeriveKeyPairError`. -/
def DeriveEnds (c : Crates R) (g : DhGroup) (ikm : Bytes) : Prop :=
  (∃ i out sk, (g.dh c).kdf.run (g.deriveCall c ikm i) = .ok out ∧
      (g.dh c).derive ikm = .ok (sk, (g.dh c).skToPk sk) ∧ (g.dh c).skToBytes sk = g.kept out) ∨
    (g.dh c).derive ikm = throwErr .deriveKeyPairError

variable (hc : c.HkdfDocumented) (hd : c.CurvesDocumented)
include hc hd

theorem derive_cases (g : DhGroup) (ikm : Bytes) : g.DeriveEnds c ikm := by
  cases g with
  | p256 => exact nistCurve_derive hd.p256 (KdfAlg.lawful hc .hkdfSha256) (by decide) (by decide : 32 ≤ 255 * 32) ikm
  | p384 => exact nistCurve_derive hd.p384 (KdfAlg.lawful hc .hkdfSha384) (by decide) (by decide : 48 ≤ 255 * 48) ikm
  | p521 => exact nistCurve_derive hd.p521 (KdfAlg.lawful hc .hkdfSha512) (by decide) (by decide : 66 ≤ 255 * 64) ikm
  | k256 => exact nistCurve_derive hd.k256 (KdfAlg.lawful hc .hkdfSha256) (by decide) (by decide : 32 ≤ 255 * 32) ikm
  | x25519 =>
    obtain ⟨arr, -, hrun, hder⟩ := x25519_derive hc ikm
    refine Or.inl ⟨0, arr.1, _, hrun, hder, ?_⟩
    exact (congrArg Subtype.val (hd.x25519Dalek.toBytes_secretFrom _)).trans (clamp25519_val arr)
  | x448 =>
    obtain ⟨arr, -, hrun, hder⟩ := x448_derive hc ikm
    exact Or.inl ⟨0, arr.1, _, hrun, hder, clamp448_val arr⟩

theorem derive_fault {g : DhGroup} {ikm : Bytes} {f : Fault HpkeError}
    (h : (g.dh c).derive ikm = .error f) :
    f = .err .deriveKeyPairError := by
  rcases g.derive_cases hc hd ikm with ⟨i, out, sk, -, hok, -⟩ | herr
  · cases h.symm.trans hok
  · exact Except.error.inj (h.symm.trans herr)

/-- The bytes of a derived private key are what is kept of one expand. -/
theorem derive_kept {g : DhGroup} {ikm : Bytes} {sk : DhPrivateKey (g.dh c)} {pk}
    (h : (g.kem c).deriveKeyPair ikm = .ok (sk, pk)) : ∃ i out,
      (g.dh c).kdf.run (g.deriveCall c ikm i) = .ok out ∧
        (g.dh c).skToBytes sk.sk = g.kept out := by
  obtain ⟨⟨s, p⟩, hs, h⟩ := bind_eq_ok.mp h
  obtain ⟨rfl, -⟩ := Prod.mk.inj (Except.ok.inj h)
  rcases g.derive_cases hc hd ikm with ⟨i, out, s', hrun, hok, hkept⟩ | herr
  · obtain ⟨rfl, -⟩ := Prod.mk.inj (Except.ok.inj (hs.symm.trans hok))
    exact ⟨i, out, hrun, hkept⟩
  · cases hs.symm.trans herr

theorem derive_binds {g : DhGroup} {ikm ikm' : Bytes} {sk sk' : DhPrivateKey (g.dh c)} {pk pk'}
    (h : (g.kem c).deriveKeyPair ikm = .ok (sk, pk))
    (h' : (g.kem c).deriveKeyPair ikm' = .ok (sk', pk'))
    (he : (g.kem c).skToBytes sk = (g.kem c).skToBytes sk') :
    ikm = ikm' ∨ g.DeriveCollision c ikm ikm' := by
  obtain ⟨i, out, hrun, hkept⟩ := derive_kept hc hd h
  obtain ⟨i', out', hrun', hkept'⟩ := derive_kept hc hd h'
  by_cases hcall : g.deriveCall c ikm i = g.deriveCall c ikm' i'
  · -- one expand is from one pseudo-random key
    have hprk : g.dkpPrk c ikm = g.dkpPrk c ikm' := (KdfCall.expand.inj hcall).1
    rcases extract_binds (g.kdf_lawful hc) rfl hprk with ⟨-, -, hikm⟩ | hcol
    · exact Or.inl hikm
    · exact Or.inr (Or.inl hcol)
  · refine Or.inr (Or.inr ⟨i, i', out, out', hcall, hrun, hrun', ?_⟩)
    rw [← hkept, ← hkept']
    exact he

end DhGroup

/-! ## The post-quantum seeds -/

theorem PqAlg.derive_kept {c : Crates R} (hs : c.shake.Documented) {p : PqAlg} {ikm : Bytes} {sk pk}
    (h : (p.kem c).deriveKeyPair ikm = .ok (sk, pk)) :
    (p.kem c).skToBytes sk = (c.shake.shake256 (p.shakePieces ikm).flatten p.seedLen).1 := by
  rw [← hs]
  cases p with
  | xWingDraft06 =>
    have hk : (keypairFromSeed c.xWing _).1 = sk := congrArg Prod.fst (Except.ok.inj h)
    rw [← hk]
    rfl
  | mlKem768 =>
    have hk : (mlKemFromSeed c.mlKem768 _).1 = sk := congrArg Prod.fst (Except.ok.inj h)
    rw [← hk]
    rfl
  | mlKem1024 =>
    have hk : (mlKemFromSeed c.mlKem1024 _).1 = sk := congrArg Prod.fst (Except.ok.inj h)
    rw [← hk]
    rfl

/-- The SHAKE calls of two derivations collide: different inputs, and one output. -/
def PqAlg.DeriveCollision (c : Crates R) (p : PqAlg) (ikm : Bytes) (p' : PqAlg) (ikm' : Bytes) :
    Prop :=
  (p.shakePieces ikm).flatten ≠ (p'.shakePieces ikm').flatten ∧ p.seedLen = p'.seedLen ∧
    (c.shake.shake256 (p.shakePieces ikm).flatten p.seedLen).1 =
      (c.shake.shake256 (p'.shakePieces ikm').flatten p'.seedLen).1

theorem PqAlg.derive_binds {c : Crates R} (hs : c.shake.Documented) {p p' : PqAlg}
    {ikm ikm' : Bytes} {sk pk sk' pk'} (h : (p.kem c).deriveKeyPair ikm = .ok (sk, pk))
    (h' : (p'.kem c).deriveKeyPair ikm' = .ok (sk', pk'))
    (he : (p.kem c).skToBytes sk = (p'.kem c).skToBytes sk') :
    (p = p' ∧ ikm = ikm') ∨ p.DeriveCollision c ikm p' ikm' := by
  rw [derive_kept hs h, derive_kept hs h'] at he
  by_cases hm : (p.shakePieces ikm).flatten = (p'.shakePieces ikm').flatten
  · exact Or.inl (Prod.mk.inj (@shakePieces_injective (p, ikm) (p', ikm') hm))
  · refine Or.inr ⟨hm, ?_, he⟩
    have hl := congrArg List.length he
    rwa [(c.shake.shake256 _ _).2, (c.shake.shake256 _ _).2] at hl

/-- **A derived private key binds its input.** Two inputs from which a DHKEM derives private keys
with the same bytes are equal, or the KDF calls of the two derivations collide on what is kept of
them; for the post-quantum KEMs the KEM is bound as well, or the two SHAKE calls collide. -/
theorem deriveKeyPair_binds {c : Crates R} (hc : c.HkdfDocumented) (hd : c.CurvesDocumented)
    (hs : c.shake.Documented) :
    (∀ (g : DhGroup) {ikm ikm' sk pk sk' pk'}, (g.kem c).deriveKeyPair ikm = .ok (sk, pk) →
      (g.kem c).deriveKeyPair ikm' = .ok (sk', pk') →
        (g.kem c).skToBytes sk = (g.kem c).skToBytes sk' →
        ikm = ikm' ∨ g.DeriveCollision c ikm ikm') ∧
    ∀ (p p' : PqAlg) {ikm ikm' sk pk sk' pk'}, (p.kem c).deriveKeyPair ikm = .ok (sk, pk) →
      (p'.kem c).deriveKeyPair ikm' = .ok (sk', pk') →
        (p.kem c).skToBytes sk = (p'.kem c).skToBytes sk' →
        (p = p' ∧ ikm = ikm') ∨ p.DeriveCollision c ikm p' ikm' :=
  ⟨fun _ _ _ _ _ _ _ h h' he => DhGroup.derive_binds hc hd h h' he,
    fun _ _ _ _ _ _ _ _ h h' he => PqAlg.derive_binds hs h h' he⟩

/-- The small SHAKE collides on the empty input and these 32 bytes, and X-Wing with it. -/
theorem deriveKeyPair_binds_xWing :
    let K := PqAlg.xWingDraft06.kem Sample.crates
    let ikm : Bytes :=
      [195, 182, 118, 217, 235, 97, 202, 174, 196, 73, 220, 88, 114, 179, 41, 101, 15, 105, 117,
      96, 155, 174, 128, 168, 251, 251, 245, 177, 105, 219, 192, 2]
    ∃ sk pk sk' pk', K.deriveKeyPair [] = .ok (sk, pk) ∧ K.deriveKeyPair ikm = .ok (sk', pk') ∧
      PqAlg.xWingDraft06.DeriveCollision Sample.crates [] .xWingDraft06 ikm := by
  intro K ikm
  obtain ⟨⟨sk, pk⟩, h⟩ := PqAlg.deriveKeyPair_ok (c := Sample.crates) .xWingDraft06 []
  obtain ⟨⟨sk', pk'⟩, h'⟩ := PqAlg.deriveKeyPair_ok (c := Sample.crates) .xWingDraft06 ikm
  have he : (K.deriveKeyPair []).map (fun kp => K.skToBytes kp.1) =
      (K.deriveKeyPair ikm).map (fun kp => K.skToBytes kp.1) := by decide +kernel
  rw [h, h'] at he
  refine ⟨sk, pk, sk', pk', h, h', ?_⟩
  rcases (deriveKeyPair_binds Sample.hkdfDocumented Sample.curvesDocumented
    Sample.shake_documented).2 .xWingDraft06 .xWingDraft06 h h' (Except.ok.inj he) with
    ⟨-, hikm⟩ | hcol
  · exact absurd hikm (by decide)
  · exact hcol

end HpkeNg

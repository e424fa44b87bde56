import HpkeNg.Kem.Agreement
import HpkeNg.Kem.Failure
import HpkeNg.Kem.PrimeOrder.Derive
import HpkeNg.Separation

/-!
# Deriving key pairs, for the nine KEMs

* `Rfc9180.deriveSk`, `labeledDerive`: what RFC 9180 expands for the curves of RFC 7748, and the
  one-stage derivation of the post-quantum KEMs;
* `KemAlg.Standard`: the string that the standard of a KEM derives a private key from;
* `derivePCurveLoop_cases`: the two ways rejection sampling ends;
* `deriveKeyPair_standard`: the key pair is the one loaded from that string.
-/

namespace HpkeNg

variable {R : Type}

/-! ## The standards -/

/-- What `DeriveKeyPair(ikm)` expands for the curves of RFC 7748 (section 7.1.3). -/
def Rfc9180.deriveSk (F : Kdf) (kemId : UInt16) (nsk : ℕ) (ikm : Bytes) : Except Rejection Bytes :=
  let suiteId := ascii "KEM" ++ i2osp 2 kemId.toNat
  let dkpPrk := labeledExtract F suiteId [] (ascii "dkp_prk") ikm
  labeledExpand F suiteId dkpPrk (ascii "sk") [] nsk

/-- `LabeledDerive(ikm, label, context, L)` over a one-stage KDF. -/
def labeledDerive (hash : Bytes → (l : ℕ) → Arr l) (suiteId ikm label context : Bytes) (l : ℕ) :
    Arr l :=
  hash (ikm ++ ascii "HPKE-v1" ++ suiteId ++ (i2osp 2 label.length ++ label) ++ i2osp 2 l ++
    context) l

/-- SHAKE256 of one string. -/
def ShakeCrate.shake256 (s : ShakeCrate) (m : Bytes) (l : ℕ) : Arr l :=
  s.finalizeXofRead (s.update s.default m) l

/-- Updating with pieces absorbs their concatenation. -/
def ShakeCrate.Documented (s : ShakeCrate) : Prop := ∀ (pieces : List Bytes) l,
  s.finalizeXofRead (pieces.foldl s.update s.default) l = s.shake256 pieces.flatten l

namespace PrimeGroup

/-- The first candidate that is a scalar. -/
def FirstScalar (c : Crates R) (g : PrimeGroup) (ikm b : Bytes) : Prop :=
  ∃ i < 256, g.candidate c ikm i = .ok b ∧ Rfc9180.IsScalar g.order b ∧
    ∀ j < i, ∃ b', g.candidate c ikm j = .ok b' ∧ ¬ Rfc9180.IsScalar g.order b'

/-- No candidate is a scalar. -/
def NoScalar (c : Crates R) (g : PrimeGroup) (ikm : Bytes) : Prop :=
  ∀ i < 256, ∃ b, g.candidate c ikm i = .ok b ∧ ¬ Rfc9180.IsScalar g.order b

end PrimeGroup

variable {c : Crates R}

/-! ## Rejection sampling -/

section Loop

variable {SK : Type} {kdf : Kdf} {suite : Bytes} {skFromBytes : Bytes → Outcome SK} {dkpPrk : Bytes}
  {nsk : ℕ} {bitmask : UInt8}

/-- The loop ends with a candidate that was accepted, or with its own error. -/
theorem derivePCurveLoop_cases (hn : 0 < nsk) (hp : ∀ b, skFromBytes b ≠ .error .panic)
    (hexp : ∀ counter, ∃ out,
      labeledExpand kdf dkpPrk suite (ascii "candidate") [counter] nsk = .ok out ∧
      out.length = nsk) (counters : List UInt8) :
    (∃ counter out sk, labeledExpand kdf dkpPrk suite (ascii "candidate") [counter] nsk = .ok out ∧
      skFromBytes (out.modify 0 (· &&& bitmask)) = .ok sk ∧
      derivePCurveLoop kdf suite skFromBytes dkpPrk nsk bitmask counters =
        .ok (out.modify 0 (· &&& bitmask))) ∨
    derivePCurveLoop kdf suite skFromBytes dkpPrk nsk bitmask counters =
      throwErr .deriveKeyPairError := by
  induction counters with
  | nil => exact Or.inr rfl
  | cons counter counters ih =>
    obtain ⟨out, hout, hl⟩ := hexp counter
    have hm : (modifyAt out 0 (· &&& bitmask) : Outcome Bytes) =
        .ok (out.modify 0 (· &&& bitmask)) := by
      rw [modifyAt, if_pos (by omega)]
    simp only [derivePCurveLoop, hout, ok_bind, hm]
    cases hsk : skFromBytes (out.modify 0 (· &&& bitmask)) with
    | ok sk => exact Or.inl ⟨counter, out, sk, hout, hsk, rfl⟩
    | error f =>
      cases f with
      | panic => exact absurd hsk (hp _)
      | err e => exact ih

end Loop

theorem nistSkFromBytes_ne_panic {nsk : ℕ} {crate : CurveCrate R nsk} (b : Bytes) :
    nistSkFromBytes crate b ≠ .error .panic := by
  unfold nistSkFromBytes
  by_cases hb : b.length = nsk
  · rw [if_neg (not_not.mpr hb)]
    cases crate.fromSlice b with
    | none => rintro ⟨⟩
    | some s => rintro ⟨⟩
  · rw [if_pos hb]
    rintro ⟨⟩

/-- The key pair of a prime-order group is loaded from the first scalar. -/
theorem PrimeGroup.derives_standard (hc : c.HkdfDocumented) (g : PrimeGroup)
    (hs : (g.crate c).Scalars g.order) (ikm : Bytes) :
    (∃ b sk, g.FirstScalar c ikm b ∧ (dhKem (g.dh c)).skFromBytes b = .ok sk ∧
      (dhKem (g.dh c)).deriveKeyPair ikm =
        .ok (sk, DhPublicKey.mk ((g.dh c).skToPk (DhPrivateKey.sk sk)))) ∨
    (g.NoScalar c ikm ∧ (dhKem (g.dh c)).deriveKeyPair ikm = throwErr .deriveKeyPairError) := by
  obtain ⟨cand, hcand, hb⟩ := g.derivePCurveSk_eq hc hs ikm
  have hD : (g.dh c).derive ikm = (do
      let bytes ← derivePCurveSk (g.kdfAlg.kdf c) g.id (nistSkFromBytes (g.crate c))
        ikm g.nsk g.bitmask
      let sk ← okOr .invalidPrivateKey ((g.crate c).fromSlice bytes)
      return (⟨sk⟩, makePk (g.crate c) ((g.crate c).publicKey sk))) := rfl
  have hK : (dhKem (g.dh c)).deriveKeyPair ikm = (do
      let (sk, pk) ← (g.dh c).derive ikm
      return (DhPrivateKey.fromPair (g.dh c) sk pk, ⟨pk⟩)) := rfl
  rw [hK, hD, hb]
  cases hf : (List.range 256).find? fun i => Rfc9180.IsScalar g.order (cand i) with
  | none =>
    refine Or.inr ⟨fun i hi => ⟨cand i, (hcand i).1, ?_⟩, rfl⟩
    have hnone : ∀ i < 256, ¬ Rfc9180.IsScalar g.order (cand i) := by
      simpa only [List.find?_range_eq_none, Bool.not_eq_true', decide_eq_false_iff_not] using hf
    exact hnone i hi
  | some i =>
    obtain ⟨hp, hi, hleast⟩ : Rfc9180.IsScalar g.order (cand i) ∧ i < 256 ∧
        ∀ j < i, ¬ Rfc9180.IsScalar g.order (cand j) := by
      simpa only [List.find?_range_eq_some, List.mem_range, Bool.not_eq_true',
        decide_eq_false_iff_not, decide_eq_true_eq] using hf
    obtain ⟨s, hsome⟩ := Option.isSome_iff_exists.mp ((hs.fromSlice_isSome (hcand i).2).mpr hp)
    refine Or.inl ⟨cand i, DhPrivateKey.fromSk (g.dh c) ⟨s⟩, ?_, ?_, ?_⟩
    · exact ⟨i, hi, (hcand i).1, hp, fun j hj => ⟨cand j, (hcand j).1, hleast j hj⟩⟩
    · exact bind_eq_ok.mpr ⟨_, nistSkFromBytes_eq_ok.mpr ⟨(hcand i).2, hsome⟩, rfl⟩
    · simp only [Option.map_some, okOr_some, ok_bind, hsome, pure_eq_ok]
      rfl

/-! ## One expand -/

section Single

theorem Kdf.Lawful.labeledExpand_run {F : Kdf} (hF : F.Lawful) (prk suiteId label info : Bytes)
    {n : ℕ} (hn : n ≤ 255 * F.hashLen) :
    labeledExpand F prk suiteId label info n =
      F.run (labeledExpandCall prk suiteId label info n) := by
  rw [labeledExpand_eq_pieces, hF.labeledExpandPieces_run _ _ _ hn (by simp [maxExpandPieces]),
    List.flatten_singleton]

theorem Rfc9180.deriveSk_ok {F : Kdf} (hF : F.Lawful) (kemId : UInt16) (ikm : Bytes) {nsk : ℕ}
    (hn : nsk ≤ 255 * F.hashLen) : ∃ arr : Arr nsk, Rfc9180.deriveSk F kemId nsk ikm = .ok arr.1 ∧
      HpkeNg.labeledExpand F (HpkeNg.labeledExtract F [] (kemSuiteId kemId) (ascii "dkp_prk") ikm)
        (kemSuiteId kemId) (ascii "sk") [] nsk = .ok arr.1 := by
  obtain ⟨out, h, hl⟩ := hF.run_expand_ok (kemSuiteId kemId) (ascii "sk") []
    (hF.length_labeledExtract [] (kemSuiteId kemId) (ascii "dkp_prk") ikm) hn
  have hsuite : ascii "KEM" ++ i2osp 2 kemId.toNat = kemSuiteId kemId := rfl
  refine ⟨⟨out, hl⟩, ?_, (hF.labeledExpand_run _ _ _ _ hn).trans h⟩
  simp only [deriveSk, hsuite, labeledExtract_eq _ hF, labeledExpand_eq, h]
  rfl

end Single

variable [CryptoRng R]

/-- The string that the standard derives from `ikm`: by rejection sampling, by one expand, or by one
call of SHAKE256. -/
def KemAlg.Standard (c : Crates R) : KemAlg → (ikm b : Bytes) → Prop
  | .dhKem .p256, ikm, b => PrimeGroup.p256.FirstScalar c ikm b
  | .dhKem .p384, ikm, b => PrimeGroup.p384.FirstScalar c ikm b
  | .dhKem .p521, ikm, b => PrimeGroup.p521.FirstScalar c ikm b
  | .dhKem .k256, ikm, b => PrimeGroup.k256.FirstScalar c ikm b
  | .dhKem .x25519, ikm, b => Rfc9180.deriveSk (hkdfSha256 c) 0x0020 32 ikm = .ok b
  | .dhKem .x448, ikm, b => Rfc9180.deriveSk (hkdfSha512 c) 0x0021 56 ikm = .ok b
  | .pq p, ikm, b =>
    b = (labeledDerive c.shake.shake256 (kemSuiteId p.id) ikm (ascii "DeriveKeyPair") []
      p.seedLen).1

section Rfc7748

variable (hc : c.HkdfDocumented) (ikm : Bytes)
include hc

theorem x25519_derive :
    ∃ arr : Arr 32, let sk : X25519PrivateKey _ := ⟨c.x25519Dalek.secretFrom (clamp25519 arr)⟩
    Rfc9180.deriveSk (hkdfSha256 c) 0x0020 32 ikm = .ok arr.1 ∧
      (hkdfSha256 c).run (labeledExpandCall
        (labeledExtract (hkdfSha256 c) [] (kemSuiteId 0x0020) (ascii "dkp_prk")
        ikm) (kemSuiteId 0x0020) (ascii "sk") [] 32) = .ok arr.1 ∧
      (x25519 c).derive ikm = .ok (sk, (x25519 c).skToPk sk) := by
  have hn : 32 ≤ 255 * (hkdfSha256 c).hashLen := (by decide : 32 ≤ 255 * 32)
  obtain ⟨arr, h, hx⟩ := Rfc9180.deriveSk_ok (KdfAlg.lawful hc .hkdfSha256) 0x0020 ikm hn
  refine ⟨arr, h, ?_, ?_⟩
  · exact ((KdfAlg.lawful hc .hkdfSha256).labeledExpand_run _ _ _ _ hn).symm.trans hx
  · exact bind_eq_ok.mpr ⟨arr.1, hx, bind_eq_ok.mpr ⟨arr, copyFromSlice_all _ arr, rfl⟩⟩

theorem x448_derive : ∃ arr : Arr 56, let sk : X448PrivateKey := ⟨clamp448 arr⟩
    Rfc9180.deriveSk (hkdfSha512 c) 0x0021 56 ikm = .ok arr.1 ∧
      (hkdfSha512 c).run (labeledExpandCall
        (labeledExtract (hkdfSha512 c) [] (kemSuiteId 0x0021) (ascii "dkp_prk")
        ikm) (kemSuiteId 0x0021) (ascii "sk") [] 56) = .ok arr.1 ∧
      (x448 c).derive ikm = .ok (sk, (x448 c).skToPk sk) := by
  have hn : 56 ≤ 255 * (hkdfSha512 c).hashLen := (by decide : 56 ≤ 255 * 64)
  obtain ⟨arr, h, hx⟩ := Rfc9180.deriveSk_ok (KdfAlg.lawful hc .hkdfSha512) 0x0021 ikm hn
  refine ⟨arr, h, ?_, ?_⟩
  · exact ((KdfAlg.lawful hc .hkdfSha512).labeledExpand_run _ _ _ _ hn).symm.trans hx
  · exact bind_eq_ok.mpr ⟨arr.1, hx, bind_eq_ok.mpr ⟨arr, copyFromSlice_all _ arr, rfl⟩⟩

theorem x25519_derives_standard :
    ∃ b sk, (KemAlg.dhKem .x25519).Standard c ikm b ∧
      (DhGroup.x25519.kem c).skFromBytes b = .ok sk ∧
      (DhGroup.x25519.kem c).deriveKeyPair ikm =
        .ok (sk, (KemAlg.dhKem .x25519).publicKey c sk) := by
  obtain ⟨arr, h, -, hder⟩ := x25519_derive hc ikm
  refine ⟨arr.1, DhPrivateKey.fromSk (x25519 c) ⟨c.x25519Dalek.secretFrom (clamp25519 arr)⟩, h, ?_,
    ?_⟩
  · exact bind_eq_ok.mpr ⟨_, x25519SkFromBytes_eq_ok.mpr ⟨arr, rfl, rfl⟩, rfl⟩
  · exact bind_eq_ok.mpr ⟨_, hder, rfl⟩

theorem x448_derives_standard :
    ∃ b sk, (KemAlg.dhKem .x448).Standard c ikm b ∧ (DhGroup.x448.kem c).skFromBytes b = .ok sk ∧
      (DhGroup.x448.kem c).deriveKeyPair ikm = .ok (sk, (KemAlg.dhKem .x448).publicKey c sk) := by
  obtain ⟨arr, h, -, hder⟩ := x448_derive hc ikm
  refine ⟨arr.1, DhPrivateKey.fromSk (x448 c) ⟨clamp448 arr⟩, h, ?_, ?_⟩
  · exact bind_eq_ok.mpr ⟨_, x448SkFromBytes_eq_ok.mpr ⟨arr, rfl, rfl⟩, rfl⟩
  · exact bind_eq_ok.mpr ⟨_, hder, rfl⟩

end Rfc7748

/-! ## SHAKE256 -/

theorem shake256LabeledDerive_eq {shake : ShakeCrate} (hs : shake.Documented) (suiteId ikm : Bytes)
    {n : ℕ} (hn : n < 65536) : shake256LabeledDerive shake suiteId deriveKeyPairLabel ikm n =
      .ok (labeledDerive shake.shake256 suiteId ikm (ascii "DeriveKeyPair") [] n) := by
  have hl : deriveKeyPairLabel.length < 65536 := by decide
  have hbe : ∀ {m : ℕ}, m < 65536 → be16 (UInt16.ofNat m) = i2osp 2 m := by
    intro m hm
    rw [be16, UInt16.toNat_ofNat', Nat.mod_eq_of_lt hm]
  rw [shake256LabeledDerive, tryIntoU16_of_lt hl, tryIntoU16_of_lt hn]
  refine congrArg Except.ok ((hs _ n).trans ?_)
  rw [hbe hl, hbe hn, labeledDerive]
  simp [deriveKeyPairLabel, hpkeV1]

theorem PqAlg.derives_standard (hs : c.shake.Documented) (p : PqAlg) (ikm : Bytes) :
    ∃ b sk, (KemAlg.pq p).Standard c ikm b ∧ (p.kem c).skFromBytes b = .ok sk ∧
      (p.kem c).deriveKeyPair ikm = .ok (sk, (KemAlg.pq p).publicKey c sk) := by
  cases p with
  | xWingDraft06 =>
    exact ⟨_, _, rfl, xWingSkFromBytes_eq_ok.mpr ⟨_, rfl, rfl⟩,
      bind_eq_ok.mpr ⟨_, shake256LabeledDerive_eq hs _ ikm (by decide : 32 < 65536), rfl⟩⟩
  | mlKem768 =>
    exact ⟨_, _, rfl, mlKemSkFromBytes_eq_ok.mpr ⟨_, rfl, rfl⟩,
      bind_eq_ok.mpr ⟨_, shake256LabeledDerive_eq hs _ ikm (by decide : 64 < 65536), rfl⟩⟩
  | mlKem1024 =>
    exact ⟨_, _, rfl, mlKemSkFromBytes_eq_ok.mpr ⟨_, rfl, rfl⟩,
      bind_eq_ok.mpr ⟨_, shake256LabeledDerive_eq hs _ ikm (by decide : 64 < 65536), rfl⟩⟩

/-! ## All of them -/

/-- **Every KEM derives the key pair of its standard.** The private key is the one loaded from the
string that RFC 9180, or the post-quantum draft, derives from `ikm`, and the public key is that of
the private key; deriving fails only in a prime-order group none of whose 256 candidates is a
scalar. -/
theorem deriveKeyPair_standard (hc : c.HkdfDocumented) (hs : c.shake.Documented) (k : KemAlg)
    (hk : ∀ g : PrimeGroup, k = .dhKem g.group → (g.crate c).Scalars g.order) (ikm : Bytes) :
    (∃ b sk, k.Standard c ikm b ∧ (k.kem c).skFromBytes b = .ok sk ∧
      (k.kem c).deriveKeyPair ikm = .ok (sk, k.publicKey c sk)) ∨
    ∃ g : PrimeGroup, k = .dhKem g.group ∧ g.NoScalar c ikm ∧
      (k.kem c).deriveKeyPair ikm = throwErr .deriveKeyPairError := by
  rcases k with (_ | _ | _ | _ | _ | _) | p
  · exact (PrimeGroup.derives_standard hc .p256 (hk .p256 rfl) ikm).imp_right fun h =>
      ⟨.p256, rfl, h⟩
  · exact (PrimeGroup.derives_standard hc .p384 (hk .p384 rfl) ikm).imp_right fun h =>
      ⟨.p384, rfl, h⟩
  · exact (PrimeGroup.derives_standard hc .p521 (hk .p521 rfl) ikm).imp_right fun h =>
      ⟨.p521, rfl, h⟩
  · exact (PrimeGroup.derives_standard hc .k256 (hk .k256 rfl) ikm).imp_right fun h =>
      ⟨.k256, rfl, h⟩
  · exact Or.inl (x25519_derives_standard hc ikm)
  · exact Or.inl (x448_derives_standard hc ikm)
  · exact Or.inl (p.derives_standard hs ikm)

theorem Sample.shake_documented : Sample.shake.Documented := by
  have h : ∀ (pieces : List Bytes) (st : Bytes),
      pieces.foldl (· ++ ·) st = st ++ pieces.flatten := by
    intro pieces
    induction pieces with
    | nil => exact fun st => (List.append_nil st).symm
    | cons b pieces ih =>
      intro st
      rw [List.foldl_cons, ih, List.flatten_cons, List.append_assoc]
  intro pieces l
  exact congrArg (fun st => Sample.shake.finalizeXofRead st l) (h pieces [])

/-- With P-256, the input `01` derives a key pair. -/
theorem deriveKeyPair_standard_p256 :
    let K := (KemAlg.dhKem .p256).kem Sample.crates256
    ∃ b sk, PrimeGroup.p256.FirstScalar Sample.crates256 [1] b ∧ K.skFromBytes b = .ok sk ∧
      K.deriveKeyPair [1] = .ok (sk, (KemAlg.dhKem .p256).publicKey Sample.crates256 sk) := by
  intro K
  have hk : ∀ g : PrimeGroup, KemAlg.dhKem .p256 = .dhKem g.group →
      (g.crate Sample.crates256).Scalars g.order := by
    rintro (_ | _ | _ | _) h
    · exact Sample.P256.scalars
    all_goals cases h
  have hok : (K.deriveKeyPair [1]).isOk = true := by decide +kernel
  rcases deriveKeyPair_standard Sample.hkdfDocumented256 Sample.shake_documented (.dhKem .p256)
    hk [1] with h | h
  · exact h
  · obtain ⟨g, -, -, h⟩ := h
    have hno : (K.deriveKeyPair [1]).isOk = false := congrArg Except.isOk h
    exact absurd (hok.symm.trans hno) Bool.noConfusion

end HpkeNg

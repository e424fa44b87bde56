import HpkeNg.Kem.PrimeOrder
import HpkeNg.Rfc9180
import HpkeNg.Sample.P256

/-!
# Deriving key pairs of the prime-order groups

* `derivePCurveLoop_eq`: the loop returns the first candidate that the parser accepts;
* `PrimeGroup.derivePCurveSk_eq`: it tries what RFC 9180 tries;
* `deriveKeyPair_rejection`: the key pair is that of the least counter whose candidate is a scalar,
  and the only error is the one when there is none.
-/

namespace HpkeNg

variable {R : Type}

/-! ## The loop -/

section Loop

variable {SK : Type} {kdf : Kdf} {suite : Bytes} {skFromBytes : Bytes → Outcome SK} {dkpPrk : Bytes}
  {nsk : ℕ} {bitmask : UInt8}

/-- **The loop returns the first candidate that is accepted**, and the error when none is. -/
theorem derivePCurveLoop_eq {cand : UInt8 → Bytes} {p : Bytes → Prop} [DecidablePred p]
    (hn : 0 < nsk)
    (hcand : ∀ counter, ∃ bytes,
      labeledExpand kdf dkpPrk suite (ascii "candidate") [counter] nsk = .ok bytes ∧
      bytes.length = nsk ∧ cand counter = bytes.modify 0 (· &&& bitmask))
    (hacc : ∀ b, b.length = nsk → p b → ∃ sk, skFromBytes b = .ok sk)
    (hrej : ∀ b, b.length = nsk → ¬ p b → Fails (skFromBytes b)) (counters : List UInt8) :
    derivePCurveLoop kdf suite skFromBytes dkpPrk nsk bitmask counters =
      okOr .deriveKeyPairError ((counters.find? fun counter => p (cand counter)).map cand) := by
  induction counters with
  | nil => rfl
  | cons counter counters ih =>
    obtain ⟨bytes, hb, hl, hc⟩ := hcand counter
    have hlc : (cand counter).length = nsk := by rw [hc, List.length_modify, hl]
    have hm : (modifyAt bytes 0 (· &&& bitmask) : Outcome Bytes) = .ok (cand counter) := by
      rw [modifyAt, if_pos (by omega), hc]
    simp only [derivePCurveLoop, hb, ok_bind, hm]
    by_cases h : p (cand counter)
    · obtain ⟨sk, hsk⟩ := hacc _ hlc h
      rw [hsk, List.find?_cons_of_pos (by simpa using h)]
      rfl
    · obtain ⟨e, he⟩ := hrej _ hlc h
      rw [he, List.find?_cons_of_neg (by simpa using h)]
      exact ih

end Loop

/-! ## The candidates -/

namespace PrimeGroup

variable {c : Crates R} (g : PrimeGroup)

/-- What RFC 9180 tries for one counter. -/
def candidate (c : Crates R) (ikm : Bytes) (counter : ℕ) : Except Rfc9180.Rejection Bytes :=
  Rfc9180.candidate (g.kdfAlg.kdf c) g.id g.nsk g.bitmask ikm counter

theorem nsk_le (c : Crates R) : g.nsk ≤ 255 * (g.kdfAlg.kdf c).hashLen := by
  cases g
  · exact (by decide : 32 ≤ 255 * 32)
  · exact (by decide : 48 ≤ 255 * 48)
  · exact (by decide : 66 ≤ 255 * 64)
  · exact (by decide : 32 ≤ 255 * 32)

theorem skFromBytes_scalar (hs : (g.crate c).Scalars g.order) {b : Bytes} (hb : b.length = g.nsk) :
    (Rfc9180.IsScalar g.order b → ∃ sk, nistSkFromBytes (g.crate c) b = .ok sk) ∧
      (¬ Rfc9180.IsScalar g.order b → Fails (nistSkFromBytes (g.crate c) b)) := by
  have h := hs.fromSlice_isSome hb
  unfold nistSkFromBytes
  rw [if_neg (not_not.mpr hb)]
  constructor
  · intro hp
    obtain ⟨s, hs⟩ := Option.isSome_iff_exists.mp (h.mpr hp)
    exact ⟨⟨s⟩, by rw [hs]; rfl⟩
  · intro hp
    rw [Option.not_isSome_iff_eq_none.mp fun hsome => hp (h.mp hsome)]
    exact ⟨_, rfl⟩

theorem derivePCurveSk_eq (hc : c.HkdfDocumented) (hs : (g.crate c).Scalars g.order) (ikm : Bytes) :
    ∃ cand : ℕ → Bytes, (∀ i, g.candidate c ikm i = .ok (cand i) ∧ (cand i).length = g.nsk) ∧
      derivePCurveSk (g.kdfAlg.kdf c) g.id (nistSkFromBytes (g.crate c)) ikm g.nsk g.bitmask =
        okOr .deriveKeyPairError
          (((List.range 256).find? fun i => Rfc9180.IsScalar g.order (cand i)).map cand) := by
  have hF := KdfAlg.lawful hc g.kdfAlg
  let prk := labeledExtract (g.kdfAlg.kdf c) [] (kemSuiteId g.id) (ascii "dkp_prk") ikm
  have hrun : ∀ counter : UInt8, ∃ bytes, (g.kdfAlg.kdf c).run
      (labeledExpandCall prk (kemSuiteId g.id) (ascii "candidate") [counter] g.nsk) = .ok bytes ∧
      bytes.length = g.nsk := fun counter =>
    hF.run_expand_ok _ _ _ (hF.length_labeledExtract _ _ _ _) (g.nsk_le c)
  choose out hout hlen using hrun
  let cand : UInt8 → Bytes := fun counter => (out counter).modify 0 (· &&& g.bitmask)
  refine ⟨fun i => cand (UInt8.ofNat i), fun i => ⟨?_, ?_⟩, ?_⟩
  · have hsuite : ascii "KEM" ++ i2osp 2 g.id.toNat = kemSuiteId g.id := rfl
    have hi : i2osp 1 i = [UInt8.ofNat i] := rfl
    simp only [candidate, Rfc9180.candidate, hsuite, hi, Rfc9180.labeledExtract_eq _ hF,
      Rfc9180.labeledExpand_eq]
    rw [hout]
    rfl
  · rw [List.length_modify, hlen]
  · have hcand : ∀ counter, ∃ bytes, labeledExpand (g.kdfAlg.kdf c) prk (kemSuiteId g.id)
        (ascii "candidate") [counter] g.nsk = .ok bytes ∧ bytes.length = g.nsk ∧
        cand counter = bytes.modify 0 (· &&& g.bitmask) := by
      intro counter
      refine ⟨out counter, ?_, hlen counter, rfl⟩
      rw [labeledExpand_eq_pieces,
        hF.labeledExpandPieces_run _ _ _ (g.nsk_le c) (by simp [maxExpandPieces]),
        List.flatten_singleton, hout]
    refine (derivePCurveLoop_eq g.nsk_pos hcand (fun b hb => (g.skFromBytes_scalar hs hb).1)
      (fun b hb => (g.skFromBytes_scalar hs hb).2) _).trans ?_
    rw [List.find?_map, Option.map_map]
    rfl

end PrimeGroup

/-! ## The key pair -/

/-- **Deriving a key pair is RFC 9180's rejection sampling.** Every candidate exists; the key pair
is that of the least counter below 256 whose candidate is a scalar; `DeriveKeyPairError` says that
there is none, and is the only way to fail. -/
theorem deriveKeyPair_rejection {c : Crates R} (hc : c.HkdfDocumented) (g : PrimeGroup)
    (hd : (g.crate c).Documented) (hs : (g.crate c).Scalars g.order) (ikm : Bytes) :
    ∃ cand : ℕ → Bytes, (∀ i, g.candidate c ikm i = .ok (cand i)) ∧
      (∀ (sk : DhPrivateKey (g.dh c)) (pk : DhPublicKey (g.dh c)),
        (dhKem (g.dh c)).deriveKeyPair ikm = .ok (sk, pk) ↔
          (∃ i < 256, (g.dh c).skToBytes sk.sk = cand i ∧ Rfc9180.IsScalar g.order (cand i) ∧
            ∀ j < i, ¬ Rfc9180.IsScalar g.order (cand j)) ∧
          sk = DhPrivateKey.fromSk (g.dh c) sk.sk ∧ pk = ⟨(g.dh c).skToPk sk.sk⟩) ∧
      ((dhKem (g.dh c)).deriveKeyPair ikm = throwErr .deriveKeyPairError ↔
        ∀ i < 256, ¬ Rfc9180.IsScalar g.order (cand i)) ∧
      ∀ f, (dhKem (g.dh c)).deriveKeyPair ikm = .error f → f = .err .deriveKeyPairError := by
  obtain ⟨cand, hcand, hb⟩ := g.derivePCurveSk_eq hc hs ikm
  refine ⟨cand, fun i => (hcand i).1, ?_⟩
  have hD : (g.dh c).derive ikm = (do
      let bytes ← derivePCurveSk (g.kdfAlg.kdf c) g.id (nistSkFromBytes (g.crate c))
        ikm g.nsk g.bitmask
      let sk ← okOr .invalidPrivateKey ((g.crate c).fromSlice bytes)
      return (⟨sk⟩, makePk (g.crate c) ((g.crate c).publicKey sk))) := rfl
  have hK : (dhKem (g.dh c)).deriveKeyPair ikm = (do
      let (sk, pk) ← (g.dh c).derive ikm
      return (DhPrivateKey.fromPair (g.dh c) sk pk, ⟨pk⟩)) := rfl
  rw [hK, hD, hb]
  cases hf : (List.range 256).find? fun i => Rfc9180.IsScalar g.order (cand i) with
  | none =>
    have hnone : ∀ i < 256, ¬ Rfc9180.IsScalar g.order (cand i) := by
      simpa only [List.find?_range_eq_none, Bool.not_eq_true', decide_eq_false_iff_not] using hf
    refine ⟨fun sk pk => ⟨fun h => ?_, fun h => ?_⟩, iff_of_true rfl hnone, fun f h => ?_⟩
    · cases h
    · obtain ⟨⟨i, hi, -, hp, -⟩, -⟩ := h
      exact absurd hp (hnone i hi)
    · exact (Except.error.inj h).symm
  | some i =>
    obtain ⟨hp, hi, hleast⟩ : Rfc9180.IsScalar g.order (cand i) ∧ i < 256 ∧
        ∀ j < i, ¬ Rfc9180.IsScalar g.order (cand j) := by
      simpa only [List.find?_range_eq_some, List.mem_range, Bool.not_eq_true',
        decide_eq_false_iff_not, decide_eq_true_eq] using hf
    obtain ⟨s, hsome⟩ := Option.isSome_iff_exists.mp ((hs.fromSlice_isSome (hcand i).2).mpr hp)
    simp only [Option.map_some, okOr_some, ok_bind, hsome, pure_eq_ok]
    refine ⟨fun sk pk => ⟨fun h => ?_, fun h => ?_⟩, iff_of_false (by rintro ⟨⟩) fun h => h i hi hp,
      ?_⟩
    · obtain ⟨rfl, rfl⟩ := Prod.mk.inj (Except.ok.inj h)
      exact ⟨⟨i, hi, hd.toBytes_fromSlice (hcand i).2 hsome, hp, hleast⟩, rfl, rfl⟩
    · obtain ⟨⟨j, hj, hsk, hpj, hlj⟩, h1, h2⟩ := h
      -- the least counter is unique, and the scalar is read back from its bytes
      obtain rfl : i = j := by
        rcases Nat.lt_trichotomy i j with hij | hij | hij
        · exact absurd hp (hlj i hij)
        · exact hij
        · exact absurd hpj (hleast j hij)
      have hval : (g.crate c).fromSlice (cand i) = some (NistPrivateKey.val sk.sk) := by
        rw [← hsk]
        exact hd.fromSlice_toBytes _
      obtain rfl : s = NistPrivateKey.val sk.sk := Option.some.inj (hsome.symm.trans hval)
      rw [h1, h2]
      rfl
    · rintro f ⟨⟩

/-- With P-256, the first candidate of the input `01` is a scalar. -/
theorem deriveKeyPair_rejection_p256 :
    let D := PrimeGroup.p256.dh Sample.crates256
    ∃ sk pk, (dhKem D).deriveKeyPair [1] = .ok (sk, pk) ∧
      PrimeGroup.p256.candidate Sample.crates256 [1] 0 =
        .ok (D.skToBytes (DhPrivateKey.sk sk)) := by
  intro D
  obtain ⟨cand, hcand, hok, -⟩ := deriveKeyPair_rejection Sample.hkdfDocumented256 .p256
    Sample.P256.documented Sample.P256.scalars [1]
  have hv : ((PrimeGroup.p256.candidate Sample.crates256 [1] 0).toOption.map fun b =>
      decide (b.length = 32 ∧ 0 < os2ip b ∧ os2ip b < Sample.P256.n)) = some true := by
        decide +kernel
  rw [hcand 0] at hv
  have h0 := of_decide_eq_true (Option.some.inj hv)
  let s : NistPrivateKey Sample.P256.crate := ⟨⟨_, h0.2⟩⟩
  have hs : D.skToBytes s = cand 0 := i2osp_os2ip h0.1
  have hp : Rfc9180.IsScalar PrimeGroup.p256.order (cand 0) := Sample.P256.order_eq ▸ h0.2
  refine ⟨DhPrivateKey.fromSk D s, ⟨D.skToPk s⟩, ?_, (hcand 0).trans (congrArg Except.ok hs.symm)⟩
  exact (hok _ _).mpr ⟨⟨0, by decide, hs, hp, fun j hj => absurd hj (Nat.not_lt_zero j)⟩, rfl, rfl⟩

end HpkeNg

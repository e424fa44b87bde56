import HpkeNg.Kem.All
import HpkeNg.KeySchedule
import HpkeNg.Rfc9180
import HpkeNg.Sample

/-!
# The key schedule computes RFC 9180's

* `ScheduleCall.run_reference`: a call of either body returns the context of the RFC's
  `KeySchedule`;
* `Psk.new_reference`: `Psk::new` is `VerifyPSKInputs` for the PSK modes and a length check;
* `keySchedule_reference`: both together, for every suite of the crate.
-/

namespace HpkeNg

variable {R : Type} {K : Kem R} {F : Kdf} {A : Aead}

/-- The context as the RFC has it. -/
def Context.toRfc (ctx : Context K F A) : Rfc9180.Context where
  key := ctx.rawKey
  baseNonce := ctx.baseNonce.1.take A.nonceLen
  seq := ctx.seq.toNat
  exporterSecret := ctx.exporterSecret

/-- The RFC's mode. -/
def PskFreeMode.toRfc : PskFreeMode → Rfc9180.Mode
  | .base => .base
  | .auth => .auth

/-- The RFC's mode. -/
def PskMode.toRfc : PskMode → Rfc9180.Mode
  | .psk => .psk
  | .authPsk => .authPsk

/-! ## The key schedule -/

namespace ScheduleCall

/-- The RFC's mode. -/
def toRfc : ScheduleCall → Rfc9180.Mode
  | .pskFree M _ _ => M.toRfc
  | .psk M _ _ _ => M.toRfc

theorem modeByte_toRfc (s : ScheduleCall) : s.toRfc.byte = s.modeByte := by
  rcases s with ⟨M, _, _⟩ | ⟨M, _, _, _⟩ <;> cases M <;> rfl

/-- A call never meets the RFC's PSK checks: the types rule the bad inputs out. -/
theorem verifyPskInputs_ok (s : ScheduleCall) :
    Rfc9180.verifyPskInputs s.toRfc s.pskSecret s.pskId = .ok () := by
  rcases s with ⟨M, ss, info⟩ | ⟨M, ss, info, p⟩
  · cases M <;> rfl
  · have hs : p.secret ≠ [] := by
      intro h
      have hl := p.length_secret
      rw [h] at hl
      exact absurd hl (by decide)
    have hi := p.id_ne_nil
    cases M <;> simp [Rfc9180.verifyPskInputs, toRfc, PskMode.toRfc, pskSecret, pskId, hs, hi]

theorem run_reference (hF : F.Lawful) (hk : A.keyLen ≤ 255 * F.hashLen)
    (hn : A.nonceLen ≤ maxNonceLen) {s : ScheduleCall} {ctx : HpkeNg.Context K F A}
    (h : s.run K F A = .ok ctx) :
    Rfc9180.keySchedule F K.id A.id A.keyLen A.nonceLen s.toRfc s.sharedSecret s.info s.pskSecret
      s.pskId = .ok ctx.toRfc := by
  obtain ⟨h1, h2, h3, -, h5⟩ := run_eq_ok hF hk hn h
  have hsuite : ascii "HPKE" ++ i2osp 2 K.id.toNat ++ i2osp 2 F.id.toNat ++ i2osp 2 A.id.toNat =
      ciphersuite K F A := rfl
  have hout : ∀ label n, labeledExpandCall
      (HpkeNg.labeledExtract F s.sharedSecret (ciphersuite K F A) (ascii "secret") s.pskSecret)
      (ciphersuite K F A) label ([s.modeByte] ++
        HpkeNg.labeledExtract F [] (ciphersuite K F A) (ascii "psk_id_hash") s.pskId ++
        HpkeNg.labeledExtract F [] (ciphersuite K F A) (ascii "info_hash") s.info) n =
      s.output F (ciphersuite K F A) label n := fun _ _ => rfl
  simp only [Rfc9180.keySchedule, verifyPskInputs_ok, hsuite, Rfc9180.labeledExtract_eq _ hF,
    Rfc9180.labeledExpand_eq, modeByte_toRfc, hout, h1, h2, h3, Context.toRfc, h5]
  rfl

end ScheduleCall

/-- **`Psk::new` accepts what `VerifyPSKInputs` accepts in a PSK mode**, if the PSK has 32 bytes. -/
theorem Psk.new_reference (M : PskMode) (psk pskId : Bytes) : (∃ p, Psk.new psk pskId = .ok p) ↔
    Rfc9180.verifyPskInputs M.toRfc psk pskId = .ok () ∧ 32 ≤ psk.length := by
  constructor
  · rintro ⟨p, hp⟩
    obtain ⟨rfl, rfl⟩ := Psk.new_eq_ok.mp hp
    exact ⟨(ScheduleCall.psk M [] [] p).verifyPskInputs_ok, p.length_secret⟩
  · rintro ⟨hv, hl⟩
    have hs : psk ≠ [] := by
      rintro rfl
      exact absurd hl (by decide)
    have hi : pskId ≠ [] := by
      rintro rfl
      cases M <;> simp [Rfc9180.verifyPskInputs, hs] at hv
    exact ⟨⟨psk, pskId, hl, hi⟩, Psk.new_eq_ok.mpr ⟨rfl, rfl⟩⟩

/-! ## Every suite of the crate -/

variable {c : Crates R}

/-- **The split key schedule is the RFC's.** -/
theorem keySchedule_reference (hc : c.HkdfDocumented) (ha : c.AeadDocumented) (K : Kem R)
    (f : KdfAlg) (a : AeadAlg) :
    (∀ (M : PskFreeMode) (sharedSecret info : Bytes), ∃ ctx,
      keySchedulePskFree K (f.kdf c) (a.aead c) M sharedSecret info = .ok ctx ∧
        Rfc9180.keySchedule (f.kdf c) K.id (a.aead c).id (a.aead c).keyLen (a.aead c).nonceLen
          M.toRfc sharedSecret info [] [] = .ok ctx.toRfc ∧
        M.toRfc.byte = M.modeByte ∧ ctx.seq = 0 ∧ (a.aead c).init ctx.rawKey = .ok ctx.cipher) ∧
    ∀ (M : PskMode) (sharedSecret info psk pskId : Bytes),
      ((∃ p, Psk.new psk pskId = .ok p) ↔
        Rfc9180.verifyPskInputs M.toRfc psk pskId = .ok () ∧ 32 ≤ psk.length) ∧
      ∀ p, Psk.new psk pskId = .ok p → ∃ ctx,
        keySchedulePsk K (f.kdf c) (a.aead c) M sharedSecret info p = .ok ctx ∧
          Rfc9180.keySchedule (f.kdf c) K.id (a.aead c).id (a.aead c).keyLen (a.aead c).nonceLen
            M.toRfc sharedSecret info psk pskId = .ok ctx.toRfc ∧
          M.toRfc.byte = M.modeByte ∧ ctx.seq = 0 ∧
            (a.aead c).init ctx.rawKey = .ok ctx.cipher := by
  have hF := KdfAlg.lawful hc f
  have hk := AeadAlg.keyLen_le_kdf hc f a
  have hn := AeadAlg.nonceLen_le c a
  have main : ∀ s : ScheduleCall, ∃ ctx : Context K (f.kdf c) (a.aead c),
      s.run K (f.kdf c) (a.aead c) = .ok ctx ∧
        Rfc9180.keySchedule (f.kdf c) K.id (a.aead c).id (a.aead c).keyLen (a.aead c).nonceLen
        s.toRfc
          s.sharedSecret s.info s.pskSecret s.pskId = .ok ctx.toRfc ∧
        s.toRfc.byte = s.modeByte ∧ ctx.seq = 0 ∧ (a.aead c).init ctx.rawKey = .ok ctx.cipher := by
    intro s
    obtain ⟨ctx, h⟩ := s.run_isOk hc ha K f a
    obtain ⟨-, -, -, h4, h5⟩ := ScheduleCall.run_eq_ok hF hk hn h
    exact ⟨ctx, h, s.run_reference hF hk hn h, s.modeByte_toRfc, h5, h4⟩
  refine ⟨fun M ss info => main (.pskFree M ss info), fun M ss info psk pskId => ?_⟩
  refine ⟨Psk.new_reference M psk pskId, fun p hp => ?_⟩
  obtain ⟨rfl, rfl⟩ := Psk.new_eq_ok.mp hp
  exact main (.psk M ss info p)

/-- The PSK mode of one suite. -/
theorem keySchedule_reference_mlKem768 :
    let F := KdfAlg.hkdfSha384.kdf Sample.crates
    let A := (AeadAlg.sealing .aes256Gcm).aead Sample.crates
    let psk := ascii "a pre-shared key of thirty-four by"
    ∃ p ctx, Psk.new psk (ascii "id") = .ok p ∧
      keySchedulePsk (mlKem768 Sample.crates) F A .psk (ascii "secret") (ascii "info") p = .ok ctx ∧
      Rfc9180.keySchedule F 0x0041 A.id A.keyLen A.nonceLen .psk (ascii "secret") (ascii "info") psk
        (ascii "id") = .ok ctx.toRfc := by
  intro F A psk
  have href := (keySchedule_reference Sample.hkdfDocumented Sample.aeadDocumented
    (mlKem768 Sample.crates) .hkdfSha384 (.sealing .aes256Gcm)).2 .psk (ascii "secret")
      (ascii "info")
    psk (ascii "id")
  obtain ⟨p, hp⟩ := href.1.mpr ⟨rfl, by decide⟩
  obtain ⟨ctx, h, hr, -⟩ := href.2 p hp
  exact ⟨p, ctx, hp, h, hr⟩

end HpkeNg

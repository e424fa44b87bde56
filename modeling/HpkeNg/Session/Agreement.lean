import HpkeNg.Kem.Agreement
import HpkeNg.Session

/-!
# Both ends of a session agree

* `SenderMode.Matches`: the receiver uses the sender's mode, PSK and public key;
* `SenderMode.Matches.decap_encap`, `SenderMode.encFromBytes_encap`: the KEM part;
* `session_agrees`: equal contexts, and hence messages and exported secrets that arrive.
-/

namespace HpkeNg

variable {R : Type} [CryptoRng R] {c : Crates R}

/-- The receiver's inputs match the sender's. -/
inductive SenderMode.Matches : {k : KemAlg} → SenderMode c k → ReceiverMode c k → Prop
  | base {k : KemAlg} : Matches (.base : SenderMode c k) .base
  | psk {k : KemAlg} (p : Psk) : Matches (.psk p : SenderMode c k) (.psk p)
  | auth {g : DhGroup} {skS pkS} (h : (KemAlg.dhKem g).KeyPair c skS pkS) :
    Matches (.auth skS) (.auth pkS)
  | authPsk {g : DhGroup} (p : Psk) {skS pkS} (h : (KemAlg.dhKem g).KeyPair c skS pkS) :
    Matches (.authPsk p skS) (.authPsk p pkS)

variable {k : KemAlg}

theorem SenderMode.Matches.schedule_eq {M : SenderMode c k} {M' : ReceiverMode c k}
    (h : M.Matches M') (sharedSecret info : Bytes) :
    M.schedule sharedSecret info = M'.schedule sharedSecret info := by
  cases h <;> rfl

/-- **The receiver computes the sender's shared secret, in every mode.** -/
theorem SenderMode.Matches.decap_encap (hd : c.CurvesDocumented) (hp : c.PqDocumented)
    (hx : c.CurvesCommute) (hq : c.PqCorrect) {M : SenderMode c k} {M' : ReceiverMode c k}
    (hm : M.Matches M') {skR pkR} (hR : k.KeyPair c skR pkR) {rng : R} {ss enc}
    (h : (M.encap rng pkR).1 = .ok (ss, enc)) :
    M'.decap enc skR = .ok ss := by
  obtain ⟨hb, rfl⟩ := hR.spec hd hp
  cases hm with
  | base => exact k.decap_encap hd hx hq hb h
  | psk p => exact k.decap_encap hd hx hq hb h
  | @auth g skS pkS hS =>
    obtain ⟨hb', rfl⟩ := hS.spec hd hp
    exact dhKem_authDecap_authEncap (g.lawful hd) (g.roundTrips hd) (g.commutes hx) hb hb' h
  | @authPsk g p skS pkS hS =>
    obtain ⟨hb', rfl⟩ := hS.spec hd hp
    exact dhKem_authDecap_authEncap (g.lawful hd) (g.roundTrips hd) (g.commutes hx) hb hb' h

theorem SenderMode.encFromBytes_encap (hd : c.CurvesDocumented) (hp : c.PqDocumented)
    (M : SenderMode c k) {rng : R} {pkR ss enc} (h : (M.encap rng pkR).1 = .ok (ss, enc)) :
    (k.kem c).encFromBytes ((k.kem c).encAsRef enc) = .ok enc := by
  cases M with
  | base => exact (k.roundTrips hd hp).enc (.encap (Prod.ext h rfl))
  | psk p => exact (k.roundTrips hd hp).enc (.encap (Prod.ext h rfl))
  | @auth g skS => exact dhKem_encFromBytes (g.lawful hd) h
  | @authPsk g p skS => exact dhKem_encFromBytes (g.lawful hd) h

theorem SenderMode.Matches.setup (hd : c.CurvesDocumented) (hp : c.PqDocumented)
    (hx : c.CurvesCommute) (hq : c.PqCorrect) {M : SenderMode c k} {M' : ReceiverMode c k}
    (hm : M.Matches M') {skR pkR} (hR : k.KeyPair c skR pkR) {F : Kdf} {A : Aead} {rng : R}
    {info : Bytes} {enc ctxS} (h : (M.setup F A rng pkR info).1 = .ok (enc, ctxS)) :
    (k.kem c).encFromBytes ((k.kem c).encAsRef enc) = .ok enc ∧
      M'.setup F A enc skR info = .ok ⟨ctxS.val⟩ ∧ ctxS.val.seq = 0 := by
  rw [M.setup_eq] at h
  obtain ⟨⟨ss, e⟩, he, h⟩ := bind_eq_ok.mp h
  obtain ⟨ctx, hctx, h⟩ := bind_eq_ok.mp h
  obtain ⟨rfl, rfl⟩ := Prod.mk.inj (Except.ok.inj h)
  refine ⟨M.encFromBytes_encap hd hp he, ?_, ScheduleCall.run_seq hctx⟩
  rw [M'.setup_eq]
  rw [hm.schedule_eq] at hctx
  exact bind_eq_ok.mpr ⟨ss, hm.decap_encap hd hp hx hq hR he, bind_eq_ok.mpr ⟨ctx, hctx, rfl⟩⟩

theorem SenderMode.Matches.open (hd : c.CurvesDocumented) (hp : c.PqDocumented)
    (hx : c.CurvesCommute) (hq : c.PqCorrect) (ha : c.AeadDocumented) {M : SenderMode c k}
    {M' : ReceiverMode c k} (hm : M.Matches M') {skR pkR} (hR : k.KeyPair c skR pkR) {F : Kdf}
    {a : SealingAlg} {rng : R} {info aad pt : Bytes} {enc ct}
    (h : (M.seal F (a.sealing c) rng pkR info aad pt).1 = .ok (enc, ct)) :
    (k.kem c).encFromBytes ((k.kem c).encAsRef enc) = .ok enc ∧
      M'.open F (a.sealing c) enc skR info aad ct = .ok pt := by
  rw [M.seal_eq] at h
  obtain ⟨⟨e, ctxS⟩, hS, h⟩ := bind_eq_ok.mp h
  obtain ⟨ct', hct, h⟩ := bind_eq_ok.mp h
  obtain ⟨rfl, rfl⟩ := Prod.mk.inj (Except.ok.inj h)
  obtain ⟨henc, hR', -⟩ := hm.setup hd hp hx hq hR hS
  obtain ⟨hlim, hseal⟩ := Context.seal_eq_ok.mp hct
  refine ⟨henc, ?_⟩
  rw [M'.open_eq]
  exact bind_eq_ok.mpr ⟨_, hR', Context.open_eq_ok.mpr ⟨hlim, a.open_seal ha hseal⟩⟩

theorem SenderMode.seal_ok {F : Kdf} {A : Aead} {S : SealingAead Id A} {M : SenderMode c k}
    {rng : R} {pkR info enc ctxS} (h : (M.setup F A rng pkR info).1 = .ok (enc, ctxS))
    {aad pt ct : Bytes}
    (hct : S.seal ctxS.val.cipher (nonceAt ctxS.val.baseNonce A.nonceLen 0) aad pt = .ok ct) :
    (M.seal F S rng pkR info aad pt).1 = .ok (enc, ct) := by
  obtain ⟨ss, -, hrun⟩ := SenderMode.setup_eq_ok h
  have hseq : ctxS.val.seq = 0 := ScheduleCall.run_seq hrun
  have hseal : (ctxS.seal S aad pt).run.1 = .ok ct := by
    refine Context.seal_eq_ok.mpr ⟨?_, ?_⟩
    · rw [hseq]
      decide
    · rw [hseq]
      exact hct
  rw [M.seal_eq]
  exact bind_eq_ok.mpr ⟨_, h, bind_eq_ok.mpr ⟨ct, hseal, rfl⟩⟩

theorem SenderMode.Matches.receiverExport (hd : c.CurvesDocumented) (hp : c.PqDocumented)
    (hx : c.CurvesCommute) (hq : c.PqCorrect) {M : SenderMode c k} {M' : ReceiverMode c k}
    (hm : M.Matches M') {skR pkR} (hR : k.KeyPair c skR pkR) {F : Kdf} {A : Aead} {rng : R}
    {info ec : Bytes} {length : ℕ} {enc secret}
    (h : (M.sendExport F A rng pkR info ec length).1 = .ok (enc, secret)) :
    (k.kem c).encFromBytes ((k.kem c).encAsRef enc) = .ok enc ∧
      M'.receiverExport F A enc skR info ec length = .ok secret := by
  rw [M.sendExport_eq] at h
  obtain ⟨⟨e, ctxS⟩, hS, h⟩ := bind_eq_ok.mp h
  obtain ⟨s, hs, h⟩ := bind_eq_ok.mp h
  obtain ⟨rfl, rfl⟩ := Prod.mk.inj (Except.ok.inj h)
  obtain ⟨henc, hR', -⟩ := hm.setup hd hp hx hq hR hS
  refine ⟨henc, ?_⟩
  rw [M'.receiverExport_eq]
  exact bind_eq_ok.mpr ⟨_, hR', hs⟩

theorem SenderMode.sendExport_ok {F : Kdf} (hF : F.Lawful) {A : Aead} {M : SenderMode c k} {rng : R}
    {pkR info enc ctxS} (h : (M.setup F A rng pkR info).1 = .ok (enc, ctxS)) (ec : Bytes)
    {length : ℕ} (hl : length ≤ 255 * F.hashLen) : ∃ secret, secret.length = length ∧
      (M.sendExport F A rng pkR info ec length).1 = .ok (enc, secret) := by
  obtain ⟨ss, -, hrun⟩ := SenderMode.setup_eq_ok h
  obtain ⟨secret, hs, hlen⟩ := Context.export_ok hF (ScheduleCall.run_exporterSecret hF hrun) ec hl
  refine ⟨secret, hlen, ?_⟩
  rw [M.sendExport_eq]
  exact bind_eq_ok.mpr ⟨_, h, bind_eq_ok.mpr ⟨secret, hs, rfl⟩⟩

/-- **Both ends of a session agree.** Whenever the sender's setup returns, the receiver's setup on
its encapsulated key, which survives the wire, returns an equal context that has sent nothing. Hence
what the AEAD seals first is sent and opens to its plaintext, and both sides export one secret, of
every length up to `255 * Nh`. -/
theorem session_agrees (hc : c.HkdfDocumented) (hd : c.CurvesDocumented) (hp : c.PqDocumented)
    (hx : c.CurvesCommute) (hq : c.PqCorrect) (ha : c.AeadDocumented) {M : SenderMode c k}
    {M' : ReceiverMode c k} (hm : M.Matches M') {skR pkR} (hR : k.KeyPair c skR pkR) (f : KdfAlg)
    (rng : R) (info : Bytes) :
    (∀ (a : AeadAlg) enc ctxS, (M.setup (f.kdf c) (a.aead c) rng pkR info).1 = .ok (enc, ctxS) →
      (k.kem c).encFromBytes ((k.kem c).encAsRef enc) = .ok enc ∧
        ∃ ctxR, M'.setup (f.kdf c) (a.aead c) enc skR info = .ok ctxR ∧
          ctxR.val.cipher = ctxS.val.cipher ∧ ctxR.val.baseNonce = ctxS.val.baseNonce ∧
          ctxR.val.exporterSecret = ctxS.val.exporterSecret ∧ ctxS.val.seq = 0 ∧ ctxR.val.seq = 0) ∧
    (∀ (a : SealingAlg) aad pt enc ct,
      (M.seal (f.kdf c) (a.sealing c) rng pkR info aad pt).1 = .ok (enc, ct) →
        (k.kem c).encFromBytes ((k.kem c).encAsRef enc) = .ok enc ∧
          M'.open (f.kdf c) (a.sealing c) enc skR info aad ct = .ok pt) ∧
    (∀ (a : SealingAlg) enc ctxS, (M.setup (f.kdf c) (a.aead c) rng pkR info).1 = .ok (enc, ctxS) →
      ∀ aad pt ct, (a.sealing c).seal ctxS.val.cipher
          (nonceAt ctxS.val.baseNonce (a.aead c).nonceLen 0) aad pt = .ok ct →
        (M.seal (f.kdf c) (a.sealing c) rng pkR info aad pt).1 = .ok (enc, ct) ∧
          M'.open (f.kdf c) (a.sealing c) enc skR info aad ct = .ok pt) ∧
    (∀ (a : AeadAlg) ec length enc secret,
      (M.sendExport (f.kdf c) (a.aead c) rng pkR info ec length).1 = .ok (enc, secret) →
        (k.kem c).encFromBytes ((k.kem c).encAsRef enc) = .ok enc ∧
          M'.receiverExport (f.kdf c) (a.aead c) enc skR info ec length = .ok secret) ∧
    ∀ (a : AeadAlg) enc ctxS, (M.setup (f.kdf c) (a.aead c) rng pkR info).1 = .ok (enc, ctxS) →
      ∀ ec length, length ≤ 255 * (f.kdf c).hashLen → ∃ secret, secret.length = length ∧
        (M.sendExport (f.kdf c) (a.aead c) rng pkR info ec length).1 = .ok (enc, secret) ∧
          M'.receiverExport (f.kdf c) (a.aead c) enc skR info ec length = .ok secret := by
  refine ⟨fun a enc ctxS h => ?_, fun a aad pt enc ct h => ?_, fun a enc ctxS h aad pt ct hct => ?_,
    fun a ec length enc secret h => ?_, fun a enc ctxS h ec length hl => ?_⟩
  · obtain ⟨henc, hR', hseq⟩ := hm.setup hd hp hx hq hR h
    exact ⟨henc, ⟨ctxS.val⟩, hR', rfl, rfl, rfl, hseq, hseq⟩
  · exact hm.open hd hp hx hq ha hR h
  · have hseal := SenderMode.seal_ok h hct
    exact ⟨hseal, (hm.open hd hp hx hq ha hR hseal).2⟩
  · exact hm.receiverExport hd hp hx hq hR h
  · obtain ⟨secret, hlen, hsend⟩ := SenderMode.sendExport_ok (KdfAlg.lawful hc f) h ec hl
    exact ⟨secret, hlen, hsend, (hm.receiverExport hd hp hx hq hR hsend).2⟩

/-- A message and an export of an authenticated session with a PSK. -/
theorem session_agrees_x25519 :
    let D := DhGroup.x25519.dh Sample.crates
    let M : SenderMode Sample.crates (.dhKem .x25519) := .authPsk Sample.psk (D.keyPair (9 : ℕ)).1
    let M' : ReceiverMode Sample.crates (.dhKem .x25519) :=
      .authPsk Sample.psk (D.keyPair (9 : ℕ)).2
    let F := KdfAlg.hkdfSha256.kdf Sample.crates
    let A := (AeadAlg.sealing .chaCha20Poly1305).aead Sample.crates
    let S := SealingAlg.chaCha20Poly1305.sealing Sample.crates
    ∃ enc ct secret,
      (M.seal F S (5 : ℕ) (D.keyPair (7 : ℕ)).2 (ascii "info") (ascii "aad") (ascii "pt")).1 =
          .ok (enc, ct) ∧
        M'.open F S enc (D.keyPair (7 : ℕ)).1 (ascii "info") (ascii "aad") ct = .ok (ascii "pt") ∧
      secret.length = 40 ∧
        (M.sendExport F A (5 : ℕ) (D.keyPair (7 : ℕ)).2 (ascii "info") (ascii "ec") 40).1 =
          .ok (enc, secret) ∧
        M'.receiverExport F A enc (D.keyPair (7 : ℕ)).1 (ascii "info") (ascii "ec") 40 =
          .ok secret := by
  intro D M M' F A S
  have hok : (M.seal F S (5 : ℕ) (D.keyPair (7 : ℕ)).2 (ascii "info") (ascii "aad")
      (ascii "pt")).1.isOk = true := by
    decide +kernel
  obtain ⟨⟨enc, ct⟩, h⟩ := isOk_iff.mp hok
  have hm : M.Matches M' := .authPsk _ (.generate (dhKem_generate D (9 : ℕ)))
  obtain ⟨-, hopen, -, -, hexport⟩ := session_agrees Sample.hkdfDocumented Sample.curvesDocumented
    Sample.pqDocumented Sample.curvesCommute Sample.pqCorrect Sample.aeadDocumented hm
    (.generate (dhKem_generate D (7 : ℕ))) .hkdfSha256 (5 : ℕ) (ascii "info")
  -- the message comes from a setup
  have hs := (M.seal_eq S (5 : ℕ) _ (ascii "info") (ascii "aad") (ascii "pt")).symm.trans h
  obtain ⟨⟨e, ctxS⟩, hS, hs⟩ := bind_eq_ok.mp hs
  obtain ⟨ct', -, hs⟩ := bind_eq_ok.mp hs
  obtain ⟨rfl, rfl⟩ := Prod.mk.inj (Except.ok.inj hs)
  obtain ⟨secret, hlen, hsend, hrecv⟩ :=
    hexport (.sealing .chaCha20Poly1305) e ctxS hS (ascii "ec") 40 (by decide : 40 ≤ 255 * 32)
  exact ⟨e, ct', secret, h, (hopen .chaCha20Poly1305 _ _ _ _ h).2, hlen, hsend, hrecv⟩

end HpkeNg

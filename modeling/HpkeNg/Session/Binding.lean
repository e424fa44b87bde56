import HpkeNg.Kem.Transcript
import HpkeNg.KeySchedule.Binding
import HpkeNg.Sample
import HpkeNg.Session

/-!
# A session binds all its inputs

* `SenderMode.op`, `ReceiverMode.op`: the DHKEM operation of a mode;
* `SessionAgree`: two sides used the same mode and the same inputs;
* `session_binds`: a message that opens was sealed with the same inputs, or KDF calls collide.
-/

namespace HpkeNg

variable {R : Type} [CryptoRng R] {c : Crates R}

section Modes

variable {k : KemAlg} {g : DhGroup}

/-- The RFC's name of the mode. -/
def SenderMode.mode : SenderMode c k → Rfc9180.Mode
  | .base => .base
  | .psk _ => .psk
  | .auth _ => .auth
  | .authPsk _ _ => .authPsk

/-- The RFC's name of the mode. -/
def ReceiverMode.mode : ReceiverMode c k → Rfc9180.Mode
  | .base => .base
  | .psk _ => .psk
  | .auth _ => .auth
  | .authPsk _ _ => .authPsk

/-- The PSK, in the modes with one. -/
def SenderMode.preShared : SenderMode c k → Option Psk
  | .psk p | .authPsk p _ => some p
  | .base | .auth _ => none

/-- The PSK, in the modes with one. -/
def ReceiverMode.preShared : ReceiverMode c k → Option Psk
  | .psk p | .authPsk p _ => some p
  | .base | .auth _ => none

/-- The sender's private key, in the authenticated modes. -/
def SenderMode.skS : SenderMode c (.dhKem g) → Option (DhPrivateKey (g.dh c))
  | .auth skS | .authPsk _ skS => some skS
  | .base | .psk _ => none

/-- The sender's public key, in the authenticated modes. -/
def ReceiverMode.pkS : ReceiverMode c (.dhKem g) → Option (DhPublicKey (g.dh c))
  | .auth pkS | .authPsk _ pkS => some pkS
  | .base | .psk _ => none

/-- The DHKEM operation of the sender. -/
def SenderMode.op (M : SenderMode c (.dhKem g)) (rng : R) (pkR : DhPublicKey (g.dh c)) :
    DhOp (g.dh c) :=
  .encap rng pkR M.skS

/-- The DHKEM operation of the receiver. -/
def ReceiverMode.op (M : ReceiverMode c (.dhKem g)) (enc : DhEncappedKey)
    (skR : DhPrivateKey (g.dh c)) :
    DhOp (g.dh c) := .decap enc skR M.pkS

theorem SenderMode.encap_eq (M : SenderMode c (.dhKem g)) (rng : R) (pkR : DhPublicKey (g.dh c)) :
    (M.encap rng pkR).1 = (M.op rng pkR).run := by
  cases M <;> rfl

theorem ReceiverMode.run_op {M : ReceiverMode c (.dhKem g)} {enc : DhEncappedKey}
    {skR : DhPrivateKey (g.dh c)} {ss : DhSharedSecret} (h : M.decap enc skR = .ok ss) :
    (M.op enc skR).run = .ok (ss, enc) := by
  cases M <;> exact bind_eq_ok.mpr ⟨ss, h, rfl⟩

end Modes

/-! ## What the schedules of the two sides bind -/

section Schedule

variable {k : KemAlg} {M : SenderMode c k} {M' : ReceiverMode c k} {ss ss' info info' : Bytes}

theorem SenderMode.modeByte_schedule (M : SenderMode c k) (ss info : Bytes) :
    (M.schedule ss info).modeByte = M.mode.byte := by
  cases M <;> rfl

theorem ReceiverMode.modeByte_schedule (M' : ReceiverMode c k) (ss info : Bytes) :
    (M'.schedule ss info).modeByte = M'.mode.byte := by
  cases M' <;> rfl

theorem mode_eq_of_modeByte (h : (M.schedule ss info).modeByte = (M'.schedule ss' info').modeByte) :
    M.mode = M'.mode := by
  rw [M.modeByte_schedule, M'.modeByte_schedule] at h
  exact Rfc9180.Mode.byte_inj h

theorem preShared_eq (hm : M.mode = M'.mode)
    (hs : (M.schedule ss info).pskSecret = (M'.schedule ss' info').pskSecret)
    (hi : (M.schedule ss info).pskId = (M'.schedule ss' info').pskId) :
    M.preShared = M'.preShared := by
  cases M <;> cases M' <;> first | rfl | exact congrArg some (Psk.ext hs hi) | cases hm

end Schedule

/-! ## Sessions -/

/-- The two sides of a session used the same mode and inputs, byte for byte. -/
structure SessionAgree {g : DhGroup} (M : SenderMode c (.dhKem g)) (M' : ReceiverMode c (.dhKem g))
    (pkR : DhPublicKey (g.dh c)) (skR : DhPrivateKey (g.dh c)) (enc enc' : DhEncappedKey)
    (info aad pt info' aad' pt' : Bytes) : Prop where
  mode : M.mode = M'.mode
  enc : enc.val = enc'.val
  recipient : (g.dh c).pkToBytes pkR.val = skR.pkBytes
  info : info = info'
  aad : aad = aad'
  pt : pt = pt'
  preShared : M.preShared = M'.preShared
  sender : M.skS.map DhPrivateKey.pkBytes = M'.pkS.map fun pk => (g.dh c).pkToBytes pk.val

/-- **A session binds all its inputs.** A message that opens was sealed in the same mode, for the
same recipient, with the same encapsulated key, `info`, associated data, plaintext, PSK and sender,
or a KDF call of one side collides with one of the other. -/
theorem session_binds (hc : c.HkdfDocumented) (hd : c.CurvesDocumented) {a : SealingAlg}
    (hcom : a.Committing c) {g : DhGroup} (f : KdfAlg) {M : SenderMode c (.dhKem g)}
    {M' : ReceiverMode c (.dhKem g)} {rng : R} {pkR : DhPublicKey (g.dh c)}
    {skR : DhPrivateKey (g.dh c)} (hS : ∀ sk ∈ M.skS, (g.kem c).HeldSk sk)
    (hR : (g.kem c).HeldSk skR) {enc enc' : DhEncappedKey} {info aad pt info' aad' pt' ct : Bytes}
    (h : (M.seal (f.kdf c) (a.sealing c) rng pkR info aad pt).1 = .ok (enc, ct))
    (h' : M'.open (f.kdf c) (a.sealing c) enc' skR info' aad' ct = .ok pt') :
    ∃ t t' ss ss', (M.op rng pkR).transcript = .ok t ∧ t.secret (g.dh c) = .ok ss ∧
      (M'.op enc' skR).transcript = .ok t' ∧ t'.secret (g.dh c) = .ok ss' ∧
      (SessionAgree M M' pkR skR enc enc' info aad pt info' aad' pt' ∨
        (f.kdf c).Collision
          ((M.schedule ss info).calls (f.kdf c) (ciphersuite (g.kem c).toKem (f.kdf c) (a.aead c))
            (a.aead c).keyLen (a.aead c).nonceLen)
          ((M'.schedule ss' info').calls (f.kdf c)
            (ciphersuite (g.kem c).toKem (f.kdf c) (a.aead c))
            (a.aead c).keyLen (a.aead c).nonceLen) ∨
        (g.dh c).kdf.Collision (t.calls (g.dh c)) (t'.calls (g.dh c))) := by
  have hF := KdfAlg.lawful hc f
  have hFD := g.kdf_lawful hc
  have hD := g.lawful hd
  -- the sender's run
  replace h := (M.seal_eq (a.sealing c) rng pkR info aad pt).symm.trans h
  obtain ⟨⟨e, ctxS⟩, hsetup, h⟩ := bind_eq_ok.mp h
  obtain ⟨ct', hseal, h⟩ := bind_eq_ok.mp h
  obtain ⟨rfl, rfl⟩ := Prod.mk.inj (Except.ok.inj h)
  replace hsetup := (M.setup_eq rng pkR info).symm.trans hsetup
  obtain ⟨⟨ss, e⟩, hencap, hsetup⟩ := bind_eq_ok.mp hsetup
  obtain ⟨ctx, hctx, hsetup⟩ := bind_eq_ok.mp hsetup
  obtain ⟨rfl, rfl⟩ := Prod.mk.inj (Except.ok.inj hsetup)
  obtain ⟨t, ht, hss, rfl⟩ := (DhOp.run_eq_ok hFD hD).mp ((M.encap_eq rng pkR).symm.trans hencap)
  -- the receiver's run
  replace h' := (M'.open_eq (a.sealing c) enc' skR info' aad' _).symm.trans h'
  obtain ⟨ctxR, hsetup', hopen⟩ := bind_eq_ok.mp h'
  replace hsetup' := (M'.setup_eq enc' skR info').symm.trans hsetup'
  obtain ⟨ss', hdecap, hsetup'⟩ := bind_eq_ok.mp hsetup'
  obtain ⟨ctx', hctx', hsetup'⟩ := bind_eq_ok.mp hsetup'
  obtain rfl := Except.ok.inj hsetup'
  obtain ⟨t', ht', hss', henc'⟩ := (DhOp.run_eq_ok hFD hD).mp (ReceiverMode.run_op hdecap)
  refine ⟨t, t', ss.val, ss'.val, ht, hss, ht', hss', ?_⟩
  -- the AEAD binds the key, the associated data and the plaintext
  have hk := AeadAlg.keyLen_le_kdf hc f (.sealing a)
  have hn := AeadAlg.nonceLen_le c (.sealing a)
  obtain ⟨hkey, -, -, hinit, -⟩ := ScheduleCall.run_eq_ok hF hk hn hctx
  obtain ⟨hkey', -, -, hinit', -⟩ := ScheduleCall.run_eq_ok hF hk hn hctx'
  obtain ⟨-, hseal⟩ := Context.seal_eq_ok.mp hseal
  obtain ⟨-, hopen⟩ := Context.open_eq_ok.mp hopen
  obtain ⟨hraw, -, haad, hpt⟩ := hcom hinit hinit' hseal hopen
  rw [← hraw] at hkey'
  -- the key binds the inputs of the key schedule
  rcases ScheduleCall.output_binds hF hkey hkey' with hagree | hcol
  swap
  · exact Or.inr (Or.inl (hcol.collision ScheduleCall.key_mem_calls ScheduleCall.key_mem_calls))
  have hmode := mode_eq_of_modeByte hagree.modeByte
  have hsec : ss.val = ss'.val :=
    (M.sharedSecret_schedule _ _).symm.trans
      (hagree.sharedSecret.trans (M'.sharedSecret_schedule _ _))
  have hinfo : info = info' :=
    (M.info_schedule _ _).symm.trans (hagree.info.trans (M'.info_schedule _ _))
  -- the shared secret binds the transcript of the KEM
  rw [← hsec] at hss'
  have hf := DhOp.transcript_fits hD (g.rawDh c) (show (M.op rng pkR).Held from hS) ht
  have hf' := DhOp.transcript_fits hD (g.rawDh c) (show (M'.op enc' skR).Held from hR) ht'
  rcases Transcript.eq_or_collision hFD hD hf hf' hss hss' with rfl | hcol
  swap
  · exact Or.inr (Or.inr hcol)
  obtain ⟨hrec, hsnd, -⟩ := DhOp.transcript_spec hD ht
  obtain ⟨hrec', hsnd', -⟩ := DhOp.transcript_spec hD ht'
  refine Or.inl ⟨hmode, ?_, ?_, hinfo, haad, hpt, preShared_eq hmode hagree.pskSecret hagree.pskId,
    ?_⟩
  · rw [henc']
  · exact hrec.symm.trans hrec'
  · exact hsnd.symm.trans hsnd'

/-- A message of an authenticated session with a PSK, opened by its recipient. -/
theorem session_binds_x25519 :
    let D := DhGroup.x25519.dh Sample.crates
    let M : SenderMode Sample.crates (.dhKem .x25519) := .authPsk Sample.psk (D.keyPair (9 : ℕ)).1
    let M' : ReceiverMode Sample.crates (.dhKem .x25519) :=
      .authPsk Sample.psk (D.keyPair (9 : ℕ)).2
    let F := KdfAlg.hkdfSha256.kdf Sample.crates
    let S := SealingAlg.chaCha20Poly1305.sealing Sample.crates
    let suite := ciphersuite (dhKem D).toKem F (SealingAlg.chaCha20Poly1305.aead Sample.crates)
    let (skR, pkR) := D.keyPair (7 : ℕ)
    ∃ enc ct, (M.seal F S (5 : ℕ) pkR (ascii "info") (ascii "aad") (ascii "pt")).1 = .ok (enc, ct) ∧
      M'.open F S enc skR (ascii "info") (ascii "aad") ct = .ok (ascii "pt") ∧
      ∃ t t' ss ss', (M.op (5 : ℕ) pkR).transcript = .ok t ∧ t.secret D = .ok ss ∧
        (M'.op enc skR).transcript = .ok t' ∧ t'.secret D = .ok ss' ∧
        (SessionAgree M M' pkR skR enc enc (ascii "info") (ascii "aad") (ascii "pt") (ascii "info")
            (ascii "aad") (ascii "pt") ∨
          F.Collision ((M.schedule ss (ascii "info")).calls F suite 32 12)
            ((M'.schedule ss' (ascii "info")).calls F suite 32 12) ∨
          D.kdf.Collision (t.calls D) (t'.calls D)) := by
  intro D M M' F S suite
  have hok : (M.seal F S (5 : ℕ) (D.keyPair (7 : ℕ)).2 (ascii "info") (ascii "aad")
      (ascii "pt")).1.isOk = true := by
    decide +kernel
  have hopen : ((M.seal F S (5 : ℕ) (D.keyPair (7 : ℕ)).2 (ascii "info") (ascii "aad")
      (ascii "pt")).1.bind fun r =>
        M'.open F S r.1 (D.keyPair (7 : ℕ)).1 (ascii "info") (ascii "aad") r.2) =
      .ok (ascii "pt") := by
    decide +kernel
  obtain ⟨⟨enc, ct⟩, h⟩ := isOk_iff.mp hok
  rw [h] at hopen
  refine ⟨enc, ct, h, hopen, ?_⟩
  exact session_binds Sample.hkdfDocumented Sample.curvesDocumented (Sample.committing _)
    .hkdfSha256 (by rintro sk ⟨⟩; exact .built (builtSk_keyPair D (9 : ℕ)))
    (.built (builtSk_keyPair D (7 : ℕ))) h hopen

end HpkeNg

import HpkeNg.Hpke
import HpkeNg.Kem.All

/-!
# Sessions

The four modes as data, so that a statement about sessions is one statement.

* `SenderMode`, `ReceiverMode`: a mode of a KEM with the inputs of each side; the authenticated
  modes exist for the DHKEMs only;
* `SenderMode.setup`, `seal`, `sendExport`, `ReceiverMode.setup`, `open`, `receiverExport`: the
  functions of the source for each mode;
* `SenderMode.setup_eq`, `ReceiverMode.setup_eq`: a setup is a KEM operation and a call of the key
  schedule.
-/

namespace HpkeNg

variable {R : Type} [CryptoRng R]

/-- A mode, with what the sender needs for it. -/
inductive SenderMode (c : Crates R) : KemAlg → Type where
  | base {k : KemAlg} : SenderMode c k
  | psk {k : KemAlg} (psk : Psk) : SenderMode c k
  | auth {g : DhGroup} (skS : DhPrivateKey (g.dh c)) : SenderMode c (.dhKem g)
  | authPsk {g : DhGroup} (psk : Psk) (skS : DhPrivateKey (g.dh c)) : SenderMode c (.dhKem g)

/-- A mode, with what the receiver needs for it. -/
inductive ReceiverMode (c : Crates R) : KemAlg → Type where
  | base {k : KemAlg} : ReceiverMode c k
  | psk {k : KemAlg} (psk : Psk) : ReceiverMode c k
  | auth {g : DhGroup} (pkS : DhPublicKey (g.dh c)) : ReceiverMode c (.dhKem g)
  | authPsk {g : DhGroup} (psk : Psk) (pkS : DhPublicKey (g.dh c)) : ReceiverMode c (.dhKem g)

variable {c : Crates R} {k : KemAlg}

/-! ## The functions of the source -/

section Functions

variable (F : Kdf) (A : Aead)

/-- `setup_sender_base`, `_psk`, `_auth`, `_auth_psk`. -/
def SenderMode.setup : SenderMode c k → R → (k.kem c).PublicKey → (info : Bytes) →
    Outcome ((k.kem c).EncappedKey × SenderContext (k.kem c) F A) × R
  | .base, rng, pkR, info => setupSenderBase _ F A rng pkR info
  | .psk p, rng, pkR, info => setupSenderPsk _ F A rng pkR info p
  | @SenderMode.auth _ _ _ g skS, rng, pkR, info => setupSenderAuth (g.kem c) F A rng pkR info skS
  | @SenderMode.authPsk _ _ _ g p skS, rng, pkR, info =>
    setupSenderAuthPsk (g.kem c) F A rng pkR info p skS

/-- `setup_receiver_base`, `_psk`, `_auth`, `_auth_psk`. -/
def ReceiverMode.setup : ReceiverMode c k → (k.kem c).EncappedKey → (k.kem c).PrivateKey →
    (info : Bytes) → Outcome (ReceiverContext (k.kem c) F A)
  | .base, enc, skR, info => setupReceiverBase _ F A enc skR info
  | .psk p, enc, skR, info => setupReceiverPsk _ F A enc skR info p
  | @ReceiverMode.auth _ _ _ g pkS, enc, skR, info =>
    setupReceiverAuth (g.kem c) F A enc skR info pkS
  | @ReceiverMode.authPsk _ _ _ g p pkS, enc, skR, info =>
    setupReceiverAuthPsk (g.kem c) F A enc skR info p pkS

/-- `send_export_base`, `_psk`, `_auth`, `_auth_psk`. -/
def SenderMode.sendExport :
    SenderMode c k → R → (k.kem c).PublicKey → (info exporterContext : Bytes) →
    (length : ℕ) → Outcome ((k.kem c).EncappedKey × Bytes) × R
  | .base, rng, pkR, info, ec, length => sendExportBase _ F A rng pkR info ec length
  | .psk p, rng, pkR, info, ec, length => sendExportPsk _ F A rng pkR info p ec length
  | @SenderMode.auth _ _ _ g skS, rng, pkR, info, ec, length =>
    sendExportAuth (g.kem c) F A rng pkR info skS ec length
  | @SenderMode.authPsk _ _ _ g p skS, rng, pkR, info, ec, length =>
    sendExportAuthPsk (g.kem c) F A rng pkR info p skS ec length

/-- `receiver_export_base`, `_psk`, `_auth`, `_auth_psk`. -/
def ReceiverMode.receiverExport : ReceiverMode c k → (k.kem c).EncappedKey → (k.kem c).PrivateKey →
    (info exporterContext : Bytes) → (length : ℕ) → Outcome Bytes
  | .base, enc, skR, info, ec, length => receiverExportBase _ F A enc skR info ec length
  | .psk p, enc, skR, info, ec, length => receiverExportPsk _ F A enc skR info p ec length
  | @ReceiverMode.auth _ _ _ g pkS, enc, skR, info, ec, length =>
    receiverExportAuth (g.kem c) F A enc skR info pkS ec length
  | @ReceiverMode.authPsk _ _ _ g p pkS, enc, skR, info, ec, length =>
    receiverExportAuthPsk (g.kem c) F A enc skR info p pkS ec length

variable {A} (S : SealingAead Id A)

/-- `seal_base`, `_psk`, `_auth`, `_auth_psk`. -/
def SenderMode.seal : SenderMode c k → R → (k.kem c).PublicKey → (info aad pt : Bytes) →
    Outcome ((k.kem c).EncappedKey × Bytes) × R
  | .base, rng, pkR, info, aad, pt => sealBase _ F S rng pkR info aad pt
  | .psk p, rng, pkR, info, aad, pt => sealPsk _ F S rng pkR info aad pt p
  | @SenderMode.auth _ _ _ g skS, rng, pkR, info, aad, pt =>
    sealAuth (g.kem c) F S rng pkR info aad pt skS
  | @SenderMode.authPsk _ _ _ g p skS, rng, pkR, info, aad, pt =>
    sealAuthPsk (g.kem c) F S rng pkR info aad pt p skS

/-- `open_base`, `_psk`, `_auth`, `_auth_psk`. -/
def ReceiverMode.open : ReceiverMode c k → (k.kem c).EncappedKey → (k.kem c).PrivateKey →
    (info aad ct : Bytes) → Outcome Bytes
  | .base, enc, skR, info, aad, ct => openBase _ F S enc skR info aad ct
  | .psk p, enc, skR, info, aad, ct => openPsk _ F S enc skR info aad ct p
  | @ReceiverMode.auth _ _ _ g pkS, enc, skR, info, aad, ct =>
    openAuth (g.kem c) F S enc skR info aad ct pkS
  | @ReceiverMode.authPsk _ _ _ g p pkS, enc, skR, info, aad, ct =>
    openAuthPsk (g.kem c) F S enc skR info aad ct p pkS

end Functions

/-! ## A setup is a KEM operation and a call of the key schedule -/

/-- The KEM operation of the sender. -/
def SenderMode.encap : SenderMode c k → R → (k.kem c).PublicKey →
    Outcome ((k.kem c).SharedSecret × (k.kem c).EncappedKey) × R
  | .base, rng, pkR | .psk _, rng, pkR => (k.kem c).encap rng pkR
  | @SenderMode.auth _ _ _ g skS, rng, pkR | @SenderMode.authPsk _ _ _ g _ skS, rng, pkR =>
    (g.kem c).authEncap rng pkR skS

/-- The KEM operation of the receiver. -/
def ReceiverMode.decap : ReceiverMode c k → (k.kem c).EncappedKey → (k.kem c).PrivateKey →
    Outcome (k.kem c).SharedSecret
  | .base, enc, skR | .psk _, enc, skR => (k.kem c).decap enc skR
  | @ReceiverMode.auth _ _ _ g pkS, enc, skR | @ReceiverMode.authPsk _ _ _ g _ pkS, enc, skR =>
    (g.kem c).authDecap enc skR pkS

/-- The call of the key schedule. -/
def SenderMode.schedule (sharedSecret info : Bytes) : SenderMode c k → ScheduleCall
  | .base => .pskFree .base sharedSecret info
  | .psk p => .psk .psk sharedSecret info p
  | .auth _ => .pskFree .auth sharedSecret info
  | .authPsk p _ => .psk .authPsk sharedSecret info p

/-- The call of the key schedule, on the other side. -/
def ReceiverMode.schedule (sharedSecret info : Bytes) : ReceiverMode c k → ScheduleCall
  | .base => .pskFree .base sharedSecret info
  | .psk p => .psk .psk sharedSecret info p
  | .auth _ => .pskFree .auth sharedSecret info
  | .authPsk p _ => .psk .authPsk sharedSecret info p

section Schedule

variable (M : SenderMode c k) (M' : ReceiverMode c k) (ss info : Bytes)

@[simp] theorem SenderMode.sharedSecret_schedule : (M.schedule ss info).sharedSecret = ss := by
  cases M <;> rfl

@[simp] theorem SenderMode.info_schedule : (M.schedule ss info).info = info := by cases M <;> rfl

@[simp] theorem ReceiverMode.sharedSecret_schedule : (M'.schedule ss info).sharedSecret = ss := by
  cases M' <;> rfl

@[simp] theorem ReceiverMode.info_schedule : (M'.schedule ss info).info = info := by cases M' <;> rfl

end Schedule

variable {F : Kdf} {A : Aead}

theorem SenderMode.setup_eq (M : SenderMode c k) (rng : R) (pkR : (k.kem c).PublicKey)
    (info : Bytes) :
    (M.setup F A rng pkR info).1 = (do
      let (ss, enc) ← (M.encap rng pkR).1
      let ctx ← (M.schedule ((k.kem c).ssAsRef ss) info).run (k.kem c) F A
      return (enc, ⟨ctx⟩)) := by
  cases M <;> rfl

theorem ReceiverMode.setup_eq (M : ReceiverMode c k) (enc : (k.kem c).EncappedKey)
    (skR : (k.kem c).PrivateKey) (info : Bytes) :
    M.setup F A enc skR info = (do
      let ss ← M.decap enc skR
      return ⟨← (M.schedule ((k.kem c).ssAsRef ss) info).run (k.kem c) F A⟩) := by
  cases M <;> rfl

/-- A setup that returns has run its KEM operation and its key schedule. -/
theorem SenderMode.setup_eq_ok {M : SenderMode c k} {rng : R} {pkR info enc ctx}
    (h : (M.setup F A rng pkR info).1 = .ok (enc, ctx)) :
    ∃ ss, (M.encap rng pkR).1 = .ok (ss, enc) ∧
      (M.schedule ((k.kem c).ssAsRef ss) info).run (k.kem c) F A = .ok ctx.val := by
  rw [M.setup_eq] at h
  obtain ⟨⟨ss, e⟩, hss, h⟩ := bind_eq_ok.mp h
  obtain ⟨val, hval, h⟩ := bind_eq_ok.mp h
  obtain ⟨rfl, rfl⟩ := Prod.mk.inj (Except.ok.inj h)
  exact ⟨ss, hss, hval⟩

theorem ReceiverMode.setup_eq_ok {M : ReceiverMode c k} {enc skR info ctx}
    (h : M.setup F A enc skR info = .ok ctx) : ∃ ss, M.decap enc skR = .ok ss ∧
      (M.schedule ((k.kem c).ssAsRef ss) info).run (k.kem c) F A = .ok ctx.val := by
  rw [M.setup_eq] at h
  obtain ⟨ss, hss, h⟩ := bind_eq_ok.mp h
  obtain ⟨val, hval, h⟩ := bind_eq_ok.mp h
  obtain rfl := Except.ok.inj h
  exact ⟨ss, hss, hval⟩

theorem SenderMode.sendExport_eq (M : SenderMode c k) (rng : R) (pkR : (k.kem c).PublicKey)
    (info ec : Bytes) (length : ℕ) : (M.sendExport F A rng pkR info ec length).1 = (do
      let (enc, ctx) ← (M.setup F A rng pkR info).1
      return (enc, ← ctx.export ec length)) := by
  cases M <;> rfl

theorem ReceiverMode.receiverExport_eq (M : ReceiverMode c k) (enc : (k.kem c).EncappedKey)
    (skR : (k.kem c).PrivateKey) (info ec : Bytes) (length : ℕ) :
    M.receiverExport F A enc skR info ec length = (do
      let ctx ← M.setup F A enc skR info
      ctx.export ec length) := by
  cases M <;> rfl

theorem SenderMode.seal_eq (S : SealingAead Id A) (M : SenderMode c k) (rng : R)
    (pkR : (k.kem c).PublicKey) (info aad pt : Bytes) : (M.seal F S rng pkR info aad pt).1 = (do
      let (enc, ctx) ← (M.setup F A rng pkR info).1
      let ct ← (ctx.seal S aad pt).run.1
      return (enc, ct)) := by
  cases M <;> rfl

theorem ReceiverMode.open_eq (S : SealingAead Id A) (M : ReceiverMode c k)
    (enc : (k.kem c).EncappedKey) (skR : (k.kem c).PrivateKey) (info aad ct : Bytes) :
    M.open F S enc skR info aad ct = (do
      let ctx ← M.setup F A enc skR info
      (ctx.open S aad ct).run.1) := by
  cases M <;> rfl

end HpkeNg

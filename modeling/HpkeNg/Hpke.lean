import HpkeNg.KeySchedule

/-!
# The setup and single-shot functions (`src/lib.rs`)

* `setupSenderBase`, `setupReceiverBase`, and so on for the four modes;
* `sealBase`, `openBase`, and so on: one message;
* `sendExportBase`, `receiverExportBase`, and so on: one exported secret.
-/

namespace HpkeNg

variable {R : Type}

/-! ## Base and PSK modes -/

section Unauthenticated

variable (K : Kem R) (F : Kdf) (A : Aead)

/-- `Hpke::setup_sender_base`. -/
def setupSenderBase (rng : R) (pkR : K.PublicKey) (info : Bytes) :
    Outcome (K.EncappedKey × SenderContext K F A) × R :=
  let (encapped, rng) := K.encap rng pkR
  (do
    let (ss, enc) ← encapped
    let ctx ← keySchedulePskFree K F A .base (K.ssAsRef ss) info
    return (enc, ⟨ctx⟩), rng)

/-- `Hpke::setup_receiver_base`. -/
def setupReceiverBase (enc : K.EncappedKey) (skR : K.PrivateKey) (info : Bytes) :
    Outcome (ReceiverContext K F A) := do
  let ss ← K.decap enc skR
  return ⟨← keySchedulePskFree K F A .base (K.ssAsRef ss) info⟩

/-- `Hpke::setup_sender_psk`. -/
def setupSenderPsk (rng : R) (pkR : K.PublicKey) (info : Bytes) (psk : Psk) :
    Outcome (K.EncappedKey × SenderContext K F A) × R :=
  let (encapped, rng) := K.encap rng pkR
  (do
    let (ss, enc) ← encapped
    let ctx ← keySchedulePsk K F A .psk (K.ssAsRef ss) info psk
    return (enc, ⟨ctx⟩), rng)

/-- `Hpke::setup_receiver_psk`. -/
def setupReceiverPsk (enc : K.EncappedKey) (skR : K.PrivateKey) (info : Bytes) (psk : Psk) :
    Outcome (ReceiverContext K F A) := do
  let ss ← K.decap enc skR
  return ⟨← keySchedulePsk K F A .psk (K.ssAsRef ss) info psk⟩

/-- `Hpke::send_export_base`. -/
def sendExportBase (rng : R) (pkR : K.PublicKey) (info exporterContext : Bytes) (length : ℕ) :
    Outcome (K.EncappedKey × Bytes) × R :=
  let (setup, rng) := setupSenderBase K F A rng pkR info
  (do
    let (enc, ctx) ← setup
    return (enc, ← ctx.export exporterContext length), rng)

/-- `Hpke::receiver_export_base`. -/
def receiverExportBase (enc : K.EncappedKey) (skR : K.PrivateKey) (info exporterContext : Bytes)
    (length : ℕ) : Outcome Bytes := do
  let ctx ← setupReceiverBase K F A enc skR info
  ctx.export exporterContext length

/-- `Hpke::send_export_psk`. -/
def sendExportPsk (rng : R) (pkR : K.PublicKey) (info : Bytes) (psk : Psk) (exporterContext : Bytes)
    (length : ℕ) : Outcome (K.EncappedKey × Bytes) × R :=
  let (setup, rng) := setupSenderPsk K F A rng pkR info psk
  (do
    let (enc, ctx) ← setup
    return (enc, ← ctx.export exporterContext length), rng)

/-- `Hpke::receiver_export_psk`. -/
def receiverExportPsk (enc : K.EncappedKey) (skR : K.PrivateKey) (info : Bytes) (psk : Psk)
    (exporterContext : Bytes) (length : ℕ) : Outcome Bytes := do
  let ctx ← setupReceiverPsk K F A enc skR info psk
  ctx.export exporterContext length

variable {A} (S : SealingAead Id A)

/-- `Hpke::seal_base`: a setup and its first message. -/
def sealBase (rng : R) (pkR : K.PublicKey) (info aad pt : Bytes) :
    Outcome (K.EncappedKey × Bytes) × R :=
  let (setup, rng) := setupSenderBase K F A rng pkR info
  (do
    let (enc, ctx) ← setup
    let ct ← (ctx.seal S aad pt).run.1
    return (enc, ct), rng)

/-- `Hpke::open_base`. -/
def openBase (enc : K.EncappedKey) (skR : K.PrivateKey) (info aad ct : Bytes) : Outcome Bytes := do
  let ctx ← setupReceiverBase K F A enc skR info
  (ctx.open S aad ct).run.1

/-- `Hpke::seal_psk`. -/
def sealPsk (rng : R) (pkR : K.PublicKey) (info aad pt : Bytes) (psk : Psk) :
    Outcome (K.EncappedKey × Bytes) × R :=
  let (setup, rng) := setupSenderPsk K F A rng pkR info psk
  (do
    let (enc, ctx) ← setup
    let ct ← (ctx.seal S aad pt).run.1
    return (enc, ct), rng)

/-- `Hpke::open_psk`. -/
def openPsk (enc : K.EncappedKey) (skR : K.PrivateKey) (info aad ct : Bytes) (psk : Psk) :
    Outcome Bytes := do
  let ctx ← setupReceiverPsk K F A enc skR info psk
  (ctx.open S aad ct).run.1

end Unauthenticated

/-! ## Auth and AuthPSK modes -/

section Authenticated

variable (K : AuthKem R) (F : Kdf) (A : Aead)

/-- `Hpke::setup_sender_auth`. -/
def setupSenderAuth (rng : R) (pkR : K.PublicKey) (info : Bytes) (skS : K.PrivateKey) :
    Outcome (K.EncappedKey × SenderContext K.toKem F A) × R :=
  let (encapped, rng) := K.authEncap rng pkR skS
  (do
    let (ss, enc) ← encapped
    let ctx ← keySchedulePskFree K.toKem F A .auth (K.ssAsRef ss) info
    return (enc, ⟨ctx⟩), rng)

/-- `Hpke::setup_receiver_auth`. -/
def setupReceiverAuth (enc : K.EncappedKey) (skR : K.PrivateKey) (info : Bytes)
    (pkS : K.PublicKey) :
    Outcome (ReceiverContext K.toKem F A) := do
  let ss ← K.authDecap enc skR pkS
  return ⟨← keySchedulePskFree K.toKem F A .auth (K.ssAsRef ss) info⟩

/-- `Hpke::setup_sender_auth_psk`. -/
def setupSenderAuthPsk (rng : R) (pkR : K.PublicKey) (info : Bytes) (psk : Psk)
    (skS : K.PrivateKey) :
    Outcome (K.EncappedKey × SenderContext K.toKem F A) × R :=
  let (encapped, rng) := K.authEncap rng pkR skS
  (do
    let (ss, enc) ← encapped
    let ctx ← keySchedulePsk K.toKem F A .authPsk (K.ssAsRef ss) info psk
    return (enc, ⟨ctx⟩), rng)

/-- `Hpke::setup_receiver_auth_psk`. -/
def setupReceiverAuthPsk (enc : K.EncappedKey) (skR : K.PrivateKey) (info : Bytes) (psk : Psk)
    (pkS : K.PublicKey) : Outcome (ReceiverContext K.toKem F A) := do
  let ss ← K.authDecap enc skR pkS
  return ⟨← keySchedulePsk K.toKem F A .authPsk (K.ssAsRef ss) info psk⟩

/-- `Hpke::send_export_auth`. -/
def sendExportAuth (rng : R) (pkR : K.PublicKey) (info : Bytes) (skS : K.PrivateKey)
    (exporterContext : Bytes) (length : ℕ) : Outcome (K.EncappedKey × Bytes) × R :=
  let (setup, rng) := setupSenderAuth K F A rng pkR info skS
  (do
    let (enc, ctx) ← setup
    return (enc, ← ctx.export exporterContext length), rng)

/-- `Hpke::receiver_export_auth`. -/
def receiverExportAuth (enc : K.EncappedKey) (skR : K.PrivateKey) (info : Bytes) (pkS : K.PublicKey)
    (exporterContext : Bytes) (length : ℕ) : Outcome Bytes := do
  let ctx ← setupReceiverAuth K F A enc skR info pkS
  ctx.export exporterContext length

/-- `Hpke::send_export_auth_psk`. -/
def sendExportAuthPsk (rng : R) (pkR : K.PublicKey) (info : Bytes) (psk : Psk) (skS : K.PrivateKey)
    (exporterContext : Bytes) (length : ℕ) : Outcome (K.EncappedKey × Bytes) × R :=
  let (setup, rng) := setupSenderAuthPsk K F A rng pkR info psk skS
  (do
    let (enc, ctx) ← setup
    return (enc, ← ctx.export exporterContext length), rng)

/-- `Hpke::receiver_export_auth_psk`. -/
def receiverExportAuthPsk (enc : K.EncappedKey) (skR : K.PrivateKey) (info : Bytes) (psk : Psk)
    (pkS : K.PublicKey) (exporterContext : Bytes) (length : ℕ) : Outcome Bytes := do
  let ctx ← setupReceiverAuthPsk K F A enc skR info psk pkS
  ctx.export exporterContext length

variable {A} (S : SealingAead Id A)

/-- `Hpke::seal_auth`. -/
def sealAuth (rng : R) (pkR : K.PublicKey) (info aad pt : Bytes) (skS : K.PrivateKey) :
    Outcome (K.EncappedKey × Bytes) × R :=
  let (setup, rng) := setupSenderAuth K F A rng pkR info skS
  (do
    let (enc, ctx) ← setup
    let ct ← (ctx.seal S aad pt).run.1
    return (enc, ct), rng)

/-- `Hpke::open_auth`. -/
def openAuth (enc : K.EncappedKey) (skR : K.PrivateKey) (info aad ct : Bytes) (pkS : K.PublicKey) :
    Outcome Bytes := do
  let ctx ← setupReceiverAuth K F A enc skR info pkS
  (ctx.open S aad ct).run.1

/-- `Hpke::seal_auth_psk`. -/
def sealAuthPsk (rng : R) (pkR : K.PublicKey) (info aad pt : Bytes) (psk : Psk)
    (skS : K.PrivateKey) :
    Outcome (K.EncappedKey × Bytes) × R :=
  let (setup, rng) := setupSenderAuthPsk K F A rng pkR info psk skS
  (do
    let (enc, ctx) ← setup
    let ct ← (ctx.seal S aad pt).run.1
    return (enc, ct), rng)

/-- `Hpke::open_auth_psk`. -/
def openAuthPsk (enc : K.EncappedKey) (skR : K.PrivateKey) (info aad ct : Bytes) (psk : Psk)
    (pkS : K.PublicKey) : Outcome Bytes := do
  let ctx ← setupReceiverAuthPsk K F A enc skR info psk pkS
  (ctx.open S aad ct).run.1

end Authenticated

end HpkeNg

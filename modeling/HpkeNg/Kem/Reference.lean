import HpkeNg.Kem.Transcript
import HpkeNg.Rfc9180

/-!
# DHKEM computes RFC 9180's

The crate caches public keys, feeds pieces and shares one body between the modes; the RFC derives
every public key again and concatenates.

* `SameResult`: a call of the crate and an algorithm of the RFC end the same way;
* `DhOp.reference`, the RFC's algorithm for each operation, and `DhOp.Blocked`, when it stops;
* `DhOp.Agreed`, `DhOp.agreed`: the transcript holds what the RFC concatenates;
* `dhKem_reference`: every operation returns what the RFC's returns.
-/

namespace HpkeNg

variable {R : Type}

/-- Both return, with corresponding values, or both stop with an error. -/
inductive SameResult {α β : Type} (v : α → β) : Outcome α → Except Rfc9180.Rejection β → Prop
  | ok (a : α) : SameResult v (.ok a) (.ok (v a))
  | error (e : HpkeError) (r : Rfc9180.Rejection) : SameResult v (.error (.err e)) (.error r)

theorem SameResult.of_eq_ok {α β : Type} {v : α → β} {x : Outcome α}
    {y : Except Rfc9180.Rejection β} {b : β} (h : SameResult v x y) (hy : y = .ok b) :
    ∃ a, x = .ok a ∧ v a = b := by
  cases h with
  | ok a => exact ⟨a, rfl, Except.ok.inj hy⟩
  | error e r => cases hy

namespace DhOp

variable {D : DiffieHellman R} (X : RawDh D)

/-- The private keys of the operation come from constructors. -/
def Built : DhOp D → Prop
  | .encap _ _ skS => ∀ sk ∈ skS, (dhKem D).BuiltSk sk
  | .decap _ skR _ => (dhKem D).BuiltSk skR

/-- The RFC's algorithm, which also returns the encapsulated key. -/
def reference : DhOp D → Except Rfc9180.Rejection (Bytes × Bytes)
  | .encap rng pkR none => Rfc9180.encap D X (D.generate rng).1 pkR.val
  | .encap rng pkR (some skS) => Rfc9180.authEncap D X (D.generate rng).1 pkR.val skS.sk
  | .decap enc skR none => do return (← Rfc9180.decap D X enc.val skR.sk, enc.val)
  | .decap enc skR (some pkS) => do return (← Rfc9180.authDecap D X enc.val skR.sk pkS.val, enc.val)

/-- The encapsulated key does not parse, or a DH output is all zero. -/
def Blocked : DhOp D → Prop
  | .encap rng pkR skS => X.raw (D.generate rng).1.1 pkR.val = zeros X.len ∨
      ∃ sk ∈ skS, X.raw sk.sk pkR.val = zeros X.len
  | .decap enc skR pkS => Fails (D.pkFromBytes enc.val) ∨
      ∃ pkE, D.pkFromBytes enc.val = .ok pkE ∧
        (X.raw skR.sk pkE = zeros X.len ∨ ∃ pk ∈ pkS, X.raw skR.sk pk.val = zeros X.len)

variable {X}

/-! ## One DH computation -/

theorem dh_of_zero {sk pk} (h : X.raw sk pk = zeros X.len) :
    D.dh sk pk = throwErr .encapError ∧ Rfc9180.dh D X sk pk = .error .zeroDh := by
  rw [X.dh_eq, Rfc9180.dh, if_pos h, if_pos h]
  exact ⟨rfl, rfl⟩

theorem dh_of_ne_zero {sk pk} (h : X.raw sk pk ≠ zeros X.len) :
    D.dh sk pk = .ok (X.raw sk pk).1 ∧ Rfc9180.dh D X sk pk = .ok (X.raw sk pk).1 := by
  rw [X.dh_eq, Rfc9180.dh, if_neg h, if_neg h]
  exact ⟨rfl, rfl⟩

theorem extractAndExpand_reference (hF : D.kdf.Lawful) (dh kemContext : Bytes) :
    Rfc9180.extractAndExpand D dh kemContext =
      Rfc9180.reject .kdf (D.kdf.run (sharedSecretCall D dh kemContext)) := by
  rw [sharedSecretCall, ← Rfc9180.labeledExtract_eq _ hF]
  rfl

/-! ## The operations -/

/-- How an operation and the RFC's algorithm end: with the secret of one transcript, or both with an
error. -/
def Agreed (op : DhOp D) (X : RawDh D) : Prop :=
  (¬ op.Blocked X ∧ ∃ t, op.transcript = .ok t ∧
      op.reference X = (do return (← Rfc9180.extractAndExpand D t.dh t.kemContext, t.enc))) ∨
    (op.Blocked X ∧ Fails op.transcript ∧ ∃ e, op.reference X = .error e)

theorem encap_agreed (hD : D.Lawful) (rng : R) (pkR : DhPublicKey D) (skS : Option (DhPrivateKey D))
    (hb : (encap rng pkR skS).Built) : (encap rng pkR skS).Agreed X := by
  by_cases h1 : X.raw (D.generate rng).1.1 pkR.val = zeros X.len
  · refine Or.inr ⟨Or.inl h1, by simp [transcript, dh_of_zero h1], ?_⟩
    cases skS <;> simp [reference, Rfc9180.encap, Rfc9180.authEncap, dh_of_zero h1]
  cases skS with
  | none =>
    refine Or.inl ⟨by simp [Blocked, h1], _, by simp [transcript, senderPart, dh_of_ne_zero h1]; rfl, ?_⟩
    simp [reference, Rfc9180.encap, dh_of_ne_zero h1, Transcript.dh, Transcript.kemContext,
      hD.pkAsRef_eq]
  | some sk =>
    by_cases h2 : X.raw sk.sk pkR.val = zeros X.len
    · refine Or.inr ⟨Or.inr ⟨sk, rfl, h2⟩, ?_, ?_⟩
      · simp [transcript, senderPart, dh_of_ne_zero h1, dh_of_zero h2]
      · simp [reference, Rfc9180.authEncap, dh_of_ne_zero h1, dh_of_zero h2]
    · refine Or.inl ⟨by simp [Blocked, h1, h2], _,
        by simp [transcript, senderPart, dh_of_ne_zero h1, dh_of_ne_zero h2]; rfl, ?_⟩
      simp [reference, Rfc9180.authEncap, dh_of_ne_zero h1, dh_of_ne_zero h2, Transcript.dh,
        Transcript.kemContext, hD.pkAsRef_eq, pkBytes_of_builtSk hD (hb sk rfl)]

theorem decap_agreed (hD : D.Lawful) (enc : DhEncappedKey) (skR : DhPrivateKey D)
    (pkS : Option (DhPublicKey D)) (hb : (decap enc skR pkS).Built) :
    (decap enc skR pkS).Agreed X := by
  have hpk := pkBytes_of_builtSk hD hb
  cases hE : D.pkFromBytes enc.val with
  | error f =>
    obtain rfl := hD.pkFromBytes_fault hE
    refine Or.inr ⟨Or.inl ⟨_, hE⟩, by simp [transcript, hE], ?_⟩
    cases pkS <;> simp [reference, Rfc9180.decap, Rfc9180.authDecap, hE, Rfc9180.reject]
  | ok pkE =>
    by_cases h1 : X.raw skR.sk pkE = zeros X.len
    · refine Or.inr ⟨Or.inr ⟨pkE, hE, Or.inl h1⟩, by simp [transcript, hE, dh_of_zero h1], ?_⟩
      cases pkS <;> simp [reference, Rfc9180.decap, Rfc9180.authDecap, hE, Rfc9180.reject,
        dh_of_zero h1]
    cases pkS with
    | none =>
      refine Or.inl ⟨by simp [Blocked, hE, h1], _,
        by simp [transcript, senderPart, hE, dh_of_ne_zero h1]; rfl, ?_⟩
      simp [reference, Rfc9180.decap, hE, Rfc9180.reject, dh_of_ne_zero h1, Transcript.dh,
        Transcript.kemContext, hpk]
    | some pk =>
      by_cases h2 : X.raw skR.sk pk.val = zeros X.len
      · refine Or.inr ⟨Or.inr ⟨pkE, hE, Or.inr ⟨pk, rfl, h2⟩⟩, ?_, ?_⟩
        · simp [transcript, senderPart, hE, dh_of_ne_zero h1, dh_of_zero h2]
        · simp [reference, Rfc9180.authDecap, hE, Rfc9180.reject, dh_of_ne_zero h1, dh_of_zero h2]
      · refine Or.inl ⟨by simp [Blocked, hE, h1, h2], _,
          by simp [transcript, senderPart, hE, dh_of_ne_zero h1, dh_of_ne_zero h2]; rfl, ?_⟩
        simp [reference, Rfc9180.authDecap, hE, Rfc9180.reject, dh_of_ne_zero h1, dh_of_ne_zero h2,
          Transcript.dh, Transcript.kemContext, hD.pkAsRef_eq, hpk]

theorem agreed (hD : D.Lawful) (op : DhOp D) (hb : op.Built) : op.Agreed X := by
  cases op with
  | encap rng pkR skS => exact encap_agreed hD rng pkR skS hb
  | decap enc skR pkS => exact decap_agreed hD enc skR pkS hb

theorem run_reference (hF : D.kdf.Lawful) (hD : D.Lawful) {op : DhOp D} (h : op.Agreed X) :
    SameResult (fun r => (r.1.val, r.2.val)) op.run (op.reference X) ∧
      (Fails op.run ↔ op.Blocked X) ∧ ((∃ e, op.reference X = .error e) ↔ op.Blocked X) := by
  rcases h with ⟨hn, t, ht, hr⟩ | ⟨hb, ⟨e, ht⟩, r, hr⟩
  · obtain ⟨ss, hss⟩ := sharedSecretCall_ok hF hD t.dh t.kemContext
    have hrun : op.run = .ok (⟨ss⟩, ⟨t.enc⟩) := (run_eq_ok hF hD).mpr ⟨t, ht, hss, rfl⟩
    have href : op.reference X = .ok (ss, t.enc) := by
      rw [hr, extractAndExpand_reference hF, hss]
      rfl
    rw [hrun, href]
    refine ⟨.ok (DhSharedSecret.mk ss, DhEncappedKey.mk t.enc), ?_, ?_⟩
    · exact iff_of_false (not_fails_ok _) hn
    · exact iff_of_false (by rintro ⟨e, h⟩; cases h) hn
  · have hrun : op.run = .error (.err e) := by rw [run_eq hF hD, ht, error_bind]
    rw [hrun, hr]
    refine ⟨.error e r, ?_, ?_⟩
    · exact iff_of_true (fails_err e) hb
    · exact iff_of_true ⟨r, rfl⟩ hb

end DhOp

/-- **DHKEM is the RFC's.** On every constructor path the cached bytes are those of the matching
public key, and each of the four operations returns what the RFC's algorithm returns; it fails
exactly when `enc` does not parse or a DH output is all zero. -/
theorem dhKem_reference [CryptoRng R] {c : Crates R} (hc : c.HkdfDocumented)
    (hd : c.CurvesDocumented) (g : DhGroup) :
    (∀ sk : DhPrivateKey (g.dh c), (g.kem c).BuiltSk sk →
      sk.pkBytes = (g.dh c).pkToBytes ((g.dh c).skToPk sk.sk)) ∧
    ∀ op : DhOp (g.dh c), op.Built →
      SameResult (fun r => (r.1.val, r.2.val)) op.run (op.reference (g.rawDh c)) ∧
        (Fails op.run ↔ op.Blocked (g.rawDh c)) ∧
        ((∃ e, op.reference (g.rawDh c) = .error e) ↔ op.Blocked (g.rawDh c)) := by
  have hD := g.lawful hd
  refine ⟨fun sk h => pkBytes_of_builtSk hD h, fun op hb => ?_⟩
  exact DhOp.run_reference (g.kdf_lawful hc) hD (op.agreed hD hb)

/-- An authenticated encapsulation. -/
theorem dhKem_reference_x448 :
    let D := DhGroup.x448.dh Sample.crates
    let X := DhGroup.x448.rawDh Sample.crates
    let op : DhOp D := .encap (5 : ℕ) (D.keyPair (7 : ℕ)).2 (some (D.keyPair (9 : ℕ)).1)
    op.Built ∧ SameResult (fun r => (r.1.val, r.2.val)) op.run (op.reference X) := by
  intro D X op
  have hb : op.Built := by
    intro sk h
    rw [← Option.some.inj h]
    exact builtSk_keyPair D (9 : ℕ)
  exact ⟨hb, ((dhKem_reference Sample.hkdfDocumented Sample.curvesDocumented .x448).2 op hb).1⟩

end HpkeNg

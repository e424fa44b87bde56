import HpkeNg.Kem.Reference

/-!
# How the KEM operations fail

* `DhOp.raises_run`: which error each operation of a DHKEM returns, and when; `DhOp.fails_run`;
* `xWing_decap_raises`, `mlKem_decap_raises`: the same for the post-quantum decapsulations;
* `PqAlg.encap_ok`: a post-quantum encapsulation returns;
* `DhGroup.deriveKeyPair_ok`, `PqAlg.deriveKeyPair_ok`: where deriving a key pair cannot fail.
-/

namespace HpkeNg

variable {R : Type}

/-! ## DHKEM

For any private key, built by a constructor or not. -/

namespace DhOp

variable {D : DiffieHellman R} {X : RawDh D}

theorem raises_dh (X : RawDh D) (sk : D.PrivateKey) (pk : D.PublicKey) :
    Raises (D.dh sk pk) fun e => e = .encapError ∧ X.raw sk pk = zeros X.len := by
  by_cases h : X.raw sk pk = zeros X.len
  · rw [(dh_of_zero h).1]
    refine ⟨fun e => ?_, by rintro ⟨⟩⟩
    simp [h, eq_comm]
  · rw [(dh_of_ne_zero h).1]
    exact (Raises.ok _).congr fun e => (iff_of_false (fun h' => h h'.2) id).symm

theorem raises_pkFromBytes (hD : D.Lawful) (b : Bytes) :
    Raises (D.pkFromBytes b) fun e => e = .invalidPublicKey ∧ Fails (D.pkFromBytes b) := by
  refine ⟨fun e => ⟨fun h => ?_, fun ⟨he, e', h⟩ => ?_⟩, fun h => ?_⟩
  · exact ⟨Fault.err.inj (hD.pkFromBytes_fault h), e, h⟩
  · rw [h, hD.pkFromBytes_fault h, he]
  · cases hD.pkFromBytes_fault h

theorem raises_senderPart {α : Type} {dh2 : α → Outcome Bytes} {pkBytes : α → Bytes}
    {key : Option α} {p : α → Prop} {e : HpkeError}
    (h : ∀ k ∈ key, Raises (dh2 k) fun e' => e' = e ∧ p k) :
    Raises (senderPart dh2 pkBytes key) fun e' => e' = e ∧ ∃ k ∈ key, p k := by
  cases key with
  | none => exact (Raises.ok _).congr fun e' => (iff_of_false (by rintro ⟨-, k, ⟨⟩, -⟩) id).symm
  | some k =>
    refine ((h k rfl).bind_ok fun a _ => ⟨_, rfl⟩).congr fun e' => ?_
    simp

/-- When an operation returns the error `e`. -/
def Raised (X : RawDh D) : DhOp D → HpkeError → Prop
  | .encap rng pkR skS, e => e = .encapError ∧ (encap rng pkR skS).Blocked X
  | .decap enc skR pkS, e => (e = .invalidPublicKey ∧ Fails (D.pkFromBytes enc.val)) ∨
      (e = .encapError ∧ ∃ pkE, D.pkFromBytes enc.val = .ok pkE ∧
        (X.raw skR.sk pkE = zeros X.len ∨ ∃ pk ∈ pkS, X.raw skR.sk pk.val = zeros X.len))

theorem exists_raised (op : DhOp D) : (∃ e, op.Raised X e) ↔ op.Blocked X := by
  cases op with
  | encap rng pkR skS => simp [Raised]
  | decap enc skR pkS => simp [Raised, Blocked, exists_or]

theorem raises_transcript (hD : D.Lawful) (X : RawDh D) (op : DhOp D) :
    Raises op.transcript (op.Raised X) := by
  have hok : ∀ {sk pk}, (∃ d, D.dh sk pk = .ok d) ↔ X.raw sk pk ≠ zeros X.len := by
    intro sk pk
    rw [(raises_dh X sk pk).isOk]
    simp
  cases op with
  | encap rng pkR skS =>
    refine ((raises_dh X (D.generate rng).1.1 pkR.val).bind fun dh1 _ =>
      ((raises_senderPart fun skS _ => raises_dh X skS.sk pkR.val).bind_ok fun r _ =>
        ⟨_, rfl⟩)).congr fun e => ?_
    rw [exists_and_right, hok]
    simp only [Raised, Blocked]
    tauto
  | decap enc skR pkS =>
    refine ((raises_pkFromBytes hD enc.val).bind fun pkE _ =>
      ((raises_dh X skR.sk pkE).bind fun dh1 _ =>
      ((raises_senderPart fun pkS _ => raises_dh X skR.sk pkS.val).bind_ok fun r _ =>
        ⟨_, rfl⟩))).congr fun e => ?_
    simp only [exists_and_right, hok, Raised]
    refine or_congr_right ?_
    constructor
    · rintro ⟨pkE, hE, ⟨he, h⟩ | ⟨-, he, h⟩⟩
      · exact ⟨he, pkE, hE, Or.inl h⟩
      · exact ⟨he, pkE, hE, Or.inr h⟩
    · rintro ⟨he, pkE, hE, h⟩
      refine ⟨pkE, hE, ?_⟩
      tauto

theorem raises_run (hF : D.kdf.Lawful) (hD : D.Lawful) (X : RawDh D) (op : DhOp D) :
    Raises op.run (op.Raised X) := by
  rw [run_eq hF hD]
  refine (raises_transcript hD X op).bind_ok fun t _ => ?_
  obtain ⟨ss, hss⟩ := sharedSecretCall_ok hF hD t.dh t.kemContext
  exact ⟨_, bind_eq_ok.mpr ⟨ss, hss, rfl⟩⟩

/-- **An operation fails exactly when it is blocked.** -/
theorem fails_run (hF : D.kdf.Lawful) (hD : D.Lawful) (X : RawDh D) (op : DhOp D) :
    Fails op.run ↔ op.Blocked X :=
  (raises_run hF hD X op).fails.trans op.exists_raised

theorem fails_dh {sk pk} : Fails (D.dh sk pk) ↔ X.raw sk pk = zeros X.len := by
  rw [(raises_dh X sk pk).fails]
  simp

end DhOp

/-! ## Post-quantum KEMs -/

section Pq

theorem xWing_decap_raises {crate : XWingCrate R} (enc : XWingEncappedKey)
    (skR : XWingPrivateKey crate) :
    Raises (xWingDecap crate enc skR) fun e => (e = .decapError ∧ skR.dk = none) ∨
      (e = .invalidEncappedKey ∧ ∃ dk ∈ skR.dk, crate.decapsulateSlice dk enc.val = none) := by
  refine ((Raises.okOr _ skR.dk).bind fun dk _ => (Raises.okOr _ _).bind_ok fun ss _ =>
    ⟨_, rfl⟩).congr fun e => or_congr_right ?_
  simp only [okOr_eq_ok, Option.mem_def]
  exact ⟨fun ⟨dk, h, he, hn⟩ => ⟨he, dk, h, hn⟩, fun ⟨he, dk, h, hn⟩ => ⟨dk, h, he, hn⟩⟩

theorem mlKem_decap_raises {nek nct : ℕ} {crate : MlKemCrate R nek nct} (enc : MlKemEncappedKey)
    (skR : MlKemPrivateKey crate) :
    Raises (mlKemDecap crate enc skR) fun e => (e = .decapError ∧ skR.dk = none) ∨
      (e = .invalidEncappedKey ∧ ∃ dk ∈ skR.dk, enc.val.length ≠ nct) := by
  have hnone : (Arr.ofBytes? enc.val : Option (Arr nct)) = none ↔ enc.val.length ≠ nct := by
    unfold Arr.ofBytes?
    split_ifs with h <;> simp [h]
  refine ((Raises.okOr _ skR.dk).bind fun dk _ => (Raises.okOr _ _).bind_ok fun ct _ =>
    ⟨_, rfl⟩).congr fun e => or_congr_right ?_
  simp only [okOr_eq_ok, Option.mem_def, hnone]
  exact ⟨fun ⟨dk, h, he, hn⟩ => ⟨he, dk, h, hn⟩, fun ⟨he, dk, h, hn⟩ => ⟨dk, h, he, hn⟩⟩

end Pq

section Algs

variable [CryptoRng R] {c : Crates R}

/-- When a post-quantum decapsulation returns the error `e`. -/
def PqAlg.Raised (c : Crates R) :
    (p : PqAlg) → (p.kem c).EncappedKey → (p.kem c).PrivateKey → HpkeError → Prop
  | .xWingDraft06, enc, skR, e => (e = .decapError ∧ XWingPrivateKey.dk skR = none) ∨
      (e = .invalidEncappedKey ∧
        ∃ dk ∈ XWingPrivateKey.dk skR, c.xWing.decapsulateSlice dk (XWingEncappedKey.val enc) =
          none)
  | .mlKem768, enc, skR, e => (e = .decapError ∧ MlKemPrivateKey.dk skR = none) ∨
      (e = .invalidEncappedKey ∧
        ∃ dk ∈ MlKemPrivateKey.dk skR, (MlKemEncappedKey.val enc).length ≠ 1088)
  | .mlKem1024, enc, skR, e => (e = .decapError ∧ MlKemPrivateKey.dk skR = none) ∨
      (e = .invalidEncappedKey ∧
        ∃ dk ∈ MlKemPrivateKey.dk skR, (MlKemEncappedKey.val enc).length ≠ 1568)

/-- The cached key is gone, or the ciphertext is rejected. -/
def PqAlg.Refuses (c : Crates R) : (p : PqAlg) → (p.kem c).EncappedKey → (p.kem c).PrivateKey → Prop
  | .xWingDraft06, enc, skR => XWingPrivateKey.dk skR = none ∨
      ∃ dk ∈ XWingPrivateKey.dk skR, c.xWing.decapsulateSlice dk (XWingEncappedKey.val enc) = none
  | .mlKem768, enc, skR => MlKemPrivateKey.dk skR = none ∨ (MlKemEncappedKey.val enc).length ≠ 1088
  | .mlKem1024, enc, skR => MlKemPrivateKey.dk skR = none ∨ (MlKemEncappedKey.val enc).length ≠ 1568

theorem PqAlg.exists_raised (p : PqAlg) (enc : (p.kem c).EncappedKey) (skR : (p.kem c).PrivateKey) :
    (∃ e, p.Raised c enc skR e) ↔ p.Refuses c enc skR := by
  have h : ∀ {α : Type} (o : Option α) (P : Prop),
      (o = none ∨ (∃ a, o = some a) ∧ P) ↔ o = none ∨ P := by
    intro α o P
    cases o <;> simp
  cases p <;> simp [Raised, Refuses, exists_or, h]

theorem PqAlg.raises_decap (p : PqAlg) (enc : (p.kem c).EncappedKey) (skR : (p.kem c).PrivateKey) :
    Raises ((p.kem c).decap enc skR) (p.Raised c enc skR) :=
  match p with
  | .xWingDraft06 => xWing_decap_raises enc skR
  | .mlKem768 => mlKem_decap_raises enc skR
  | .mlKem1024 => mlKem_decap_raises enc skR

theorem PqAlg.encap_ok (p : PqAlg) (rng : R) (pkR : (p.kem c).PublicKey) :
    ∃ r, ((p.kem c).encap rng pkR).1 = .ok r := by
  cases p <;> exact ⟨_, rfl⟩

/-! ## Deriving key pairs -/

theorem shake256LabeledDerive_ok (shake : ShakeCrate) (suiteId ikm : Bytes) {n : ℕ}
    (hn : n < 65536) :
    ∃ seed, shake256LabeledDerive shake suiteId deriveKeyPairLabel ikm n = .ok seed := by
  have hl : deriveKeyPairLabel.length < 65536 := by decide
  rw [shake256LabeledDerive, tryIntoU16_of_lt hl, tryIntoU16_of_lt hn]
  exact ⟨_, rfl⟩

theorem PqAlg.deriveKeyPair_ok (p : PqAlg) (ikm : Bytes) :
    ∃ kp, (p.kem c).deriveKeyPair ikm = .ok kp := by
  cases p with
  | xWingDraft06 =>
    obtain ⟨seed, h⟩ :=
      shake256LabeledDerive_ok c.shake (kemSuiteId 0x647A) ikm (by decide : 32 < 65536)
    exact ⟨_, bind_eq_ok.mpr ⟨seed, h, rfl⟩⟩
  | mlKem768 =>
    obtain ⟨seed, h⟩ :=
      shake256LabeledDerive_ok c.shake (kemSuiteId 0x0041) ikm (by decide : 64 < 65536)
    exact ⟨_, bind_eq_ok.mpr ⟨seed, h, rfl⟩⟩
  | mlKem1024 =>
    obtain ⟨seed, h⟩ :=
      shake256LabeledDerive_ok c.shake (kemSuiteId 0x0042) ikm (by decide : 64 < 65536)
    exact ⟨_, bind_eq_ok.mpr ⟨seed, h, rfl⟩⟩

theorem labeledExpand_array {F : Kdf} (hF : F.Lawful) (suiteId label ikm info : Bytes) {n : ℕ}
    (hn : n ≤ 255 * F.hashLen) : ∃ bytes arr,
      labeledExpand F (labeledExtract F [] suiteId (ascii "dkp_prk") ikm) suiteId label info n =
        .ok bytes ∧
        (copyFromSlice (zeros n) 0 n bytes : Outcome (Arr n)) = .ok arr := by
  obtain ⟨bytes, h, -, hl⟩ := hF.labeledExpandPieces_ok suiteId label
    (hF.length_labeledExtract [] suiteId (ascii "dkp_prk") ikm) hn
    (by simp [maxExpandPieces] : 4 + [info].length ≤ _)
  exact ⟨bytes, ⟨bytes, hl⟩, (labeledExpand_eq_pieces _ _ _ _ _).trans h,
    copyFromSlice_all _ ⟨bytes, hl⟩⟩

/-- **Neither curve of RFC 7748 can fail to derive a key pair.** -/
theorem DhGroup.deriveKeyPair_ok (hc : c.HkdfDocumented) {g : DhGroup}
    (hg : g = .x25519 ∨ g = .x448) (ikm : Bytes) : ∃ kp, (g.kem c).deriveKeyPair ikm = .ok kp := by
  rcases hg with rfl | rfl
  · obtain ⟨bytes, arr, h, ha⟩ :=
      labeledExpand_array (KdfAlg.lawful hc .hkdfSha256) (kemSuiteId 0x0020)
        (ascii "sk") ikm [] (by decide : 32 ≤ 255 * 32)
    exact ⟨_, bind_eq_ok.mpr ⟨_, bind_eq_ok.mpr ⟨bytes, h, bind_eq_ok.mpr ⟨arr, ha, rfl⟩⟩, rfl⟩⟩
  · obtain ⟨bytes, arr, h, ha⟩ :=
      labeledExpand_array (KdfAlg.lawful hc .hkdfSha512) (kemSuiteId 0x0021)
        (ascii "sk") ikm [] (by decide : 56 ≤ 255 * 64)
    exact ⟨_, bind_eq_ok.mpr ⟨_, bind_eq_ok.mpr ⟨bytes, h, bind_eq_ok.mpr ⟨arr, ha, rfl⟩⟩, rfl⟩⟩

end Algs

end HpkeNg

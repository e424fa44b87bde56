import HpkeNg.Kem.Failure
import HpkeNg.Sample
import HpkeNg.Session.Binding

/-!
# When a setup fails

The key schedule always returns, so a setup fails as its KEM operation does.

* `SenderMode.raises_setup`, `ReceiverMode.raises_setup`;
* `SenderMode.raises_encap`, `ReceiverMode.raises_decap`: the KEM operations of a DHKEM;
* `setup_failsIff`: for every suite and mode, exactly when a setup fails.
-/

namespace HpkeNg

variable {R : Type} [CryptoRng R] {c : Crates R}

/-! ## A setup raises what its KEM operation raises -/

section Setup

variable {k : KemAlg} {p : HpkeError → Prop}

theorem SenderMode.raises_setup (hc : c.HkdfDocumented) (ha : c.AeadDocumented) {M : SenderMode c k}
    {rng : R} {pkR : (k.kem c).PublicKey} (h : Raises (M.encap rng pkR).1 p) (f : KdfAlg)
    (a : AeadAlg) (info : Bytes) :
    Raises (M.setup (f.kdf c) (a.aead c) rng pkR info).1 p := by
  rw [M.setup_eq]
  refine h.bind_ok fun r _ => ?_
  obtain ⟨ctx, hctx⟩ := (M.schedule ((k.kem c).ssAsRef r.1) info).run_isOk hc ha (k.kem c) f a
  exact ⟨_, bind_eq_ok.mpr ⟨ctx, hctx, rfl⟩⟩

theorem ReceiverMode.raises_setup (hc : c.HkdfDocumented) (ha : c.AeadDocumented)
    {M : ReceiverMode c k} {enc : (k.kem c).EncappedKey} {skR : (k.kem c).PrivateKey}
    (h : Raises (M.decap enc skR) p) (f : KdfAlg) (a : AeadAlg) (info : Bytes) :
    Raises (M.setup (f.kdf c) (a.aead c) enc skR info) p := by
  rw [M.setup_eq]
  refine h.bind_ok fun ss _ => ?_
  obtain ⟨ctx, hctx⟩ := (M.schedule ((k.kem c).ssAsRef ss) info).run_isOk hc ha (k.kem c) f a
  exact ⟨_, bind_eq_ok.mpr ⟨ctx, hctx, rfl⟩⟩

end Setup

/-! ## The KEM operations -/

section Operations

variable {g : DhGroup} {q : PqAlg}

theorem SenderMode.raises_encap (hc : c.HkdfDocumented) (hd : c.CurvesDocumented)
    (M : SenderMode c (.dhKem g)) (rng : R) (pkR : DhPublicKey (g.dh c)) :
    Raises (M.encap rng pkR).1 ((M.op rng pkR).Raised (g.rawDh c)) := by
  rw [M.encap_eq]
  exact DhOp.raises_run (g.kdf_lawful hc) (g.lawful hd) _ _

theorem ReceiverMode.raises_decap (hc : c.HkdfDocumented) (hd : c.CurvesDocumented)
    (M : ReceiverMode c (.dhKem g)) (enc : DhEncappedKey) (skR : DhPrivateKey (g.dh c)) :
    Raises (M.decap enc skR) ((M.op enc skR).Raised (g.rawDh c)) := by
  have h := DhOp.raises_run (g.kdf_lawful hc) (g.lawful hd) (g.rawDh c) (M.op enc skR)
  cases M <;> exact h.of_map

theorem SenderMode.encap_ok (M : SenderMode c (.pq q)) (rng : R) (pkR : (q.kem c).PublicKey) :
    ∃ r, (M.encap rng pkR).1 = .ok r := by
  cases M <;> exact q.encap_ok rng pkR

theorem ReceiverMode.raises_decap_pq (M : ReceiverMode c (.pq q)) (enc : (q.kem c).EncappedKey)
    (skR : (q.kem c).PrivateKey) : Raises (M.decap enc skR) (q.Raised c enc skR) := by
  cases M <;> exact q.raises_decap enc skR

end Operations

/-! ## Every suite and mode -/

/-- **When a setup fails.** The key schedule of every suite and mode returns a context, whatever its
inputs; so do the two shared-secret helpers of a DHKEM within their slot budget, and
`derive_key_pair` of X25519, X448 and the post-quantum KEMs. A sender's setup fails exactly when the
encapsulation is blocked by a DH output, never with a post-quantum KEM; a receiver's setup fails
exactly when `enc` does not parse or a DH output is zero, or when the stored post-quantum key or its
ciphertext is rejected. Nothing panics. -/
theorem setup_failsIff (hc : c.HkdfDocumented) (ha : c.AeadDocumented) (hd : c.CurvesDocumented)
    (f : KdfAlg) (a : AeadAlg) :
    (∀ (K : Kem R) (s : ScheduleCall), ∃ ctx, s.run K (f.kdf c) (a.aead c) = .ok ctx) ∧
    (∀ (g : DhGroup) (kemContext : List Bytes), 4 + kemContext.length ≤ maxExpandPieces →
      (∀ dh, ∃ ss, extractAndExpand (g.dh c) dh kemContext = .ok ss) ∧
      ∀ dhPieces, 3 + dhPieces.length ≤ maxExtractPieces →
        ∃ ss, extractAndExpandPieces (g.dh c) dhPieces kemContext = .ok ss) ∧
    (∀ ikm, (∃ kp, (DhGroup.x25519.kem c).deriveKeyPair ikm = .ok kp) ∧
      (∃ kp, (DhGroup.x448.kem c).deriveKeyPair ikm = .ok kp) ∧
      ∀ p : PqAlg, ∃ kp, (p.kem c).deriveKeyPair ikm = .ok kp) ∧
    (∀ (g : DhGroup) (M : SenderMode c (.dhKem g)) rng pkR info,
      FailsIff (M.setup (f.kdf c) (a.aead c) rng pkR info).1 ((M.op rng pkR).Blocked (g.rawDh c))) ∧
    (∀ (g : DhGroup) (M : ReceiverMode c (.dhKem g)) enc skR info,
      FailsIff (M.setup (f.kdf c) (a.aead c) enc skR info) ((M.op enc skR).Blocked (g.rawDh c))) ∧
    (∀ (p : PqAlg) (M : SenderMode c (.pq p)) rng pkR info,
      FailsIff (M.setup (f.kdf c) (a.aead c) rng pkR info).1 False) ∧
    ∀ (p : PqAlg) (M : ReceiverMode c (.pq p)) enc skR info,
      FailsIff (M.setup (f.kdf c) (a.aead c) enc skR info) (p.Refuses c enc skR) := by
  refine ⟨fun K s => s.run_isOk hc ha K f a, fun g kc hk => ⟨fun dh => ?_, fun dhs hds => ?_⟩,
    fun ikm => ⟨DhGroup.deriveKeyPair_ok hc (Or.inl rfl) ikm,
      DhGroup.deriveKeyPair_ok hc (Or.inr rfl) ikm,
      fun p => p.deriveKeyPair_ok ikm⟩, fun g M rng pkR info => ?_, fun g M enc skR info => ?_,
    fun p M rng pkR info => ?_, fun p M enc skR info => ?_⟩
  · rw [extractAndExpand_run (g.kdf_lawful hc) (g.lawful hd) dh hk]
    exact sharedSecretCall_ok (g.kdf_lawful hc) (g.lawful hd) _ _
  · rw [extractAndExpandPieces_run (g.kdf_lawful hc) (g.lawful hd) hds hk]
    exact sharedSecretCall_ok (g.kdf_lawful hc) (g.lawful hd) _ _
  · exact (M.raises_setup hc ha (M.raises_encap hc hd rng pkR) f a info).failsIff
      (DhOp.exists_raised _)
  · exact (M.raises_setup hc ha (M.raises_decap hc hd enc skR) f a info).failsIff
      (DhOp.exists_raised _)
  · obtain ⟨r, hr⟩ := M.encap_ok rng pkR
    have h : Raises (M.encap rng pkR).1 fun _ => False := hr ▸ .ok r
    exact (M.raises_setup hc ha h f a info).failsIff (by simp)
  · exact (M.raises_setup hc ha (M.raises_decap_pq enc skR) f a info).failsIff
      (p.exists_raised enc skR)

/-- An export-only sender with ML-KEM-768 and a PSK, which is never blocked, a receiver whose key
has been zeroized, and a receiver of X25519 on the point 0. -/
theorem setup_failsIff_mlKem768 :
    let F := KdfAlg.hkdfSha384.kdf Sample.crates
    let A := AeadAlg.exportOnly.aead Sample.crates
    let M : SenderMode Sample.crates (.pq .mlKem768) := .psk Sample.psk
    let M' : ReceiverMode Sample.crates (.pq .mlKem768) := .psk Sample.psk
    let Mx : ReceiverMode Sample.crates (.dhKem .x25519) := .base
    let kp := mlKemFromSeed Sample.crates.mlKem768 (zeros 64)
    let skx := ((DhGroup.x25519.dh Sample.crates).keyPair (7 : ℕ)).1
    FailsIff (M.setup F A (5 : ℕ) kp.2 (ascii "info")).1 False ∧
      (∀ enc, Fails (M'.setup F A enc kp.1.zeroize (ascii "info"))) ∧
      Fails (Mx.setup F A ⟨(zeros 32).1⟩ skx (ascii "info")) := by
  intro F A M M' Mx kp skx
  obtain ⟨-, -, -, -, hreceiver, hsender, hpq⟩ :=
    setup_failsIff Sample.hkdfDocumented Sample.aeadDocumented Sample.curvesDocumented .hkdfSha384
      .exportOnly
  refine ⟨hsender .mlKem768 M (5 : ℕ) kp.2 (ascii "info"), fun enc => ?_, ?_⟩
  · exact (hpq .mlKem768 M' enc kp.1.zeroize (ascii "info")).1.mpr (Or.inl rfl)
  · exact (hreceiver .x25519 Mx ⟨(zeros 32).1⟩ skx (ascii "info")).1.mpr
      (Or.inr ⟨_, rfl, Or.inl (Sample.x25519_zeros (X25519PrivateKey.val skx.sk))⟩)

end HpkeNg

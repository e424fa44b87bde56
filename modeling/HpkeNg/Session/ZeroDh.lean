import HpkeNg.Sample
import HpkeNg.Session.Failure

/-!
# No key comes from an all-zero DH output

* `DhOp.ZeroDh`: an operation would compute an all-zero DH output;
* `DhGroup.dhLen`, the length of a DH output;
* `zeroDh_refused`: no operation derives a secret from one, and no setup returns a context.
-/

namespace HpkeNg

variable {R : Type}

namespace DhOp

variable {D : DiffieHellman R}

/-- A DH output that the operation needs would be all zero, or the one it would compute next. -/
def ZeroDh (X : RawDh D) : DhOp D → Prop
  | .encap rng pkR skS => X.raw (D.generate rng).1.1 pkR.val = zeros X.len ∨
      ∃ sk ∈ skS, X.raw sk.sk pkR.val = zeros X.len
  | .decap enc skR pkS =>
    (∃ pkE, D.pkFromBytes enc.val = .ok pkE ∧ X.raw skR.sk pkE = zeros X.len) ∨
      ∃ pk ∈ pkS, X.raw skR.sk pk.val = zeros X.len

theorem ZeroDh.blocked (hD : D.Lawful) {X : RawDh D} {op : DhOp D} (h : op.ZeroDh X) :
    op.Blocked X := by
  cases op with
  | encap rng pkR skS => exact h
  | decap enc skR pkS =>
    rcases h with ⟨pkE, hE, h⟩ | h
    · exact Or.inr ⟨pkE, hE, Or.inl h⟩
    · by_cases hE : Fails (D.pkFromBytes enc.val)
      · exact Or.inl hE
      · obtain ⟨pkE, hE⟩ := (raises_pkFromBytes hD enc.val).isOk.mpr fun e he => hE he.2
        exact Or.inr ⟨pkE, hE, Or.inr h⟩

end DhOp

variable [CryptoRng R] {c : Crates R}

/-- The length of a DH output. -/
def DhGroup.dhLen : DhGroup → ℕ
  | .p256 => 32
  | .p384 => 48
  | .p521 => 66
  | .k256 => 32
  | .x25519 => 32
  | .x448 => 56

theorem DhGroup.rawDh_len (g : DhGroup) : (g.rawDh c).len = g.dhLen := by cases g <;> rfl

/-- **No key comes from an all-zero DH output.** A secret is derived from outputs of the full length
that are not all zero, in each of the four operations; and where one would be all zero, the
operation returns an error, and so does the setup in each of the four modes. -/
theorem zeroDh_refused (hc : c.HkdfDocumented) (ha : c.AeadDocumented) (hd : c.CurvesDocumented)
    (g : DhGroup) :
    (∀ (op : DhOp (g.dh c)) ss enc, op.run = .ok (ss, enc) → ∃ t, op.transcript = .ok t ∧
      (g.dh c).kdf.run (sharedSecretCall (g.dh c) t.outputs.flatten t.kemContext) = .ok ss.val ∧
      ∀ d ∈ t.outputs, d.length = g.dhLen ∧ d ≠ (zeros g.dhLen).1) ∧
    (∀ op : DhOp (g.dh c), op.ZeroDh (g.rawDh c) → Fails op.run) ∧
    (∀ (f : KdfAlg) (a : AeadAlg) (M : SenderMode c (.dhKem g)) rng pkR info,
      (M.op rng pkR).ZeroDh (g.rawDh c) → Fails (M.setup (f.kdf c) (a.aead c) rng pkR info).1) ∧
    ∀ (f : KdfAlg) (a : AeadAlg) (M : ReceiverMode c (.dhKem g)) enc skR info,
      (M.op enc skR).ZeroDh (g.rawDh c) → Fails (M.setup (f.kdf c) (a.aead c) enc skR info) := by
  have hF := g.kdf_lawful hc
  have hD := g.lawful hd
  refine ⟨fun op ss enc h => ?_, fun op h => ?_, fun f a M rng pkR info h => ?_,
    fun f a M enc skR info h => ?_⟩
  · obtain ⟨t, ht, hs, -⟩ := (DhOp.run_eq_ok hF hD).mp h
    refine ⟨t, ht, by rw [← t.dh_eq_flatten]; exact hs, fun d hd => ?_⟩
    obtain ⟨sk, pk, hdh⟩ := DhOp.transcript_outputs ht d hd
    rw [← g.rawDh_len (c := c)]
    exact (g.rawDh c).dh_ok_spec hdh
  · exact (DhOp.fails_run hF hD (g.rawDh c) op).mpr (h.blocked hD)
  · have hr := M.raises_setup hc ha (M.raises_encap hc hd rng pkR) f a info
    exact hr.fails.mpr ((DhOp.exists_raised _).mpr (h.blocked hD))
  · have hr := M.raises_setup hc ha (M.raises_decap hc hd enc skR) f a info
    exact hr.fails.mpr ((DhOp.exists_raised _).mpr (h.blocked hD))

/-- X25519 does not set up a session with the point 0. -/
theorem zeroDh_refused_x25519 :
    let M : SenderMode Sample.crates (.dhKem .x25519) := .psk Sample.psk
    let pkR : DhPublicKey (DhGroup.x25519.dh Sample.crates) := ⟨X25519PublicKey.mk (zeros 32)⟩
    (M.op (5 : ℕ) pkR).ZeroDh (DhGroup.x25519.rawDh Sample.crates) ∧
      Fails (M.setup (KdfAlg.hkdfSha256.kdf Sample.crates)
        ((AeadAlg.sealing .aes128Gcm).aead Sample.crates) (5 : ℕ) pkR (ascii "info")).1 := by
  intro M pkR
  have h0 : (M.op (5 : ℕ) pkR).ZeroDh (DhGroup.x25519.rawDh Sample.crates) :=
    Or.inl (Sample.x25519_zeros (X25519PrivateKey.val ((DhGroup.x25519.dh Sample.crates).generate (5 : ℕ)).1.1))
  exact ⟨h0, (zeroDh_refused Sample.hkdfDocumented Sample.aeadDocumented Sample.curvesDocumented
    .x25519).2.2.1 .hkdfSha256 _ M (5 : ℕ) pkR (ascii "info") h0⟩

end HpkeNg

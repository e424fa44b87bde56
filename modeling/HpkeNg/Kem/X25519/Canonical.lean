import HpkeNg.Kem.Transcript
import HpkeNg.Sample

/-!
# Wire forms of X25519 public keys

Loading a public key clears bit 255 and reduces nothing, so that a coordinate below 19 keeps two
forms.

* `p25519`, `wireU`, `decodeU`: the coordinate that a string denotes (RFC 7748, section 5);
* `mask25519_eq_iff`: what masking identifies;
* `wireU_eq_iff`: two strings with one coordinate, and their forms;
* `x25519_canonical_iff`: when two strings load as one key, and as the key its owner has;
  `x25519_two_forms`: two that do not.
-/

namespace HpkeNg

variable {R : Type}

/-- The prime of Curve25519. -/
def p25519 : ℕ := 2 ^ 255 - 19

/-- The number in the low 255 bits, least significant byte first. -/
def wireU (b : Bytes) : ℕ := os2ipLe b % 2 ^ 255

/-- The coordinate that a string denotes: `decodeUCoordinate`, reduced. -/
def decodeU (b : Bytes) : ℕ := wireU b % p25519

/-- A computed public key is the reduced coordinate. -/
def X25519Crate.Reduced (x : X25519Crate) : Prop := ∀ s, os2ipLe (x.publicKeyFrom s).1 < p25519

/-! ## Masking -/

theorem os2ipLe_mask (a : Arr 32) : os2ipLe (mask25519 a).1 = wireU a.1 := by
  rw [mask25519, Arr.modify_val, os2ipLe_clear_top a.2, wireU]
  rfl

theorem mask25519_eq_iff {a b : Arr 32} : mask25519 a = mask25519 b ↔ wireU a.1 = wireU b.1 := by
  rw [← os2ipLe_mask, ← os2ipLe_mask]
  constructor
  · intro h
    rw [h]
  · intro h
    exact Subtype.ext (os2ipLe_inj (by rw [(mask25519 a).2, (mask25519 b).2]) h)

theorem wireU_lt (b : Bytes) : wireU b < 2 ^ 255 := Nat.mod_lt _ (by decide)

theorem wireU_of_lt {b : Bytes} (h : os2ipLe b < p25519) : wireU b = os2ipLe b :=
  Nat.mod_eq_of_lt (h.trans (by decide))

theorem mask25519_of_lt {a : Arr 32} (h : os2ipLe a.1 < p25519) : mask25519 a = a := by
  apply Subtype.ext
  refine os2ipLe_inj (by rw [(mask25519 a).2, a.2]) ?_
  rw [os2ipLe_mask, wireU_of_lt h]

/-- **A coordinate has a reduced form, and at most one other.** -/
theorem wireU_eq_iff {b b' : Bytes} (h : decodeU b = decodeU b') :
    wireU b = wireU b' ↔ (wireU b < p25519 ↔ wireU b' < p25519) := by
  have hb := wireU_lt b
  have hb' := wireU_lt b'
  unfold decodeU at h
  unfold p25519 at h ⊢
  constructor
  · intro heq
    rw [heq]
  · intro hiff
    by_cases hlt : wireU b < 2 ^ 255 - 19
    · have hlt' := hiff.mp hlt
      rwa [Nat.mod_eq_of_lt hlt, Nat.mod_eq_of_lt hlt'] at h
    · have hge' := fun hlt' => hlt (hiff.mpr hlt')
      omega

/-! ## Loaded keys -/

theorem Sample.x25519_reduced : Sample.x25519.Reduced := by
  intro s
  have h2 : os2ipLe (Sample.publicKey25519 s).1 / 256 % 256 = 2 := Sample.byte_one_publicKey s
  have hm : (Sample.publicKey25519 s).modify 31 (· &&& 0x7F) = Sample.publicKey25519 s :=
    Sample.x25519_documented.publicKeyFrom_lt s
  have hlt : os2ipLe (Sample.publicKey25519 s).1 < 2 ^ 255 := by
    rw [← hm]
    exact (os2ipLe_mask (Sample.publicKey25519 s)).trans_lt (wireU_lt _)
  change os2ipLe (Sample.publicKey25519 s).1 < 2 ^ 255 - 19
  omega

section Load

variable {c : Crates R}

/-- **When two wire forms are one key.** Two strings that denote one coordinate load as public keys
that are folded into `kem_context` by the bytes they hold, and these are equal exactly when both
forms are reduced or neither is. The owner of the key folds the reduced form, so that a peer agrees
with it exactly when the peer was given a reduced form, bit 255 aside. -/
theorem x25519_canonical_iff [CryptoRng R] (hc : c.HkdfDocumented) (hr : c.x25519Dalek.Reduced)
    {b b' : Bytes} (hb : b.length = 32) (hb' : b'.length = 32) (hu : decodeU b = decodeU b') :
    let D := DhGroup.x25519.dh c
    ∃ pk pk' : DhPublicKey D, (dhKem D).pkFromBytes b = .ok pk ∧
      (dhKem D).pkFromBytes b' = .ok pk' ∧
      pk.FoldedAs (D.pkToBytes pk.val) ∧ pk'.FoldedAs (D.pkToBytes pk'.val) ∧
      (D.pkToBytes pk.val = D.pkToBytes pk'.val ↔ (wireU b < p25519 ↔ wireU b' < p25519)) ∧
      ∀ sk : DhPrivateKey D, (dhKem D).BuiltSk sk → decodeU sk.pkBytes = decodeU b →
        (∀ enc pkS, (DhOp.decap enc sk pkS).FoldsRecipient sk.pkBytes) ∧
        (∀ rng pkR, (DhOp.encap rng pkR (some sk)).FoldsSender sk.pkBytes) ∧
        (sk.pkBytes = D.pkToBytes pk.val ↔ wireU b < p25519) := by
  intro D
  have hF := DhGroup.x25519.kdf_lawful hc
  have hD := x25519_lawful c
  have hload : ∀ {b} (hb : b.length = 32), (dhKem D).pkFromBytes b =
      .ok ⟨X25519PublicKey.mk (mask25519 ⟨b, hb⟩)⟩ := fun hb =>
    bind_eq_ok.mpr ⟨_, x25519PkFromBytes_eq_ok.mpr ⟨⟨_, hb⟩, rfl, rfl⟩, rfl⟩
  refine ⟨_, _, hload hb, hload hb', DhPublicKey.foldedAs hF hD _, DhPublicKey.foldedAs hF hD _, ?_,
    ?_⟩
  · rw [← wireU_eq_iff hu, ← mask25519_eq_iff (a := ⟨b, hb⟩) (b := ⟨b', hb'⟩)]
    exact Subtype.ext_iff.symm
  · intro sk hsk hown
    refine ⟨fun enc pkS => DhOp.folds_recipient hF hD (.decap enc sk pkS),
      fun rng pkR => DhOp.folds_sender hF hD rfl, ?_⟩
    obtain ⟨o, ho, hlt⟩ : ∃ o : Arr 32, o.1 = sk.pkBytes ∧ os2ipLe o.1 < p25519 :=
      ⟨_, (pkBytes_of_builtSk hD hsk).symm, hr _⟩
    rw [← ho] at hown ⊢
    have hp : wireU o.1 < p25519 := (wireU_of_lt hlt).trans_lt hlt
    have heq : o.1 = (mask25519 ⟨b, hb⟩).1 ↔ wireU o.1 = wireU b := by
      rw [← mask25519_eq_iff (a := o) (b := ⟨b, hb⟩), mask25519_of_lt hlt]
      exact Subtype.ext_iff.symm
    exact heq.trans ((wireU_eq_iff hown).trans (iff_true_left hp))

/-- The base point and the unmasked form of it. -/
theorem x25519_canonical_iff_nine :
    let D := DhGroup.x25519.dh Sample.crates
    let b : Bytes := 9 :: (List.replicate 30 0 ++ [0x80])
    ∃ pk pk' : DhPublicKey D, (dhKem D).pkFromBytes (9 :: List.replicate 31 0) = .ok pk ∧
      (dhKem D).pkFromBytes b = .ok pk' ∧ D.pkToBytes pk.val = D.pkToBytes pk'.val := by
  intro D b
  have hu : decodeU (9 :: List.replicate 31 0) = decodeU b := by decide +kernel
  obtain ⟨pk, pk', h, h', -, -, hiff, -⟩ :=
    x25519_canonical_iff Sample.hkdfDocumented Sample.x25519_reduced rfl rfl hu
  exact ⟨pk, pk', h, h', hiff.mpr (by decide +kernel)⟩

/-- The coordinate 9, reduced and not. -/
def nine : Arr 32 := ⟨9 :: List.replicate 31 0, rfl⟩

/-- The bytes of `p + 9`. -/
def nineUnreduced : Arr 32 := ⟨0xF6 :: (List.replicate 30 0xFF ++ [0x7F]), rfl⟩

/-- **Two forms of one coordinate** that are loaded, folded and kept apart. -/
theorem x25519_two_forms :
    let D := DhGroup.x25519.dh Sample.crates
    decodeU nine.1 = decodeU nineUnreduced.1 ∧
      ∃ pk pk' : DhPublicKey D, (dhKem D).pkFromBytes nine.1 = .ok pk ∧
        (dhKem D).pkFromBytes nineUnreduced.1 = .ok pk' ∧
          D.pkToBytes pk.val ≠ D.pkToBytes pk'.val := by
  intro D
  refine ⟨by decide +kernel, ⟨X25519PublicKey.mk nine⟩, ⟨X25519PublicKey.mk nineUnreduced⟩, ?_, ?_, ?_⟩
  · exact bind_eq_ok.mpr ⟨_, x25519PkFromBytes_eq_ok.mpr ⟨nine, rfl, rfl⟩, rfl⟩
  · exact bind_eq_ok.mpr ⟨_, x25519PkFromBytes_eq_ok.mpr ⟨nineUnreduced, rfl, rfl⟩, rfl⟩
  · exact fun h => absurd h (by decide)

end Load

end HpkeNg

import HpkeNg.Kem.Failure
import HpkeNg.Sample.P256

/-!
# Keys that have been zeroized

A zeroized post-quantum key has lost its cached decapsulation key. A zeroized DHKEM key is the key
of a known scalar, next to the public key it had before.

* `DhUse`, a use of a private key, and `DhUse.Refused`, when the group rejects it;
* `nistCurve_zeroize`, `x25519_zeroize`, `x448_zeroize`: what DH computes with the replacement key;
* `zeroize_refused_iff`: which uses of a zeroized key fail;
* `zeroize_usable_p256`: a use that does not.
-/

namespace HpkeNg

variable {R : Type}

/-! ## The replacement keys -/

theorem modify_zeros {nsk : ℕ} (h : 0 < nsk) :
    (modifyAt (zeros nsk).1 (nsk - 1) fun _ => 1 : Outcome Bytes) = .ok (scalarOne nsk) := by
  obtain ⟨k, rfl⟩ := Nat.exists_eq_succ_of_ne_zero h.ne'
  have hl : k < (List.replicate (k + 1) (0 : UInt8)).length := by rw [List.length_replicate]; omega
  have hone : scalarOne (k + 1) = List.replicate k 0 ++ [1] := by
    rw [scalarOne, i2osp, i2osp_zero]
    rfl
  change (modifyAt (List.replicate (k + 1) 0) k _ : Outcome Bytes) = _
  rw [modifyAt, if_pos hl, List.modify_eq_take_cons_drop hl, List.take_replicate,
    List.drop_replicate, Nat.sub_self, Nat.min_eq_left (Nat.le_succ k), hone]
  rfl

section Nist

variable {nsk : ℕ} {crate : CurveCrate R nsk} {kdf : Kdf} {id : UInt16} {nsecret : ℕ}
  {bitmask : UInt8}

/-- The `X`-coordinate is zero. -/
def NistPublicKey.ZeroX (pk : NistPublicKey crate) : Prop :=
  (pk.encoded.drop 1).take nsk = (zeros nsk).1

instance (pk : NistPublicKey crate) : Decidable pk.ZeroX := by
  unfold NistPublicKey.ZeroX; infer_instance

/-- With the replacement key, DH returns the `X`-coordinate of the point. -/
theorem nistCurve_zeroize (hn : 0 < nsk) (h1 : crate.ScalarOne) (sk : NistPrivateKey crate) :
    ∃ s, NistPrivateKey.zeroize crate sk = .ok s ∧
      ∀ pk, Fails (nistDh crate s pk) ↔ pk.ZeroX := by
  obtain ⟨d, hd⟩ := Option.isSome_iff_exists.mp h1.fromSlice_isSome
  refine ⟨⟨d⟩, ?_, fun pk => ?_⟩
  · rw [NistPrivateKey.zeroize, modify_zeros hn, ok_bind, hd]
    rfl
  · have hx : (crate.diffieHellman d pk.pk).1 = (pk.encoded.drop 1).take nsk := by
      rw [h1.diffieHellman_eq hd, pk.encoded_eq]
    unfold nistDh NistPublicKey.ZeroX
    rw [← hx, ← Subtype.ext_iff]
    by_cases h : crate.diffieHellman d pk.pk = zeros nsk
    · rw [if_pos h]
      exact iff_of_true (fails_err _) h
    · rw [if_neg h]
      exact iff_of_false (not_fails_ok _) h

end Nist

/-- The replacement key is clamped at use, so DH rejects the points of small order only. -/
theorem x25519_zeroize {crate : X25519Crate} (h : crate.Contributory)
    (sk : X25519PrivateKey crate) :
    ∃ s, X25519PrivateKey.zeroize crate sk = .ok s ∧
      ∀ pk, Fails (x25519Dh crate s pk) ↔ isSmallOrder25519 pk.val := by
  refine ⟨_, rfl, fun pk => ?_⟩
  unfold x25519Dh
  rw [← h (crate.secretFrom (zeros 32)) pk.val]
  by_cases h0 : crate.diffieHellman (crate.secretFrom (zeros 32)) pk.val = zeros 32
  · rw [if_pos h0]
    exact iff_of_true (fails_err _) h0
  · rw [if_neg h0]
    exact iff_of_false (not_fails_ok _) h0

theorem x448_zeroize {crate : X448Crate} (h : crate.ZeroScalar) (sk : X448PrivateKey) :
    ∃ s, X448PrivateKey.zeroize sk = .ok s ∧ ∀ pk, Fails (x448Dh crate s pk) := by
  refine ⟨_, rfl, fun pk => ?_⟩
  unfold x448Dh x448ScalarMult
  rw [if_pos (h pk.val)]
  exact fails_err _

/-! ## Uses of a private key -/

/-- A use of a private key: the recipient's, with the sender's public key if authenticated, or the
sender's. -/
inductive DhUse (D : DiffieHellman R) : Type where
  | decap (enc : DhEncappedKey) (pkS : Option (DhPublicKey D))
  | authEncap (rng : R) (pkR : DhPublicKey D)

/-- The operation that uses the key `sk`. -/
def DhUse.op {D : DiffieHellman R} (sk : DhPrivateKey D) : DhUse D → DhOp D
  | .decap enc pkS => .decap enc sk pkS
  | .authEncap rng pkR => .encap rng pkR (some sk)

variable [CryptoRng R]

/-- The points that the replacement key of the group sends to zero. -/
def DhGroup.Annihilated (c : Crates R) : (g : DhGroup) → (g.dh c).PublicKey → Prop
  | .p256, pk => NistPublicKey.ZeroX pk
  | .p384, pk => NistPublicKey.ZeroX pk
  | .p521, pk => NistPublicKey.ZeroX pk
  | .k256, pk => NistPublicKey.ZeroX pk
  | .x25519, pk => isSmallOrder25519 (X25519PublicKey.val pk)
  | .x448, _ => True

variable {c : Crates R}

/-- A use is refused when `enc` does not parse, when a peer's point is annihilated, or when the
sender's ephemeral DH fails. -/
def DhUse.Refused (g : DhGroup) : DhUse (g.dh c) → Prop
  | .decap enc pkS => Fails ((g.dh c).pkFromBytes enc.val) ∨
      ∃ pkE, (g.dh c).pkFromBytes enc.val = .ok pkE ∧
        (g.Annihilated c pkE ∨ ∃ pk ∈ pkS, g.Annihilated c pk.val)
  | .authEncap rng pkR => Fails ((g.dh c).dh ((g.dh c).generate rng).1.1 pkR.val) ∨
      g.Annihilated c pkR.val

theorem DhGroup.skZeroize_spec (h : c.ReplacementDocumented) :
    ∀ (g : DhGroup) (sk : (g.dh c).PrivateKey),
    ∃ s, (g.dh c).skZeroize sk = .ok s ∧ ∀ pk, Fails ((g.dh c).dh s pk) ↔ g.Annihilated c pk
  | .p256, sk => nistCurve_zeroize (by decide) h.p256 sk
  | .p384, sk => nistCurve_zeroize (by decide) h.p384 sk
  | .p521, sk => nistCurve_zeroize (by decide) h.p521 sk
  | .k256, sk => nistCurve_zeroize (by decide) h.k256 sk
  | .x25519, sk => x25519_zeroize h.x25519Dalek sk
  | .x448, sk => by
    obtain ⟨s, hs, hf⟩ := x448_zeroize h.ed448Goldilocks sk
    exact ⟨s, hs, fun pk => iff_of_true (hf pk) trivial⟩

theorem DhUse.fails_iff (hc : c.HkdfDocumented) (hd : c.CurvesDocumented) {g : DhGroup}
    {sk : DhPrivateKey (g.dh c)} (h : ∀ pk, Fails ((g.dh c).dh sk.sk pk) ↔ g.Annihilated c pk)
    (use : DhUse (g.dh c)) : Fails (use.op sk).run ↔ use.Refused g := by
  have hz : ∀ pk, (g.rawDh c).raw sk.sk pk = zeros (g.rawDh c).len ↔ g.Annihilated c pk := by
    intro pk
    rw [← h pk, DhOp.fails_dh (X := g.rawDh c)]
  rw [DhOp.fails_run (g.kdf_lawful hc) (g.lawful hd) (g.rawDh c)]
  cases use with
  | decap enc pkS => simp only [DhUse.op, DhOp.Blocked, DhUse.Refused, hz]
  | authEncap rng pkR =>
    simp only [DhUse.op, DhOp.Blocked, DhUse.Refused, DhOp.fails_dh (X := g.rawDh c), hz,
      Option.mem_some_iff, exists_eq_left']

theorem DhUse.refused_x448 (use : DhUse (DhGroup.x448.dh c)) : use.Refused .x448 := by
  cases use with
  | authEncap rng pkR => exact Or.inr trivial
  | decap enc pkS =>
    cases h : (DhGroup.x448.dh c).pkFromBytes enc.val with
    | ok pkE => exact Or.inr ⟨pkE, h, Or.inl trivial⟩
    | error f =>
      obtain rfl := x448PkFromBytes_fault h
      exact Or.inl ⟨_, h⟩

/-- **Nothing secret is left**: a zeroized key is determined by the cached public key. -/
theorem DhGroup.zeroize_congr (g : DhGroup) {sk sk' : DhPrivateKey (g.dh c)}
    (h : sk.pkBytes = sk'.pkBytes) :
    (g.kem c).zeroize sk = (g.kem c).zeroize sk' := by
  obtain ⟨s, b⟩ := sk
  obtain ⟨s', b'⟩ := sk'
  obtain rfl : b = b' := h
  cases g <;> rfl

theorem PqAlg.zeroize_spec (p : PqAlg) (sk : (p.kem c).PrivateKey) :
    ∃ sk', (p.kem c).zeroize sk = .ok sk' ∧
      ∀ enc, (p.kem c).decap enc sk' = throwErr .decapError := by
  cases p <;> exact ⟨_, rfl, fun _ => rfl⟩

/-- **Which uses of a zeroized key fail.** The post-quantum KEMs refuse every decapsulation. A DHKEM
refuses exactly the uses that its group refuses: every one for X448, and for the other groups those
in which a peer's point does not parse or is annihilated by the replacement key. -/
theorem zeroize_refused_iff (hc : c.HkdfDocumented) (hd : c.CurvesDocumented)
    (hr : c.ReplacementDocumented) :
    (∀ (p : PqAlg) (sk : (p.kem c).PrivateKey),
      ∃ sk', (p.kem c).zeroize sk = .ok sk' ∧ ∀ enc, Fails ((p.kem c).decap enc sk')) ∧
    (∀ (g : DhGroup) (sk : DhPrivateKey (g.dh c)), ∃ sk', (g.kem c).zeroize sk = .ok sk' ∧
      ∀ use : DhUse (g.dh c), Fails (use.op sk').run ↔ use.Refused g) ∧
    ∀ use : DhUse (DhGroup.x448.dh c), use.Refused .x448 := by
  refine ⟨fun p sk => ?_, fun g sk => ?_, DhUse.refused_x448⟩
  · obtain ⟨sk', hz, h⟩ := p.zeroize_spec sk
    refine ⟨sk', hz, fun enc => ?_⟩
    rw [h enc]
    exact fails_err _
  · obtain ⟨s, hs, h⟩ := g.skZeroize_spec hr sk.sk
    exact ⟨⟨s, sk.pkBytes⟩, bind_eq_ok.mpr ⟨s, hs, rfl⟩, DhUse.fails_iff hc hd h⟩

/-- With P-256, a zeroized key decapsulates the base point. -/
theorem zeroize_usable_p256 :
    let K := DhGroup.p256.kem Sample.crates256
    ∃ sk sk' ss, K.skFromBytes (i2osp 32 2) = .ok sk ∧ K.zeroize sk = .ok sk' ∧
      K.decap ⟨Sample.P256.toSec1 Sample.P256.generator⟩ sk' = .ok ss := by
  intro K
  have h : (do
      let sk ← K.skFromBytes (i2osp 32 2)
      let sk' ← K.zeroize sk
      K.decap ⟨Sample.P256.toSec1 Sample.P256.generator⟩ sk').isOk = true := by decide +kernel
  obtain ⟨ss, h⟩ := isOk_iff.mp h
  obtain ⟨sk, hsk, h⟩ := bind_eq_ok.mp h
  obtain ⟨sk', hsk', h⟩ := bind_eq_ok.mp h
  exact ⟨sk, sk', ss, hsk, hsk', h⟩

/-- An authenticated decapsulation of the base point, which P-256 does not refuse. -/
theorem zeroize_refused_iff_p256 :
    let D := DhGroup.p256.dh Sample.crates256
    let g : DhPublicKey D := ⟨makePk Sample.P256.crate Sample.P256.generator⟩
    let use : DhUse D := .decap ⟨g.val.encoded⟩ (some g)
    ∃ sk', (DhGroup.p256.kem Sample.crates256).zeroize (D.keyPair (7 : ℕ)).1 = .ok sk' ∧
      ¬ use.Refused .p256 ∧ ¬ Fails (use.op sk').run := by
  intro D g use
  have hpk : D.pkFromBytes g.val.encoded = .ok g.val :=
    nistPkFromBytes_encoded Sample.P256.documented (makePk Sample.P256.crate Sample.P256.generator)
  have hx : ¬ NistPublicKey.ZeroX (makePk Sample.P256.crate Sample.P256.generator) := by
    decide +kernel
  have hr : ¬ use.Refused .p256 := by
    rintro (⟨e, he⟩ | ⟨pkE, hE, h | ⟨pk, hp, h⟩⟩)
    · cases hpk.symm.trans he
    · cases hpk.symm.trans hE
      exact hx h
    · cases hp
      exact hx h
  obtain ⟨sk', hz, h⟩ := (zeroize_refused_iff Sample.hkdfDocumented256 Sample.curvesDocumented256
    Sample.replacementDocumented256).2.1 .p256 (D.keyPair (7 : ℕ)).1
  exact ⟨sk', hz, hr, fun hf => hr ((h use).mp hf)⟩

end HpkeNg

import HpkeNg.Kem.PrimeOrder.Derive
import HpkeNg.Kem.Wire
import HpkeNg.Sample.P256
import HpkeNg.Session.Failure

/-!
# The lengths on the wire

* `DiffieHellman.Sized`, `Kem.Sized`: what is encoded has the advertised length, and nothing else is
  decoded; `KemAlg.sized`: so for the nine KEMs;
* `KemAlg.LoadsFrom`, `KemAlg.loads_iff`: which strings load as a private key;
* `SenderMode.encap_length`, `ReceiverMode.decap_length`: what the KEM operations of the modes
  return;
* `wire_lengths`: all of it.
-/

namespace HpkeNg

variable {R : Type}

/-! ## Lengths of a KEM -/

/-- The private keys of a group have the advertised length. -/
structure DiffieHellman.Sized (D : DiffieHellman R) : Prop where
  sk : ∀ sk, (D.skToBytes sk).length = D.privateKeyLen
  skFromBytes : ∀ {b : Bytes}, b.length ≠ D.privateKeyLen →
    D.skFromBytes b = throwErr .invalidPrivateKey

/-- Every key and encapsulated key has the advertised length, and bytes of another length are
refused with the error of their kind. -/
structure Kem.Sized (K : Kem R) : Prop where
  sk : ∀ sk, (K.skToBytes sk).length = K.privateKeyLen
  pk : ∀ {pk}, K.BuiltPk pk → K.pkAsRef pk = K.pkToBytes pk ∧
    (K.pkToBytes pk).length = K.publicKeyLen
  enc : ∀ {enc}, K.BuiltEnc enc → (K.encAsRef enc).length = K.encappedKeyLen
  skFromBytes : ∀ {b : Bytes}, b.length ≠ K.privateKeyLen →
    K.skFromBytes b = throwErr .invalidPrivateKey
  pkFromBytes : ∀ {b : Bytes}, b.length ≠ K.publicKeyLen →
    K.pkFromBytes b = throwErr .invalidPublicKey
  encFromBytes : ∀ {b : Bytes}, b.length ≠ K.encappedKeyLen →
    K.encFromBytes b = throwErr .invalidEncappedKey
  encFromBytes_ok : ∀ {b : Bytes}, b.length = K.encappedKeyLen → ∃ enc, K.encFromBytes b = .ok enc

section Built

variable {K : Kem R}

theorem Kem.BuiltPk.of_seed {σ : Type} (fromSeed : σ → K.PrivateKey × K.PublicKey)
    (hgen : ∀ rng, ∃ seed, (K.generate rng).1 = .ok (fromSeed seed))
    (hder : ∀ {ikm kp}, K.deriveKeyPair ikm = .ok kp → ∃ seed, fromSeed seed = kp)
    {pk : K.PublicKey} (h : K.BuiltPk pk) :
    (∃ seed, (fromSeed seed).2 = pk) ∨ ∃ b, K.pkFromBytes b = .ok pk := by
  cases h with
  | @generate rng rng' sk _ h =>
    obtain ⟨seed, hs⟩ := hgen rng
    rw [h] at hs
    exact Or.inl ⟨seed, congrArg Prod.snd (Except.ok.inj hs).symm⟩
  | derive h =>
    obtain ⟨seed, hs⟩ := hder h
    exact Or.inl ⟨seed, congrArg Prod.snd hs⟩
  | @load b _ h => exact Or.inr ⟨b, h⟩

theorem Kem.BuiltEnc.length {wrap : Bytes → K.EncappedKey} (hwrap : ∀ b, K.encAsRef (wrap b) = b)
    (hload : ∀ b, K.encFromBytes b =
      if b.length ≠ K.encappedKeyLen then throwErr .invalidEncappedKey else return wrap b)
    (hencap : ∀ {rng pkR ss enc}, (K.encap rng pkR).1 = .ok (ss, enc) →
      (K.encAsRef enc).length = K.encappedKeyLen) {enc : K.EncappedKey} (h : K.BuiltEnc enc) :
    (K.encAsRef enc).length = K.encappedKeyLen := by
  cases h with
  | encap h => exact hencap (congrArg Prod.fst h)
  | @load b _ h =>
    rw [hload] at h
    obtain ⟨hb, rfl⟩ := guard_eq_ok.mp h
    rw [hwrap]
    exact not_not.mp hb

end Built

section DhKem

variable {D : DiffieHellman R}

theorem DiffieHellman.Lawful.pkFromBytes_of_length (hD : D.Lawful) {b : Bytes}
    (hb : b.length ≠ D.publicKeyLen) :
    D.pkFromBytes b = throwErr .invalidPublicKey := by
  cases h : D.pkFromBytes b with
  | ok pk => exact absurd (hD.length_of_pkFromBytes h) hb
  | error f => rw [hD.pkFromBytes_fault h]

theorem dhKem_sized (hD : D.Lawful) (hs : D.Sized) : (dhKem D).toKem.Sized where
  sk sk := hs.sk sk.sk
  pk {pk} _ := ⟨hD.pkAsRef_eq pk.val, hD.length_pkToBytes pk.val⟩
  enc h := by
    refine h.length (fun _ => rfl) (fun _ => rfl) fun {rng pkR ss enc} he => ?_
    obtain rfl := encapWith_enc he
    exact hD.length_pkToBytes _
  skFromBytes {b} hb := by
    change (D.skFromBytes b >>= _) = _
    rw [hs.skFromBytes hb]
    rfl
  pkFromBytes {b} hb := by
    change (D.pkFromBytes b >>= _) = _
    rw [hD.pkFromBytes_of_length hb]
    rfl
  encFromBytes {b} hb := if_pos hb
  encFromBytes_ok {b} hb := ⟨⟨b⟩, if_neg (not_not.mpr hb)⟩

theorem nistCurve_sized {nsk : ℕ} {crate : CurveCrate R nsk} {kdf : Kdf} {id : UInt16} {nsecret : ℕ}
    {bitmask : UInt8} : (nistCurve crate kdf id nsecret bitmask).Sized where
  sk sk := (crate.toBytes (NistPrivateKey.val sk)).2
  skFromBytes hb := if_pos hb

theorem DhOp.length_run (hF : D.kdf.Lawful) (hD : D.Lawful) {op : DhOp D}
    {ss : DhSharedSecret} {enc : DhEncappedKey} (h : op.run = .ok (ss, enc)) :
    ss.val.length = D.sharedSecretLen := by
  obtain ⟨t, -, hss, -⟩ := (DhOp.run_eq_ok hF hD).mp h
  exact hF.length_expand hss

theorem PrimeGroup.loads_iff {c : Crates R} {g : PrimeGroup} (hs : (g.crate c).Scalars g.order)
    (b : Bytes) :
    (∃ sk, (dhKem (g.dh c)).skFromBytes b = .ok sk) ↔
      b.length = g.nsk ∧ ∀ g' ∈ some g, Rfc9180.IsScalar (PrimeGroup.order g') b := by
  simp only [Option.mem_some_iff, forall_eq']
  constructor
  · rintro ⟨sk, h⟩
    obtain ⟨s, hs', -⟩ := bind_eq_ok.mp h
    obtain ⟨hl, hf⟩ := nistSkFromBytes_eq_ok.mp hs'
    exact ⟨hl, (hs.fromSlice_isSome hl).mp (Option.isSome_iff_exists.mpr ⟨_, hf⟩)⟩
  · rintro ⟨hl, hsc⟩
    obtain ⟨s, hf⟩ := Option.isSome_iff_exists.mp ((hs.fromSlice_isSome hl).mpr hsc)
    exact ⟨_, bind_eq_ok.mpr ⟨⟨s⟩, nistSkFromBytes_eq_ok.mpr ⟨hl, hf⟩, rfl⟩⟩

end DhKem

variable [CryptoRng R] {c : Crates R}

theorem DhGroup.sized (c : Crates R) : ∀ g : DhGroup, (g.dh c).Sized
  | .p256 | .p384 | .p521 | .k256 => nistCurve_sized
  | .x25519 => ⟨fun sk => (c.x25519Dalek.toBytes (X25519PrivateKey.val sk)).2, fun hb => if_pos hb⟩
  | .x448 => ⟨fun sk => (X448PrivateKey.val sk).2, fun hb => if_pos hb⟩

theorem xWing_sized (c : Crates R) : (xWingDraft06 c).Sized where
  sk sk := (XWingPrivateKey.seed sk).2
  pk {pk} h := by
    refine ⟨rfl, ?_⟩
    rcases h.of_seed (keypairFromSeed c.xWing) (fun rng => ⟨_, rfl⟩)
      (fun h => (bind_eq_ok.mp h).imp fun seed hs => Except.ok.inj hs.2) with ⟨seed, rfl⟩ | ⟨b, h⟩
    · exact (c.xWing.toBytes _).2
    · obtain ⟨hl, rfl, -⟩ := xWingPkFromBytes_eq_ok.mp h
      exact hl
  enc h := by
    refine h.length (fun _ => rfl) (fun _ => rfl) fun {rng pkR ss enc} he => ?_
    obtain ⟨-, rfl⟩ := Prod.mk.inj (Except.ok.inj he)
    exact (c.xWing.encapsulateWithRng rng _).1.1.2
  skFromBytes hb := if_pos hb
  pkFromBytes hb := if_pos hb
  encFromBytes hb := if_pos hb
  encFromBytes_ok {b} hb := ⟨⟨b⟩, if_neg (not_not.mpr hb)⟩

theorem mlKem_sized {nek nct : ℕ} (c : Crates R) (crate : MlKemCrate R nek nct) (id : UInt16) :
    (mlKem c crate id).Sized where
  sk sk := (MlKemPrivateKey.seed sk).2
  pk {pk} h := by
    refine ⟨rfl, ?_⟩
    rcases h.of_seed (mlKemFromSeed crate) (fun rng => ⟨_, rfl⟩)
      (fun h => (bind_eq_ok.mp h).imp fun seed hs => Except.ok.inj hs.2) with ⟨seed, rfl⟩ | ⟨b, h⟩
    · exact (crate.toBytes _).2
    · obtain ⟨ekBytes, hb, hpk, -⟩ := mlKemPkFromBytes_eq_ok.mp h
      exact (congrArg List.length (hpk.trans hb.symm)).trans ekBytes.2
  enc h := by
    refine h.length (fun _ => rfl) (fun _ => rfl) fun {rng pkR ss enc} he => ?_
    obtain ⟨-, rfl⟩ := Prod.mk.inj (Except.ok.inj he)
    exact (crate.encapsulateWithRng rng _).1.1.2
  skFromBytes hb := if_pos hb
  pkFromBytes hb := if_pos hb
  encFromBytes hb := if_pos hb
  encFromBytes_ok {b} hb := ⟨⟨b⟩, if_neg (not_not.mpr hb)⟩

/-- **The nine KEMs keep their lengths.** -/
theorem KemAlg.sized (hd : c.CurvesDocumented) : ∀ k : KemAlg, (k.kem c).Sized
  | .dhKem g => dhKem_sized (g.lawful hd) (g.sized c)
  | .pq .xWingDraft06 => xWing_sized c
  | .pq .mlKem768 => mlKem_sized c c.mlKem768 0x0041
  | .pq .mlKem1024 => mlKem_sized c c.mlKem1024 0x0042

/-! ## Private keys -/

/-- The group of `nist_curve!`, if the KEM has one. -/
def KemAlg.primeGroup? : KemAlg → Option PrimeGroup
  | .dhKem .p256 => some .p256
  | .dhKem .p384 => some .p384
  | .dhKem .p521 => some .p521
  | .dhKem .k256 => some .k256
  | .dhKem .x25519 | .dhKem .x448 | .pq _ => none

/-- The strings that are private keys: the scalars of a prime-order group, and every string of the
right length for the other KEMs. -/
def KemAlg.LoadsFrom (c : Crates R) (k : KemAlg) (b : Bytes) : Prop :=
  b.length = (k.kem c).privateKeyLen ∧ ∀ g ∈ k.primeGroup?, Rfc9180.IsScalar g.order b

/-- **Which strings load as a private key.** -/
theorem KemAlg.loads_iff (hd : c.CurvesDocumented) (k : KemAlg)
    (hk : ∀ g ∈ k.primeGroup?, (g.crate c).Scalars g.order) (b : Bytes) :
    (∃ sk, (k.kem c).skFromBytes b = .ok sk) ↔ k.LoadsFrom c b := by
  -- outside the prime-order groups only the length counts
  have hlen : (b.length = (k.kem c).privateKeyLen → ∃ sk, (k.kem c).skFromBytes b = .ok sk) →
      k.primeGroup? = none → ((∃ sk, (k.kem c).skFromBytes b = .ok sk) ↔ k.LoadsFrom c b) := by
    intro hok hnone
    refine ⟨fun ⟨sk, h⟩ => ⟨?_, ?_⟩, fun h => hok h.1⟩
    · by_contra hb
      cases h.symm.trans ((k.sized hd).skFromBytes hb)
    · rw [hnone]
      rintro g ⟨⟩
  rcases k with (_ | _ | _ | _ | _ | _) | (_ | _ | _)
  · exact PrimeGroup.loads_iff (hk .p256 rfl) b
  · exact PrimeGroup.loads_iff (hk .p384 rfl) b
  · exact PrimeGroup.loads_iff (hk .p521 rfl) b
  · exact PrimeGroup.loads_iff (hk .k256 rfl) b
  · exact hlen (fun hb => ⟨_,
      bind_eq_ok.mpr ⟨_, x25519SkFromBytes_eq_ok.mpr ⟨⟨b, hb⟩, rfl, rfl⟩, rfl⟩⟩) rfl
  · exact hlen (fun hb => ⟨_,
      bind_eq_ok.mpr ⟨_, x448SkFromBytes_eq_ok.mpr ⟨⟨b, hb⟩, rfl, rfl⟩, rfl⟩⟩) rfl
  · exact hlen (fun hb => ⟨_, xWingSkFromBytes_eq_ok.mpr ⟨⟨b, hb⟩, rfl, rfl⟩⟩) rfl
  · exact hlen (fun hb => ⟨_, mlKemSkFromBytes_eq_ok.mpr ⟨⟨b, hb⟩, rfl, rfl⟩⟩) rfl
  · exact hlen (fun hb => ⟨_, mlKemSkFromBytes_eq_ok.mpr ⟨⟨b, hb⟩, rfl, rfl⟩⟩) rfl

/-! ## What a KEM operation returns -/

/-- The length of a shared secret. -/
def KemAlg.sharedSecretLen (c : Crates R) : KemAlg → ℕ
  | .dhKem g => (g.dh c).sharedSecretLen
  | .pq _ => 32

section Operations

variable {k : KemAlg} (hc : c.HkdfDocumented) (hd : c.CurvesDocumented)
include hc hd

theorem SenderMode.encap_length {M : SenderMode c k} {rng : R} {pkR ss enc}
    (h : (M.encap rng pkR).1 = .ok (ss, enc)) :
    ((k.kem c).ssAsRef ss).length = k.sharedSecretLen c ∧
      ((k.kem c).encAsRef enc).length = (k.kem c).encappedKeyLen := by
  cases k with
  | dhKem g =>
    have hrun : (M.op rng pkR).run = .ok (ss, enc) := M.encap_eq rng pkR ▸ h
    refine ⟨DhOp.length_run (g.kdf_lawful hc) (g.lawful hd) hrun, ?_⟩
    obtain rfl : enc = ⟨(g.dh c).pkToBytes ((g.dh c).generate rng).1.2⟩ := by
      cases M <;> exact encapWith_enc h
    exact (g.lawful hd).length_pkToBytes _
  | pq q =>
    have henc : ((q.kem c).encap rng pkR).1 = .ok (ss, enc) := by
      cases M <;> exact h
    refine ⟨?_, ((KemAlg.pq q).sized hd).enc (.encap (Prod.ext henc rfl))⟩
    cases q with
    | xWingDraft06 => exact (XWingSharedSecret.val ss).2
    | mlKem768 => exact (MlKemSharedSecret.val ss).2
    | mlKem1024 => exact (MlKemSharedSecret.val ss).2

theorem ReceiverMode.decap_length {M : ReceiverMode c k} {enc skR ss}
    (h : M.decap enc skR = .ok ss) :
    ((k.kem c).ssAsRef ss).length = k.sharedSecretLen c := by
  cases k with
  | dhKem g => exact DhOp.length_run (g.kdf_lawful hc) (g.lawful hd) (ReceiverMode.run_op h)
  | pq q =>
    cases q with
    | xWingDraft06 => exact (XWingSharedSecret.val ss).2
    | mlKem768 => exact (MlKemSharedSecret.val ss).2
    | mlKem1024 => exact (MlKemSharedSecret.val ss).2

end Operations

/-- **The lengths on the wire.** For every KEM: a private key in anyone's hands, a public key or
encapsulated key that a constructor returned, and what the KEM operations of all modes return, have
the advertised lengths; bytes of another length are refused with the error of their kind; an
encapsulated key is accepted at the right length, and a private key exactly when it is a scalar, or
of the right length. -/
theorem wire_lengths (hc : c.HkdfDocumented) (hd : c.CurvesDocumented) (k : KemAlg)
    (hk : ∀ g ∈ k.primeGroup?, (g.crate c).Scalars g.order) :
    (k.kem c).Sized ∧ (∀ b, (∃ sk, (k.kem c).skFromBytes b = .ok sk) ↔ k.LoadsFrom c b) ∧
    (∀ (M : SenderMode c k) rng pkR ss enc, (M.encap rng pkR).1 = .ok (ss, enc) →
      ((k.kem c).ssAsRef ss).length = k.sharedSecretLen c ∧
        ((k.kem c).encAsRef enc).length = (k.kem c).encappedKeyLen) ∧
    ∀ (M : ReceiverMode c k) enc skR ss, M.decap enc skR = .ok ss →
      ((k.kem c).ssAsRef ss).length = k.sharedSecretLen c :=
  ⟨k.sized hd, k.loads_iff hd hk, fun _ _ _ _ _ => SenderMode.encap_length hc hd,
    fun _ _ _ _ => ReceiverMode.decap_length hc hd⟩

/-- With P-256, the 32 bytes of the number 2 load as a private key, and an encapsulated key of 64
bytes is refused. -/
theorem wire_lengths_p256 :
    let K := (KemAlg.dhKem .p256).kem Sample.crates256
    (∃ sk, K.skFromBytes (i2osp 32 2) = .ok sk) ∧
      K.encFromBytes (zeros 64).1 = throwErr .invalidEncappedKey := by
  intro K
  have hk : ∀ g ∈ (KemAlg.dhKem .p256).primeGroup?, (g.crate Sample.crates256).Scalars g.order := by
    rintro _ ⟨⟩
    exact Sample.P256.scalars
  obtain ⟨hsized, hloads, -⟩ :=
    wire_lengths Sample.hkdfDocumented256 Sample.curvesDocumented256 (.dhKem .p256) hk
  refine ⟨(hloads _).mpr ⟨rfl, ?_⟩, hsized.encFromBytes (by decide : 64 ≠ 1 + 2 * 32)⟩
  rintro _ ⟨⟩
  decide +kernel

end HpkeNg

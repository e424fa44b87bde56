import HpkeNg.Kem.Wire

/-!
# The two ends of a KEM

* `KemAlg.publicKey`, `KemAlg.KeyPair`: the matching public key, and the key pairs a caller can
  hold;
* `KemAlg.KeyPair.spec`: in all of them, the public key is that of the private key;
* `dhKem_decap_encap`, `dhKem_authDecap_authEncap`, `KemAlg.decap_encap`: the recipient computes the
  sender's shared secret.
-/

namespace HpkeNg

variable {R : Type}

/-! ## Encapsulation and decapsulation -/

section DhKem

variable {D : DiffieHellman R}

/-- What both parties compute: the recipient parses the ephemeral key, and their DH outputs
agree. -/
theorem ephemeral_agrees (hD : D.Lawful) (hr : D.RoundTrips) (hx : D.Commutes) (rng : R)
    (sk : D.PrivateKey) :
    D.pkFromBytes (D.pkToBytes (D.generate rng).1.2) = .ok (D.generate rng).1.2 ∧
      D.dh sk (D.generate rng).1.2 = D.dh (D.generate rng).1.1 (D.skToPk sk) := by
  rw [hD.generate_pk]
  exact ⟨hr.pkFromBytes_pkToBytes (.computed _), hx _ _⟩

theorem dhKem_decap_encap (hD : D.Lawful) (hr : D.RoundTrips) (hx : D.Commutes) {rng : R}
    {skR : DhPrivateKey D} (hb : (dhKem D).BuiltSk skR) {ss enc}
    (h : ((dhKem D).encap rng (DhPublicKey.mk (D.skToPk skR.sk))).1 = .ok (ss, enc)) :
    (dhKem D).decap enc skR = .ok ss := by
  obtain ⟨dh1, h1, h⟩ := bind_eq_ok.mp h
  obtain ⟨s, hs, h⟩ := bind_eq_ok.mp h
  obtain ⟨rfl, rfl⟩ := Prod.mk.inj (Except.ok.inj h)
  obtain ⟨hE, hdh⟩ := ephemeral_agrees hD hr hx rng skR.sk
  have hpk : skR.pkBytes = D.pkAsRef (D.skToPk skR.sk) :=
    (pkBytes_of_builtSk hD hb).trans (hD.pkAsRef_eq _).symm
  rw [← hdh] at h1
  refine bind_eq_ok.mpr ⟨_, hE, bind_eq_ok.mpr ⟨dh1, h1, bind_eq_ok.mpr ⟨s, ?_, rfl⟩⟩⟩
  rw [hpk]
  exact hs

theorem dhKem_authDecap_authEncap (hD : D.Lawful) (hr : D.RoundTrips) (hx : D.Commutes) {rng : R}
    {skR skS : DhPrivateKey D} (hb : (dhKem D).BuiltSk skR) (hb' : (dhKem D).BuiltSk skS) {ss enc}
    (h : ((dhKem D).authEncap rng (DhPublicKey.mk (D.skToPk skR.sk)) skS).1 = .ok (ss, enc)) :
    (dhKem D).authDecap enc skR (DhPublicKey.mk (D.skToPk skS.sk)) = .ok ss := by
  obtain ⟨dh1, h1, h⟩ := bind_eq_ok.mp h
  obtain ⟨dh2, h2, h⟩ := bind_eq_ok.mp h
  obtain ⟨s, hs, h⟩ := bind_eq_ok.mp h
  obtain ⟨rfl, rfl⟩ := Prod.mk.inj (Except.ok.inj h)
  obtain ⟨hE, hdh⟩ := ephemeral_agrees hD hr hx rng skR.sk
  have hpk : skR.pkBytes = D.pkAsRef (D.skToPk skR.sk) :=
    (pkBytes_of_builtSk hD hb).trans (hD.pkAsRef_eq _).symm
  have hpk' : skS.pkBytes = D.pkAsRef (D.skToPk skS.sk) :=
    (pkBytes_of_builtSk hD hb').trans (hD.pkAsRef_eq _).symm
  rw [← hdh] at h1
  rw [hx skS.sk skR.sk] at h2
  refine bind_eq_ok.mpr ⟨_, hE,
    bind_eq_ok.mpr ⟨dh1, h1, bind_eq_ok.mpr ⟨dh2, h2, bind_eq_ok.mpr ⟨s, ?_, rfl⟩⟩⟩⟩
  rw [hpk, ← hpk']
  exact hs

end DhKem

/-! ## Key pairs -/

variable [CryptoRng R]

/-- The public key of a private key. -/
def KemAlg.publicKey (c : Crates R) : (k : KemAlg) → (k.kem c).PrivateKey → (k.kem c).PublicKey
  | .dhKem g, sk => DhPublicKey.mk ((g.dh c).skToPk (DhPrivateKey.sk sk))
  | .pq .xWingDraft06, sk => (keypairFromSeed c.xWing (XWingPrivateKey.seed sk)).2
  | .pq .mlKem768, sk => (mlKemFromSeed c.mlKem768 (MlKemPrivateKey.seed sk)).2
  | .pq .mlKem1024, sk => (mlKemFromSeed c.mlKem1024 (MlKemPrivateKey.seed sk)).2

/-- A key pair: generated, derived, or loaded with the matching public key, each key possibly
encoded and decoded afterwards. -/
inductive KemAlg.KeyPair (c : Crates R) (k : KemAlg) :
    (k.kem c).PrivateKey → (k.kem c).PublicKey → Prop
  | generate {rng rng' sk pk} (h : (k.kem c).generate rng = (.ok (sk, pk), rng')) :
    KeyPair c k sk pk
  | derive {ikm sk pk} (h : (k.kem c).deriveKeyPair ikm = .ok (sk, pk)) : KeyPair c k sk pk
  | load {b sk} (h : (k.kem c).skFromBytes b = .ok sk) : KeyPair c k sk (k.publicKey c sk)
  | reloadSk {sk sk' pk} (h : KeyPair c k sk pk)
      (hs : (k.kem c).skFromBytes ((k.kem c).skToBytes sk) = .ok sk') : KeyPair c k sk' pk
  | reloadPk {sk pk pk'} (h : KeyPair c k sk pk)
      (hp : (k.kem c).pkFromBytes ((k.kem c).pkToBytes pk) = .ok pk') : KeyPair c k sk pk'

variable {c : Crates R}

theorem KemAlg.publicKey_generate (hd : c.CurvesDocumented) (k : KemAlg) {rng rng' sk pk}
    (h : (k.kem c).generate rng = (.ok (sk, pk), rng')) : pk = k.publicKey c sk := by
  rcases k with g | _ | _ | _
  · obtain ⟨rfl, rfl⟩ := Prod.mk.inj (Except.ok.inj (Prod.mk.inj h).1)
    exact congrArg DhPublicKey.mk ((g.lawful hd).generate_pk rng)
  all_goals
    obtain ⟨rfl, rfl⟩ := Prod.mk.inj (Except.ok.inj (Prod.mk.inj h).1)
    rfl

theorem KemAlg.publicKey_derive (hd : c.CurvesDocumented) (k : KemAlg) {ikm sk pk}
    (h : (k.kem c).deriveKeyPair ikm = .ok (sk, pk)) : pk = k.publicKey c sk := by
  rcases k with g | _ | _ | _
  · obtain ⟨⟨s, p⟩, hs, h⟩ := bind_eq_ok.mp h
    obtain ⟨rfl, rfl⟩ := Prod.mk.inj (Except.ok.inj h)
    exact congrArg DhPublicKey.mk ((g.lawful hd).derive_pk hs)
  all_goals
    obtain ⟨seed, -, h⟩ := bind_eq_ok.mp h
    obtain ⟨rfl, rfl⟩ := Prod.mk.inj (Except.ok.inj h)
    rfl

theorem KemAlg.parse_publicKey (hd : c.CurvesDocumented) (hp : c.PqDocumented) :
    ∀ (k : KemAlg) (sk : (k.kem c).PrivateKey),
      (k.kem c).pkFromBytes ((k.kem c).pkToBytes (k.publicKey c sk)) = .ok (k.publicKey c sk)
  | .dhKem g, _ => bind_eq_ok.mpr ⟨_, (g.roundTrips hd).pkFromBytes_pkToBytes (.computed _), rfl⟩
  | .pq .xWingDraft06, _ => xWing_parse_seed hp.xWing _
  | .pq .mlKem768, _ => mlKem_parse_seed hp.mlKem768 _
  | .pq .mlKem1024, _ => mlKem_parse_seed hp.mlKem1024 _

/-- **In every key pair the public key is that of the private key**, which a constructor
returned. -/
theorem KemAlg.KeyPair.spec (hd : c.CurvesDocumented) (hp : c.PqDocumented) {k : KemAlg} {sk pk}
    (h : k.KeyPair c sk pk) : (k.kem c).BuiltSk sk ∧ pk = k.publicKey c sk := by
  induction h with
  | generate h => exact ⟨.generate h, k.publicKey_generate hd h⟩
  | derive h => exact ⟨.derive h, k.publicKey_derive hd h⟩
  | load h => exact ⟨.load h, rfl⟩
  | reloadSk h hs ih =>
    obtain ⟨hb, rfl⟩ := ih
    -- the key is decoded back from its encoding
    obtain rfl := Except.ok.inj ((k.roundTrips hd hp).sk hb |>.symm.trans hs)
    exact ⟨hb, rfl⟩
  | reloadPk h hp' ih =>
    obtain ⟨hb, rfl⟩ := ih
    obtain rfl := Except.ok.inj ((k.parse_publicKey hd hp _).symm.trans hp')
    exact ⟨hb, rfl⟩

/-! ## The nine KEMs -/

theorem xWing_decap_encap (hq : c.xWing.Correct) {rng : R} (seed : Arr 32) {ss enc}
    (h : ((xWingDraft06 c).encap rng (keypairFromSeed c.xWing seed).2).1 = .ok (ss, enc)) :
    (xWingDraft06 c).decap enc (keypairFromSeed c.xWing seed).1 = .ok ss := by
  obtain ⟨rfl, rfl⟩ := Prod.mk.inj (Except.ok.inj h)
  exact bind_eq_ok.mpr ⟨_, rfl, bind_eq_ok.mpr ⟨_, okOr_eq_ok.mpr (hq rng _), rfl⟩⟩

theorem mlKem_decap_encap {nek nct : ℕ} {crate : MlKemCrate R nek nct} {id : UInt16}
    (hq : crate.Correct) {rng : R} (seed : Arr 64) {ss enc}
    (h : ((mlKem c crate id).encap rng (mlKemFromSeed crate seed).2).1 = .ok (ss, enc)) :
    (mlKem c crate id).decap enc (mlKemFromSeed crate seed).1 = .ok ss := by
  obtain ⟨rfl, rfl⟩ := Prod.mk.inj (Except.ok.inj h)
  refine bind_eq_ok.mpr ⟨_, rfl, bind_eq_ok.mpr ⟨_, okOr_eq_ok.mpr (Arr.ofBytes?_val _), ?_⟩⟩
  exact congrArg (fun s => Except.ok (MlKemSharedSecret.mk s)) (hq rng _)

theorem KemAlg.decap_encap (hd : c.CurvesDocumented) (hx : c.CurvesCommute) (hq : c.PqCorrect)
    (k : KemAlg) {rng : R} {sk} (hb : (k.kem c).BuiltSk sk) {ss enc}
    (h : ((k.kem c).encap rng (k.publicKey c sk)).1 = .ok (ss, enc)) :
    (k.kem c).decap enc sk = .ok ss := by
  rcases k with g | _ | _ | _
  · exact dhKem_decap_encap (g.lawful hd) (g.roundTrips hd) (g.commutes hx) hb h
  · obtain ⟨seed, rfl⟩ := xWing_builtSk hb
    exact xWing_decap_encap hq.xWing seed h
  · obtain ⟨seed, rfl⟩ := mlKem_builtSk hb
    exact mlKem_decap_encap hq.mlKem768 seed h
  · obtain ⟨seed, rfl⟩ := mlKem_builtSk hb
    exact mlKem_decap_encap hq.mlKem1024 seed h

end HpkeNg

import HpkeNg.Session.Agreement
import HpkeNg.World

/-!
# Keys and nonces across sessions

* `KemAlg.id_inj`, `SealingAlg.id_inj`: the identifiers tell the algorithms apart;
* `Endpoint`: one end of a session, as far as its secrets are concerned;
* `Endpoint.Same`, `Endpoint.Collide`: two ends of one session; KDF calls that collide;
* `Endpoint.same_of_key`, `Endpoint.same_of_exporterSecret`: what an equal secret means;
* `SenderSession.Answered.same`: a receiver set up to answer a sender is the other end of its
  session;
* `world_nonces`: no key and nonce are used twice in a world;
* `world_exports`: which ends of sessions export one secret.
-/

namespace HpkeNg

variable {R : Type} [CryptoRng R] {c : Crates R} {f : KdfAlg}

/-! ## Identifiers -/

/-- `K::ID`. -/
def KemAlg.id : KemAlg → UInt16
  | .dhKem .p256 => 0x0010
  | .dhKem .p384 => 0x0011
  | .dhKem .p521 => 0x0012
  | .dhKem .k256 => 0x0016
  | .dhKem .x25519 => 0x0020
  | .dhKem .x448 => 0x0021
  | .pq p => p.id

theorem KemAlg.kem_id (c : Crates R) (k : KemAlg) : (k.kem c).id = k.id := by
  rcases k with g | p
  · cases g <;> rfl
  · exact PqAlg.kem_id c p

theorem KemAlg.id_inj {k k' : KemAlg} (h : (k.kem c).id = (k'.kem c).id) : k = k' := by
  rw [kem_id, kem_id] at h
  rcases k with g | p <;> rcases k' with g' | p'
  · cases g <;> cases g' <;> first | rfl | exact absurd h (by decide)
  · cases g <;> cases p' <;> exact absurd h (by decide)
  · cases p <;> cases g' <;> exact absurd h (by decide)
  · cases p <;> cases p' <;> first | rfl | exact absurd h (by decide)

/-- `A::ID`. -/
def SealingAlg.id : SealingAlg → UInt16
  | .aes128Gcm => 0x0001
  | .aes256Gcm => 0x0002
  | .chaCha20Poly1305 => 0x0003

omit [CryptoRng R] in
theorem SealingAlg.aead_id (c : Crates R) (a : SealingAlg) :
    (a.aead c).id = a.id := by
  cases a <;> rfl

omit [CryptoRng R] in
theorem SealingAlg.id_inj {a a' : SealingAlg} (h : (a.aead c).id = (a'.aead c).id) : a = a' := by
  rw [aead_id, aead_id] at h
  cases a <;> cases a' <;> first | rfl | exact absurd h (by decide)

/-! ## The ends of sessions -/

/-- One end of a session: its call of the key schedule, and for a DHKEM the transcript of its
operation. -/
structure Endpoint (c : Crates R) (f : KdfAlg) where
  k : KemAlg
  a : SealingAlg
  call : ScheduleCall
  ctx : Context (k.kem c) (f.kdf c) (a.aead c)
  run : call.run (k.kem c) (f.kdf c) (a.aead c) = .ok ctx
  transcript : Option Transcript

/-- The shared secret of a DHKEM comes from the transcript. -/
def KemAlg.Derived (c : Crates R) (sharedSecret : Bytes) (transcript : Option Transcript) :
    KemAlg → Prop
  | .dhKem g => ∃ t, transcript = some t ∧ t.Fits (g.dh c) (g.rawDh c).len ∧
      t.secret (g.dh c) = .ok sharedSecret
  | .pq _ => transcript = none

namespace Endpoint

variable (x y z : Endpoint c f)

/-- The key of the AEAD. -/
def key : Bytes := x.ctx.rawKey

/-- `base_nonce`. -/
def baseNonce : Bytes := x.ctx.baseNonce.1.take (x.a.aead c).nonceLen

/-- The nonce of the message with sequence number `i`. -/
def nonce (i : ℕ) : Bytes := nonceAt x.ctx.baseNonce (x.a.aead c).nonceLen i

/-- The KDF calls of the key schedule. -/
def calls : List KdfCall := x.call.calls (f.kdf c)
  (ciphersuite (x.k.kem c) (f.kdf c) (x.a.aead c)) (x.a.aead c).keyLen (x.a.aead c).nonceLen

/-- Its shared secret comes from its transcript. -/
def Derived : Prop := x.k.Derived c x.call.sharedSecret x.transcript

/-- Two ends of one session: the same mode, suite, shared secret, `info` and PSK, and for a DHKEM
the same encapsulated key and the same public keys. -/
structure Same : Prop where
  inputs : ScheduleCall.Agree (x.k.kem c) (f.kdf c) (x.a.aead c) (y.k.kem c) (f.kdf c) (y.a.aead c)
    x.call y.call
  transcript : x.transcript = y.transcript

/-- A KDF call of one end collides with one of the other, in the key schedule or in the KEM. -/
def Collide : Prop := (f.kdf c).Collision x.calls y.calls ∨
  ∃ g, x.k = .dhKem g ∧ y.k = .dhKem g ∧ ∃ t ∈ x.transcript, ∃ t' ∈ y.transcript,
    (g.dh c).kdf.Collision (t.calls (g.dh c)) (t'.calls (g.dh c))

variable {x y z}

namespace Same

theorem symm (h : x.Same y) : y.Same x :=
  ⟨⟨h.inputs.modeByte.symm, h.inputs.kemId.symm, rfl, h.inputs.aeadId.symm,
    h.inputs.sharedSecret.symm, h.inputs.info.symm, h.inputs.pskSecret.symm, h.inputs.pskId.symm⟩, h.transcript.symm⟩

theorem trans (h : x.Same y) (h' : y.Same z) : x.Same z :=
  ⟨⟨h.inputs.modeByte.trans h'.inputs.modeByte, h.inputs.kemId.trans h'.inputs.kemId, rfl,
    h.inputs.aeadId.trans h'.inputs.aeadId, h.inputs.sharedSecret.trans h'.inputs.sharedSecret,
    h.inputs.info.trans h'.inputs.info, h.inputs.pskSecret.trans h'.inputs.pskSecret,
    h.inputs.pskId.trans h'.inputs.pskId⟩, h.transcript.trans h'.transcript⟩

theorem k_eq (h : x.Same y) : x.k = y.k := KemAlg.id_inj h.inputs.kemId

theorem a_eq (h : x.Same y) : x.a = y.a := SealingAlg.id_inj h.inputs.aeadId

theorem suite (h : x.Same y) : ciphersuite (x.k.kem c) (f.kdf c) (x.a.aead c) =
    ciphersuite (y.k.kem c) (f.kdf c) (y.a.aead c) := by
  rw [h.k_eq, h.a_eq]

theorem output (h : x.Same y) (label : Bytes) (n : ℕ) :
    x.call.output (f.kdf c) (ciphersuite (x.k.kem c) (f.kdf c) (x.a.aead c)) label n =
      y.call.output (f.kdf c) (ciphersuite (y.k.kem c) (f.kdf c) (y.a.aead c)) label n := by
  rw [h.suite]
  simp only [ScheduleCall.output, ScheduleCall.secret, ScheduleCall.ksContext,
    ScheduleCall.pskIdHash, ScheduleCall.infoHash, h.inputs.modeByte, h.inputs.sharedSecret,
    h.inputs.info, h.inputs.pskSecret, h.inputs.pskId]

end Same

section Binds

variable (hc : c.HkdfDocumented)
include hc

theorem outputs (x : Endpoint c f) :
    let suite := ciphersuite (x.k.kem c) (f.kdf c) (x.a.aead c)
    (f.kdf c).run (x.call.output (f.kdf c) suite (ascii "key") (x.a.aead c).keyLen) = .ok x.key ∧
      (f.kdf c).run (x.call.output (f.kdf c) suite (ascii "base_nonce") (x.a.aead c).nonceLen) =
        .ok x.baseNonce ∧
      (f.kdf c).run (x.call.output (f.kdf c) suite (ascii "exp") (f.kdf c).hashLen) =
        .ok x.ctx.exporterSecret ∧
      (x.a.aead c).init x.key = .ok x.ctx.cipher ∧ x.ctx.seq = 0 :=
  ScheduleCall.run_eq_ok (KdfAlg.lawful hc f) (AeadAlg.keyLen_le_kdf hc f (.sealing x.a))
    (AeadAlg.nonceLen_le c (.sealing x.a)) x.run

theorem Same.secrets (h : x.Same y) : x.key = y.key ∧ x.ctx.exporterSecret = y.ctx.exporterSecret ∧
    ∀ i, x.nonce i = y.nonce i := by
  obtain ⟨hk, hn, he, -⟩ := x.outputs hc
  obtain ⟨hk', hn', he', -⟩ := y.outputs hc
  rw [h.output, h.a_eq] at hk hn
  rw [h.output] at he
  refine ⟨Except.ok.inj (hk.symm.trans hk'), Except.ok.inj (he.symm.trans he'), fun i => ?_⟩
  have hb : x.baseNonce = y.baseNonce := Except.ok.inj (hn.symm.trans hn')
  change xorBytes x.baseNonce (i2osp (x.a.aead c).nonceLen i) =
    xorBytes y.baseNonce (i2osp (y.a.aead c).nonceLen i)
  rw [hb, h.a_eq]

variable (hd : c.CurvesDocumented) (hx : x.Derived) (hy : y.Derived)
include hd hx hy

/-- Equal inputs of the key schedule come from one transcript, or KDF calls of the KEM collide. -/
theorem same_of_agree (h : ScheduleCall.Agree (x.k.kem c) (f.kdf c) (x.a.aead c) (y.k.kem c)
    (f.kdf c) (y.a.aead c) x.call y.call) : x.Same y ∨ x.Collide y := by
  rw [Derived] at hx hy
  rw [← KemAlg.id_inj h.kemId, ← h.sharedSecret] at hy
  cases hk : x.k with
  | pq p =>
    rw [hk] at hx hy
    exact Or.inl ⟨h, hx.trans hy.symm⟩
  | dhKem g =>
    rw [hk] at hx hy
    obtain ⟨t, ht, hfits, hsec⟩ := hx
    obtain ⟨t', ht', hfits', hsec'⟩ := hy
    rcases Transcript.eq_or_collision (g.kdf_lawful hc) (g.lawful hd)
      hfits hfits' hsec hsec' with rfl | hcol
    · exact Or.inl ⟨h, ht.trans ht'.symm⟩
    · exact Or.inr (Or.inr ⟨g, hk, (KemAlg.id_inj h.kemId).symm.trans hk, t, ht, t', ht', hcol⟩)

/-- **An equal key makes two ends those of one session**, or KDF calls collide. -/
theorem same_of_key (h : x.key = y.key) : x.Same y ∨ x.Collide y := by
  obtain ⟨hk, -⟩ := x.outputs hc
  obtain ⟨hk', -⟩ := y.outputs hc
  rw [← h] at hk'
  rcases ScheduleCall.output_binds (KdfAlg.lawful hc f) hk hk' with hagree | hcol
  · exact same_of_agree hc hd hx hy hagree
  · exact Or.inr (Or.inl (hcol.collision ScheduleCall.key_mem_calls ScheduleCall.key_mem_calls))

theorem same_of_exporterSecret (h : x.ctx.exporterSecret = y.ctx.exporterSecret) :
    x.Same y ∨ x.Collide y := by
  obtain ⟨-, -, he, -⟩ := x.outputs hc
  obtain ⟨-, -, he', -⟩ := y.outputs hc
  rw [← h] at he'
  rcases ScheduleCall.output_binds (KdfAlg.lawful hc f) he he' with hagree | hcol
  · exact same_of_agree hc hd hx hy hagree
  · exact Or.inr (Or.inl (hcol.collision ScheduleCall.exp_mem_calls ScheduleCall.exp_mem_calls))

end Binds

end Endpoint

/-! ## The ends of the sessions of a world -/

section Sessions

variable {k : KemAlg}

/-- The shared secret of a setup that returns. -/
def SenderMode.sharedSecret (M : SenderMode c k) (rng : R) (pkR : (k.kem c).PublicKey) : Bytes :=
  match (M.encap rng pkR).1 with
  | .ok (ss, _) => (k.kem c).ssAsRef ss
  | .error _ => []

/-- The shared secret of a receiver's setup that returns. -/
def ReceiverMode.sharedSecret (M : ReceiverMode c k) (enc : (k.kem c).EncappedKey)
    (skR : (k.kem c).PrivateKey) : Bytes :=
  match M.decap enc skR with
  | .ok ss => (k.kem c).ssAsRef ss
  | .error _ => []

/-- The transcript of the KEM operation, for a DHKEM. -/
def SenderMode.transcript :
    {k : KemAlg} → SenderMode c k → R → (k.kem c).PublicKey → Option Transcript
  | .dhKem _, M, rng, pkR => (M.op rng pkR).transcript.toOption
  | .pq _, _, _, _ => none

/-- The transcript of the KEM operation, for a DHKEM. -/
def ReceiverMode.transcript : {k : KemAlg} → ReceiverMode c k → (k.kem c).EncappedKey →
    (k.kem c).PrivateKey → Option Transcript
  | .dhKem _, M, enc, skR => (M.op enc skR).transcript.toOption
  | .pq _, _, _, _ => none

theorem DhOp.derived (hc : c.HkdfDocumented) (hd : c.CurvesDocumented) {g : DhGroup}
    {op : DhOp (g.dh c)} (hb : op.Held) {ss : DhSharedSecret} {enc : DhEncappedKey}
    (h : op.run = .ok (ss, enc)) :
    (KemAlg.dhKem g).Derived c ss.val op.transcript.toOption := by
  obtain ⟨t, ht, hss, -⟩ := (DhOp.run_eq_ok (g.kdf_lawful hc) (g.lawful hd)).mp h
  refine ⟨t, by rw [ht]; rfl, DhOp.transcript_fits (g.lawful hd) _ hb ht, hss⟩

omit [CryptoRng R] in
theorem DhOp.enc_of_encap {D : DiffieHellman R} {rng : R} {pkR : DhPublicKey D}
    {skS : Option (DhPrivateKey D)} {t : Transcript}
    (h : (DhOp.encap rng pkR skS).transcript = .ok t) :
    t.enc = D.pkToBytes (D.generate rng).1.2 := by
  obtain ⟨dh1, -, h⟩ := bind_eq_ok.mp h
  obtain ⟨r, -, h⟩ := bind_eq_ok.mp h
  rw [← Except.ok.inj h]

theorem SenderMode.derived (hc : c.HkdfDocumented) (hd : c.CurvesDocumented) {M : SenderMode c k}
    (held : M.Held) {rng : R} {pkR ss enc} (h : (M.encap rng pkR).1 = .ok (ss, enc)) :
    k.Derived c ((k.kem c).ssAsRef ss) (M.transcript rng pkR) := by
  cases k with
  | pq p => rfl
  | dhKem g =>
    exact DhOp.derived hc hd (show (M.op rng pkR).Held from held.skS)
      ((M.encap_eq rng pkR).symm.trans h)

theorem ReceiverMode.derived (hc : c.HkdfDocumented) (hd : c.CurvesDocumented)
    {M : ReceiverMode c k} {enc skR} (held : (k.kem c).HeldSk skR) {ss}
    (h : M.decap enc skR = .ok ss) :
    k.Derived c ((k.kem c).ssAsRef ss) (M.transcript enc skR) := by
  cases k with
  | pq p => rfl
  | dhKem g => exact DhOp.derived hc hd (show (M.op enc skR).Held from held) (ReceiverMode.run_op h)

end Sessions

namespace SenderSession

variable (s : SenderSession c f)

/-- The shared secret of the setup. -/
def sharedSecret : Bytes := s.mode.sharedSecret s.rng s.pkR

theorem encap_spec : ∃ ss, (s.mode.encap s.rng s.pkR).1 = .ok (ss, s.enc) ∧
    (s.k.kem c).ssAsRef ss = s.sharedSecret ∧
    (s.mode.schedule s.sharedSecret s.info).run (s.k.kem c) (f.kdf c) (s.a.aead c) =
      .ok s.start.val := by
  obtain ⟨ss, hss, hrun⟩ := SenderMode.setup_eq_ok s.setup
  have hsec : s.sharedSecret = (s.k.kem c).ssAsRef ss := by
    rw [sharedSecret, SenderMode.sharedSecret, hss]
  exact ⟨ss, hss, hsec.symm, hsec ▸ hrun⟩

/-- The session as an end of a session. -/
def endpoint : Endpoint c f where
  k := s.k
  a := s.a
  call := s.mode.schedule s.sharedSecret s.info
  ctx := s.start.val
  run := s.encap_spec.choose_spec.2.2
  transcript := s.mode.transcript s.rng s.pkR

theorem derived (hc : c.HkdfDocumented) (hd : c.CurvesDocumented) : s.endpoint.Derived := by
  obtain ⟨ss, hss, hsec, -⟩ := s.encap_spec
  change s.k.Derived c (s.mode.schedule s.sharedSecret s.info).sharedSecret
    (s.mode.transcript s.rng s.pkR)
  rw [SenderMode.sharedSecret_schedule, ← hsec]
  exact SenderMode.derived hc hd s.held hss

end SenderSession

namespace ReceiverSession

variable (r : ReceiverSession c f)

/-- The shared secret of the setup. -/
def sharedSecret : Bytes := r.mode.sharedSecret r.enc r.skR

theorem decap_spec : ∃ ss, r.mode.decap r.enc r.skR = .ok ss ∧
    (r.k.kem c).ssAsRef ss = r.sharedSecret ∧
    (r.mode.schedule r.sharedSecret r.info).run (r.k.kem c) (f.kdf c) (r.a.aead c) =
      .ok r.start.val := by
  obtain ⟨ss, hss, hrun⟩ := ReceiverMode.setup_eq_ok r.setup
  have hsec : r.sharedSecret = (r.k.kem c).ssAsRef ss := by
    rw [sharedSecret, ReceiverMode.sharedSecret, hss]
  exact ⟨ss, hss, hsec.symm, hsec ▸ hrun⟩

/-- The session as an end of a session. -/
def endpoint : Endpoint c f where
  k := r.k
  a := r.a
  call := r.mode.schedule r.sharedSecret r.info
  ctx := r.start.val
  run := r.decap_spec.choose_spec.2.2
  transcript := r.mode.transcript r.enc r.skR

theorem derived (hc : c.HkdfDocumented) (hd : c.CurvesDocumented) : r.endpoint.Derived := by
  obtain ⟨ss, hss, hsec, -⟩ := r.decap_spec
  change r.k.Derived c (r.mode.schedule r.sharedSecret r.info).sharedSecret
    (r.mode.transcript r.enc r.skR)
  rw [ReceiverMode.sharedSecret_schedule, ← hsec]
  exact ReceiverMode.derived hc hd r.held hss

end ReceiverSession

/-! ## The two ends of one session -/

/-- The receiver's setup answers the sender's: on its encapsulated key, with the inputs that
match. -/
inductive SenderSession.Answered : SenderSession c f → ReceiverSession c f → Prop
  | intro {k a mode mode' held rng pkR info enc start hs ops skR held' start' hr ops'}
    (hm : SenderMode.Matches mode mode') (hk : KemAlg.KeyPair c k skR pkR) :
    Answered ⟨k, a, mode, held, rng, pkR, info, enc, start, hs, ops⟩
      ⟨k, a, mode', enc, skR, held', info, start', hr, ops'⟩

omit [CryptoRng R] in
theorem DhOp.transcript_decap {D : DiffieHellman R} (hD : D.Lawful) (hr : D.RoundTrips)
    (hx : D.Commutes) {rng : R} {skR : DhPrivateKey D} (hb : (dhKem D).BuiltSk skR)
    {skS : Option (DhPrivateKey D)} (hS : ∀ sk ∈ skS, (dhKem D).BuiltSk sk) {t : Transcript}
    (h : (DhOp.encap rng ⟨D.skToPk skR.sk⟩ skS).transcript = .ok t) :
    (DhOp.decap ⟨t.enc⟩ skR (skS.map fun sk => ⟨D.skToPk sk.sk⟩)).transcript = .ok t := by
  obtain ⟨dh1, h1, h⟩ := bind_eq_ok.mp h
  obtain ⟨sender, hsender, h⟩ := bind_eq_ok.mp h
  obtain rfl := Except.ok.inj h
  obtain ⟨hE, hdh⟩ := ephemeral_agrees hD hr hx rng skR.sk
  have hpk : ∀ {sk : DhPrivateKey D}, (dhKem D).BuiltSk sk →
    D.pkAsRef (D.skToPk sk.sk) = sk.pkBytes := fun hb =>
    (hD.pkAsRef_eq _).trans (pkBytes_of_builtSk hD hb).symm
  refine bind_eq_ok.mpr ⟨_, hE, bind_eq_ok.mpr ⟨dh1, hdh.trans h1, bind_eq_ok.mpr ⟨sender, ?_, ?_⟩⟩⟩
  · cases skS with
    | none => exact hsender
    | some sk =>
      obtain ⟨dh2, h2, hsender⟩ := bind_eq_ok.mp hsender
      obtain rfl := Except.ok.inj hsender
      refine bind_eq_ok.mpr ⟨dh2, (hx skR.sk sk.sk).trans h2, ?_⟩
      exact congrArg (fun b => Except.ok (some (dh2, b))) (hpk (hS sk rfl))
  · rw [hpk hb]
    rfl

section Answered

variable (hc : c.HkdfDocumented) (hd : c.CurvesDocumented) (hp : c.PqDocumented)
  (hx : c.CurvesCommute)
include hc hd hp hx

theorem SenderMode.Matches.transcript_eq {k : KemAlg} {M : SenderMode c k} {M' : ReceiverMode c k}
    (hm : M.Matches M') {skR pkR} (hR : k.KeyPair c skR pkR) {rng : R} {ss enc}
    (h : (M.encap rng pkR).1 = .ok (ss, enc)) : M.transcript rng pkR = M'.transcript enc skR := by
  cases k with
  | pq p => rfl
  | dhKem g =>
    obtain ⟨hb, rfl⟩ := hR.spec hd hp
    obtain ⟨t, ht, -, rfl⟩ :=
      (DhOp.run_eq_ok (g.kdf_lawful hc) (g.lawful hd)).mp ((M.encap_eq rng _).symm.trans h)
    have hagrees := fun {skS : Option (DhPrivateKey (g.dh c))} =>
      @DhOp.transcript_decap _ _ (g.lawful hd) (g.roundTrips hd) (g.commutes hx) rng skR hb skS
    refine congrArg Except.toOption (ht.trans (Eq.symm ?_))
    cases hm with
    | base => exact hagrees (by rintro _ ⟨⟩) ht
    | psk p => exact hagrees (by rintro _ ⟨⟩) ht
    | auth hS =>
      obtain ⟨hb', rfl⟩ := hS.spec hd hp
      exact hagrees (by rintro _ ⟨⟩; exact hb') ht
    | authPsk p hS =>
      obtain ⟨hb', rfl⟩ := hS.spec hd hp
      exact hagrees (by rintro _ ⟨⟩; exact hb') ht

/-- **A receiver that answers a sender is the other end of its session.** -/
theorem SenderSession.Answered.same (hq : c.PqCorrect) {s : SenderSession c f}
    {r : ReceiverSession c f} (h : s.Answered r) : s.endpoint.Same r.endpoint := by
  obtain ⟨ss, hss, hsec, -⟩ := s.encap_spec
  cases h with
  | @intro k a mode mode' held rng pkR info enc start hs ops skR held' start' hr ops' hm hk =>
    have hdecap : mode'.decap enc skR = .ok ss := hm.decap_encap hd hp hx hq hk hss
    have hsec' : mode'.sharedSecret enc skR = (k.kem c).ssAsRef ss := by
      rw [ReceiverMode.sharedSecret, hdecap]
    have hcall : mode.schedule (mode.sharedSecret rng pkR) info =
        mode'.schedule (mode'.sharedSecret enc skR) info := by
      rw [hsec', ← hm.schedule_eq, hsec]
      rfl
    refine ⟨⟨congrArg _ hcall, rfl, rfl, rfl, congrArg _ hcall, congrArg _ hcall, congrArg _ hcall,
      congrArg _ hcall⟩, ?_⟩
    exact hm.transcript_eq hc hd hp hx hk hss

end Answered

/-! ## Keys and nonces -/

/-- The keys and nonces under which a session has sealed its messages. -/
def SenderSession.uses (s : SenderSession c f) : List (Bytes × Bytes) :=
  (s.events.filter SenderEvent.sealed).flatMap fun e =>
    e.result.2.map fun call => (s.endpoint.key, call.nonce)

namespace World

variable (w : World c f)

/-- The keys and nonces that all sessions have sealed under. -/
def uses : List (Bytes × Bytes) := w.senders.flatMap SenderSession.uses

/-- The ends of all sessions. -/
def ends : List (Endpoint c f) :=
  w.senders.map SenderSession.endpoint ++ w.receivers.map ReceiverSession.endpoint

/-- Two KDF calls of the world collide. -/
def Collides : Prop := ∃ x ∈ w.ends, ∃ y ∈ w.ends, x.Collide y

/-- Two setups of a sender came out as one session. -/
def Repeats : Prop :=
  ∃ (i j : ℕ) (s s' : SenderSession c f), i ≠ j ∧ w.senders[i]? = some s ∧ w.senders[j]? = some s' ∧
  s.endpoint.Same s'.endpoint

end World

theorem SenderSession.uses_eq (s : SenderSession c f) : ∃ n < 2 ^ 64,
    s.uses = (List.range n).map fun i => (s.endpoint.key, s.endpoint.nonce i) := by
  have hstart : s.start.val.seq = 0 := ScheduleCall.run_seq s.endpoint.run
  have hseq : s.start.val.seq.toNat = 0 := by rw [hstart]; rfl
  have hnonces :=
    sender_nonces (s.a.sealing c).check s.start (s.ops.map (SendOp.call (s.a.sealing c)))
  have hfinal :=
    sender_final_seq (s.a.sealing c).check s.start (s.ops.map (SendOp.call (s.a.sealing c))) hstart
  rw [hseq, ← List.range_eq_range'] at hnonces
  refine ⟨(s.events.filter SenderEvent.sealed).length, ?_, ?_⟩
  · rw [events, ← hfinal]
    exact s.ctx.val.seq.toNat_lt
  · have hmap : s.uses = ((s.events.filter SenderEvent.sealed).map fun e =>
        e.result.2.map AeadCall.nonce).flatten.map fun nonce => (s.endpoint.key, nonce) := by
      rw [uses, List.flatMap_def, List.map_flatten, List.map_map]
      congr 1
      refine List.map_congr_left fun e _ => ?_
      rw [Function.comp_apply, List.map_map]
      rfl
    rw [hmap, events, hnonces, ← List.flatMap_def, ← List.map_eq_flatMap, List.map_map]
    rfl

theorem SenderSession.uses_nodup (s : SenderSession c f) : s.uses.Nodup := by
  obtain ⟨n, hn, huses⟩ := s.uses_eq
  rw [huses]
  refine List.Nodup.map_on (fun i hi j hj hij => ?_) List.nodup_range
  exact nonceAt_inj _ (s.a.sealing c).check ((List.mem_range.mp hi).trans hn)
    ((List.mem_range.mp hj).trans hn) (Prod.mk.inj hij).2

theorem SenderSession.key_of_mem_uses {s : SenderSession c f} {p : Bytes × Bytes} (h : p ∈ s.uses) :
    p.1 = s.endpoint.key := by
  obtain ⟨e, -, h⟩ := List.mem_flatMap.mp h
  obtain ⟨call, -, rfl⟩ := List.mem_map.mp h
  rfl

section Theorems

variable (hc : c.HkdfDocumented) (hd : c.CurvesDocumented)
include hc hd

theorem World.derived_of_mem_ends {w : World c f} {x : Endpoint c f} (h : x ∈ w.ends) :
    x.Derived := by
  rcases List.mem_append.mp h with h | h
  · obtain ⟨s, -, rfl⟩ := List.mem_map.mp h
    exact s.derived hc hd
  · obtain ⟨r, -, rfl⟩ := List.mem_map.mp h
    exact r.derived hc hd

theorem World.uses_nodup (w : World c f) (hcol : ¬ w.Collides) (hrep : ¬ w.Repeats) :
    w.uses.Nodup := by
  refine List.nodup_flatMap.mpr ⟨fun s _ => s.uses_nodup,
    List.pairwise_iff_getElem.mpr fun i j hi hj hij => ?_⟩
  intro p hp hp'
  have hmem : ∀ {i} (hi : i < w.senders.length), w.senders[i].endpoint ∈ w.ends := fun hi =>
    List.mem_append_left _ (List.mem_map_of_mem (List.getElem_mem hi))
  have hkey := (SenderSession.key_of_mem_uses hp).symm.trans (SenderSession.key_of_mem_uses hp')
  rcases Endpoint.same_of_key hc hd (w.senders[i].derived hc hd) (w.senders[j].derived hc hd)
    hkey with hsame | hcollide
  · exact hrep ⟨i, j, _, _, hij.ne, List.getElem?_eq_getElem hi, List.getElem?_eq_getElem hj, hsame⟩
  · exact hcol ⟨_, hmem hi, _, hmem hj, hcollide⟩

/-- **Two setups of a DHKEM come out as one session only if the RNG repeats an ephemeral key.** -/
theorem SenderSession.ephemeral_eq {s s' : SenderSession c f} (h : s.endpoint.Same s'.endpoint)
    {g : DhGroup} (hk : s.k = .dhKem g) : s'.k = .dhKem g ∧
      (g.dh c).pkToBytes ((g.dh c).generate s.rng).1.2 =
      (g.dh c).pkToBytes ((g.dh c).generate s'.rng).1.2 := by
  have hk' : s'.k = .dhKem g := h.k_eq.symm.trans hk
  refine ⟨hk', ?_⟩
  have ht := h.transcript
  have hx := s.derived hc hd
  have hy := s'.derived hc hd
  obtain ⟨k, a, mode, held, rng, pkR, info, enc, start, hs, ops⟩ := s
  obtain ⟨k', a', mode', held', rng', pkR', info', enc', start', hs', ops'⟩ := s'
  subst hk hk'
  obtain ⟨t, htr, -⟩ := hx
  obtain ⟨t', htr', -⟩ := hy
  have hread : ∀ {M : SenderMode c (.dhKem g)} {rng : R} {pkR} {t : Transcript},
      M.transcript rng pkR = some t → t.enc = (g.dh c).pkToBytes ((g.dh c).generate rng).1.2 := by
    intro M rng pkR t h
    cases hop : (M.op rng pkR).transcript with
    | error e =>
      rw [SenderMode.transcript, hop] at h
      cases h
    | ok t' =>
      rw [SenderMode.transcript, hop] at h
      rw [← Option.some.inj h]
      exact DhOp.enc_of_encap hop
  have heq : t = t' := Option.some.inj (htr.symm.trans (ht.trans htr'))
  rw [← hread htr, ← hread htr', heq]

end Theorems

/-- **No key and nonce are used twice in a world**, by one session or by two, whatever their KEMs,
AEADs and modes, unless KDF calls collide or two setups came out as one session: with the same mode,
suite, `info`, PSK and shared secret, and for a DHKEM with the same ephemeral key drawn twice. -/
theorem world_nonces (hc : c.HkdfDocumented) (hd : c.CurvesDocumented) (w : World c f) :
    w.uses.Nodup ∨ w.Collides ∨ ∃ (i j : ℕ) (s s' : SenderSession c f), i ≠ j ∧
      w.senders[i]? = some s ∧ w.senders[j]? = some s' ∧ s.endpoint.Same s'.endpoint ∧
      ∀ g, s.k = .dhKem g → s'.k = .dhKem g ∧
        (g.dh c).pkToBytes ((g.dh c).generate s.rng).1.2 =
          (g.dh c).pkToBytes ((g.dh c).generate s'.rng).1.2 := by
  by_cases hcol : w.Collides
  · exact Or.inr (Or.inl hcol)
  by_cases hrep : w.Repeats
  · obtain ⟨i, j, s, s', hij, hs, hs', hsame⟩ := hrep
    exact Or.inr (Or.inr ⟨i, j, s, s', hij, hs, hs', hsame,
      fun g => SenderSession.ephemeral_eq hc hd hsame⟩)
  · exact Or.inl (w.uses_nodup hc hd hcol hrep)

/-- Two sessions to one recipient, interleaved. -/
theorem world_nonces_sample :
    let D := DhGroup.x25519.dh Sample.crates
    let pkR : (KemAlg.kem Sample.crates (.dhKem .x25519)).PublicKey := (D.keyPair (7 : ℕ)).2
    let w := (⟨(5 : ℕ), [], []⟩ : World Sample.crates .hkdfSha256).run
      [.setupSender (.dhKem .x25519) .aes128Gcm .base trivial pkR (ascii "info"),
        .setupSender (.dhKem .x25519) .aes256Gcm (.psk Sample.psk) trivial pkR (ascii "info"),
        .sender 0 (.seal [1] [2]), .sender 1 (.seal [3] [4]), .sender 0 (.seal [5] [6])]
    w.uses.Nodup ∨ w.Collides ∨
      ∃ (i j : ℕ) (s s' : SenderSession Sample.crates .hkdfSha256), i ≠ j ∧
      w.senders[i]? = some s ∧ w.senders[j]? = some s' ∧ s.endpoint.Same s'.endpoint ∧
      ∀ g, s.k = .dhKem g → s'.k = .dhKem g ∧
        (g.dh Sample.crates).pkToBytes ((g.dh Sample.crates).generate s.rng).1.2 =
          (g.dh Sample.crates).pkToBytes ((g.dh Sample.crates).generate s'.rng).1.2 := by
  intro D pkR w
  exact world_nonces Sample.hkdfDocumented Sample.curvesDocumented w

/-! ## Exported secrets -/

/-- A session of the world has exported a secret, at some point. -/
inductive World.Exported (w : World c f) :
    Endpoint c f → (ec : Bytes) → (length : ℕ) → (out : Bytes) → Prop
  | sender {s ec length out} (hs : s ∈ w.senders) {e} (he : e ∈ s.events)
    (hop : e.op = .export ec length) (hr : e.result.1 = .ok out) :
    Exported w s.endpoint ec length out
  | receiver {r ec length out} (hr : r ∈ w.receivers) {e} (he : e ∈ r.events)
    (hop : e.op = .export ec length) (hr : e.result = .ok out) :
    Exported w r.endpoint ec length out

theorem Endpoint.export_ok (hc : c.HkdfDocumented) (x : Endpoint c f) (ec : Bytes) {length : ℕ}
    (hl : length ≤ 255 * (f.kdf c).hashLen) : ∃ out, x.ctx.export ec length = .ok out := by
  have hF := KdfAlg.lawful hc f
  obtain ⟨out, h, -⟩ := Context.export_ok hF (ScheduleCall.run_exporterSecret hF x.run) ec hl
  exact ⟨out, h⟩

theorem World.Exported.spec {w : World c f} {x : Endpoint c f} {ec out : Bytes} {length : ℕ}
    (h : w.Exported x ec length out) : x ∈ w.ends ∧ x.ctx.export ec length = .ok out := by
  cases h with
  | @sender s _ _ _ hs e he hop hr =>
    refine ⟨List.mem_append_left _ (List.mem_map_of_mem hs), ?_⟩
    obtain ⟨ctx, op, hof, rfl⟩ := Machine.forall_trace (sender_moves (s.a.sealing c).check).of
      (show s.start.val.Of s.start.val from rfl) he
    change op = _ at hop
    subst hop
    exact (Context.export_congr rfl hof.exporterSecret.symm ec length).trans hr
  | @receiver r _ _ _ hr' e he hop hr =>
    refine ⟨List.mem_append_right _ (List.mem_map_of_mem hr'), ?_⟩
    obtain ⟨ctx, op, hof, rfl⟩ := Machine.forall_trace (receiver_moves (r.a.sealing c)).of
      (show r.start.val.Of r.start.val from rfl) he
    change op = _ at hop
    subst hop
    exact (Context.export_congr rfl hof.exporterSecret.symm ec length).trans hr

/-- **An exported secret belongs to one session, one exporter context and one length.** Two sessions
of a world, in either role and at any point, export the same bytes if they are the ends of one
session and are asked for the same; and only then, unless KDF calls collide. -/
theorem world_exports (hc : c.HkdfDocumented) (hd : c.CurvesDocumented) (w : World c f)
    {x y : Endpoint c f} {ec ec' out out' : Bytes} {length length' : ℕ}
    (h : w.Exported x ec length out) (h' : w.Exported y ec' length' out') :
    (x.Same y → ec = ec' → length = length' → out = out') ∧
    (out = out' → length = length' ∧ ((ec = ec' ∧ x.Same y) ∨ x.Collide y ∨
      (f.kdf c).Collide (x.ctx.exportCall ec length) (y.ctx.exportCall ec' length'))) := by
  have hF := KdfAlg.lawful hc f
  obtain ⟨hx, hout⟩ := h.spec
  obtain ⟨hy, hout'⟩ := h'.spec
  constructor
  · rintro hsame rfl rfl
    obtain ⟨-, hexp, -⟩ := hsame.secrets hc
    exact Except.ok.inj (hout.symm.trans
      ((Context.export_congr hsame.suite hexp ec length).trans hout'))
  · rintro rfl
    have hcall : ∀ {x : Endpoint c f} {ec length}, x.ctx.export ec length = .ok out →
        (f.kdf c).run (x.ctx.exportCall ec length) = .ok out := by
      intro x ec length h
      refine (Context.export_eq hF ?_).symm.trans h
      by_contra hl
      rw [Context.export_exceeded (Nat.not_le.mp hl)] at h
      cases h
    have hl : (ciphersuite (x.k.kem c) (f.kdf c) (x.a.aead c)).length =
        (ciphersuite (y.k.kem c) (f.kdf c) (y.a.aead c)).length := by
      rw [length_ciphersuite, length_ciphersuite]
    refine ⟨(hF.length_expand (hcall hout)).symm.trans (hF.length_expand (hcall hout')), ?_⟩
    rcases expand_binds hl (hcall hout) (hcall hout') with ⟨hsec, -, hec, -⟩ | hcol
    · rcases Endpoint.same_of_exporterSecret hc hd (World.derived_of_mem_ends hc hd hx)
        (World.derived_of_mem_ends hc hd hy) hsec with hsame | hcol
      · exact Or.inl ⟨hec, hsame⟩
      · exact Or.inr (Or.inl hcol)
    · exact Or.inr (Or.inr hcol)

/-- Both ends of a session export one secret; a second session of the sender, with another `info`,
exports its own, unless calls of the KDF collide. -/
theorem world_exports_sample :
    ∃ (w : World Sample.crates .hkdfSha256) (s s₂ : SenderSession Sample.crates .hkdfSha256)
      (r : ReceiverSession Sample.crates .hkdfSha256) (out out₂ : Bytes),
      w.senders = [s, s₂] ∧ w.receivers = [r] ∧ w.Exported s.endpoint [1] 4 out ∧
      w.Exported r.endpoint [1] 4 out ∧ w.Exported s₂.endpoint [1] 4 out₂ ∧
      (out = out₂ → s.endpoint.Collide s₂.endpoint ∨ (KdfAlg.hkdfSha256.kdf Sample.crates).Collide
        (s.endpoint.ctx.exportCall [1] 4) (s₂.endpoint.ctx.exportCall [1] 4)) := by
  let D := DhGroup.x25519.dh Sample.crates
  let F := KdfAlg.hkdfSha256.kdf Sample.crates
  let A := SealingAlg.aes128Gcm.aead Sample.crates
  let M : SenderMode Sample.crates (.dhKem .x25519) := .base
  have hok : (M.setup F A (5 : ℕ) (D.keyPair (7 : ℕ)).2 (ascii "info")).1.isOk = true := by
    decide +kernel
  have hok₂ : (M.setup F A (6 : ℕ) (D.keyPair (7 : ℕ)).2 (ascii "other")).1.isOk = true := by
    decide +kernel
  obtain ⟨⟨enc, start⟩, hs⟩ := isOk_iff.mp hok
  obtain ⟨⟨enc₂, start₂⟩, hs₂⟩ := isOk_iff.mp hok₂
  have hm : M.Matches .base := .base
  have hk : (KemAlg.dhKem .x25519).KeyPair Sample.crates (D.keyPair (7 : ℕ)).1
      (D.keyPair (7 : ℕ)).2 :=
    .generate (dhKem_generate D (7 : ℕ))
  obtain ⟨-, hr, -⟩ :=
    hm.setup Sample.curvesDocumented Sample.pqDocumented Sample.curvesCommute Sample.pqCorrect hk hs
  let s : SenderSession Sample.crates .hkdfSha256 :=
    ⟨.dhKem .x25519, .aes128Gcm, M, trivial, (5 : ℕ), _, _, enc, start, hs, [.export [1] 4]⟩
  let s₂ : SenderSession Sample.crates .hkdfSha256 :=
    ⟨.dhKem .x25519, .aes128Gcm, M, trivial, (6 : ℕ), _, _, enc₂, start₂, hs₂, [.export [1] 4]⟩
  let r : ReceiverSession Sample.crates .hkdfSha256 :=
    ⟨.dhKem .x25519, .aes128Gcm, .base, enc, _, .built (builtSk_keyPair D (7 : ℕ)), _, _, hr,
      [.export [1] 4]⟩
  let w : World Sample.crates .hkdfSha256 := ⟨(5 : ℕ), [s, s₂], [r]⟩
  have hsame : s.endpoint.Same r.endpoint := SenderSession.Answered.same Sample.hkdfDocumented
    Sample.curvesDocumented Sample.pqDocumented Sample.curvesCommute Sample.pqCorrect (.intro hm hk)
  have hl : 4 ≤ 255 * (KdfAlg.hkdfSha256.kdf Sample.crates).hashLen := (by decide : 4 ≤ 255 * 32)
  obtain ⟨out, hout⟩ := s.endpoint.export_ok Sample.hkdfDocumented [1] hl
  obtain ⟨out', hout'⟩ := r.endpoint.export_ok Sample.hkdfDocumented [1] hl
  obtain ⟨out₂, hout₂⟩ := s₂.endpoint.export_ok Sample.hkdfDocumented [1] hl
  have hex : w.Exported s.endpoint [1] 4 out :=
    .sender (by simp [w]) (List.mem_singleton_self _) rfl hout
  have hex' : w.Exported r.endpoint [1] 4 out' :=
    .receiver (by simp [w]) (List.mem_singleton_self _) rfl hout'
  have hex₂ : w.Exported s₂.endpoint [1] 4 out₂ :=
    .sender (by simp [w]) (List.mem_singleton_self _) rfl hout₂
  have hexports := fun {y ec' out' length'} (h : w.Exported y ec' length' out') =>
    world_exports Sample.hkdfDocumented Sample.curvesDocumented w hex h
  obtain rfl : out = out' := (hexports hex').1 hsame rfl rfl
  refine ⟨w, s, s₂, r, out, out₂, rfl, rfl, hex, hex', hex₂, fun heq => ?_⟩
  obtain ⟨-, ⟨-, hsame₂⟩ | hcol⟩ := (hexports hex₂).2 heq
  · have hinfo : ascii "info" = ascii "other" := hsame₂.inputs.info
    exact absurd hinfo (by decide)
  · exact hcol

end HpkeNg

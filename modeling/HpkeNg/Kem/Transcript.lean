import HpkeNg.Kem.All
import HpkeNg.Sample

/-!
# The transcript of a DHKEM operation

What `encap`, `decap`, `auth_encap` and `auth_decap` derive the shared secret from.

* `DhOp`, the four operations; `Transcript`, the DH outputs and public keys that go into one;
* `DhOp.run_eq`: an operation computes its transcript and expands one secret from it;
* `Transcript.Fits`, `DhOp.transcript_fits`: every field has the fixed length of its group;
* `DhOp.transcript_spec`: the public keys of a transcript are those of the parties;
* `DhOp.FoldsRecipient`, `DhOp.FoldsSender`: which bytes the secret is derived from for each party;
* `DhPublicKey.FoldedAs`, `DhPublicKey.foldedAs`: the bytes that stand for a key at each party;
* `sharedSecret_binds`: equal shared secrets come from equal transcripts.
-/

namespace HpkeNg

variable {R : Type}

/-- An operation of the DHKEM over `D`, authenticated when a sender key is given. -/
inductive DhOp (D : DiffieHellman R) : Type where
  | encap (rng : R) (pkR : DhPublicKey D) (skS : Option (DhPrivateKey D))
  | decap (enc : DhEncappedKey) (skR : DhPrivateKey D) (pkS : Option (DhPublicKey D))

/-- The values a shared secret is derived from; `sender` is `dh2` and the sender's public key. -/
structure Transcript where
  dh1 : Bytes
  enc : Bytes
  pkR : Bytes
  sender : Option (Bytes × Bytes)

namespace Transcript

variable (D : DiffieHellman R) (t : Transcript)

/-- `dh`, or `dh1 || dh2`. -/
def dh : Bytes := t.dh1 ++ (t.sender.map Prod.fst).getD []

/-- `enc || pkRm`, or `enc || pkRm || pkSm`. -/
def kemContext : Bytes := t.enc ++ t.pkR ++ (t.sender.map Prod.snd).getD []

/-- The outputs that are concatenated to the input of `eae_prk`. -/
def outputs : List Bytes := t.dh1 :: (t.sender.map Prod.fst).toList

theorem dh_eq_flatten : t.dh = t.outputs.flatten := by
  unfold dh outputs
  cases t.sender <;> simp

/-- The shared secret of the transcript. -/
def secret : Outcome Bytes := D.kdf.run (sharedSecretCall D t.dh t.kemContext)

/-- The two KDF calls of the operation. -/
def calls : List KdfCall := [eaeCall D t.dh, sharedSecretCall D t.dh t.kemContext]

/-- The fields have the lengths the group gives them. -/
structure Fits (len : ℕ) : Prop where
  dh1 : t.dh1.length = len
  enc : t.enc.length = D.publicKeyLen
  pkR : t.pkR.length = D.publicKeyLen
  sender : ∀ s, t.sender = some s → s.1.length = len ∧ s.2.length = D.publicKeyLen

variable {D} {t} {t' : Transcript} {len : ℕ}

theorem length_kemContext (h : t.Fits D len) : t.kemContext.length =
    2 * D.publicKeyLen + if t.sender.isSome then D.publicKeyLen else 0 := by
  rw [kemContext, List.length_append, List.length_append, h.enc, h.pkR]
  cases hs : t.sender with
  | none => simp; omega
  | some s =>
    have := (h.sender s hs).2
    simp [this]
    omega

/-- **A transcript can be read back from the two concatenations.** -/
theorem eq_of_concat_eq (hpos : 0 < D.publicKeyLen) (h : t.Fits D len) (h' : t'.Fits D len)
    (hdh : t.dh = t'.dh) (hctx : t.kemContext = t'.kemContext) : t = t' := by
  -- the length of the context tells whether there is a sender
  have hsome : t.sender.isSome = t'.sender.isSome := by
    have hl := congrArg List.length hctx
    rw [length_kemContext h, length_kemContext h'] at hl
    by_contra hne
    cases h1 : t.sender.isSome <;> cases h2 : t'.sender.isSome <;> simp_all
  obtain ⟨hdh1, hdh2⟩ := List.append_inj hdh (by rw [h.dh1, h'.dh1])
  obtain ⟨hctx, hpkS⟩ := List.append_inj hctx (by
    rw [List.length_append, List.length_append, h.enc, h'.enc, h.pkR, h'.pkR])
  obtain ⟨henc, hpkR⟩ := List.append_inj hctx (by rw [h.enc, h'.enc])
  have hsender : t.sender = t'.sender := by
    cases hs : t.sender with
    | none =>
      rw [hs] at hsome
      exact (Option.isNone_iff_eq_none.mp (by simpa using hsome.symm)).symm
    | some s =>
      rw [hs] at hsome hdh2 hpkS
      obtain ⟨s', hs'⟩ := Option.isSome_iff_exists.mp hsome.symm
      rw [hs'] at hdh2 hpkS ⊢
      exact congrArg some (Prod.ext hdh2 hpkS)
  cases t; cases t'
  simp only at hdh1 henc hpkR hsender
  subst hdh1 henc hpkR hsender
  rfl

end Transcript

/-! ## Operations -/

namespace DhOp

variable {D : DiffieHellman R}

/-- The operation: `encap`, `auth_encap`, `decap` or `auth_decap`. -/
def run : DhOp D → Outcome (DhSharedSecret × DhEncappedKey)
  | .encap rng pkR none => ((dhKem D).encap rng pkR).1
  | .encap rng pkR (some skS) => ((dhKem D).authEncap rng pkR skS).1
  | .decap enc skR none => do return (← (dhKem D).decap enc skR, enc)
  | .decap enc skR (some pkS) => do return (← (dhKem D).authDecap enc skR pkS, enc)

/-- The sender's part of a transcript. -/
def senderPart {α : Type} (dh2 : α → Outcome Bytes) (pkBytes : α → Bytes) :
    Option α → Outcome (Option (Bytes × Bytes))
  | none => return none
  | some key => do return some (← dh2 key, pkBytes key)

/-- The values of the transcript, in the order in which they are computed. -/
def transcript : DhOp D → Outcome Transcript
  | .encap rng pkR skS => do
    let dh1 ← D.dh (D.generate rng).1.1 pkR.val
    let sender ← senderPart (fun skS : DhPrivateKey D => D.dh skS.sk pkR.val) (·.pkBytes) skS
    return ⟨dh1, D.pkToBytes (D.generate rng).1.2, D.pkAsRef pkR.val, sender⟩
  | .decap enc skR pkS => do
    let pkE ← D.pkFromBytes enc.val
    let dh1 ← D.dh skR.sk pkE
    let sender ← senderPart (fun pkS : DhPublicKey D => D.dh skR.sk pkS.val) (D.pkAsRef ·.val) pkS
    return ⟨dh1, enc.val, skR.pkBytes, sender⟩

/-- The private keys of the operation are in a caller's hands. -/
def Held : DhOp D → Prop
  | .encap _ _ skS => ∀ sk ∈ skS, (dhKem D).HeldSk sk
  | .decap _ skR _ => (dhKem D).HeldSk skR

/-- Whatever both helpers compute from the concatenations, an operation computes it from its
transcript. -/
theorem run_eq_of {S : Bytes → Bytes → Outcome Bytes}
    (h1 : ∀ dh x y, extractAndExpand D dh [x, y] = S dh (x ++ y))
    (h2 : ∀ dh1 dh2 x y z, extractAndExpandPieces D [dh1, dh2] [x, y, z] =
      S (dh1 ++ dh2) (x ++ y ++ z))
    (op : DhOp D) : op.run = (do
      let t ← op.transcript
      let ss ← S t.dh t.kemContext
      return (⟨ss⟩, ⟨t.enc⟩)) := by
  rcases op with ⟨rng, pkR, _ | skS⟩ | ⟨enc, skR, _ | pkS⟩
  · have h : (encap rng pkR none).run = (do
        let dh1 ← D.dh (D.generate rng).1.1 pkR.val
        let ss ← extractAndExpand D dh1 [D.pkToBytes (D.generate rng).1.2, D.pkAsRef pkR.val]
        return (⟨ss⟩, ⟨D.pkToBytes (D.generate rng).1.2⟩)) := rfl
    simp [h, h1, transcript, senderPart, Transcript.dh, Transcript.kemContext]
  · have h : (encap rng pkR (some skS)).run = (do
        let dh1 ← D.dh (D.generate rng).1.1 pkR.val
        let dh2 ← D.dh skS.sk pkR.val
        let ss ← extractAndExpandPieces D [dh1, dh2]
          [D.pkToBytes (D.generate rng).1.2, D.pkAsRef pkR.val, skS.pkBytes]
        return (⟨ss⟩, ⟨D.pkToBytes (D.generate rng).1.2⟩)) := rfl
    simp [h, h2, transcript, senderPart, Transcript.dh, Transcript.kemContext]
  · simp [run, dhKem, h1, transcript, senderPart, Transcript.dh, Transcript.kemContext]
  · simp [run, dhKem, h2, transcript, senderPart, Transcript.dh, Transcript.kemContext]

theorem run_eq (hF : D.kdf.Lawful) (hD : D.Lawful) (op : DhOp D) : op.run = (do
    let t ← op.transcript
    let ss ← t.secret D
    return (⟨ss⟩, ⟨t.enc⟩)) := by
  refine run_eq_of (S := fun dh ctx => D.kdf.run (sharedSecretCall D dh ctx)) (fun dh x y => ?_)
    (fun dh1 dh2 x y z => ?_) op
  · rw [extractAndExpand_run hF hD _ (by simp [maxExpandPieces])]
    simp
  · rw [extractAndExpandPieces_run hF hD (by simp [maxExtractPieces]) (by simp [maxExpandPieces])]
    simp

theorem run_eq_ok (hF : D.kdf.Lawful) (hD : D.Lawful) {op : DhOp D} {ss : DhSharedSecret}
    {enc : DhEncappedKey} :
    op.run = .ok (ss, enc) ↔
      ∃ t, op.transcript = .ok t ∧ t.secret D = .ok ss.val ∧ enc = ⟨t.enc⟩ := by
  rw [run_eq hF hD, bind_eq_ok]
  refine exists_congr fun t => and_congr_right fun _ => ?_
  rw [bind_eq_ok]
  constructor
  · rintro ⟨b, hb, h⟩
    obtain ⟨rfl, rfl⟩ := Prod.mk.inj (Except.ok.inj h)
    exact ⟨hb, rfl⟩
  · rintro ⟨hb, rfl⟩
    exact ⟨ss.val, hb, rfl⟩

theorem senderPart_eq_ok {α : Type} {dh2 : α → Outcome Bytes} {pkBytes : α → Bytes} {key : Option α}
    {r : Option (Bytes × Bytes)} (h : senderPart dh2 pkBytes key = .ok r) :
    (key = none ∧ r = none) ∨ ∃ k d, key = some k ∧ dh2 k = .ok d ∧ r = some (d, pkBytes k) := by
  cases key with
  | none => exact Or.inl ⟨rfl, (Except.ok.inj h).symm⟩
  | some k =>
    obtain ⟨d, hd, h⟩ := bind_eq_ok.mp h
    exact Or.inr ⟨k, d, rfl, hd, (Except.ok.inj h).symm⟩

/-! ### The parties -/

/-- The operation has a sender. -/
def authenticated : DhOp D → Bool
  | .encap _ _ skS => skS.isSome
  | .decap _ _ pkS => pkS.isSome

/-- The recipient's public key, as its owner's private key caches it. -/
def recipient : DhOp D → Bytes
  | .encap _ pkR _ => D.pkToBytes pkR.val
  | .decap _ skR _ => skR.pkBytes

/-- The sender's public key, in an authenticated operation. -/
def sender : DhOp D → Option Bytes
  | .encap _ _ skS => skS.map DhPrivateKey.pkBytes
  | .decap _ _ pkS => pkS.map fun pk => D.pkToBytes pk.val

theorem transcript_spec (hD : D.Lawful) {op : DhOp D} {t : Transcript} (h : op.transcript = .ok t) :
    t.pkR = op.recipient ∧ t.sender.map Prod.snd = op.sender ∧
      t.sender.isSome = op.authenticated := by
  cases op with
  | encap rng pkR skS =>
    obtain ⟨dh1, -, h⟩ := bind_eq_ok.mp h
    obtain ⟨r, hr, h⟩ := bind_eq_ok.mp h
    obtain rfl := Except.ok.inj h
    refine ⟨hD.pkAsRef_eq _, ?_⟩
    rcases senderPart_eq_ok hr with ⟨rfl, rfl⟩ | ⟨k, d, rfl, -, rfl⟩
    · exact ⟨rfl, rfl⟩
    · exact ⟨rfl, rfl⟩
  | decap enc skR pkS =>
    obtain ⟨pkE, -, h⟩ := bind_eq_ok.mp h
    obtain ⟨dh1, -, h⟩ := bind_eq_ok.mp h
    obtain ⟨r, hr, h⟩ := bind_eq_ok.mp h
    obtain rfl := Except.ok.inj h
    refine ⟨rfl, ?_⟩
    rcases senderPart_eq_ok hr with ⟨rfl, rfl⟩ | ⟨k, d, rfl, -, rfl⟩
    · exact ⟨rfl, rfl⟩
    · exact ⟨congrArg some (hD.pkAsRef_eq _), rfl⟩

theorem length_recipient (hD : D.Lawful) {op : DhOp D} (hb : op.Held) :
    op.recipient.length = D.publicKeyLen := by
  cases op with
  | encap rng pkR skS => exact hD.length_pkToBytes _
  | decap enc skR pkS =>
    obtain ⟨pk, hpk⟩ := pkBytes_of_heldSk hD hb
    exact (congrArg List.length hpk).trans (hD.length_pkToBytes pk)

theorem length_sender (hD : D.Lawful) {op : DhOp D} (hb : op.Held) {b : Bytes}
    (h : op.sender = some b) :
    b.length = D.publicKeyLen := by
  cases op with
  | encap rng pkR skS =>
    obtain ⟨sk, hsk, rfl⟩ := Option.map_eq_some_iff.mp h
    obtain ⟨pk, hpk⟩ := pkBytes_of_heldSk hD (hb sk hsk)
    exact (congrArg List.length hpk).trans (hD.length_pkToBytes pk)
  | decap enc skR pkS =>
    obtain ⟨pk, -, rfl⟩ := Option.map_eq_some_iff.mp h
    exact hD.length_pkToBytes _

theorem senderPart_outputs {α : Type} {dh2 : α → Outcome Bytes} {pkBytes : α → Bytes}
    {key : Option α} {r : Option (Bytes × Bytes)} (h : senderPart dh2 pkBytes key = .ok r) :
    ∀ d ∈ (r.map Prod.fst).toList, ∃ k, dh2 k = .ok d := by
  intro d hd
  rcases senderPart_eq_ok h with ⟨-, rfl⟩ | ⟨k, d', -, h2, rfl⟩
  · cases hd
  · rw [Option.map_some, Option.toList_some, List.mem_singleton] at hd
    exact ⟨k, hd ▸ h2⟩

theorem transcript_outputs {op : DhOp D} {t : Transcript} (h : op.transcript = .ok t) :
    ∀ d ∈ t.outputs, ∃ sk pk, D.dh sk pk = .ok d := by
  intro d hd
  cases op with
  | encap rng pkR skS =>
    obtain ⟨dh1, h1, h⟩ := bind_eq_ok.mp h
    obtain ⟨r, hr, h⟩ := bind_eq_ok.mp h
    obtain rfl := Except.ok.inj h
    rcases List.mem_cons.mp hd with rfl | hd
    · exact ⟨_, _, h1⟩
    · obtain ⟨k, h2⟩ := senderPart_outputs hr d hd
      exact ⟨_, _, h2⟩
  | decap enc skR pkS =>
    obtain ⟨pkE, -, h⟩ := bind_eq_ok.mp h
    obtain ⟨dh1, h1, h⟩ := bind_eq_ok.mp h
    obtain ⟨r, hr, h⟩ := bind_eq_ok.mp h
    obtain rfl := Except.ok.inj h
    rcases List.mem_cons.mp hd with rfl | hd
    · exact ⟨_, _, h1⟩
    · obtain ⟨k, h2⟩ := senderPart_outputs hr d hd
      exact ⟨_, _, h2⟩

theorem transcript_fits (hD : D.Lawful) (X : RawDh D) {op : DhOp D} (hb : op.Held) {t : Transcript}
    (h : op.transcript = .ok t) : t.Fits D X.len := by
  have hout : ∀ d ∈ t.outputs, d.length = X.len := by
    intro d hd
    obtain ⟨sk, pk, hdh⟩ := transcript_outputs h d hd
    exact (X.dh_ok_spec hdh).1
  obtain ⟨hpkR, hsender, -⟩ := transcript_spec hD h
  refine ⟨hout _ (by simp [Transcript.outputs]), ?_, by rw [hpkR, length_recipient hD hb],
    fun s hs => ⟨?_, ?_⟩⟩
  · cases op with
    | encap rng pkR skS =>
      obtain ⟨dh1, -, h⟩ := bind_eq_ok.mp h
      obtain ⟨r, -, h⟩ := bind_eq_ok.mp h
      obtain rfl := Except.ok.inj h
      exact hD.length_pkToBytes _
    | decap enc skR pkS =>
      obtain ⟨pkE, hE, h⟩ := bind_eq_ok.mp h
      obtain ⟨dh1, -, h⟩ := bind_eq_ok.mp h
      obtain ⟨r, -, h⟩ := bind_eq_ok.mp h
      obtain rfl := Except.ok.inj h
      exact hD.length_of_pkFromBytes hE
  · exact hout s.1 (by simp [Transcript.outputs, hs])
  · rw [hs] at hsender
    exact length_sender hD hb hsender.symm

/-! ### The bytes folded for a party's public key -/

/-- The secret of the operation is derived from `b` as the recipient's public key. -/
def FoldsRecipient (op : DhOp D) (b : Bytes) : Prop := ∀ ss enc, op.run = .ok (ss, enc) →
  ∃ t, op.transcript = .ok t ∧ t.secret D = .ok ss.val ∧ t.pkR = b

/-- The secret of the operation is derived from `b` as the sender's public key. -/
def FoldsSender (op : DhOp D) (b : Bytes) : Prop := ∀ ss enc, op.run = .ok (ss, enc) →
  ∃ t, op.transcript = .ok t ∧ t.secret D = .ok ss.val ∧ t.sender.map Prod.snd = some b

theorem folds_recipient (hF : D.kdf.Lawful) (hD : D.Lawful) (op : DhOp D) :
    op.FoldsRecipient op.recipient := by
  intro ss enc h
  obtain ⟨t, ht, hs, -⟩ := (run_eq_ok hF hD).mp h
  exact ⟨t, ht, hs, (transcript_spec hD ht).1⟩

theorem folds_sender (hF : D.kdf.Lawful) (hD : D.Lawful) {op : DhOp D} {b : Bytes}
    (hb : op.sender = some b) : op.FoldsSender b := by
  intro ss enc h
  obtain ⟨t, ht, hs, -⟩ := (run_eq_ok hF hD).mp h
  exact ⟨t, ht, hs, (transcript_spec hD ht).2.1.trans hb⟩

end DhOp

/-- `b` is what goes into `kem_context` for the key `pk`: at a sender who encapsulates to it, at a
recipient who authenticates it, and at its owner, who has it cached next to the private key. -/
structure DhPublicKey.FoldedAs {D : DiffieHellman R} (pk : DhPublicKey D) (b : Bytes) : Prop where
  peer_sender : ∀ rng skS, (DhOp.encap rng pk skS).FoldsRecipient b
  peer_recipient : ∀ enc skR, (DhOp.decap enc skR (some pk)).FoldsSender b
  owner_recipient : ∀ {sk : DhPrivateKey D}, (dhKem D).BuiltSk sk → D.skToPk sk.sk = pk.val →
    ∀ enc pkS, (DhOp.decap enc sk pkS).FoldsRecipient b
  owner_sender : ∀ {sk : DhPrivateKey D}, (dhKem D).BuiltSk sk → D.skToPk sk.sk = pk.val →
    ∀ rng pkR, (DhOp.encap rng pkR (some sk)).FoldsSender b

theorem DhPublicKey.foldedAs {D : DiffieHellman R} (hF : D.kdf.Lawful) (hD : D.Lawful)
    (pk : DhPublicKey D) :
    pk.FoldedAs (D.pkToBytes pk.val) where
  peer_sender rng skS := DhOp.folds_recipient hF hD (.encap rng pk skS)
  peer_recipient enc skR := DhOp.folds_sender hF hD rfl
  owner_recipient {sk} hb h enc pkS := by
    have hsk : sk.pkBytes = D.pkToBytes pk.val := by rw [← h, pkBytes_of_builtSk hD hb]
    rw [← hsk]
    exact DhOp.folds_recipient hF hD (.decap enc sk pkS)
  owner_sender {sk} hb h rng pkR := by
    have hsk : sk.pkBytes = D.pkToBytes pk.val := by rw [← h, pkBytes_of_builtSk hD hb]
    rw [← hsk]
    exact DhOp.folds_sender hF hD rfl

/-! ## Binding -/

/-- **Equal secrets come from equal transcripts**, or a KDF call of one operation collides with one
of the other. -/
theorem Transcript.eq_or_collision {D : DiffieHellman R} (hF : D.kdf.Lawful) (hD : D.Lawful)
    {t t' : Transcript} {len : ℕ} (hf : t.Fits D len) (hf' : t'.Fits D len) {ss : Bytes}
    (h : t.secret D = .ok ss) (h' : t'.secret D = .ok ss) :
    t = t' ∨ D.kdf.Collision (t.calls D) (t'.calls D) := by
  rcases expand_binds rfl h h' with ⟨hprk, -, hctx, -⟩ | hcol
  swap
  · exact Or.inr ⟨_, by simp [calls, sharedSecretCall], _, by simp [calls, sharedSecretCall], hcol⟩
  rcases extract_binds hF rfl hprk with ⟨-, -, hdh⟩ | hcol
  swap
  · exact Or.inr ⟨_, by simp [calls, eaeCall], _, by simp [calls, eaeCall], hcol⟩
  exact Or.inl (eq_of_concat_eq hD.publicKeyLen_pos hf hf' hdh hctx)

/-- **The shared secret of a DHKEM binds the whole transcript.** Two successful operations with one
secret are both authenticated or both not, and agree on the encapsulated key as bytes, on the
recipient's and the sender's public key and on each DH output, or their KDF calls collide. -/
theorem sharedSecret_binds {c : Crates R} [CryptoRng R] (hc : c.HkdfDocumented)
    (hd : c.CurvesDocumented) (g : DhGroup) {op op' : DhOp (g.dh c)} (hb : op.Held) (hb' : op'.Held)
    {ss ss' : DhSharedSecret} {enc enc' : DhEncappedKey} (h : op.run = .ok (ss, enc))
    (h' : op'.run = .ok (ss', enc')) (he : ss = ss') :
    ∃ t t', op.transcript = .ok t ∧ op'.transcript = .ok t' ∧
      (op.authenticated = op'.authenticated ∧ enc.val = enc'.val ∧ op.recipient = op'.recipient ∧
          op.sender = op'.sender ∧ t.dh1 = t'.dh1 ∧ t.sender.map Prod.fst = t'.sender.map Prod.fst ∨
        (g.dh c).kdf.Collision (t.calls (g.dh c)) (t'.calls (g.dh c))) := by
  have hF := g.kdf_lawful hc
  have hD := g.lawful hd
  obtain ⟨t, ht, hs, rfl⟩ := (DhOp.run_eq_ok hF hD).mp h
  obtain ⟨t', ht', hs', rfl⟩ := (DhOp.run_eq_ok hF hD).mp h'
  refine ⟨t, t', ht, ht', ?_⟩
  have hf := DhOp.transcript_fits hD (g.rawDh c) hb ht
  have hf' := DhOp.transcript_fits hD (g.rawDh c) hb' ht'
  rw [← he] at hs'
  refine (Transcript.eq_or_collision hF hD hf hf' hs hs').imp_left fun heq => ?_
  obtain ⟨hr, hsd, ha⟩ := DhOp.transcript_spec hD ht
  obtain ⟨hr', hsd', ha'⟩ := DhOp.transcript_spec hD ht'
  subst heq
  exact ⟨ha.symm.trans ha', rfl, hr.symm.trans hr', hsd.symm.trans hsd', rfl, rfl⟩

/-- A sender and the recipient of one encapsulation. -/
theorem sharedSecret_binds_p256 :
    let D := DhGroup.p256.dh Sample.crates
    let op : DhOp D := .encap (5 : ℕ) (D.keyPair (7 : ℕ)).2 none
    let op' : DhOp D := .decap ⟨D.pkToBytes (D.generate (5 : ℕ)).1.2⟩ (D.keyPair (7 : ℕ)).1 none
    ∃ ss enc enc', op.run = .ok (ss, enc) ∧ op'.run = .ok (ss, enc') ∧
      ∃ t t', op.transcript = .ok t ∧ op'.transcript = .ok t' ∧
        (op.authenticated = op'.authenticated ∧ enc.val = enc'.val ∧ op.recipient = op'.recipient ∧
            op.sender = op'.sender ∧ t.dh1 = t'.dh1 ∧
              t.sender.map Prod.fst = t'.sender.map Prod.fst ∨
          D.kdf.Collision (t.calls D) (t'.calls D)) := by
  intro D op op'
  have hok : op.run.isOk = true := by decide +kernel
  have heq : op'.run.map (·.1.val) = op.run.map (·.1.val) := by decide +kernel
  obtain ⟨⟨ss, enc⟩, h⟩ := isOk_iff.mp hok
  rw [h] at heq
  obtain ⟨⟨ss', enc'⟩, h'⟩ : ∃ r, op'.run = .ok r := by
    cases hr : op'.run with
    | error f => rw [hr] at heq; cases heq
    | ok r => exact ⟨r, rfl⟩
  have he : ss = ss' := by
    rw [h'] at heq
    exact congrArg DhSharedSecret.mk (Except.ok.inj heq).symm
  have hb : op.Held := by
    intro sk h
    cases h
  have hb' : op'.Held := .built (builtSk_keyPair D (7 : ℕ))
  refine ⟨ss, enc, enc', h, he ▸ h', ?_⟩
  exact sharedSecret_binds Sample.hkdfDocumented Sample.curvesDocumented .p256 hb hb' h h' he

end HpkeNg

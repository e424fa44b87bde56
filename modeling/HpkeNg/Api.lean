import HpkeNg.Kem.Derive.Binding
import HpkeNg.Kem.Scrub
import HpkeNg.Session.ErrorKind
import HpkeNg.World

/-!
# What the public interface returns

* `ReportsOnly.bind`, `ReportsOnly.guard`: how the errors of a call follow from those of its parts;
* `Context.raises_seal`, `raises_open`, `raises_export`: the errors of the three operations of a
  context;
* `SenderMode.raises_seal`, `ReceiverMode.raises_open`, and the two for exports: exactly when a
  single-shot function fails, and with which error;
* `ApiCall`, `ApiCall.result`, `ApiCall.errors`: the functions of the crate, and the errors of each
  one;
* `api_reports`: no call panics, and none returns an error that is not its own.
-/

namespace HpkeNg

variable {R : Type}

/-! ## Calls with few errors -/

namespace ReportsOnly

variable {α β : Type} {p q : HpkeError → Prop}

theorem ok (a : α) : ReportsOnly (.ok a : Outcome α) p := by rintro f ⟨⟩

theorem of_eq_ok {x : Outcome α} {a : α} (h : x = .ok a) : ReportsOnly x p := h ▸ ok a

theorem mono {x : Outcome α} (h : ReportsOnly x p) (hpq : ∀ e, p e → q e) : ReportsOnly x q := by
  intro f hf
  obtain ⟨e, he, hp⟩ := h f hf
  exact ⟨e, he, hpq e hp⟩

theorem bind {x : Outcome α} {f : α → Outcome β} (h : ReportsOnly x p)
    (hf : ∀ a, x = .ok a → ReportsOnly (f a) p) :
    ReportsOnly (x >>= f) p := by
  cases x with
  | error fault =>
    intro fault' h'
    exact h fault' (congrArg Except.error (Except.error.inj h'))
  | ok a => exact hf a rfl

theorem throw {e : HpkeError} (h : p e) : ReportsOnly (throwErr e : Outcome α) p := by
  rintro f ⟨⟩
  exact ⟨e, rfl, h⟩

/-- `if p { return Err(e) }`. -/
theorem guard {P : Prop} [Decidable P] {e : HpkeError} {x : Outcome α} (he : p e)
    (h : ¬ P → ReportsOnly x p) :
    ReportsOnly (if P then throwErr e else x) p := by
  by_cases hP : P
  · rw [if_pos hP]
    exact throw he
  · rw [if_neg hP]
    exact h hP

theorem okOr {e : HpkeError} {o : Option α} (h : p e) : ReportsOnly (okOr e o) p := by
  cases o with
  | none => exact throw h
  | some a => exact ok a

end ReportsOnly

/-! ## The KDFs and the AEADs -/

theorem KdfAlg.reports_expand (c : Crates R) (f : KdfAlg) (prk : Bytes) (infoPieces : List Bytes)
    (outLen : ℕ) :
    ReportsOnly ((f.kdf c).expand prk infoPieces outLen)
      (· ∈ [.exportLengthExceeded, .deriveKeyPairError]) := by
  have hlen : HpkeError.exportLengthExceeded ∈ [.exportLengthExceeded, .deriveKeyPairError] :=
    List.mem_cons_self
  have hprk : HpkeError.deriveKeyPairError ∈ [.exportLengthExceeded, .deriveKeyPairError] :=
    List.mem_cons_of_mem _ (List.mem_singleton_self _)
  cases f <;> exact .guard hlen fun _ => .bind (.okOr hprk) fun _ _ => .bind (.okOr hlen) fun _ _ =>
    .ok _

theorem AeadAlg.reports_init (c : Crates R) (a : AeadAlg) (key : Bytes) :
    ReportsOnly ((a.aead c).init key) (· = .aeadInitError) := by
  rcases a with (_ | _ | _) | _
  · exact .okOr rfl
  · exact .okOr rfl
  · exact .okOr rfl
  · exact .ok ()

/-! ## The operations of a context -/

section Operations

variable {K : Kem R} {c : Crates R} {f : KdfAlg}

theorem Context.raises_seal {F : Kdf} {a : SealingAlg} (ctx : Context K F (a.aead c))
    (aad pt : Bytes) :
    Raises (ctx.seal (a.sealing c) aad pt).run.1 fun e =>
      (e = .messageLimitReached ∧ ctx.seq = seqMax) ∨ (e = .sealError ∧ ctx.seq ≠ seqMax ∧
        Fails ((a.sealing c).seal ctx.cipher
          (nonceAt ctx.baseNonce (a.aead c).nonceLen ctx.seq.toNat) aad pt)) := by
  rw [ctx.seal_eq]
  by_cases hlim : ctx.seq = seqMax
  · rw [if_pos hlim]
    exact (Raises.err HpkeError.messageLimitReached).congr fun e => by simp [hlim]
  · rw [if_neg hlim]
    refine (Raises.of_fault fun fault => a.seal_fault).congr fun e => ?_
    simp [hlim]

theorem Context.raises_open {F : Kdf} {a : SealingAlg} (ctx : Context K F (a.aead c))
    (aad ct : Bytes) :
    Raises (ctx.open (a.sealing c) aad ct).run.1 fun e =>
      (e = .messageLimitReached ∧ ctx.seq = seqMax) ∨ (e = .openError ∧ ctx.seq ≠ seqMax ∧
        Fails ((a.sealing c).open ctx.cipher
          (nonceAt ctx.baseNonce (a.aead c).nonceLen ctx.seq.toNat) aad ct)) := by
  rw [ctx.open_eq]
  by_cases hlim : ctx.seq = seqMax
  · rw [if_pos hlim]
    exact (Raises.err HpkeError.messageLimitReached).congr fun e => by simp [hlim]
  · rw [if_neg hlim]
    refine (Raises.of_fault fun fault => a.open_fault).congr fun e => ?_
    simp [hlim]

theorem Context.raises_export {A : Aead} (hc : c.HkdfDocumented) {ctx : Context K (f.kdf c) A}
    (hs : ctx.exporterSecret.length = (f.kdf c).hashLen) (ec : Bytes) (length : ℕ) :
    Raises (ctx.export ec length) fun e => e = .exportLengthExceeded ∧
      255 * (f.kdf c).hashLen < length := by
  obtain ⟨hle, hgt⟩ := Context.export_spec hc hs ec length
  by_cases hl : length ≤ 255 * (f.kdf c).hashLen
  · obtain ⟨out, hout, -⟩ := hle hl
    rw [hout]
    exact (Raises.ok out).congr fun e => (iff_of_false (fun h => Nat.not_lt.mpr hl h.2) id).symm
  · have hl := Nat.not_le.mp hl
    rw [hgt hl]
    exact (Raises.err HpkeError.exportLengthExceeded).congr fun e => by simp [hl]

end Operations

/-! ## The single-shot functions -/

section SingleShot

theorem ScheduleCall.seq_ne_max {K : Kem R} {F : Kdf} {A : Aead} {s : ScheduleCall}
    {ctx : Context K F A} (h : s.run K F A = .ok ctx) : ctx.seq.toNat = 0 ∧ ctx.seq ≠ seqMax := by
  have hseq : ctx.seq = 0 := ScheduleCall.run_seq h
  rw [hseq]
  exact ⟨rfl, by decide⟩

variable [CryptoRng R] {c : Crates R} {k : KemAlg} {p : HpkeError → Prop}

/-- **When sealing one message fails**: as the encapsulation does, or when the AEAD refuses the
message under the first nonce. -/
theorem SenderMode.raises_seal (hc : c.HkdfDocumented) (ha : c.AeadDocumented) {M : SenderMode c k}
    {rng : R} {pkR : (k.kem c).PublicKey} (h : Raises (M.encap rng pkR).1 p) (f : KdfAlg)
    (a : SealingAlg) (info aad pt : Bytes) :
    Raises (M.seal (f.kdf c) (a.sealing c) rng pkR info aad pt).1 fun e => p e ∨ (e = .sealError ∧
      ∃ enc ctx, (M.setup (f.kdf c) (a.aead c) rng pkR info).1 = .ok (enc, ctx) ∧
        Fails ((a.sealing c).seal ctx.val.cipher (nonceAt ctx.val.baseNonce (a.aead c).nonceLen 0)
          aad pt)) := by
  rw [M.seal_eq]
  refine ((M.raises_setup hc ha h f (.sealing a) info).bind (r := fun r e => e = .sealError ∧
    Fails ((a.sealing c).seal r.2.val.cipher (nonceAt r.2.val.baseNonce (a.aead c).nonceLen 0)
      aad pt)) fun r hr => ?_).congr fun e => or_congr_right ?_
  · obtain ⟨ss, -, hrun⟩ := SenderMode.setup_eq_ok hr
    obtain ⟨h0, hlim⟩ := ScheduleCall.seq_ne_max hrun
    refine ((r.2.val.raises_seal aad pt).bind_ok fun ct _ => ⟨_, rfl⟩).congr fun e => ?_
    simp [hlim, h0]
  · constructor
    · rintro ⟨⟨enc, ctx⟩, hr, he, hf⟩
      exact ⟨he, enc, ctx, hr, hf⟩
    · rintro ⟨he, enc, ctx, hr, hf⟩
      exact ⟨(enc, ctx), hr, he, hf⟩

theorem ReceiverMode.raises_open (hc : c.HkdfDocumented) (ha : c.AeadDocumented)
    {M : ReceiverMode c k} {enc : (k.kem c).EncappedKey} {skR : (k.kem c).PrivateKey}
    (h : Raises (M.decap enc skR) p) (f : KdfAlg) (a : SealingAlg) (info aad ct : Bytes) :
    Raises (M.open (f.kdf c) (a.sealing c) enc skR info aad ct) fun e => p e ∨ (e = .openError ∧
      ∃ ctx, M.setup (f.kdf c) (a.aead c) enc skR info = .ok ctx ∧
        Fails ((a.sealing c).open ctx.val.cipher (nonceAt ctx.val.baseNonce (a.aead c).nonceLen 0)
          aad ct)) := by
  rw [M.open_eq]
  refine ((M.raises_setup hc ha h f (.sealing a) info).bind (r := fun ctx e => e = .openError ∧
    Fails ((a.sealing c).open ctx.val.cipher (nonceAt ctx.val.baseNonce (a.aead c).nonceLen 0)
      aad ct)) fun ctx hctx => ?_).congr fun e => or_congr_right ?_
  · obtain ⟨ss, -, hrun⟩ := ReceiverMode.setup_eq_ok hctx
    obtain ⟨h0, hlim⟩ := ScheduleCall.seq_ne_max hrun
    refine (ctx.val.raises_open aad ct).congr fun e => ?_
    simp [hlim, h0]
  · exact ⟨fun ⟨ctx, hctx, he, hf⟩ => ⟨he, ctx, hctx, hf⟩,
      fun ⟨he, ctx, hctx, hf⟩ => ⟨ctx, hctx, he, hf⟩⟩

/-- **When exporting one secret fails**: as the encapsulation does, or when it is too long for the
KDF. -/
theorem SenderMode.raises_sendExport (hc : c.HkdfDocumented) (ha : c.AeadDocumented)
    {M : SenderMode c k} {rng : R} {pkR : (k.kem c).PublicKey} (h : Raises (M.encap rng pkR).1 p)
    (f : KdfAlg) (a : AeadAlg) (info ec : Bytes) (length : ℕ) :
    Raises (M.sendExport (f.kdf c) (a.aead c) rng pkR info ec length).1 fun e => p e ∨
      (e = .exportLengthExceeded ∧ 255 * (f.kdf c).hashLen < length ∧ ∀ e, ¬ p e) := by
  have hs := M.raises_setup hc ha h f a info
  rw [M.sendExport_eq]
  refine (hs.bind (r := fun _ e => e = .exportLengthExceeded ∧ 255 * (f.kdf c).hashLen < length)
    fun r hr => ?_).congr fun e => or_congr_right ?_
  · obtain ⟨ss, -, hrun⟩ := SenderMode.setup_eq_ok hr
    exact (Context.raises_export hc (ScheduleCall.run_exporterSecret (KdfAlg.lawful hc f) hrun)
      ec length).bind_ok fun out _ => ⟨_, rfl⟩
  · rw [exists_and_right, hs.isOk]
    tauto

theorem ReceiverMode.raises_receiverExport (hc : c.HkdfDocumented) (ha : c.AeadDocumented)
    {M : ReceiverMode c k} {enc : (k.kem c).EncappedKey} {skR : (k.kem c).PrivateKey}
    (h : Raises (M.decap enc skR) p) (f : KdfAlg) (a : AeadAlg) (info ec : Bytes) (length : ℕ) :
    Raises (M.receiverExport (f.kdf c) (a.aead c) enc skR info ec length) fun e => p e ∨
      (e = .exportLengthExceeded ∧ 255 * (f.kdf c).hashLen < length ∧ ∀ e, ¬ p e) := by
  have hs := M.raises_setup hc ha h f a info
  rw [M.receiverExport_eq]
  refine (hs.bind (r := fun _ e => e = .exportLengthExceeded ∧ 255 * (f.kdf c).hashLen < length)
    fun ctx hctx => ?_).congr fun e => or_congr_right ?_
  · obtain ⟨ss, -, hrun⟩ := ReceiverMode.setup_eq_ok hctx
    exact Context.raises_export hc (ScheduleCall.run_exporterSecret (KdfAlg.lawful hc f) hrun)
      ec length
  · rw [exists_and_right, hs.isOk]
    tauto

/-- When the sender's KEM operation returns the error `e`. -/
def SenderMode.Raised : {k : KemAlg} → SenderMode c k → R → (k.kem c).PublicKey → HpkeError → Prop
  | .dhKem g, M, rng, pkR, e => (M.op rng pkR).Raised (g.rawDh c) e
  | .pq _, _, _, _, _ => False

/-- When the receiver's KEM operation returns the error `e`. -/
def ReceiverMode.Raised :
    {k : KemAlg} → ReceiverMode c k → (k.kem c).EncappedKey → (k.kem c).PrivateKey → HpkeError →
      Prop
  | .dhKem g, M, enc, skR, e => (M.op enc skR).Raised (g.rawDh c) e
  | .pq q, _, enc, skR, e => q.Raised c enc skR e

theorem SenderMode.raises (hc : c.HkdfDocumented) (hd : c.CurvesDocumented) (M : SenderMode c k)
    (rng : R) (pkR : (k.kem c).PublicKey) : Raises (M.encap rng pkR).1 (M.Raised rng pkR) := by
  cases k with
  | dhKem g => exact M.raises_encap hc hd rng pkR
  | pq q =>
    obtain ⟨r, hr⟩ := M.encap_ok rng pkR
    exact hr ▸ .ok r

theorem ReceiverMode.raises (hc : c.HkdfDocumented) (hd : c.CurvesDocumented) (M : ReceiverMode c k)
    (enc : (k.kem c).EncappedKey) (skR : (k.kem c).PrivateKey) :
    Raises (M.decap enc skR) (M.Raised enc skR) := by
  cases k with
  | dhKem g => exact M.raises_decap hc hd enc skR
  | pq q => exact M.raises_decap_pq enc skR

/-- **When the single-shot functions fail.** For every suite and mode, each returns an error in two
cases: the KEM operation of its setup returns that error, or the setup returns a context and its one
operation fails: the AEAD refuses the message under the first nonce, or the secret is longer than
`255 * Nh`. The message limit is never reached, and nothing panics. -/
theorem single_shot_raises (hc : c.HkdfDocumented) (ha : c.AeadDocumented) (hd : c.CurvesDocumented)
    (f : KdfAlg) (k : KemAlg) :
    (∀ (M : SenderMode c k) rng pkR info,
      (∀ (a : SealingAlg) aad pt,
        Raises (M.seal (f.kdf c) (a.sealing c) rng pkR info aad pt).1 fun e =>
        M.Raised rng pkR e ∨ (e = .sealError ∧
          ∃ enc ctx, (M.setup (f.kdf c) (a.aead c) rng pkR info).1 = .ok (enc, ctx) ∧
            Fails ((a.sealing c).seal ctx.val.cipher
              (nonceAt ctx.val.baseNonce (a.aead c).nonceLen 0) aad pt))) ∧
      ∀ (a : AeadAlg) ec length,
        Raises (M.sendExport (f.kdf c) (a.aead c) rng pkR info ec length).1 fun e =>
        M.Raised rng pkR e ∨ (e = .exportLengthExceeded ∧ 255 * (f.kdf c).hashLen < length ∧
          ∀ e, ¬ M.Raised rng pkR e)) ∧
    ∀ (M : ReceiverMode c k) enc skR info,
      (∀ (a : SealingAlg) aad ct,
        Raises (M.open (f.kdf c) (a.sealing c) enc skR info aad ct) fun e =>
        M.Raised enc skR e ∨ (e = .openError ∧
          ∃ ctx, M.setup (f.kdf c) (a.aead c) enc skR info = .ok ctx ∧
            Fails ((a.sealing c).open ctx.val.cipher
              (nonceAt ctx.val.baseNonce (a.aead c).nonceLen 0) aad ct))) ∧
      ∀ (a : AeadAlg) ec length,
        Raises (M.receiverExport (f.kdf c) (a.aead c) enc skR info ec length) fun e =>
        M.Raised enc skR e ∨ (e = .exportLengthExceeded ∧ 255 * (f.kdf c).hashLen < length ∧
          ∀ e, ¬ M.Raised enc skR e) := by
  refine ⟨fun M rng pkR info => ?_, fun M enc skR info => ?_⟩
  · have h := M.raises hc hd rng pkR
    constructor
    · intro a aad pt
      exact M.raises_seal hc ha h f a info aad pt
    · intro a ec length
      exact M.raises_sendExport hc ha h f a info ec length
  · have h := M.raises hc hd enc skR
    constructor
    · intro a aad ct
      exact M.raises_open hc ha h f a info aad ct
    · intro a ec length
      exact M.raises_receiverExport hc ha h f a info ec length

/-- An export of 8161 bytes is too long for ML-KEM-768; with X25519 and the point 0 it fails in the
KEM, before its length is looked at. -/
theorem single_shot_raises_examples :
    let F := KdfAlg.hkdfSha256.kdf Sample.crates
    let A := AeadAlg.exportOnly.aead Sample.crates
    let M : SenderMode Sample.crates (.pq .mlKem768) := .psk Sample.psk
    let M' : SenderMode Sample.crates (.dhKem .x25519) := .psk Sample.psk
    let pkR : DhPublicKey (DhGroup.x25519.dh Sample.crates) := ⟨X25519PublicKey.mk (zeros 32)⟩
    (M.sendExport F A (5 : ℕ) (mlKemFromSeed Sample.crates.mlKem768 (zeros 64)).2 (ascii "info")
        [] 8161).1 = throwErr .exportLengthExceeded ∧
      (M'.sendExport F A (5 : ℕ) pkR (ascii "info") [] 8161).1 = throwErr .encapError := by
  intro F A M M' pkR
  have h := fun k (M : SenderMode Sample.crates k) pkR => ((single_shot_raises Sample.hkdfDocumented
    Sample.aeadDocumented Sample.curvesDocumented .hkdfSha256 k).1 M (5 : ℕ) pkR (ascii "info")).2
      .exportOnly [] 8161
  constructor
  · exact ((h _ M _).error_iff .exportLengthExceeded).mpr
      (Or.inr ⟨rfl, (by decide : 255 * 32 < 8161), fun _ he => he⟩)
  · let skE := ((DhGroup.x25519.dh Sample.crates).generate (5 : ℕ)).1.1
    exact ((h _ M' pkR).error_iff .encapError).mpr
      (Or.inl ⟨rfl, Or.inl (Sample.x25519_zeros (X25519PrivateKey.val skE))⟩)

end SingleShot

/-- The call without its value. -/
def discard {α : Type} (x : Outcome α) : Outcome Unit := x.map fun _ => ()

theorem ReportsOnly.discard {α : Type} {x : Outcome α} {p : HpkeError → Prop}
    (h : ReportsOnly x p) :
    ReportsOnly (discard x) p := by
  cases x with
  | ok a => exact ReportsOnly.ok ()
  | error f =>
    intro f' h'
    exact h f' (congrArg Except.error (Except.error.inj h'))

/-! ## The functions of the crate -/

variable [CryptoRng R]

/-- A call of a function of the crate. The authenticated operations exist for the DHKEMs only. -/
inductive ApiCall (c : Crates R) : KemAlg → Type where
  | generate {k : KemAlg} (rng : R) : ApiCall c k
  | deriveKeyPair {k : KemAlg} (ikm : Bytes) : ApiCall c k
  | pkFromBytes {k : KemAlg} (b : Bytes) : ApiCall c k
  | skFromBytes {k : KemAlg} (b : Bytes) : ApiCall c k
  | encFromBytes {k : KemAlg} (b : Bytes) : ApiCall c k
  | zeroize {k : KemAlg} (sk : (k.kem c).PrivateKey) : ApiCall c k
  | encap {k : KemAlg} (rng : R) (pkR : (k.kem c).PublicKey) : ApiCall c k
  | decap {k : KemAlg} (enc : (k.kem c).EncappedKey) (skR : (k.kem c).PrivateKey) : ApiCall c k
  | dh {g : DhGroup} (sk : (g.dh c).PrivateKey) (pk : (g.dh c).PublicKey) : ApiCall c (.dhKem g)
  | authEncap {g : DhGroup} (rng : R) (pkR : DhPublicKey (g.dh c)) (skS : DhPrivateKey (g.dh c)) :
    ApiCall c (.dhKem g)
  | authDecap {g : DhGroup} (enc : DhEncappedKey) (skR : DhPrivateKey (g.dh c))
    (pkS : DhPublicKey (g.dh c)) : ApiCall c (.dhKem g)
  | keySchedule {k : KemAlg} (a : AeadAlg) (call : ScheduleCall) : ApiCall c k
  | setupSender {k : KemAlg} (a : AeadAlg) (M : SenderMode c k) (rng : R)
    (pkR : (k.kem c).PublicKey) (info : Bytes) : ApiCall c k
  | setupReceiver {k : KemAlg} (a : AeadAlg) (M : ReceiverMode c k) (enc : (k.kem c).EncappedKey)
    (skR : (k.kem c).PrivateKey) (info : Bytes) : ApiCall c k
  | seal {k : KemAlg} (a : SealingAlg) (M : SenderMode c k) (rng : R) (pkR : (k.kem c).PublicKey)
    (info aad pt : Bytes) : ApiCall c k
  | open {k : KemAlg} (a : SealingAlg) (M : ReceiverMode c k) (enc : (k.kem c).EncappedKey)
    (skR : (k.kem c).PrivateKey) (info aad ct : Bytes) : ApiCall c k
  | sendExport {k : KemAlg} (a : AeadAlg) (M : SenderMode c k) (rng : R) (pkR : (k.kem c).PublicKey)
    (info exporterContext : Bytes) (length : ℕ) : ApiCall c k
  | receiverExport {k : KemAlg} (a : AeadAlg) (M : ReceiverMode c k) (enc : (k.kem c).EncappedKey)
    (skR : (k.kem c).PrivateKey) (info exporterContext : Bytes) (length : ℕ) : ApiCall c k

/-- How the call ends. -/
def ApiCall.result {c : Crates R} (f : KdfAlg) : {k : KemAlg} → ApiCall c k → Outcome Unit
  | k, .generate rng => discard ((k.kem c).generate rng).1
  | k, .deriveKeyPair ikm => discard ((k.kem c).deriveKeyPair ikm)
  | k, .pkFromBytes b => discard ((k.kem c).pkFromBytes b)
  | k, .skFromBytes b => discard ((k.kem c).skFromBytes b)
  | k, .encFromBytes b => discard ((k.kem c).encFromBytes b)
  | k, .zeroize sk => discard ((k.kem c).zeroize sk)
  | k, .encap rng pkR => discard ((k.kem c).encap rng pkR).1
  | k, .decap enc skR => discard ((k.kem c).decap enc skR)
  | .dhKem g, .dh sk pk => discard ((g.dh c).dh sk pk)
  | .dhKem g, .authEncap rng pkR skS => discard ((g.kem c).authEncap rng pkR skS).1
  | .dhKem g, .authDecap enc skR pkS => discard ((g.kem c).authDecap enc skR pkS)
  | k, .keySchedule a call => discard (call.run (k.kem c) (f.kdf c) (a.aead c))
  | _, .setupSender a M rng pkR info => discard (M.setup (f.kdf c) (a.aead c) rng pkR info).1
  | _, .setupReceiver a M enc skR info => discard (M.setup (f.kdf c) (a.aead c) enc skR info)
  | _, .seal a M rng pkR info aad pt =>
    discard (M.seal (f.kdf c) (a.sealing c) rng pkR info aad pt).1
  | _, .open a M enc skR info aad ct => discard (M.open (f.kdf c) (a.sealing c) enc skR info aad ct)
  | _, .sendExport a M rng pkR info ec length =>
    discard (M.sendExport (f.kdf c) (a.aead c) rng pkR info ec length).1
  | _, .receiverExport a M enc skR info ec length =>
    discard (M.receiverExport (f.kdf c) (a.aead c) enc skR info ec length)

/-- The errors of deriving a key pair. -/
def KemAlg.deriveErrors : KemAlg → List HpkeError
  | .dhKem .p256 | .dhKem .p384 | .dhKem .p521 | .dhKem .k256 => [.deriveKeyPairError]
  | .dhKem .x25519 | .dhKem .x448 | .pq _ => []

/-- The errors of an encapsulation. -/
def KemAlg.senderErrors : KemAlg → List HpkeError
  | .dhKem _ => [.encapError]
  | .pq _ => []

/-- The errors of a decapsulation. -/
def KemAlg.receiverErrors : KemAlg → List HpkeError
  | .dhKem _ => [.invalidPublicKey, .encapError]
  | .pq _ => [.decapError, .invalidEncappedKey]

/-- The errors that a call can return. -/
def ApiCall.errors {c : Crates R} {k : KemAlg} : ApiCall c k → List HpkeError
  | .generate _ => []
  | .deriveKeyPair _ => k.deriveErrors
  | .pkFromBytes _ => [.invalidPublicKey]
  | .skFromBytes _ => [.invalidPrivateKey]
  | .encFromBytes _ => [.invalidEncappedKey]
  | .zeroize _ => []
  | .encap .. => k.senderErrors
  | .decap .. => k.receiverErrors
  | .dh .. => [.encapError]
  | .authEncap .. => k.senderErrors
  | .authDecap .. => k.receiverErrors
  | .keySchedule .. => []
  | .setupSender .. => k.senderErrors
  | .setupReceiver .. => k.receiverErrors
  | .seal .. => .sealError :: k.senderErrors
  | .open .. => .openError :: k.receiverErrors
  | .sendExport .. => .exportLengthExceeded :: k.senderErrors
  | .receiverExport .. => .exportLengthExceeded :: k.receiverErrors

/-- The errors of an operation of a sender's context. -/
def SendOp.errors : SendOp → List HpkeError
  | .seal _ _ => [.messageLimitReached, .sealError]
  | .export _ _ => [.exportLengthExceeded]

/-- The errors of an operation of a receiver's context. -/
def ReceiverOp.errors : ReceiverOp → List HpkeError
  | .open _ _ => [.messageLimitReached, .openError]
  | .export _ _ => [.exportLengthExceeded]

/-! ## Each function -/

section Each

variable {c : Crates R} {k : KemAlg}

theorem ReportsOnly.copy {n : ℕ} {b : Bytes} {p : HpkeError → Prop} (hb : b.length = n) :
    ReportsOnly (copyFromSlice (zeros n) 0 n b : Outcome (Arr n)) p :=
  .of_eq_ok (copyFromSlice_all (zeros n) ⟨b, hb⟩)

theorem KemAlg.generate_ok (c : Crates R) (k : KemAlg) (rng : R) :
    ∃ r, ((k.kem c).generate rng).1 = .ok r := by
  cases k with
  | dhKem g => exact ⟨_, rfl⟩
  | pq q => cases q <;> exact ⟨_, rfl⟩

theorem KemAlg.zeroize_ok (hr : c.ReplacementDocumented) (k : KemAlg) (sk : (k.kem c).PrivateKey) :
    ∃ sk', (k.kem c).zeroize sk = .ok sk' := by
  cases k with
  | dhKem g =>
    obtain ⟨s, hs, -⟩ := g.skZeroize_spec hr (DhPrivateKey.sk sk)
    exact ⟨_, bind_eq_ok.mpr ⟨s, hs, rfl⟩⟩
  | pq q =>
    obtain ⟨sk', h, -⟩ := q.zeroize_spec sk
    exact ⟨sk', h⟩

theorem KemAlg.reports_derive (hc : c.HkdfDocumented) (hd : c.CurvesDocumented) (k : KemAlg)
    (ikm : Bytes) :
    ReportsOnly ((k.kem c).deriveKeyPair ikm) (· ∈ k.deriveErrors) := by
  have hnist : ∀ g : DhGroup,
      ReportsOnly ((g.kem c).deriveKeyPair ikm) (· ∈ [HpkeError.deriveKeyPairError]) :=
    fun g => .bind (fun fault h => ⟨_, DhGroup.derive_fault hc hd h, List.mem_singleton_self _⟩)
      fun _ _ => .ok _
  rcases k with (_ | _ | _ | _ | _ | _) | p
  · exact hnist .p256
  · exact hnist .p384
  · exact hnist .p521
  · exact hnist .k256
  · obtain ⟨kp, h⟩ := DhGroup.deriveKeyPair_ok hc (Or.inl rfl) ikm
    exact .of_eq_ok h
  · obtain ⟨kp, h⟩ := DhGroup.deriveKeyPair_ok hc (Or.inr rfl) ikm
    exact .of_eq_ok h
  · obtain ⟨kp, h⟩ := p.deriveKeyPair_ok (c := c) ikm
    exact .of_eq_ok h

theorem KemAlg.reports_pkFromBytes (hd : c.CurvesDocumented) (k : KemAlg) (b : Bytes) :
    ReportsOnly ((k.kem c).pkFromBytes b) (· = .invalidPublicKey) := by
  rcases k with g | (_ | _ | _)
  · exact .bind (fun fault h => ⟨_, (g.lawful hd).pkFromBytes_fault h, rfl⟩) fun _ _ => .ok _
  · exact .guard rfl fun _ => .bind (.okOr rfl) fun _ _ => .ok _
  · exact .guard rfl fun _ => .bind (.okOr rfl) fun _ _ => .bind (.okOr rfl) fun _ _ => .ok _
  · exact .guard rfl fun _ => .bind (.okOr rfl) fun _ _ => .bind (.okOr rfl) fun _ _ => .ok _

theorem KemAlg.reports_skFromBytes (k : KemAlg) (b : Bytes) :
    ReportsOnly ((k.kem c).skFromBytes b) (· = .invalidPrivateKey) := by
  have hnist : ∀ {nsk : ℕ} (crate : CurveCrate R nsk),
      ReportsOnly (nistSkFromBytes crate b) (· = .invalidPrivateKey) := fun crate =>
    .guard rfl fun _ => .bind (.okOr rfl) fun _ _ => .ok _
  rcases k with (_ | _ | _ | _ | _ | _) | (_ | _ | _)
  · exact .bind (hnist c.p256) fun _ _ => .ok _
  · exact .bind (hnist c.p384) fun _ _ => .ok _
  · exact .bind (hnist c.p521) fun _ _ => .ok _
  · exact .bind (hnist c.k256) fun _ _ => .ok _
  · exact .bind (.guard rfl fun h => .bind (.copy (not_not.mp h)) fun _ _ => .ok _) fun _ _ => .ok _
  · exact .bind (.guard rfl fun h => .bind (.copy (not_not.mp h)) fun _ _ => .ok _) fun _ _ => .ok _
  · exact .guard rfl fun h => .bind (.copy (not_not.mp h)) fun _ _ => .ok _
  · exact .guard rfl fun h => .bind (.copy (not_not.mp h)) fun _ _ => .ok _
  · exact .guard rfl fun h => .bind (.copy (not_not.mp h)) fun _ _ => .ok _

theorem KemAlg.reports_encFromBytes (k : KemAlg) (b : Bytes) :
    ReportsOnly ((k.kem c).encFromBytes b) (· = .invalidEncappedKey) := by
  rcases k with g | (_ | _ | _) <;> exact .guard rfl fun _ => .ok _

theorem SenderMode.Raised.mem {M : SenderMode c k} {rng : R} {pkR : (k.kem c).PublicKey}
    {e : HpkeError} (h : M.Raised rng pkR e) : e ∈ k.senderErrors := by
  cases k with
  | dhKem g => exact List.mem_singleton.mpr h.1
  | pq q => exact h.elim

theorem ReceiverMode.Raised.mem {M : ReceiverMode c k} {enc : (k.kem c).EncappedKey}
    {skR : (k.kem c).PrivateKey} {e : HpkeError} (h : M.Raised enc skR e) :
    e ∈ k.receiverErrors := by
  cases k with
  | dhKem g =>
    rcases h with ⟨rfl, -⟩ | ⟨rfl, -⟩
    · exact List.mem_cons_self
    · exact List.mem_cons_of_mem _ (List.mem_singleton_self _)
  | pq q =>
    rcases PqAlg.Raised.ofReceiver h with rfl | rfl
    · exact List.mem_cons_of_mem _ (List.mem_singleton_self _)
    · exact List.mem_cons_self

end Each

/-! ## The whole interface -/

variable {c : Crates R}

theorem ApiCall.reports {k : KemAlg} (hc : c.HkdfDocumented) (ha : c.AeadDocumented)
    (hd : c.CurvesDocumented) (hr : c.ReplacementDocumented) (f : KdfAlg) (call : ApiCall c k) :
    ReportsOnly (call.result f) (· ∈ call.errors) := by
  cases call with
  | generate rng =>
    obtain ⟨r, h⟩ := k.generate_ok c rng
    exact (ReportsOnly.of_eq_ok h).discard
  | deriveKeyPair ikm => exact (k.reports_derive hc hd ikm).discard
  | pkFromBytes b =>
    exact ((k.reports_pkFromBytes hd b).mono fun e => List.mem_singleton.mpr).discard
  | skFromBytes b => exact ((k.reports_skFromBytes b).mono fun e => List.mem_singleton.mpr).discard
  | encFromBytes b =>
    exact ((k.reports_encFromBytes b).mono fun e => List.mem_singleton.mpr).discard
  | zeroize sk =>
    obtain ⟨sk', h⟩ := k.zeroize_ok hr sk
    exact (ReportsOnly.of_eq_ok h).discard
  | encap rng pkR =>
    have h := SenderMode.raises hc hd (.base : SenderMode c k) rng pkR
    exact (h.reportsOnly_iff.mpr fun e he => he.mem).discard
  | decap enc skR =>
    have h := ReceiverMode.raises hc hd (.base : ReceiverMode c k) enc skR
    exact (h.reportsOnly_iff.mpr fun e he => he.mem).discard
  | @dh g sk pk =>
    have h := DhOp.raises_dh (g.rawDh c) sk pk
    exact (h.reportsOnly_iff.mpr fun e he => List.mem_singleton.mpr he.1).discard
  | @authEncap g rng pkR skS =>
    have h := SenderMode.raises hc hd (.auth skS) rng pkR
    exact (h.reportsOnly_iff.mpr fun e he => he.mem).discard
  | @authDecap g enc skR pkS =>
    have h := ReceiverMode.raises hc hd (.auth pkS) enc skR
    exact (h.reportsOnly_iff.mpr fun e he => he.mem).discard
  | @keySchedule k a call =>
    obtain ⟨ctx, h⟩ := call.run_isOk hc ha (k.kem c) f a
    exact (ReportsOnly.of_eq_ok h).discard
  | setupSender a M rng pkR info =>
    exact ((M.raises_setup hc ha (M.raises hc hd rng pkR) f a info).reportsOnly_iff.mpr fun e he =>
      he.mem).discard
  | setupReceiver a M enc skR info =>
    exact ((M.raises_setup hc ha (M.raises hc hd enc skR) f a info).reportsOnly_iff.mpr fun e he =>
      he.mem).discard
  | «seal» a M rng pkR info aad pt =>
    refine ((M.raises_seal hc ha (M.raises hc hd rng pkR) f a info aad pt).reportsOnly_iff.mpr
      ?_).discard
    rintro e (he | ⟨rfl, -⟩)
    · exact List.mem_cons_of_mem _ he.mem
    · exact List.mem_cons_self
  | «open» a M enc skR info aad ct =>
    refine ((M.raises_open hc ha (M.raises hc hd enc skR) f a info aad ct).reportsOnly_iff.mpr
      ?_).discard
    rintro e (he | ⟨rfl, -⟩)
    · exact List.mem_cons_of_mem _ he.mem
    · exact List.mem_cons_self
  | sendExport a M rng pkR info ec length =>
    refine ((M.raises_sendExport hc ha (M.raises hc hd rng pkR)
      f a info ec length).reportsOnly_iff.mpr ?_).discard
    rintro e (he | ⟨rfl, -⟩)
    · exact List.mem_cons_of_mem _ he.mem
    · exact List.mem_cons_self
  | receiverExport a M enc skR info ec length =>
    refine ((M.raises_receiverExport hc ha (M.raises hc hd enc skR) f a info ec
      length).reportsOnly_iff.mpr ?_).discard
    rintro e (he | ⟨rfl, -⟩)
    · exact List.mem_cons_of_mem _ he.mem
    · exact List.mem_cons_self

section Sessions

variable {f : KdfAlg}

theorem SenderSession.reports (hc : c.HkdfDocumented) (s : SenderSession c f) (op : SendOp) :
    ReportsOnly ((sending (s.a.sealing c)).step s.ctx op).1 (· ∈ op.errors) := by
  cases op with
  | «seal» aad pt =>
    refine (s.ctx.val.raises_seal aad pt).reportsOnly_iff.mpr ?_
    rintro e (⟨rfl, -⟩ | ⟨rfl, -⟩)
    · exact List.mem_cons_self
    · exact List.mem_cons_of_mem _ (List.mem_singleton_self _)
  | «export» ec length =>
    refine (Context.raises_export hc (s.length_exporterSecret hc) ec length).reportsOnly_iff.mpr ?_
    rintro e ⟨rfl, -⟩
    exact List.mem_singleton_self _

theorem ReceiverSession.reports (hc : c.HkdfDocumented) (r : ReceiverSession c f)
    (op : ReceiverOp) :
    ReportsOnly ((receiver (r.a.sealing c)).step r.ctx op).1 (· ∈ op.errors) := by
  cases op with
  | «open» aad ct =>
    refine (r.ctx.val.raises_open aad ct).reportsOnly_iff.mpr ?_
    rintro e (⟨rfl, -⟩ | ⟨rfl, -⟩)
    · exact List.mem_cons_self
    · exact List.mem_cons_of_mem _ (List.mem_singleton_self _)
  | «export» ec length =>
    refine (Context.raises_export hc (r.length_exporterSecret hc) ec length).reportsOnly_iff.mpr ?_
    rintro e ⟨rfl, -⟩
    exact List.mem_singleton_self _

end Sessions

theorem Psk.reports_new (secret id : Bytes) :
    ReportsOnly (Psk.new secret id) (· ∈ [.inconsistentPsk, .missingPsk, .insecurePsk]) := by
  unfold Psk.new
  split_ifs
  · exact .throw List.mem_cons_self
  · exact .throw (List.mem_cons_of_mem _ List.mem_cons_self)
  · exact .throw (List.mem_cons_of_mem _ (List.mem_cons_of_mem _ List.mem_cons_self))
  · exact .ok _

/-- **No call panics, and none returns an error that is not its own.** For every KEM, KDF, AEAD and
mode, and whatever bytes, keys and lengths a function of the crate is given, and for the next
operation of every session after any operations on it. -/
theorem api_reports (hc : c.HkdfDocumented) (ha : c.AeadDocumented) (hd : c.CurvesDocumented)
    (hr : c.ReplacementDocumented) (f : KdfAlg) :
    (∀ (k : KemAlg) (call : ApiCall c k), ReportsOnly (call.result f) (· ∈ call.errors)) ∧
    (∀ secret id,
      ReportsOnly (Psk.new secret id) (· ∈ [.inconsistentPsk, .missingPsk, .insecurePsk])) ∧
    (∀ prk infoPieces outLen,
      ReportsOnly ((f.kdf c).expand prk infoPieces outLen)
        (· ∈ [.exportLengthExceeded, .deriveKeyPairError])) ∧
    (∀ (a : AeadAlg) key, ReportsOnly ((a.aead c).init key) (· = .aeadInitError)) ∧
    (∀ (a : SealingAlg) cipher nonce aad b,
      ReportsOnly ((a.sealing c).seal cipher nonce aad b) (· = .sealError) ∧
        ReportsOnly ((a.sealing c).open cipher nonce aad b) (· = .openError)) ∧
    (∀ (s : SenderSession c f) op,
      ReportsOnly ((sending (s.a.sealing c)).step s.ctx op).1 (· ∈ op.errors)) ∧
    ∀ (r : ReceiverSession c f) op,
      ReportsOnly ((receiver (r.a.sealing c)).step r.ctx op).1 (· ∈ op.errors) := by
  refine ⟨fun _ call => call.reports hc ha hd hr f, Psk.reports_new, f.reports_expand c,
    AeadAlg.reports_init c,
    fun a cipher nonce aad b => ⟨?_, ?_⟩, fun s op => s.reports hc op, fun r op => r.reports hc op⟩
  · exact fun fault h => ⟨_, a.seal_fault h, rfl⟩
  · exact fun fault h => ⟨_, a.open_fault h, rfl⟩

/-- An X-Wing receiver that has zeroized its key, with an empty encapsulated key, and an
authenticated decapsulation of X25519 with the point 0. -/
theorem api_reports_xWing :
    let D := DhGroup.x25519.dh Sample.crates
    let skR : XWingPrivateKey Sample.crates.xWing := ⟨zeros 32, none⟩
    let M : ReceiverMode Sample.crates (.pq .xWingDraft06) := .psk Sample.psk
    ReportsOnly (discard ((xWingDraft06 Sample.crates).decap (XWingEncappedKey.mk []) skR))
        (· ∈ [.decapError, .invalidEncappedKey]) ∧
      ReportsOnly (discard (M.open (KdfAlg.hkdfSha256.kdf Sample.crates)
        (SealingAlg.aes128Gcm.sealing Sample.crates) (XWingEncappedKey.mk []) skR (ascii "info") []
        [1, 2, 3])) (· ∈ [.openError, .decapError, .invalidEncappedKey]) ∧
      ReportsOnly (discard ((DhGroup.x25519.kem Sample.crates).authDecap ⟨(zeros 32).1⟩
        (D.keyPair (7 : ℕ)).1 (D.keyPair (9 : ℕ)).2)) (· ∈ [.invalidPublicKey, .encapError]) := by
  intro D skR M
  obtain ⟨h, -⟩ := api_reports Sample.hkdfDocumented Sample.aeadDocumented Sample.curvesDocumented
    Sample.replacementDocumented .hkdfSha256
  refine ⟨?_, ?_, ?_⟩
  · exact h (.pq .xWingDraft06) (.decap (XWingEncappedKey.mk []) skR)
  · exact h (.pq .xWingDraft06) (.open .aes128Gcm M (XWingEncappedKey.mk []) skR (ascii "info") []
      [1, 2, 3])
  · exact h (.dhKem .x25519) (.authDecap ⟨(zeros 32).1⟩ (D.keyPair (7 : ℕ)).1 (D.keyPair (9 : ℕ)).2)

end HpkeNg

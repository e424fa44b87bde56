import HpkeNg.Context.Export
import HpkeNg.KeySchedule.Reference
import HpkeNg.Rfc9180.Session
import HpkeNg.Simulation

/-!
# The contexts are RFC 9180's

The crate keeps a cipher, a padded nonce and a 64-bit counter, and checks the counter before it
encrypts; the RFC keeps the key, a counter as wide as the nonce, and checks it afterwards.

* `SendOp`, `sending`: the sender's context with its own AEAD as a machine;
* `SealingAlg.toRfc`: the AEAD on the bytes of its key;
* `Context.Represents`: a context stands for one of the RFC; `Answers`: corresponding results;
* `sending_follows`, `receiver_follows`: until the counter is full, every operation is the RFC's;
* `context_reference`: so is every run of a context of the key schedule.
-/

namespace HpkeNg

variable {R : Type} {K : Kem R} {F : Kdf} {A : Aead}

theorem Context.seq_ne_seqMax {self : Context K F A} {n : ℕ}
    (h : self.seq.toNat + (n + 1) < 2 ^ 64) :
    self.seq ≠ seqMax := by
  intro hmax
  have hval : seqMax.toNat = 2 ^ 64 - 1 := rfl
  rw [hmax, hval] at h
  omega

/-! ## The sender with its own AEAD -/

/-- What the owner of a sender's context can do with it. -/
inductive SendOp : Type where
  | seal (aad pt : Bytes)
  | export (exporterContext : Bytes) (length : ℕ)

/-- The sender's context as a machine over one AEAD, without the log of its calls. -/
def sending (S : SealingAead Id A) : Machine (SenderContext K F A) SendOp (Outcome Bytes) where
  step ctx
    | .seal aad pt => (ctx.seal S aad pt).run
    | .export exporterContext length => (ctx.export exporterContext length, ctx)

/-- The RFC's operation. -/
def SendOp.toRfc : SendOp → Rfc9180.SenderOp
  | .seal aad pt => .seal aad pt
  | .export exporterContext length => .export exporterContext length

/-- The RFC's operation. -/
def ReceiverOp.toRfc : ReceiverOp → Rfc9180.ReceiverOp
  | .open aad ct => .open aad ct
  | .export exporterContext length => .export exporterContext length

/-- It seals a message. -/
def SendOp.isMessage : SendOp → Bool
  | .seal _ _ => true
  | .export _ _ => false

/-- It opens a message. -/
def ReceiverOp.isMessage : ReceiverOp → Bool
  | .open _ _ => true
  | .export _ _ => false

/-- The call of the machine that records its AEAD calls. -/
def SendOp.call (S : SealingAead Id A) : SendOp → SenderOp A
  | .seal aad pt => .seal aad pt S.answer
  | .export exporterContext length => .export exporterContext length

/-- Recording the AEAD calls changes nothing. -/
theorem sending_step (S : SealingAead Id A) (ctx : SenderContext K F A) (op : SendOp) :
    (sending S).step ctx op =
      (((sender S.check).step ctx (op.call S)).1.1, ((sender S.check).step ctx (op.call S)).2) := by
  cases op with
  | «export» ec length => rfl
  | «seal» aad pt =>
    have hs := ctx.val.seal_eq S aad pt
    rw [SendOp.call, sender_step_seal]
    by_cases hlim : ctx.val.seq = seqMax
    · rw [if_pos hlim] at hs ⊢
      simp only [sending, SenderContext.seal, hs]
      rfl
    · rw [if_neg hlim] at hs ⊢
      simp only [sending, SenderContext.seal, hs]
      rfl

/-! ## The AEAD -/

section Aead

variable {c : Crates R}

/-- The AEAD on the bytes of its key. -/
def SealingAlg.toRfc (c : Crates R) (a : SealingAlg) : Rfc9180.Aead where
  id := (a.aead c).id
  nk := (a.aead c).keyLen
  nn := (a.aead c).nonceLen
  «seal» key nonce aad pt :=
    ((a.aead c).init key >>= fun k => ((a.sealing c).seal k nonce aad pt : Outcome Bytes)).toOption
  «open» key nonce aad ct :=
    ((a.aead c).init key >>= fun k => ((a.sealing c).open k nonce aad ct : Outcome Bytes)).toOption

theorem sealingImpl_seal_fault {nk : ℕ} {id : UInt16} {crate : AeadCrate nk} {k : crate.Cipher}
    {nonce aad pt : Bytes} {f : Fault HpkeError}
    (h : (sealingImpl id crate).seal k nonce aad pt = .error f) : f = .err .sealError := by
  change (okOr HpkeError.sealError (Arr.ofBytes? nonce) >>= fun n =>
    okOr HpkeError.sealError (crate.encrypt k n aad pt)) = .error f at h
  cases hn : (Arr.ofBytes? nonce : Option (Arr 12)) with
  | none => rw [hn] at h; cases h; rfl
  | some n =>
    rw [hn, okOr_some, ok_bind] at h
    cases hd : crate.encrypt k n aad pt with
    | none => rw [hd] at h; cases h; rfl
    | some ct => rw [hd] at h; cases h

theorem SealingAlg.seal_fault (a : SealingAlg) {k : (a.aead c).Cipher} {nonce aad pt : Bytes}
    {f : Fault HpkeError} (h : (a.sealing c).seal k nonce aad pt = .error f) :
    f = .err .sealError := by
  cases a <;> exact sealingImpl_seal_fault h

end Aead

/-! ## Contexts -/

/-- A context stands for one of the RFC. -/
structure Context.Represents (ctx : Context K F A) (rfc : Rfc9180.Context) : Prop where
  toRfc : ctx.toRfc = rfc
  cipher : A.init ctx.rawKey = .ok ctx.cipher
  exporterSecret : ctx.exporterSecret.length = F.hashLen

/-- Corresponding results: the same bytes, or the error of the same failure. -/
inductive Answers : Outcome Bytes → Except Rfc9180.ContextError Bytes → Prop
  | ok (b : Bytes) : Answers (.ok b) (.ok b)
  | sealError : Answers (throwErr .sealError) (.error .sealError)
  | openError : Answers (throwErr .openError) (.error .openError)
  | messageLimitReached : Answers (throwErr .messageLimitReached) (.error .messageLimitReached)
  | exportLengthExceeded (r : Rfc9180.Rejection) :
    Answers (throwErr .exportLengthExceeded) (.error (.kdf r))

namespace Context.Represents

variable {c : Crates R} {f : KdfAlg} {a : SealingAlg} {self : Context K (f.kdf c) (a.aead c)}
  {rfc : Rfc9180.Context}

theorem computeNonce (h : self.Represents rfc) :
    rfc.computeNonce (a.toRfc c) = nonceAt self.baseNonce (a.aead c).nonceLen self.seq.toNat := by
  rw [← h.toRfc]
  rfl

theorem incrementSeq (h : self.Represents rfc) (hlim : self.seq ≠ seqMax) :
    ∃ rfc', rfc.incrementSeq (a.toRfc c) = .ok rfc' ∧ self.next.Represents rfc' := by
  have hpow : 256 ^ seqLen ≤ 256 ^ (a.toRfc c).nn :=
    Nat.pow_le_pow_right (by decide) (a.sealing c).check.1
  have hseq := Context.toNat_next hlim
  have hlt := self.next.seq.toNat_lt
  have h64 : 256 ^ seqLen = 2 ^ 64 := rfl
  have hrfc : rfc.seq = self.seq.toNat := by rw [← h.toRfc]; rfl
  refine ⟨_, if_neg (by omega), ?_, h.cipher, h.exporterSecret⟩
  rw [← h.toRfc, Context.toRfc, hseq]
  rfl

theorem advance (h : self.Represents rfc) (hlim : self.seq ≠ seqMax) {r : Outcome Bytes}
    {e : HpkeError} {e' : Rfc9180.ContextError} (hr : ∀ f, r = .error f → f = .err e)
    (he : Answers (throwErr e) (.error e')) :
    let r' := Rfc9180.commit rfc (do
      let b ← r.toOption.elim (.error e') .ok
      let rfc ← rfc.incrementSeq (a.toRfc c)
      return (b, rfc))
    Answers r r'.1 ∧ (self.advance r).Represents r'.2 := by
  cases r with
  | ok b =>
    obtain ⟨rfc', hrfc, hnext⟩ := h.incrementSeq hlim
    simp only [Except.toOption, Option.elim, ok_bind, hrfc]
    exact ⟨.ok b, hnext⟩
  | error f =>
    rw [hr f rfl]
    exact ⟨he, h⟩

/-- **Below the limit, `seal` is the RFC's.** -/
theorem «seal» (h : self.Represents rfc) (hlim : self.seq ≠ seqMax) (aad pt : Bytes) :
    let r := (self.seal (a.sealing c) aad pt).run
    let r' := Rfc9180.commit rfc (rfc.seal (a.toRfc c) aad pt)
    Answers r.1 r'.1 ∧ r.2.Represents r'.2 := by
  have hkey : rfc.key = self.rawKey := by rw [← h.toRfc]; rfl
  have hcall : (a.toRfc c).seal rfc.key (rfc.computeNonce (a.toRfc c)) aad pt =
      ((a.sealing c).seal self.cipher
        (nonceAt self.baseNonce (a.aead c).nonceLen self.seq.toNat) aad pt :
        Outcome Bytes).toOption := by
    rw [h.computeNonce, hkey, SealingAlg.toRfc]
    simp only [h.cipher, ok_bind]
  rw [Context.seal_eq, if_neg hlim, Rfc9180.Context.seal, hcall]
  exact h.advance hlim (fun f => a.seal_fault) .sealError

theorem «open» (h : self.Represents rfc) (hlim : self.seq ≠ seqMax) (aad ct : Bytes) :
    let r := (self.open (a.sealing c) aad ct).run
    let r' := Rfc9180.commit rfc (rfc.open (a.toRfc c) aad ct)
    Answers r.1 r'.1 ∧ r.2.Represents r'.2 := by
  have hkey : rfc.key = self.rawKey := by rw [← h.toRfc]; rfl
  have hcall : (a.toRfc c).open rfc.key (rfc.computeNonce (a.toRfc c)) aad ct =
      ((a.sealing c).open self.cipher
        (nonceAt self.baseNonce (a.aead c).nonceLen self.seq.toNat) aad ct :
        Outcome Bytes).toOption := by
    rw [h.computeNonce, hkey, SealingAlg.toRfc]
    simp only [h.cipher, ok_bind]
  rw [Context.open_eq, if_neg hlim, Rfc9180.Context.open, hcall]
  exact h.advance hlim (fun f => a.open_fault) .openError

theorem «export» (hc : c.HkdfDocumented) {A : Aead} {self : Context K (f.kdf c) A}
    (h : self.Represents rfc) (ec : Bytes) (length : ℕ) :
    Answers (self.export ec length) (rfc.export (f.kdf c) (ciphersuite K (f.kdf c) A)
      ec length) := by
  have hsec : rfc.exporterSecret = self.exporterSecret := by rw [← h.toRfc]; rfl
  rw [Rfc9180.Context.export, Rfc9180.labeledExpand, hsec]
  by_cases hl : length ≤ 255 * (f.kdf c).hashLen
  · obtain ⟨out, hout, -⟩ := (Context.export_spec hc h.exporterSecret ec length).1 hl
    have hrun := (Context.export_eq (KdfAlg.lawful hc f) hl).symm.trans hout
    rw [hout]
    change Answers _ (Except.mapError _
      (Rfc9180.reject _ ((f.kdf c).run (self.exportCall ec length))))
    rw [hrun]
    exact .ok out
  · have hx : ∀ prk info, (f.kdf c).expand prk info length = throwErr .exportLengthExceeded := by
      intro prk info
      cases f <;> exact if_pos (Nat.not_le.mp hl)
    rw [Context.export_exceeded (Nat.not_le.mp hl), hx]
    exact .exportLengthExceeded _

end Context.Represents

/-! ## The two roles -/

section Roles

variable {c : Crates R} (hc : c.HkdfDocumented) (f : KdfAlg) (a : SealingAlg)

theorem sending_limit {ctx : SenderContext K (f.kdf c) (a.aead c)} (hlim : ctx.val.seq = seqMax)
    (op : SendOp) :
    ((sending (a.sealing c)).step ctx op).2 = ctx ∧
      (op.isMessage → ((sending (a.sealing c)).step ctx op).1 = throwErr .messageLimitReached) := by
  obtain ⟨hctx, -, hres⟩ := sender_limit (a.sealing c).check hlim (op.call (a.sealing c))
  rw [sending_step]
  refine ⟨hctx, fun hop => hres ?_⟩
  cases op with
  | «seal» aad pt => rfl
  | «export» ec length => cases hop

theorem receiver_limit {ctx : ReceiverContext K (f.kdf c) (a.aead c)} (hlim : ctx.val.seq = seqMax)
    (op : ReceiverOp) : ((receiver (a.sealing c)).step ctx op).2 = ctx ∧
      (op.isMessage →
        ((receiver (a.sealing c)).step ctx op).1 = throwErr .messageLimitReached) := by
  cases op with
  | «export» ec length => exact ⟨rfl, by rintro ⟨⟩⟩
  | «open» aad ct =>
    rw [receiver_step_open, if_pos hlim]
    exact ⟨rfl, fun _ => rfl⟩

include hc

/-- **Until its counter is full, the sender's context answers as `ContextS`.** -/
theorem sending_follows :
    (sending (a.sealing c) : Machine (SenderContext K (f.kdf c) (a.aead c)) _ _).Follows
      (Rfc9180.contextS (a.toRfc c) (f.kdf c) (ciphersuite K (f.kdf c) (a.aead c)))
      (fun ctx rfc => ctx.val.Represents rfc)
      SendOp.toRfc Answers (fun ctx => ctx.val.seq = seqMax) := by
  refine ⟨fun {ctx rfc} h hlim op => ?_, fun hlim op => (sending_limit f a hlim op).1⟩
  cases op with
  | «seal» aad pt => exact h.seal hlim aad pt
  | «export» ec length => exact ⟨h.export hc ec length, h⟩

theorem receiver_follows :
    (receiver (a.sealing c) : Machine (ReceiverContext K (f.kdf c) (a.aead c)) _ _).Follows
      (Rfc9180.contextR (a.toRfc c) (f.kdf c) (ciphersuite K (f.kdf c) (a.aead c)))
      (fun ctx rfc => ctx.val.Represents rfc)
      ReceiverOp.toRfc Answers (fun ctx => ctx.val.seq = seqMax) := by
  refine ⟨fun {ctx rfc} h hlim op => ?_, fun hlim op => (receiver_limit f a hlim op).1⟩
  cases op with
  | «open» aad ct => exact h.open hlim aad ct
  | «export» ec length => exact ⟨h.export hc ec length, h⟩

end Roles

/-! ## Runs -/

section Runs

variable {σ Op Op' : Type}

/-- A run answers as the RFC's until the counter is full. From then on every message is refused,
every export is still the RFC's, and nothing moves. -/
def RunsAs (M : Machine σ Op (Outcome Bytes))
    (N : Machine Rfc9180.Context Op' (Except Rfc9180.ContextError Bytes)) (translate : Op → Op')
    (isMessage : Op → Bool) (val : σ → Context K F A) (s : σ) (rfc : Rfc9180.Context)
    (ops : List Op) : Prop :=
  ∃ before after, ops = before ++ after ∧
    List.Forall₂ Answers (M.results s before) (N.results rfc (before.map translate)) ∧
    (val (M.final s before)).toRfc = N.final rfc (before.map translate) ∧
    (after = [] ∨ (val (M.final s before)).seq.toNat = 2 ^ 64 - 1) ∧
    ∀ e ∈ M.trace (M.final s before) after, e.after = M.final s before ∧
      if isMessage e.op then e.result = throwErr .messageLimitReached
      else Answers e.result (N.step (N.final rfc (before.map translate)) (translate e.op)).1

theorem runsAs_of_follows {M : Machine σ Op (Outcome Bytes)}
    {N : Machine Rfc9180.Context Op' (Except Rfc9180.ContextError Bytes)} {translate : Op → Op'}
    {isMessage : Op → Bool} {val : σ → Context K F A}
    (h : M.Follows N (fun s rfc => (val s).Represents rfc)
      translate Answers (fun s => (val s).seq = seqMax))
    (hlim : ∀ {s}, (val s).seq = seqMax → ∀ op, isMessage op →
      (M.step s op).1 = throwErr .messageLimitReached)
    (hexport : ∀ {s rfc}, (val s).Represents rfc → ∀ op, ¬ isMessage op →
      Answers (M.step s op).1 (N.step rfc (translate op)).1)
    {s : σ} {rfc : Rfc9180.Context} (hs : (val s).Represents rfc) (ops : List Op) :
    RunsAs M N translate isMessage val s rfc ops := by
  obtain ⟨before, after, rfl, hres, hrep, hafter⟩ := h.run hs ops
  refine ⟨before, after, rfl, hres, hrep.toRfc, ?_, ?_⟩
  · exact hafter.imp_right fun hmax => by rw [hmax]; rfl
  · intro e he
    have hmax : (val (M.final s before)).seq = seqMax := by
      refine hafter.resolve_left ?_
      rintro rfl
      cases he
    obtain ⟨op, rfl, hend⟩ := h.halted hmax he
    refine ⟨hend, ?_⟩
    by_cases hop : isMessage op = true
    · exact (if_pos hop).mpr (hlim hmax op hop)
    · exact (if_neg hop).mpr (hexport hrep op hop)

end Runs

section Represents

variable {c : Crates R} (hc : c.HkdfDocumented) {f : KdfAlg} {a : SealingAlg}
include hc

theorem Context.Represents.sending {ctx : SenderContext K (f.kdf c) (a.aead c)}
    {rfc : Rfc9180.Context} (h : ctx.val.Represents rfc) (ops : List SendOp) :
    RunsAs (HpkeNg.sending (a.sealing c))
      (Rfc9180.contextS (a.toRfc c) (f.kdf c) (ciphersuite K (f.kdf c) (a.aead c))) SendOp.toRfc
      SendOp.isMessage SenderContext.val ctx rfc ops := by
  refine runsAs_of_follows (sending_follows hc f a) (fun hmax op => (sending_limit f a hmax op).2)
    ?_ h ops
  rintro ctx rfc hctx (_ | ⟨ec, length⟩) hop
  · exact absurd rfl hop
  · exact hctx.export hc ec length

theorem Context.Represents.receiver {ctx : ReceiverContext K (f.kdf c) (a.aead c)}
    {rfc : Rfc9180.Context} (h : ctx.val.Represents rfc) (ops : List ReceiverOp) :
    RunsAs (HpkeNg.receiver (a.sealing c))
      (Rfc9180.contextR (a.toRfc c) (f.kdf c) (ciphersuite K (f.kdf c) (a.aead c))) ReceiverOp.toRfc
      ReceiverOp.isMessage ReceiverContext.val ctx rfc ops := by
  refine runsAs_of_follows (receiver_follows hc f a) (fun hmax op => (receiver_limit f a hmax op).2)
    ?_ h ops
  rintro ctx rfc hctx (_ | ⟨ec, length⟩) hop
  · exact absurd rfl hop
  · exact hctx.export hc ec length

end Represents

/-- **Every run of a context is a run of the RFC's.** From a context of the key schedule, sender and
receiver answer every sequence of operations as `ContextS` and `ContextR` do from the context of the
RFC's `KeySchedule`, failures of the AEAD included, up to message `2^64 - 1`; from then on every
message is refused, where the RFC's counter goes on. -/
theorem context_reference {c : Crates R} (hc : c.HkdfDocumented) (f : KdfAlg) (a : SealingAlg)
    {s : ScheduleCall} {ctx₀ : Context K (f.kdf c) (a.aead c)}
    (h₀ : s.run K (f.kdf c) (a.aead c) = .ok ctx₀) :
    let E := a.toRfc c
    let suiteId := ciphersuite K (f.kdf c) (a.aead c)
    ∃ rfc, Rfc9180.keySchedule (f.kdf c) K.id E.id E.nk E.nn s.toRfc s.sharedSecret s.info
        s.pskSecret s.pskId = .ok rfc ∧
      (∀ ops : List SendOp, RunsAs (sending (a.sealing c)) (Rfc9180.contextS E (f.kdf c) suiteId)
        SendOp.toRfc SendOp.isMessage SenderContext.val ⟨ctx₀⟩ rfc ops) ∧
      ∀ ops : List ReceiverOp,
        RunsAs (receiver (a.sealing c)) (Rfc9180.contextR E (f.kdf c) suiteId)
          ReceiverOp.toRfc ReceiverOp.isMessage ReceiverContext.val ⟨ctx₀⟩ rfc ops := by
  intro E suiteId
  have hF := KdfAlg.lawful hc f
  have hk := AeadAlg.keyLen_le_kdf hc f (.sealing a)
  have hn := AeadAlg.nonceLen_le c (.sealing a)
  obtain ⟨-, -, -, hinit, -⟩ := ScheduleCall.run_eq_ok hF hk hn h₀
  have hrep : ctx₀.Represents ctx₀.toRfc := ⟨rfl, hinit, ScheduleCall.run_exporterSecret hF h₀⟩
  exact ⟨ctx₀.toRfc, s.run_reference hF hk hn h₀, fun ops => hrep.sending hc ops,
    fun ops => hrep.receiver hc ops⟩

/-- Both roles of one context. -/
theorem context_reference_mlKem768 :
    let K := mlKem768 Sample.crates
    let F := KdfAlg.hkdfSha256.kdf Sample.crates
    let A := SealingAlg.aes128Gcm.aead Sample.crates
    let E := SealingAlg.aes128Gcm.toRfc Sample.crates
    ∃ (ctx₀ : Context K F A) (rfc : Rfc9180.Context),
      RunsAs (sending (SealingAlg.aes128Gcm.sealing Sample.crates))
          (Rfc9180.contextS E F (ciphersuite K F A)) SendOp.toRfc SendOp.isMessage
          SenderContext.val ⟨ctx₀⟩ rfc [.seal [1] [2], .export [3] 4] ∧
        RunsAs (receiver (SealingAlg.aes128Gcm.sealing Sample.crates))
          (Rfc9180.contextR E F (ciphersuite K F A)) ReceiverOp.toRfc ReceiverOp.isMessage
          ReceiverContext.val ⟨ctx₀⟩ rfc [.open [1] [2], .export [3] 4] := by
  intro K F A E
  obtain ⟨ctx₀, h₀⟩ := (ScheduleCall.pskFree .base (List.replicate 32 1) (ascii "info")).run_isOk
    Sample.hkdfDocumented Sample.aeadDocumented K .hkdfSha256 (.sealing .aes128Gcm)
  obtain ⟨rfc, -, hS, hR⟩ := context_reference Sample.hkdfDocumented .hkdfSha256 .aes128Gcm h₀
  exact ⟨ctx₀, rfc, hS _, hR _⟩

end HpkeNg

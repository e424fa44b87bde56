import HpkeNg.Kem.Pq
import HpkeNg.KeySchedule
import HpkeNg.Machine
import HpkeNg.Sample
import Mathlib.Data.List.Nodup

/-!
# Runs of a sender

* `AeadCall`, `recording`: an AEAD that writes its calls down and answers anything;
* `SenderOp`, `sender`: the sender's context as a machine;
* `sender_step_seal`, `sender_step_ok`: one step; `sender_moves`: the counter counts the messages;
* `sender_sealed`, `sender_nonces`: the nonces of a run;
* `seal_run`: no nonce is used twice, and the counter never wraps.
-/

namespace HpkeNg

variable {R : Type} {K : Kem R} {F : Kdf} {A : Aead}

/-! ## An AEAD that records -/

/-- A call of an AEAD. -/
inductive AeadCall (A : Aead) : Type where
  | seal (cipher : A.Cipher) (nonce aad pt : Bytes)
  | open (cipher : A.Cipher) (nonce aad ct : Bytes)

/-- The nonce of the call. -/
def AeadCall.nonce : AeadCall A → Bytes
  | .seal _ nonce _ _ => nonce
  | .open _ nonce _ _ => nonce

/-- The AEAD that writes down its calls and answers them by `answer`. -/
def recording (h : seqLen ≤ A.nonceLen ∧ A.nonceLen ≤ maxNonceLen)
    (answer : AeadCall A → Outcome Bytes) :
    SealingAead (StateM (List (AeadCall A))) A where
  «seal» cipher nonce aad pt := fun calls =>
    (answer (.seal cipher nonce aad pt), calls ++ [.seal cipher nonce aad pt])
  «open» cipher nonce aad ct := fun calls =>
    (answer (.open cipher nonce aad ct), calls ++ [.open cipher nonce aad ct])
  check := h

/-! ## Machines over a context -/

theorem Context.toNat_next {self : Context K F A} (h : self.seq ≠ seqMax) :
    self.next.seq.toNat = self.seq.toNat + 1 := by
  have hlt := self.seq.toNat_lt
  have hne : self.seq.toNat ≠ 2 ^ 64 - 1 := fun hn => h (UInt64.toNat_inj.mp hn)
  change (self.seq + 1).toNat = _
  rw [UInt64.toNat_add]
  change (self.seq.toNat + 1) % 2 ^ 64 = self.seq.toNat + 1
  omega

/-- One context is another up to the counter. -/
def Context.Of (ctx₀ ctx : Context K F A) : Prop := ctx = { ctx₀ with seq := ctx.seq }

/-- Every step of a machine moves its context on, below the limit, or changes nothing. -/
def Context.Moves {σ Op Res : Type} (M : Machine σ Op Res) (val : σ → Context K F A)
    (moves : Event σ Op Res → Bool) : Prop :=
  ∀ s op, (moves (M.event s op) → (val s).seq ≠ seqMax ∧ val (M.step s op).2 = (val s).next) ∧
    (¬ moves (M.event s op) → (M.step s op).2 = s)

namespace Context.Moves

variable {σ Op Res : Type} {M : Machine σ Op Res} {val : σ → Context K F A}
  {moves : Event σ Op Res → Bool} (hM : Context.Moves M val moves)
include hM

/-- **The counter counts the steps that move it.** -/
theorem counts : M.Counts (fun s => (val s).seq.toNat) moves := by
  intro s op
  by_cases hs : moves (M.event s op) = true
  · obtain ⟨hlim, hnext⟩ := (hM s op).1 hs
    rw [if_pos hs]
    change (val (M.step s op).2).seq.toNat = _
    rw [hnext]
    exact Context.toNat_next hlim
  · rw [if_neg hs, (hM s op).2 hs]

theorem of {ctx₀ : Context K F A} (s : σ) (op : Op) (hs : ctx₀.Of (val s)) :
    ctx₀.Of (val (M.step s op).2) := by
  by_cases hm : moves (M.event s op) = true
  · rw [((hM s op).1 hm).2, Context.Of, Context.next, hs]
  · rw [(hM s op).2 hm]
    exact hs

end Context.Moves

/-! ## The sender as a machine -/

/-- What the owner of a sender's context can do with it. The AEAD answers each `seal` as it
likes. -/
inductive SenderOp (A : Aead) : Type where
  | seal (aad pt : Bytes) (answer : AeadCall A → Outcome Bytes)
  | export (exporterContext : Bytes) (length : ℕ)

/-- What a step returns, and the AEAD calls it makes. -/
abbrev SenderResult (A : Aead) : Type := Outcome Bytes × List (AeadCall A)

/-- The sender's context as a machine. A step returns the result and the AEAD calls made for it. -/
def sender (h : seqLen ≤ A.nonceLen ∧ A.nonceLen ≤ maxNonceLen) :
    Machine (SenderContext K F A) (SenderOp A) (SenderResult A) where
  step ctx
    | .seal aad pt answer =>
      let ((r, ctx'), calls) := (ctx.seal (recording h answer) aad pt).run []
      ((r, calls), ctx')
    | .export exporterContext length => ((ctx.export exporterContext length, []), ctx)

/-- A step of a sender, with the context before and after. -/
abbrev SenderEvent (K : Kem R) (F : Kdf) (A : Aead) : Type :=
  Event (SenderContext K F A) (SenderOp A) (SenderResult A)

/-- It is a `seal`. -/
def SenderOp.isSeal : SenderOp A → Bool
  | .seal _ _ _ => true
  | .export _ _ => false

/-- A message as it was sealed. -/
structure Message : Type where
  aad : Bytes
  pt : Bytes
  ct : Bytes

/-- The message of a successful `seal`. -/
def SenderEvent.message (e : SenderEvent K F A) : Option Message :=
  match e.op, e.result.1 with
  | .seal aad pt _, .ok ct => some ⟨aad, pt, ct⟩
  | _, _ => none

theorem SenderEvent.message_eq {e : SenderEvent K F A} {aad pt ct : Bytes}
    {answer : AeadCall A → Outcome Bytes} (hop : e.op = .seal aad pt answer)
    (hok : e.result.1 = .ok ct) : e.message = some ⟨aad, pt, ct⟩ := by
  rw [SenderEvent.message, hop, hok]

/-- A successful `seal`. -/
def SenderEvent.sealed (e : SenderEvent K F A) : Bool := e.message.isSome

section Step

variable (h : seqLen ≤ A.nonceLen ∧ A.nonceLen ≤ maxNonceLen)

/-- The AEAD call of the next message. -/
def SenderContext.sealCall (ctx : SenderContext K F A) (aad pt : Bytes) : AeadCall A :=
  .seal ctx.val.cipher (nonceAt ctx.val.baseNonce A.nonceLen ctx.val.seq.toNat) aad pt

/-- **One `seal`**: at the limit nothing happens; below, one AEAD call, and the counter moves if it
succeeds. -/
theorem sender_step_seal (ctx : SenderContext K F A) (aad pt : Bytes)
    (answer : AeadCall A → Outcome Bytes) :
    (sender h).step ctx (.seal aad pt answer) =
      if ctx.val.seq = seqMax then ((throwErr .messageLimitReached, []), ctx)
      else ((answer (ctx.sealCall aad pt), [ctx.sealCall aad pt]),
        ⟨ctx.val.advance (answer (ctx.sealCall aad pt))⟩) := by
  have hs := ctx.val.seal_eq (recording h answer) aad pt
  by_cases hlim : ctx.val.seq = seqMax
  · rw [if_pos hlim] at hs ⊢
    simp only [sender, SenderContext.seal, hs]
    rfl
  · rw [if_neg hlim] at hs ⊢
    simp only [sender, SenderContext.seal, hs]
    rfl

theorem sender_step_ok {ctx : SenderContext K F A} {aad pt ct : Bytes}
    {answer : AeadCall A → Outcome Bytes} (hlim : ctx.val.seq ≠ seqMax)
    (hok : answer (ctx.sealCall aad pt) = .ok ct) :
    (sender h).step ctx (.seal aad pt answer) =
      ((.ok ct, [ctx.sealCall aad pt]), ⟨ctx.val.next⟩) := by
  rw [sender_step_seal, if_neg hlim, hok]
  rfl

theorem sender_sealed {ctx : SenderContext K F A} {op : SenderOp A}
    (hs : SenderEvent.sealed ((sender h).event ctx op)) :
    ∃ aad pt answer ct, op = .seal aad pt answer ∧ ctx.val.seq ≠ seqMax ∧
      answer (ctx.sealCall aad pt) = .ok ct ∧
      (sender h).event ctx op = ⟨op, ctx, (.ok ct, [ctx.sealCall aad pt]), ⟨ctx.val.next⟩⟩ := by
  cases op with
  | «export» ec length => cases hs
  | «seal» aad pt answer =>
    rw [SenderEvent.sealed, SenderEvent.message, Machine.event, sender_step_seal] at hs
    by_cases hlim : ctx.val.seq = seqMax
    · rw [if_pos hlim] at hs
      cases hs
    · rw [if_neg hlim] at hs
      cases ha : answer (ctx.sealCall aad pt) with
      | error f =>
        rw [ha] at hs
        cases hs
      | ok ct =>
        refine ⟨aad, pt, answer, ct, rfl, hlim, ha, ?_⟩
        rw [Machine.event, sender_step_ok h hlim ha]

theorem sender_unchanged {ctx : SenderContext K F A} {op : SenderOp A}
    (hs : ¬ SenderEvent.sealed ((sender h).event ctx op)) : ((sender h).step ctx op).2 = ctx := by
  cases op with
  | «export» ec length => rfl
  | «seal» aad pt answer =>
    rw [SenderEvent.sealed, SenderEvent.message, Machine.event] at hs
    rw [sender_step_seal] at hs ⊢
    by_cases hlim : ctx.val.seq = seqMax
    · rw [if_pos hlim]
    · rw [if_neg hlim] at hs ⊢
      cases ha : answer (ctx.sealCall aad pt) with
      | error f => rfl
      | ok ct =>
        rw [ha] at hs
        exact absurd rfl hs

theorem sender_limit {ctx : SenderContext K F A} (hlim : ctx.val.seq = seqMax) (op : SenderOp A) :
    ((sender h).step ctx op).2 = ctx ∧ ((sender h).step ctx op).1.2 = [] ∧
      (op.isSeal → ((sender h).step ctx op).1.1 = throwErr .messageLimitReached) := by
  cases op with
  | «export» ec length => exact ⟨rfl, rfl, by rintro ⟨⟩⟩
  | «seal» aad pt answer =>
    rw [sender_step_seal, if_pos hlim]
    exact ⟨rfl, rfl, fun _ => rfl⟩

theorem sender_moves :
    Context.Moves (sender h : Machine (SenderContext K F A) _ _) SenderContext.val
    SenderEvent.sealed := by
  intro ctx op
  refine ⟨fun hs => ?_, sender_unchanged h⟩
  obtain ⟨aad, pt, answer, ct, -, hlim, -, he⟩ := sender_sealed h hs
  exact ⟨hlim, congrArg (fun e => e.after.val) he⟩

end Step

/-! ## Runs -/

section Run

variable (h : seqLen ≤ A.nonceLen ∧ A.nonceLen ≤ maxNonceLen) (ctx₀ : SenderContext K F A)
  (ops : List (SenderOp A))

theorem sender_final_of : ctx₀.val.Of ((sender h).final ctx₀ ops).val :=
  Machine.invariant (sender_moves h).of rfl ops

/-- **The nonces of a run are those of consecutive sequence numbers.** -/
theorem sender_nonces :
    (((sender h).trace ctx₀ ops).filter SenderEvent.sealed).map
        (fun e => e.result.2.map AeadCall.nonce) =
      (List.range' ctx₀.val.seq.toNat
        (((sender h).trace ctx₀ ops).filter SenderEvent.sealed).length).map
        fun i => [nonceAt ctx₀.val.baseNonce A.nonceLen i] := by
  rw [← (sender_moves h).counts.map_before, List.map_map]
  refine List.map_congr_left fun e he => ?_
  obtain ⟨he, hs⟩ := List.mem_filter.mp he
  obtain ⟨ctx, op, hof, rfl⟩ := Machine.forall_trace (sender_moves h).of rfl he
  obtain ⟨aad, pt, answer, ct, -, -, -, he⟩ := sender_sealed h hs
  have hbase : ctx.val.baseNonce = ctx₀.val.baseNonce := by rw [hof]
  rw [he, Function.comp_apply, ← hbase]
  rfl

theorem sender_final_seq (hseq : ctx₀.val.seq = 0) : ((sender h).final ctx₀ ops).val.seq.toNat =
    (((sender h).trace ctx₀ ops).filter SenderEvent.sealed).length := by
  rw [(sender_moves h).counts.final_eq, hseq]
  exact Nat.zero_add _

end Run

/-- **No nonce is used twice.** In every run of a new context, with failures of the AEAD anywhere,
the counter is the number of messages sealed; the nonce of the `i`-th is
`base_nonce XOR I2OSP(i, Nn)`; a `seal` below the limit returns what the AEAD answers and moves the
counter by one, or fails and changes nothing; and at the limit every `seal` is refused without a
call of the AEAD, while `export` works as before. -/
theorem seal_run {c : Crates R} (hc : c.HkdfDocumented) (f : KdfAlg)
    (h : seqLen ≤ A.nonceLen ∧ A.nonceLen ≤ maxNonceLen) {s : ScheduleCall}
    {ctx₀ : Context K (f.kdf c) A} (h₀ : s.run K (f.kdf c) A = .ok ctx₀) (ops : List (SenderOp A)) :
    let run := (sender h).trace ⟨ctx₀⟩ ops
    let ctx := (sender h).final ⟨ctx₀⟩ ops
    let seals := run.filter SenderEvent.sealed
    ctx.val.seq.toNat = seals.length ∧
      (seals.map fun e => e.result.2.map AeadCall.nonce) = ((List.range seals.length).map fun i =>
        [xorBytes (ctx₀.baseNonce.1.take A.nonceLen) (i2osp A.nonceLen i)]) ∧
      (seals.map fun e => e.result.2.map AeadCall.nonce).Nodup ∧
      (∀ e ∈ run, ∀ aad pt answer ct, e.op = .seal aad pt answer → e.before.val.seq ≠ seqMax →
        answer (e.before.sealCall aad pt) = .ok ct →
          e.result = (.ok ct, [e.before.sealCall aad pt]) ∧
          e.after = ⟨e.before.val.next⟩ ∧ e.after.val.seq.toNat = e.before.val.seq.toNat + 1) ∧
      (∀ e ∈ run, e.op.isSeal → ¬ e.result.1.isOk → e.after = e.before) ∧
      (ctx.val.seq.toNat = 2 ^ 64 - 1 →
        ∀ (ops' : List (SenderOp A)), ∀ e ∈ (sender h).trace ctx ops',
        e.after = ctx ∧ e.result.2 = [] ∧
          (e.op.isSeal → e.result.1 = throwErr .messageLimitReached)) ∧
      ∀ ec length, ctx.export ec length = (⟨ctx₀⟩ : SenderContext K (f.kdf c) A).export ec length ∧
        (length ≤ 255 * (f.kdf c).hashLen → ∃ out, ctx.export ec length = .ok out ∧
          out.length = length) := by
  intro run ctx seals
  have hlen : ctx.val.seq.toNat = seals.length := sender_final_seq h _ ops (ScheduleCall.run_seq h₀)
  have hnonces : (seals.map fun e => e.result.2.map AeadCall.nonce) =
      (List.range seals.length).map fun i => [nonceAt ctx₀.baseNonce A.nonceLen i] := by
    rw [List.range_eq_range']
    have h0 : ctx₀.seq.toNat = 0 := by rw [ScheduleCall.run_seq h₀]; rfl
    exact h0 ▸ sender_nonces h (⟨ctx₀⟩ : SenderContext K (f.kdf c) A) ops
  refine ⟨hlen, hnonces, ?_, ?_, ?_, ?_, ?_⟩
  · -- below the limit the encoding of the counter is injective
    rw [hnonces]
    refine List.Nodup.map_on ?_ List.nodup_range
    intro i hi j hj hij
    have hlt : seals.length < 2 ^ 64 := by rw [← hlen]; exact ctx.val.seq.toNat_lt
    exact nonceAt_inj ctx₀.baseNonce h ((List.mem_range.mp hi).trans hlt)
      ((List.mem_range.mp hj).trans hlt) (List.singleton_inj.mp hij)
  · intro e he aad pt answer ct hop hlim hok
    obtain ⟨ctx', op, rfl⟩ := Machine.mem_trace he
    obtain rfl : op = .seal aad pt answer := hop
    have hstep := sender_step_ok h hlim hok
    refine ⟨congrArg Prod.fst hstep, congrArg Prod.snd hstep, ?_⟩
    exact (congrArg (fun r => r.2.val.seq.toNat) hstep).trans (Context.toNat_next hlim)
  · intro e he _ hfail
    obtain ⟨ctx', op, rfl⟩ := Machine.mem_trace he
    refine sender_unchanged h fun hs => hfail ?_
    obtain ⟨aad, pt, answer, ct, -, -, -, he⟩ := sender_sealed h hs
    rw [he]
    rfl
  · intro hmax ops' e he
    have hlim : ctx.val.seq = seqMax := UInt64.toNat_inj.mp hmax
    obtain ⟨ctx', op, hctx', rfl⟩ := Machine.forall_trace
      (show ∀ ctx' op, ctx' = ctx → ((sender h).step ctx' op).2 = ctx from
        fun _ op hctx' => by rw [hctx']; exact (sender_limit h hlim op).1) rfl he
    rw [hctx']
    exact sender_limit h hlim op
  · intro ec length
    have hof : ctx₀.Of ctx.val := sender_final_of h _ ops
    have hexp : ctx.val.exporterSecret = ctx₀.exporterSecret := by rw [hof]
    have hF := KdfAlg.lawful hc f
    refine ⟨?_, fun hl => ?_⟩
    · rw [SenderContext.export, SenderContext.export, Context.export, Context.export, hexp]
    · exact Context.export_ok hF (hexp ▸ ScheduleCall.run_exporterSecret hF h₀) ec hl

/-- Two messages, with a failure of the AEAD and an export between them. -/
theorem seal_run_mlKem768 :
    let K := mlKem768 Sample.crates
    let F := KdfAlg.hkdfSha256.kdf Sample.crates
    let A := SealingAlg.aes128Gcm.aead Sample.crates
    let S := SealingAlg.aes128Gcm.sealing Sample.crates
    let s : ScheduleCall := .pskFree .base (List.replicate 32 1) (ascii "info")
    let ops : List (SenderOp A) :=
      [.seal [1] [2] fun _ => .ok [3], .seal [4] [5] fun _ => throwErr .sealError, .export [6] 7,
        .seal [4] [5] fun _ => .ok [8]]
    ∃ ctx₀ : Context K F A, s.run K F A = .ok ctx₀ ∧
      let seals := ((sender S.check).trace ⟨ctx₀⟩ ops).filter SenderEvent.sealed
      ((sender S.check).final ⟨ctx₀⟩ ops).val.seq.toNat = seals.length ∧
        (seals.map fun e => e.result.2.map AeadCall.nonce) = (List.range seals.length).map fun i =>
          [xorBytes (ctx₀.baseNonce.1.take A.nonceLen) (i2osp A.nonceLen i)] := by
  intro K F A S s ops
  clear_value s ops
  obtain ⟨ctx₀, h₀⟩ : ∃ ctx₀ : Context K F A, s.run K F A = .ok ctx₀ :=
    s.run_isOk Sample.hkdfDocumented Sample.aeadDocumented K .hkdfSha256 (.sealing .aes128Gcm)
  obtain ⟨hlen, hnonces, -⟩ := seal_run Sample.hkdfDocumented .hkdfSha256 S.check h₀ ops
  exact ⟨ctx₀, h₀, hlen, hnonces⟩

end HpkeNg

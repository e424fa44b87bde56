import HpkeNg.Context.Channel

/-!
# Exports during a run

* `Context.exportCall`, `Context.export_eq`: an export is one KDF call;
* `Kdf.ExportSpec`, `Context.export_spec`: how long it is, and when it is refused;
* `Context.export_binds`: what equal exports bind;
* `Net.of_run`: what no run of the two sides changes;
* `export_run`: all of it, at every point of every run of the two sides.
-/

namespace HpkeNg

variable {R : Type} {K : Kem R} {F : Kdf} {A : Aead}

/-! ## One export -/

/-- An export of `length` bytes is as long as asked for up to the limit of HKDF, and refused above
it. -/
def Kdf.ExportSpec (F : Kdf) (length : ℕ) (r : Outcome Bytes) : Prop :=
  (length ≤ 255 * F.hashLen → ∃ out, r = .ok out ∧ out.length = length) ∧
    (255 * F.hashLen < length → r = throwErr .exportLengthExceeded)

section Export

variable {ctx : Context K F A} {ec : Bytes} {length : ℕ}

/-- The KDF call of an export. -/
def Context.exportCall (ctx : Context K F A) (ec : Bytes) (length : ℕ) : KdfCall :=
  labeledExpandCall ctx.exporterSecret (ciphersuite K F A) (ascii "sec") ec length

theorem Context.export_eq (hF : F.Lawful) (hl : length ≤ 255 * F.hashLen) :
    ctx.export ec length = F.run (ctx.exportCall ec length) := by
  rw [Context.export, labeledExpand_eq_pieces,
    hF.labeledExpandPieces_run _ _ _ hl (by simp [maxExpandPieces]), List.flatten_singleton]
  rfl

/-- Either length check refuses, whatever the exporter secret is. -/
theorem Context.export_exceeded {c : Crates R} {f : KdfAlg} {ctx : Context K (f.kdf c) A}
    (hl : 255 * (f.kdf c).hashLen < length) :
    ctx.export ec length = throwErr .exportLengthExceeded := by
  have hx : ∀ prk info, (f.kdf c).expand prk info length = throwErr .exportLengthExceeded := by
    intro prk info
    cases f <;> exact if_pos hl
  rw [Context.export, labeledExpand]
  cases tryIntoU16 length with
  | none => rfl
  | some l => exact hx _ _

theorem Context.export_spec {c : Crates R} (hc : c.HkdfDocumented) {f : KdfAlg}
    {ctx : Context K (f.kdf c) A} (hs : ctx.exporterSecret.length = (f.kdf c).hashLen) (ec : Bytes)
    (length : ℕ) :
    (f.kdf c).ExportSpec length (ctx.export ec length) :=
  ⟨fun hl => Context.export_ok (KdfAlg.lawful hc f) hs ec hl, fun hl => Context.export_exceeded hl⟩

/-- **An export depends on the exporter secret and the suite ID only.** -/
theorem Context.export_congr {R' : Type} {K' : Kem R'} {A' : Aead} {ctx' : Context K' F A'}
    (hsuite : ciphersuite K F A = ciphersuite K' F A')
    (hs : ctx.exporterSecret = ctx'.exporterSecret) (ec : Bytes) (length : ℕ) :
    ctx.export ec length = ctx'.export ec length := by
  rw [Context.export, Context.export, hsuite, hs]

theorem Context.export_binds {c : Crates R} (hc : c.HkdfDocumented) {f : KdfAlg}
    {ctx ctx' : Context K (f.kdf c) A} {ec' out : Bytes} {length' : ℕ}
    (h : ctx.export ec length = .ok out) (h' : ctx'.export ec' length' = .ok out) :
    length = length' ∧ ((ec = ec' ∧ ctx.exporterSecret = ctx'.exporterSecret) ∨
      (f.kdf c).Collide (ctx.exportCall ec length) (ctx'.exportCall ec' length')) := by
  have hF := KdfAlg.lawful hc f
  have hle : ∀ {ctx : Context K (f.kdf c) A} {ec length}, ctx.export ec length = .ok out →
      length ≤ 255 * (f.kdf c).hashLen := by
    intro ctx ec length h
    by_contra hl
    rw [Context.export_exceeded (Nat.not_le.mp hl)] at h
    cases h
  have hcall := (Context.export_eq hF (hle h)).symm.trans h
  have hcall' := (Context.export_eq hF (hle h')).symm.trans h'
  have hlen : length = length' := (hF.length_expand hcall).symm.trans (hF.length_expand hcall')
  refine ⟨hlen, ?_⟩
  rcases expand_binds rfl hcall hcall' with ⟨hs, -, he, -⟩ | hcol
  · exact Or.inl ⟨he, hs⟩
  · exact Or.inr hcol

end Export

/-! ## Runs of both sides -/

section Run

variable {S : SealingAead Id A}

theorem Net.of_run (net : Net K F A) (acts : List Action) :
    net.sender.val.Of (acts.foldl (Net.step S) net).sender.val ∧
      net.receiver.val.Of (acts.foldl (Net.step S) net).receiver.val := by
  have hrun : ∀ net' : Net K F A, net.sender.val.Of net'.sender.val →
      net.receiver.val.Of net'.receiver.val →
      net.sender.val.Of (acts.foldl (Net.step S) net').sender.val ∧
        net.receiver.val.Of (acts.foldl (Net.step S) net').receiver.val := by
    induction acts with
    | nil => exact fun net' hs hr => ⟨hs, hr⟩
    | cons act acts ih =>
      intro net' hs hr
      obtain ⟨hs, hr⟩ := net'.of_step S hs hr act
      exact ih _ hs hr
  exact hrun net rfl rfl

theorem Context.Of.exporterSecret {ctx₀ ctx : Context K F A} (h : ctx₀.Of ctx) :
    ctx.exporterSecret = ctx₀.exporterSecret := by rw [h]

end Run

/-- **Exports at every point of every run.** An export of a context of the key schedule is as long
as asked for up to `255 * Nh` bytes, and refused above. It depends on the suite ID and the exporter
secret only, so that after any run of two sides with one exporter secret it is the same on both as
it was at the start; it changes neither context. Equal exports bind their inputs, or two KDF calls
collide. -/
theorem export_run {c : Crates R} (hc : c.HkdfDocumented) (f : KdfAlg) :
    (∀ (K : Kem R) (a : AeadAlg) (s : ScheduleCall) (ctx : Context K (f.kdf c) (a.aead c)),
      s.run K (f.kdf c) (a.aead c) = .ok ctx →
        ∀ ec length, (f.kdf c).ExportSpec length (ctx.export ec length)) ∧
    (∀ (K : Kem R) (a : SealingAlg) (s s' : ScheduleCall)
        (sender₀ : SenderContext K (f.kdf c) (a.aead c))
        (receiver₀ : ReceiverContext K (f.kdf c) (a.aead c)),
      s.run K (f.kdf c) (a.aead c) = .ok sender₀.val →
      s'.run K (f.kdf c) (a.aead c) = .ok receiver₀.val →
      sender₀.val.exporterSecret = receiver₀.val.exporterSecret →
      ∀ (acts : List Action) (ec : Bytes) (length : ℕ),
        let net := acts.foldl (Net.step (a.sealing c)) ⟨sender₀, receiver₀, [], []⟩
        (f.kdf c).ExportSpec length (net.sender.export ec length) ∧
          net.sender.export ec length = sender₀.export ec length ∧
          net.receiver.export ec length = sender₀.export ec length ∧
          ∀ act ∈ [Action.senderExport ec length, .receiverExport ec length],
            (net.step (a.sealing c) act).sender = net.sender ∧
              (net.step (a.sealing c) act).receiver = net.receiver) ∧
    (∀ (K K' : Kem R) (A A' : Aead) (ctx : Context K (f.kdf c) A) (ctx' : Context K' (f.kdf c) A'),
      ciphersuite K (f.kdf c) A = ciphersuite K' (f.kdf c) A' →
      ctx.exporterSecret = ctx'.exporterSecret →
        ∀ ec length, ctx.export ec length = ctx'.export ec length) ∧
    ∀ (K : Kem R) (A : Aead) (ctx ctx' : Context K (f.kdf c) A) (ec ec' : Bytes)
        (length length' : ℕ) (out : Bytes), ctx.export ec length = .ok out → ctx'.export ec' length' = .ok out →
        length = length' ∧ ((ec = ec' ∧ ctx.exporterSecret = ctx'.exporterSecret) ∨
          (f.kdf c).Collide (ctx.exportCall ec length) (ctx'.exportCall ec' length')) := by
  have hF := KdfAlg.lawful hc f
  refine ⟨fun K a s ctx h ec length => ?_,
    fun K a s s' sender₀ receiver₀ hs hr hmatch acts ec length => ?_,
    fun K K' A A' ctx ctx' => Context.export_congr,
    fun K A ctx ctx' ec ec' length length' out => Context.export_binds hc⟩
  · exact Context.export_spec hc (ScheduleCall.run_exporterSecret hF h) ec length
  · intro net
    obtain ⟨hofS, hofR⟩ :=
      Net.of_run (S := a.sealing c) (⟨sender₀, receiver₀, [], []⟩ : Net K _ _) acts
    have hS : net.sender.export ec length = sender₀.export ec length :=
      Context.export_congr rfl hofS.exporterSecret ec length
    have hR : net.receiver.export ec length = sender₀.export ec length :=
      Context.export_congr rfl (hofR.exporterSecret.trans hmatch.symm) ec length
    refine ⟨?_, hS, hR, fun act hact => ?_⟩
    · rw [hS]
      exact Context.export_spec hc (ScheduleCall.run_exporterSecret hF hs) ec length
    · simp only [List.mem_cons, List.not_mem_nil, or_false] at hact
      rcases hact with rfl | rfl
      · exact ⟨rfl, rfl⟩
      · exact ⟨rfl, rfl⟩

/-- After a message and an export, 70000 bytes are refused as before. -/
theorem export_run_mlKem768 :
    let K := mlKem768 Sample.crates
    let F := KdfAlg.hkdfSha256.kdf Sample.crates
    let S := SealingAlg.aes128Gcm.sealing Sample.crates
    ∃ ctx : Context K F (SealingAlg.aes128Gcm.aead Sample.crates),
      let net := [Action.seal [1] [2], .receiverExport [3] 5].foldl (Net.step S)
        ⟨⟨ctx⟩, ⟨ctx⟩, [], []⟩
      net.sender.export [] 70000 = throwErr .exportLengthExceeded ∧
        net.receiver.export [4] 32 = (⟨ctx⟩ : SenderContext _ _ _).export [4] 32 := by
  intro K F S
  obtain ⟨ctx, h⟩ := (ScheduleCall.pskFree .base (List.replicate 32 1) (ascii "info")).run_isOk
    Sample.hkdfDocumented Sample.aeadDocumented K .hkdfSha256 (.sealing .aes128Gcm)
  obtain ⟨-, hrun, -⟩ := export_run Sample.hkdfDocumented .hkdfSha256
  have hrun := hrun K .aes128Gcm _ _ ⟨ctx⟩ ⟨ctx⟩ h h rfl [.seal [1] [2], .receiverExport [3] 5]
  refine ⟨ctx, ?_, ?_⟩
  · exact (hrun [] 70000).1.2 (by decide : 255 * 32 < 70000)
  · exact (hrun [4] 32).2.2.1

end HpkeNg

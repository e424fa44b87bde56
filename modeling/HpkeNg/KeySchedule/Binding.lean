import HpkeNg.KeySchedule.Reference
import HpkeNg.Separation

/-!
# The key schedule binds its inputs

* `ciphersuite_inj`, `ScheduleCall.ksContext_inj`: the concatenations can be read back;
* `ScheduleCall.Agree`: two calls, of two suites, have the same inputs;
* `ScheduleCall.CollideOn`: the pairs of calls, one of each run, that may collide on an output;
* `ScheduleCall.output_binds`: an equal output makes the inputs equal, or such a pair collides;
* `keySchedule_binds`: so do equal exporter secrets, keys and base nonces.
-/

namespace HpkeNg

variable {R R' : Type} {K : Kem R} {K' : Kem R'} {F F' : Kdf} {A A' : Aead}

theorem length_ciphersuite (K : Kem R) (F : Kdf) (A : Aead) : (ciphersuite K F A).length = 10 := by
  simp [ciphersuite, ascii]

theorem ciphersuite_inj (h : ciphersuite K F A = ciphersuite K' F' A') :
    K.id = K'.id ∧ F.id = F'.id ∧ A.id = A'.id := by
  have hs : SuiteId.hpke K.id F.id A.id = .hpke K'.id F'.id A'.id := SuiteId.hpke_inj h
  injection hs with hk hf ha
  exact ⟨hk, hf, ha⟩

namespace ScheduleCall

/-- Two calls have the same inputs, and the two suites the same identifiers. -/
structure Agree (K : Kem R) (F : Kdf) (A : Aead) (K' : Kem R') (F' : Kdf) (A' : Aead)
    (s s' : ScheduleCall) : Prop where
  modeByte : s.modeByte = s'.modeByte
  kemId : K.id = K'.id
  kdfId : F.id = F'.id
  aeadId : A.id = A'.id
  sharedSecret : s.sharedSecret = s'.sharedSecret
  info : s.info = s'.info
  pskSecret : s.pskSecret = s'.pskSecret
  pskId : s.pskId = s'.pskId

theorem ksContext_inj (hF : F.Lawful) {suite suite' : Bytes} {s s' : ScheduleCall}
    (h : s.ksContext F suite = s'.ksContext F suite') :
    s.modeByte = s'.modeByte ∧ s.pskIdHash F suite = s'.pskIdHash F suite' ∧
      s.infoHash F suite = s'.infoHash F suite' := by
  have hp : (s.pskIdHash F suite).length = (s'.pskIdHash F suite').length := by
    rw [pskIdHash, pskIdHash, hF.length_labeledExtract, hF.length_labeledExtract]
  obtain ⟨h, hi⟩ := List.append_inj h (by rw [List.length_append, List.length_append, hp]; rfl)
  obtain ⟨hm, hp⟩ := List.append_inj h rfl
  exact ⟨List.singleton_inj.mp hm, hp, hi⟩

/-- Two calls of two runs that have one role in them collide: the expands of the output `label`, the
extracts of the secret, or those of a hash of the context. -/
inductive CollideOn (F : Kdf) (suite suite' label : Bytes) (n n' : ℕ) (s s' : ScheduleCall) : Prop
  | output (h : F.Collide (s.output F suite label n) (s'.output F suite' label n'))
  | secret (h : F.Collide (labeledExtractCall s.sharedSecret suite (ascii "secret") s.pskSecret)
      (labeledExtractCall s'.sharedSecret suite' (ascii "secret") s'.pskSecret))
  | pskIdHash (h : F.Collide (labeledExtractCall [] suite (ascii "psk_id_hash") s.pskId)
      (labeledExtractCall [] suite' (ascii "psk_id_hash") s'.pskId))
  | infoHash (h : F.Collide (labeledExtractCall [] suite (ascii "info_hash") s.info)
      (labeledExtractCall [] suite' (ascii "info_hash") s'.info))

section Calls

variable {suite : Bytes} {s : ScheduleCall} {keyLen nonceLen : ℕ}

theorem key_mem_calls :
    s.output F suite (ascii "key") keyLen ∈ s.calls F suite keyLen nonceLen := by
  simp [calls]

theorem exp_mem_calls :
    s.output F suite (ascii "exp") F.hashLen ∈ s.calls F suite keyLen nonceLen := by
  simp [calls]

end Calls

theorem CollideOn.collision {suite suite' label : Bytes} {n n' k m k' m' : ℕ} {s s' : ScheduleCall}
    (h : CollideOn F suite suite' label n n' s s')
    (hm : s.output F suite label n ∈ s.calls F suite k m)
    (hm' : s'.output F suite' label n' ∈ s'.calls F suite' k' m') :
    F.Collision (s.calls F suite k m) (s'.calls F suite' k' m') := by
  cases h with
  | output h => exact ⟨_, hm, _, hm', h⟩
  | secret h => exact ⟨_, by simp [calls], _, by simp [calls], h⟩
  | pskIdHash h => exact ⟨_, by simp [calls], _, by simp [calls], h⟩
  | infoHash h => exact ⟨_, by simp [calls], _, by simp [calls], h⟩

/-- **An equal output binds every input**, or two KDF calls of one role collide. -/
theorem output_binds (hF : F.Lawful) {s s' : ScheduleCall} {label out : Bytes} {n n' : ℕ}
    (h : F.run (s.output F (ciphersuite K F A) label n) = .ok out)
    (h' : F.run (s'.output F (ciphersuite K' F A') label n') = .ok out) :
    Agree K F A K' F A' s s' ∨
      CollideOn F (ciphersuite K F A) (ciphersuite K' F A') label n n' s s' := by
  have hl : (ciphersuite K F A).length = (ciphersuite K' F A').length := by
    rw [length_ciphersuite, length_ciphersuite]
  -- the expand binds the secret, the suite and the context
  rcases expand_binds hl h h' with ⟨hsec, hsuite, hctx, -⟩ | hcol
  swap
  · exact Or.inr (.output hcol)
  obtain ⟨hmode, hpid, hinfo⟩ := ksContext_inj hF hctx
  obtain ⟨hkem, hkdf, haead⟩ := ciphersuite_inj hsuite
  -- each of the three extracts binds its own inputs
  rcases extract_binds hF hl hsec with ⟨hss, -, hpsk⟩ | hcol
  swap
  · exact Or.inr (.secret hcol)
  rcases extract_binds hF hl hpid with ⟨-, -, hpskId⟩ | hcol
  swap
  · exact Or.inr (.pskIdHash hcol)
  rcases extract_binds hF hl hinfo with ⟨-, -, hin⟩ | hcol
  swap
  · exact Or.inr (.infoHash hcol)
  exact Or.inl ⟨hmode, hkem, hkdf, haead, hss, hin, hpsk, hpskId⟩

/-- **The run depends on the KDF through the listed calls only.** -/
theorem run_congr (hF : F.Lawful) (hF' : F'.Lawful) (hid : F.id = F'.id)
    (hlen : F.hashLen = F'.hashLen) (hk : A.keyLen ≤ 255 * F.hashLen)
    (hn : A.nonceLen ≤ 255 * F.hashLen) (s : ScheduleCall)
    (hcalls : ∀ x ∈ s.calls F (ciphersuite K F A) A.keyLen A.nonceLen, F.run x = F'.run x) :
    (s.run K F A).map Context.toRfc = (s.run K F' A).map Context.toRfc := by
  have hsuite : ciphersuite K F A = ciphersuite K F' A := by rw [ciphersuite, ciphersuite, hid]
  have hextract : ∀ salt label ikm,
      labeledExtractCall salt (ciphersuite K F A) label ikm ∈
        s.calls F (ciphersuite K F A) A.keyLen A.nonceLen →
      labeledExtract F salt (ciphersuite K F A) label ikm =
        labeledExtract F' salt (ciphersuite K F A) label ikm := by
    intro salt label ikm hm
    have h := hcalls _ hm
    rw [hF.labeledExtract_run, hF'.labeledExtract_run] at h
    exact Except.ok.inj h
  have hpid : s.pskIdHash F (ciphersuite K F A) = s.pskIdHash F' (ciphersuite K F A) :=
    hextract _ _ _ (by simp [calls])
  have hinfo : s.infoHash F (ciphersuite K F A) = s.infoHash F' (ciphersuite K F A) :=
    hextract _ _ _ (by simp [calls])
  have hsec : s.secret F (ciphersuite K F A) = s.secret F' (ciphersuite K F A) :=
    hextract _ _ _ (by simp [calls])
  have hout : ∀ label n, s.output F (ciphersuite K F A) label n =
      s.output F' (ciphersuite K F A) label n := by
    intro label n
    rw [output, output, ksContext, ksContext, hpid, hinfo, hsec]
  rw [run_eq hF hk hn, run_eq hF' (hlen ▸ hk) (hlen ▸ hn), ← hsuite, ← hout, ← hout, ← hout, ← hlen,
    ← hcalls _ (by simp [calls]), ← hcalls _ (by simp [calls]), ← hcalls _ (by simp [calls])]
  have hnew : ∀ key nonce exp,
    Context.toRfc <$> (Context.new key nonce exp : Outcome (Context K F A)) =
      Context.toRfc <$> (Context.new key nonce exp : Outcome (Context K F' A)) := by
    intro key nonce exp
    simp only [Context.new, map_bind, map_pure]
    rfl
  have hmap : ∀ {F : Kdf} (x : Outcome (Context K F A)),
      x.map Context.toRfc = Context.toRfc <$> x :=
    fun _ => rfl
  simp only [hmap, map_bind, hnew]

end ScheduleCall

open ScheduleCall in
/-- **The key schedule binds all its inputs.** Equal exporter secrets, or equal keys or base nonces
of one sealing AEAD, come from equal inputs, or two KDF calls of one role collide: the expands of
that very output, or the extracts of the secret or of a hash. -/
theorem keySchedule_binds {c : Crates R} (hc : c.HkdfDocumented) (f : KdfAlg) (K : Kem R)
    (K' : Kem R') (a a' : AeadAlg) {s s' : ScheduleCall} {ctx : Context K (f.kdf c) (a.aead c)}
    {ctx' : Context K' (f.kdf c) (a'.aead c)} (h : s.run K (f.kdf c) (a.aead c) = .ok ctx)
    (h' : s'.run K' (f.kdf c) (a'.aead c) = .ok ctx') :
    (ctx.exporterSecret = ctx'.exporterSecret →
      Agree K (f.kdf c) (a.aead c) K' (f.kdf c) (a'.aead c) s s' ∨
        CollideOn (f.kdf c) (ciphersuite K (f.kdf c) (a.aead c))
          (ciphersuite K' (f.kdf c) (a'.aead c)) (ascii "exp") (f.kdf c).hashLen
          (f.kdf c).hashLen s s') ∧
    ∀ alg : SealingAlg, a = .sealing alg → a' = .sealing alg →
      (ctx.rawKey = ctx'.rawKey →
        Agree K (f.kdf c) (a.aead c) K' (f.kdf c) (a'.aead c) s s' ∨
          CollideOn (f.kdf c) (ciphersuite K (f.kdf c) (a.aead c))
            (ciphersuite K' (f.kdf c) (a'.aead c)) (ascii "key") (alg.aead c).keyLen
            (alg.aead c).keyLen s s') ∧
      (ctx.baseNonce = ctx'.baseNonce →
        Agree K (f.kdf c) (a.aead c) K' (f.kdf c) (a'.aead c) s s' ∨
          CollideOn (f.kdf c) (ciphersuite K (f.kdf c) (a.aead c))
            (ciphersuite K' (f.kdf c) (a'.aead c)) (ascii "base_nonce") (alg.aead c).nonceLen
            (alg.aead c).nonceLen s s') := by
  have hF := KdfAlg.lawful hc f
  obtain ⟨hk, hn, hx, -, -⟩ :=
    run_eq_ok hF (AeadAlg.keyLen_le_kdf hc f a) (AeadAlg.nonceLen_le c a) h
  obtain ⟨hk', hn', hx', -, -⟩ :=
    run_eq_ok hF (AeadAlg.keyLen_le_kdf hc f a') (AeadAlg.nonceLen_le c a') h'
  refine ⟨fun he => ?_, ?_⟩
  · rw [← he] at hx'
    exact output_binds hF hx hx'
  · rintro alg rfl rfl
    refine ⟨fun he => ?_, fun he => ?_⟩
    · rw [← he] at hk'
      exact output_binds hF hk hk'
    · rw [← he] at hn'
      exact output_binds hF hn hn'

open ScheduleCall in
/-- Two values of `info` with one hash. -/
theorem keySchedule_binds_mlKem768 :
    let K := mlKem768 Sample.crates
    let F := KdfAlg.hkdfSha256.kdf Sample.crates
    let A := (AeadAlg.sealing .aes128Gcm).aead Sample.crates
    let info : Bytes :=
      [136, 223, 70, 142, 160, 160, 62, 31, 71, 202, 143, 44, 101, 12, 199, 171, 205, 138, 9, 248,
      234, 146, 155, 182, 174, 92, 153, 97, 75, 50, 91, 88]
    let s := ScheduleCall.pskFree .base (ascii "secret") []
    let s' := ScheduleCall.pskFree .base (ascii "secret") info
    ∃ ctx ctx', s.run K F A = .ok ctx ∧ s'.run K F A = .ok ctx' ∧
      CollideOn F (ciphersuite K F A) (ciphersuite K F A) (ascii "exp") 32 32 s s' ∧
        CollideOn F (ciphersuite K F A) (ciphersuite K F A) (ascii "key") 16 16 s s' := by
  intro K F A info s s'
  obtain ⟨ctx, h⟩ :=
    s.run_isOk Sample.hkdfDocumented Sample.aeadDocumented K .hkdfSha256 (.sealing .aes128Gcm)
  obtain ⟨ctx', h'⟩ :=
    s'.run_isOk Sample.hkdfDocumented Sample.aeadDocumented K .hkdfSha256 (.sealing .aes128Gcm)
  have he : (s.run K F A).map (fun ctx => (ctx.exporterSecret, ctx.rawKey)) =
      (s'.run K F A).map (fun ctx => (ctx.exporterSecret, ctx.rawKey)) := by decide +kernel
  rw [h, h'] at he
  obtain ⟨hexp, hkey⟩ := Prod.mk.inj (Except.ok.inj he)
  obtain ⟨hbinds, hsealing⟩ :=
    keySchedule_binds Sample.hkdfDocumented .hkdfSha256 K K (.sealing .aes128Gcm)
      (.sealing .aes128Gcm) h h'
  have hne : ¬ Agree K F A K F A s s' := fun ha => absurd ha.info (by decide)
  exact ⟨ctx, ctx', h, h', (hbinds hexp).resolve_left hne,
    ((hsealing _ rfl rfl).1 hkey).resolve_left hne⟩

end HpkeNg

import HpkeNg.Aead
import HpkeNg.Kem.Basic

/-!
# Encryption and decryption contexts (`src/context.rs`)

* `ciphersuite`, `Context`, and its operations `new`, `computeNonce`, `seal`, `open`, `export`;
* `SenderContext`, `ReceiverContext`: the two directions;
* `Context.nonce_eq`: the nonce of a message is `base_nonce XOR I2OSP(seq, Nn)`;
* `Context.seal_eq`, `Context.open_eq`: below the limit each is one AEAD call under that nonce.
-/

namespace HpkeNg

variable {R : Type}

/-- `suite_id = "HPKE" || kem_id || kdf_id || aead_id`. -/
def ciphersuite (K : Kem R) (F : Kdf) (A : Aead) : Bytes :=
  ascii "HPKE" ++ be16 K.id ++ be16 F.id ++ be16 A.id

/-- An HPKE context. `rawKey` is the copy of the key kept for the test harnesses. -/
structure Context (K : Kem R) (F : Kdf) (A : Aead) where
  cipher : A.Cipher
  baseNonce : Arr maxNonceLen
  exporterSecret : Bytes
  seq : UInt64
  rawKey : Bytes

section Ops

variable {K : Kem R} {F : Kdf} {A : Aead}

/-- `Context::new`. The base nonce is copied to the front of a 12-byte buffer. -/
def Context.new (key baseNonce exporterSecret : Bytes) : Outcome (Context K F A) := do
  let cipher ← A.init key
  let nonce ← copyFromSlice (zeros maxNonceLen) 0 A.nonceLen baseNonce
  return { cipher, baseNonce := nonce, exporterSecret, seq := 0, rawKey := key }

/-- `Context.Export`. -/
def Context.export (self : Context K F A) (exporterContext : Bytes) (length : ℕ) : Outcome Bytes :=
  let suite := ciphersuite K F A
  labeledExpand F self.exporterSecret suite (ascii "sec") exporterContext length

/-- `Context.ComputeNonce`: XOR the big-endian counter into the trailing bytes of the nonce. -/
def Context.computeNonce (self : Context K F A) : Outcome (Arr maxNonceLen) := do
  let len := A.nonceLen
  let nonce ← copyFromSlice (zeros maxNonceLen) 0 len (← slice self.baseNonce.1 0 len)
  let seqBe := be64 self.seq
  let dst ← slice nonce.1 (len - seqLen) len
  copyFromSlice nonce (len - seqLen) len (xorBytes dst seqBe)

/-- `&nonce[..A::NONCE_LEN]` of the computed nonce. -/
def Context.nonce (self : Context K F A) : Outcome Bytes := do
  let nonce ← self.computeNonce
  slice nonce.1 0 A.nonceLen

/-- `u64::MAX`. -/
def seqMax : UInt64 := 0xFFFFFFFFFFFFFFFF

variable {m : Type → Type} [Monad m]

/-- `Context.Seal`. The counter is checked before encrypting. -/
def Context.seal (S : SealingAead m A) (self : Context K F A) (aad pt : Bytes) :
    m (Outcome Bytes × Context K F A) :=
  if self.seq = seqMax then return (throwErr .messageLimitReached, self)
  else match self.nonce with
    | .error f => return (.error f, self)
    | .ok nonce => do
      match ← S.seal self.cipher nonce aad pt with
      | .error f => return (.error f, self)
      | .ok ct => return (.ok ct, { self with seq := self.seq + 1 })

/-- `Context.Open`. The counter is checked before decrypting. -/
def Context.open (S : SealingAead m A) (self : Context K F A) (aad ct : Bytes) :
    m (Outcome Bytes × Context K F A) :=
  if self.seq = seqMax then return (throwErr .messageLimitReached, self)
  else match self.nonce with
    | .error f => return (.error f, self)
    | .ok nonce => do
      match ← S.open self.cipher nonce aad ct with
      | .error f => return (.error f, self)
      | .ok pt => return (.ok pt, { self with seq := self.seq + 1 })

theorem Context.new_fields {key baseNonce exporterSecret : Bytes} {ctx : Context K F A}
    (h : Context.new key baseNonce exporterSecret = .ok ctx) :
    ctx.seq = 0 ∧ ctx.exporterSecret = exporterSecret := by
  obtain ⟨cipher, -, h⟩ := bind_eq_ok.mp h
  obtain ⟨nonce, -, h⟩ := bind_eq_ok.mp h
  rw [← Except.ok.inj h]
  exact ⟨rfl, rfl⟩

theorem Context.export_ok (hF : F.Lawful) {self : Context K F A}
    (hs : self.exporterSecret.length = F.hashLen) (exporterContext : Bytes) {length : ℕ}
    (hl : length ≤ 255 * F.hashLen) :
    ∃ out, self.export exporterContext length = .ok out ∧ out.length = length := by
  obtain ⟨out, h, -, hlen⟩ := hF.labeledExpandPieces_ok (ciphersuite K F A) (ascii "sec") hs hl
    (show 4 + [exporterContext].length ≤ maxExpandPieces by simp [maxExpandPieces])
  rw [← labeledExpand_eq_pieces] at h
  exact ⟨out, h, hlen⟩

end Ops

/-! ## The two directions -/

/-- The sender's context: it seals and does not open. -/
structure SenderContext (K : Kem R) (F : Kdf) (A : Aead) where
  val : Context K F A

/-- The receiver's context: it opens and does not seal. -/
structure ReceiverContext (K : Kem R) (F : Kdf) (A : Aead) where
  val : Context K F A

section Directions

variable {K : Kem R} {F : Kdf} {A : Aead} {m : Type → Type} [Monad m]

/-- `SenderContext::export`. -/
def SenderContext.export (self : SenderContext K F A) (exporterContext : Bytes) (length : ℕ) :
    Outcome Bytes := self.val.export exporterContext length

/-- `ReceiverContext::export`. -/
def ReceiverContext.export (self : ReceiverContext K F A) (exporterContext : Bytes) (length : ℕ) :
    Outcome Bytes := self.val.export exporterContext length

/-- `SenderContext::seal`. -/
def SenderContext.seal (S : SealingAead m A) (self : SenderContext K F A) (aad pt : Bytes) :
    m (Outcome Bytes × SenderContext K F A) := do
  let (r, ctx) ← self.val.seal S aad pt
  return (r, ⟨ctx⟩)

/-- `ReceiverContext::open`. -/
def ReceiverContext.open (S : SealingAead m A) (self : ReceiverContext K F A) (aad ct : Bytes) :
    m (Outcome Bytes × ReceiverContext K F A) := do
  let (r, ctx) ← self.val.open S aad ct
  return (r, ⟨ctx⟩)

end Directions

/-! ## The nonce -/

section Nonce

variable {K : Kem R} {F : Kdf} {A : Aead} {m : Type → Type}

/-- The nonce of the message with sequence number `i`. -/
def nonceAt (baseNonce : Arr maxNonceLen) (nonceLen i : ℕ) : Bytes :=
  xorBytes (baseNonce.1.take nonceLen) (i2osp nonceLen i)

/-- The counter reaches the trailing bytes only. -/
theorem nonceAt_eq (b : Arr maxNonceLen) {n i : ℕ} (h : seqLen ≤ n) (hn : n ≤ maxNonceLen)
    (hi : i < 256 ^ seqLen) : nonceAt b n i =
      (b.1.take n).take (n - seqLen) ++
        xorBytes ((b.1.take n).drop (n - seqLen)) (i2osp seqLen i) := by
  have hb : (b.1.take n).length = n := by rw [List.length_take, b.2, Nat.min_eq_left hn]
  have ht : ((b.1.take n).take (n - seqLen)).length = n - seqLen := by
    rw [List.length_take, hb]; omega
  have he : i2osp n i = List.replicate (n - seqLen) 0 ++ i2osp seqLen i := by
    rw [← i2osp_add _ hi, Nat.sub_add_cancel h]
  calc nonceAt b n i
      = xorBytes ((b.1.take n).take (n - seqLen) ++ (b.1.take n).drop (n - seqLen))
          (List.replicate (n - seqLen) 0 ++ i2osp seqLen i) := by
        rw [nonceAt, he, List.take_append_drop]
    _ = _ := by
        rw [xorBytes_append (by rw [ht, List.length_replicate]), xorBytes_zeros ht]

theorem nonceAt_inj (b : Arr maxNonceLen) {n : ℕ} (h : seqLen ≤ n ∧ n ≤ maxNonceLen) {i j : ℕ}
    (hi : i < 2 ^ 64) (hj : j < 2 ^ 64) (hij : nonceAt b n i = nonceAt b n j) : i = j := by
  have hb : (b.1.take n).length = n := by rw [List.length_take, b.2, Nat.min_eq_left h.2]
  have hpow : 2 ^ 64 ≤ 256 ^ n := by
    calc 2 ^ 64 = 256 ^ seqLen := by rfl
      _ ≤ 256 ^ n := Nat.pow_le_pow_right (by decide) h.1
  have he : i2osp n i = i2osp n j :=
    xorBytes_right_inj (by rw [length_i2osp, hb]) (by rw [length_i2osp, hb]) hij
  exact i2osp_inj (hi.trans_le hpow) (hj.trans_le hpow) he

/-- **A message's nonce is `base_nonce XOR I2OSP(seq, Nn)`.** -/
theorem Context.nonce_eq (h : seqLen ≤ A.nonceLen ∧ A.nonceLen ≤ maxNonceLen)
    (self : Context K F A) :
    self.nonce = .ok (nonceAt self.baseNonce A.nonceLen self.seq.toNat) := by
  obtain ⟨h8, h12⟩ := h
  set b := self.baseNonce.1.take A.nonceLen with hbdef
  have hbl : b.length = A.nonceLen := by
    rw [hbdef, List.length_take, self.baseNonce.2, Nat.min_eq_left h12]
  -- the first copy: the base nonce, with nothing behind it yet
  obtain ⟨n1, hn1, hv1⟩ : ∃ r : Arr maxNonceLen,
      (copyFromSlice (zeros maxNonceLen) 0 A.nonceLen b : Outcome (Arr maxNonceLen)) = .ok r ∧
        r.1 = [] ++ b ++ (zeros maxNonceLen).1.drop A.nonceLen :=
    copyFromSlice_ok (zeros maxNonceLen) (Nat.zero_le _) h12 hbl
  rw [List.nil_append] at hv1
  have hlo : (n1.1.drop (A.nonceLen - seqLen)).take (A.nonceLen - (A.nonceLen - seqLen)) =
      b.drop (A.nonceLen - seqLen) := by
    rw [hv1, List.drop_append_of_le_length (by omega), List.take_append_of_le_length
      (by rw [List.length_drop]; omega), List.take_of_length_le (by rw [List.length_drop]; omega)]
  -- the second copy: the counter, XORed into the last eight bytes
  have hx : (xorBytes (b.drop (A.nonceLen - seqLen)) (be64 self.seq)).length =
      A.nonceLen - (A.nonceLen - seqLen) := by
    rw [length_xorBytes, List.length_drop, length_be64, hbl]
    unfold seqLen at *; omega
  obtain ⟨n2, hn2, hv2⟩ : ∃ r : Arr maxNonceLen,
      (copyFromSlice n1 (A.nonceLen - seqLen) A.nonceLen
        (xorBytes (b.drop (A.nonceLen - seqLen)) (be64 self.seq)) :
          Outcome (Arr maxNonceLen)) = .ok r ∧
        r.1 = n1.1.take (A.nonceLen - seqLen) ++
          xorBytes (b.drop (A.nonceLen - seqLen)) (be64 self.seq) ++ n1.1.drop A.nonceLen :=
    copyFromSlice_ok n1 (Nat.sub_le _ _) h12 hx
  have htake : n1.1.take (A.nonceLen - seqLen) = b.take (A.nonceLen - seqLen) := by
    rw [hv1, List.take_append_of_le_length (by omega)]
  rw [Context.nonce, Context.computeNonce]
  simp only [slice_zero (show A.nonceLen ≤ self.baseNonce.1.length by
    rw [self.baseNonce.2]; exact h12),
    ok_bind, ← hbdef, hn1, slice_ok (Nat.sub_le A.nonceLen seqLen)
      (show A.nonceLen ≤ n1.1.length by rw [n1.2]; exact h12), hlo, hn2,
    slice_zero (show A.nonceLen ≤ n2.1.length by rw [n2.2]; exact h12)]
  rw [nonceAt_eq _ h8 h12 self.seq.toNat_lt, ← hbdef, hv2, htake]
  congr 1
  refine List.take_append_of_le_length ?_ |>.trans (List.take_of_length_le ?_)
  · rw [List.length_append, hx, List.length_take, hbl]; omega
  · rw [List.length_append, hx, List.length_take, hbl]; omega

end Nonce

/-! ## Sealing and opening -/

section SealOpen

variable {K : Kem R} {F : Kdf} {A : Aead} {m : Type → Type} [Monad m]

/-- The context of the next message. -/
def Context.next (self : Context K F A) : Context K F A := { self with seq := self.seq + 1 }

/-- The context after an AEAD call. -/
def Context.advance (self : Context K F A) : Outcome Bytes → Context K F A
  | .error _ => self
  | .ok _ => self.next

/-- **Below the limit, `seal` is one AEAD call under the nonce of the counter.** -/
theorem Context.seal_eq (S : SealingAead m A) (self : Context K F A) (aad pt : Bytes) :
    self.seal S aad pt =
      if self.seq = seqMax then pure (throwErr .messageLimitReached, self)
      else do
        let r ← S.seal self.cipher (nonceAt self.baseNonce A.nonceLen self.seq.toNat) aad pt
        return (r, self.advance r) := by
  rw [Context.seal, self.nonce_eq S.check]
  split_ifs
  · rfl
  · dsimp only
    congr 1
    funext r
    cases r <;> rfl

theorem Context.open_eq (S : SealingAead m A) (self : Context K F A) (aad ct : Bytes) :
    self.open S aad ct =
      if self.seq = seqMax then pure (throwErr .messageLimitReached, self)
      else do
        let r ← S.open self.cipher (nonceAt self.baseNonce A.nonceLen self.seq.toNat) aad ct
        return (r, self.advance r) := by
  rw [Context.open, self.nonce_eq S.check]
  split_ifs
  · rfl
  · dsimp only
    congr 1
    funext r
    cases r <;> rfl

end SealOpen

section Id

variable {K : Kem R} {F : Kdf} {A : Aead} {S : SealingAead Id A} {self : Context K F A}
  {aad b b' : Bytes}

theorem Context.seal_eq_ok : (self.seal S aad b).run.1 = .ok b' ↔ self.seq ≠ seqMax ∧
    S.seal self.cipher (nonceAt self.baseNonce A.nonceLen self.seq.toNat) aad b = .ok b' := by
  rw [Context.seal_eq]
  by_cases h : self.seq = seqMax
  · rw [if_pos h]
    exact iff_of_false (by rintro ⟨⟩) fun h' => h'.1 h
  · rw [if_neg h]
    exact (and_iff_right h).symm

theorem Context.open_eq_ok : (self.open S aad b).run.1 = .ok b' ↔ self.seq ≠ seqMax ∧
    S.open self.cipher (nonceAt self.baseNonce A.nonceLen self.seq.toNat) aad b = .ok b' := by
  rw [Context.open_eq]
  by_cases h : self.seq = seqMax
  · rw [if_pos h]
    exact iff_of_false (by rintro ⟨⟩) fun h' => h'.1 h
  · rw [if_neg h]
    exact (and_iff_right h).symm

end Id

end HpkeNg

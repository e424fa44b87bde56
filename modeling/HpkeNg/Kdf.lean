import HpkeNg.Crates

/-!
# Key derivation functions (`src/kdf.rs`)

* `Kdf`, and `hkdfImpl`, the body the three HKDF types share;
* `labeledExtract`, `labeledExpand` and the variants over pieces, which fill a fixed array of slots;
* `labeledExtractPieces_eq`, `labeledExpandPieces_eq`: within the slot budget a piecewise call is
  the `Kdf` call on the label slots followed by the pieces;
* `Kdf.Lawful`: what the key schedule and the KEMs rely on, and `KdfAlg.lawful`.
-/

namespace HpkeNg

variable {R : Type}

/-- The bytes of an ASCII literal `b"..."`. -/
def ascii (s : String) : Bytes := s.toList.map fun ch => UInt8.ofNat ch.toNat

/-- An HPKE KDF. -/
structure Kdf where
  id : UInt16
  hashLen : ℕ
  extract : (salt : Bytes) → (ikmPieces : List Bytes) → Bytes
  expand : (prk : Bytes) → (infoPieces : List Bytes) → (outLen : ℕ) → Outcome Bytes

/-- The body of `hkdf_impl!`. -/
def hkdfImpl {nh : ℕ} (id : UInt16) (hash : HkdfCrate nh) : Kdf where
  id := id
  hashLen := nh
  extract salt ikmPieces := (hash.finalize (ikmPieces.foldl hash.inputIkm (hash.new salt))).1
  expand prk infoPieces outLen :=
    if 255 * nh < outLen then throwErr .exportLengthExceeded
    else do
      let hk ← okOr .deriveKeyPairError (hash.fromPrk prk)
      let out ← okOr .exportLengthExceeded (hash.expandMultiInfo hk infoPieces outLen)
      return out.1

/-- `HkdfSha256`. -/
def hkdfSha256 (c : Crates R) : Kdf := hkdfImpl 0x0001 c.hkdfSha256

/-- `HkdfSha384`. -/
def hkdfSha384 (c : Crates R) : Kdf := hkdfImpl 0x0002 c.hkdfSha384

/-- `HkdfSha512`. -/
def hkdfSha512 (c : Crates R) : Kdf := hkdfImpl 0x0003 c.hkdfSha512

/-- The KDFs of the crate. -/
inductive KdfAlg : Type where
  | hkdfSha256
  | hkdfSha384
  | hkdfSha512
  deriving DecidableEq

/-- The `impl Kdf` of each KDF. -/
def KdfAlg.kdf (c : Crates R) : KdfAlg → Kdf
  | .hkdfSha256 => HpkeNg.hkdfSha256 c
  | .hkdfSha384 => HpkeNg.hkdfSha384 c
  | .hkdfSha512 => HpkeNg.hkdfSha512 c

/-! ## Labeled calls -/

/-- `b"HPKE-v1"`. -/
def hpkeV1 : Bytes := ascii "HPKE-v1"

/-- `out_len.try_into()`, to a `u16`. -/
def tryIntoU16 (n : ℕ) : Option UInt16 := if n < 65536 then some (UInt16.ofNat n) else none

/-- `MAX_EXTRACT_PIECES`. -/
def maxExtractPieces : ℕ := 8

/-- `MAX_EXPAND_PIECES`. -/
def maxExpandPieces : ℕ := 16

/-- The loop that writes the pieces into the slots from index `off` on. -/
def fillSlots (all : List Bytes) (off : ℕ) : List Bytes → Outcome (List Bytes)
  | [] => return all
  | p :: ps => if off < all.length then fillSlots (all.set off p) (off + 1) ps else .error .panic

/-- `&all[..n]`. -/
def takeSlots (all : List Bytes) (n : ℕ) : Outcome (List Bytes) :=
  if n ≤ all.length then return all.take n else .error .panic

/-- `labeled_extract`. -/
def labeledExtract (F : Kdf) (salt suiteId label ikm : Bytes) : Bytes :=
  F.extract salt [hpkeV1, suiteId, label, ikm]

/-- `labeled_extract_pieces`: the input in pieces, in an array of eight slots. -/
def labeledExtractPieces (F : Kdf) (salt suiteId label : Bytes) (ikmPieces : List Bytes) :
    Outcome Bytes := do
  let all := hpkeV1 :: suiteId :: label :: List.replicate (maxExtractPieces - 3) []
  let n := ikmPieces.length
  let all ← fillSlots all 3 ikmPieces
  return F.extract salt (← takeSlots all (3 + n))

/-- `labeled_expand`. -/
def labeledExpand (F : Kdf) (prk suiteId label info : Bytes) (outLen : ℕ) : Outcome Bytes := do
  let l ← okOr .exportLengthExceeded (tryIntoU16 outLen)
  F.expand prk [be16 l, hpkeV1, suiteId, label, info] outLen

/-- `labeled_expand_pieces`: the info in pieces, in an array of sixteen slots. -/
def labeledExpandPieces (F : Kdf) (prk suiteId label : Bytes) (infoPieces : List Bytes)
    (outLen : ℕ) : Outcome Bytes := do
  let l ← okOr .exportLengthExceeded (tryIntoU16 outLen)
  let all := be16 l :: hpkeV1 :: suiteId :: label :: List.replicate (maxExpandPieces - 4) []
  let n := infoPieces.length
  let all ← fillSlots all 4 infoPieces
  F.expand prk (← takeSlots all (4 + n)) outLen

/-! ## The slot arrays -/

/-- **Filling slots keeps everything before and after the pieces.** -/
theorem fillSlots_eq {all ps : List Bytes} {off : ℕ} (h : off + ps.length ≤ all.length) :
    fillSlots all off ps = .ok (all.take off ++ ps ++ all.drop (off + ps.length)) := by
  induction ps generalizing all off with
  | nil =>
    rw [fillSlots, pure_eq_ok, List.append_nil, List.length_nil, Nat.add_zero,
      List.take_append_drop]
  | cons p ps ih =>
    rw [List.length_cons] at h
    have hoff : off < all.length := by omega
    rw [fillSlots, if_pos hoff, ih (by rw [List.length_set]; omega)]
    congr 1
    rw [List.take_set, List.take_add_one, List.getElem?_eq_getElem hoff, Option.toList_some,
      List.set_append_right _ _ (by rw [List.length_take]; omega), List.length_take,
      Nat.min_eq_left hoff.le, Nat.sub_self, List.set_cons_zero, List.drop_set_of_lt (by omega),
      List.length_cons, List.append_assoc, List.append_assoc, List.append_assoc,
      Nat.add_right_comm off 1, Nat.add_assoc]
    rfl

theorem fillSlots_panic {all ps : List Bytes} {off : ℕ} (hoff : off ≤ all.length)
    (h : all.length < off + ps.length) : fillSlots all off ps = .error .panic := by
  induction ps generalizing all off with
  | nil =>
    rw [List.length_nil] at h
    omega
  | cons p ps ih =>
    rw [List.length_cons] at h
    by_cases hlt : off < all.length
    · rw [fillSlots, if_pos hlt]
      apply ih
      · rw [List.length_set]
        omega
      · rw [List.length_set]
        omega
    · rw [fillSlots, if_neg hlt]

theorem takeSlots_fill {all ps : List Bytes} {off : ℕ} (h : off + ps.length ≤ all.length) :
    (fillSlots all off ps >>= fun all => takeSlots all (off + ps.length)) =
      .ok (all.take off ++ ps) := by
  have hlen : (all.take off ++ ps).length = off + ps.length := by
    rw [List.length_append, List.length_take]; omega
  rw [fillSlots_eq h, ok_bind, takeSlots, if_pos (by rw [List.length_append, hlen]; omega),
    pure_eq_ok, List.take_append_of_le_length hlen.ge, List.take_of_length_le hlen.le]

/-- **A piecewise extract is the `Kdf` call on the label slots and the pieces.** -/
theorem labeledExtractPieces_eq (F : Kdf) (salt suiteId label : Bytes) {ikmPieces : List Bytes}
    (h : 3 + ikmPieces.length ≤ maxExtractPieces) :
    labeledExtractPieces F salt suiteId label ikmPieces =
      .ok (F.extract salt (hpkeV1 :: suiteId :: label :: ikmPieces)) := by
  have hf := @takeSlots_fill
    (hpkeV1 :: suiteId :: label :: List.replicate (maxExtractPieces - 3) []) ikmPieces 3 h
  obtain ⟨all, ha, ht⟩ := bind_eq_ok.mp hf
  simp only [labeledExtractPieces, ha, ok_bind, ht]
  rfl

theorem labeledExpandPieces_eq (F : Kdf) (prk suiteId label : Bytes) {infoPieces : List Bytes}
    (outLen : ℕ) (h : 4 + infoPieces.length ≤ maxExpandPieces) :
    labeledExpandPieces F prk suiteId label infoPieces outLen =
      okOr .exportLengthExceeded (tryIntoU16 outLen) >>= fun l =>
        F.expand prk (be16 l :: hpkeV1 :: suiteId :: label :: infoPieces) outLen := by
  unfold labeledExpandPieces
  congr 1
  funext l
  have hf := @takeSlots_fill
    (be16 l :: hpkeV1 :: suiteId :: label :: List.replicate (maxExpandPieces - 4) []) infoPieces 4 h
  obtain ⟨all, ha, ht⟩ := bind_eq_ok.mp hf
  simp only [ha, ok_bind, ht]
  rfl

/-- **A piecewise extract panics exactly beyond the slot budget.** -/
theorem labeledExtractPieces_panics_iff (F : Kdf) (salt suiteId label : Bytes)
    (ikmPieces : List Bytes) :
    labeledExtractPieces F salt suiteId label ikmPieces = .error .panic ↔
      maxExtractPieces < 3 + ikmPieces.length := by
  by_cases h : 3 + ikmPieces.length ≤ maxExtractPieces
  · rw [labeledExtractPieces_eq _ _ _ _ h]
    exact iff_of_false (by rintro ⟨⟩) (Nat.not_lt.mpr h)
  · have hp :=
      @fillSlots_panic (hpkeV1 :: suiteId :: label :: List.replicate (maxExtractPieces - 3) [])
        ikmPieces 3 (by simp) (by simpa [maxExtractPieces] using h)
    refine iff_of_true ?_ (Nat.not_le.mp h)
    rw [labeledExtractPieces, hp]
    rfl

theorem labeledExpandPieces_panic (F : Kdf) (prk suiteId label : Bytes) {infoPieces : List Bytes}
    {outLen : ℕ} (hl : outLen < 65536) (h : maxExpandPieces < 4 + infoPieces.length) :
    labeledExpandPieces F prk suiteId label infoPieces outLen = .error .panic := by
  have hp := @fillSlots_panic
    (be16 (UInt16.ofNat outLen) :: hpkeV1 :: suiteId :: label ::
      List.replicate (maxExpandPieces - 4) [])
    infoPieces 4 (by simp) (by simpa [maxExpandPieces] using h)
  rw [labeledExpandPieces, tryIntoU16, if_pos hl, okOr_some, ok_bind]
  simp only [hp]
  rfl

theorem tryIntoU16_of_lt {n : ℕ} (h : n < 65536) : tryIntoU16 n = some (UInt16.ofNat n) := if_pos h

/-! ## What the callers rely on -/

/-- Extract returns a digest, Expand returns the length asked for whenever HKDF can produce it, and
both depend on their pieces through the concatenation only. -/
structure Kdf.Lawful (F : Kdf) : Prop where
  hashLen_pos : 0 < F.hashLen
  hashLen_le : F.hashLen ≤ 64
  length_extract : ∀ salt ikm, (F.extract salt ikm).length = F.hashLen
  extract_flatten : ∀ salt ikm, F.extract salt ikm = F.extract salt [ikm.flatten]
  expand_ok : ∀ {prk n} info, F.hashLen ≤ prk.length → n ≤ 255 * F.hashLen →
    ∃ out, F.expand prk info n = .ok out
  expand_flatten : ∀ prk info n, F.expand prk info n = F.expand prk [info.flatten] n
  length_expand : ∀ {prk info n out}, F.expand prk info n = .ok out → out.length = n

theorem hkdfImpl_lawful {nh : ℕ} (id : UInt16) {hash : HkdfCrate nh} (hd : hash.Documented)
    (h0 : 0 < nh) (h64 : nh ≤ 64) : (hkdfImpl id hash).Lawful where
  hashLen_pos := h0
  hashLen_le := h64
  length_extract salt ikm := (hash.finalize (ikm.foldl hash.inputIkm (hash.new salt))).2
  extract_flatten salt ikm := congrArg Subtype.val (hd.extract_flatten salt ikm)
  expand_ok {prk n} info hp hn := by
    obtain ⟨hk, hhk⟩ := Option.isSome_iff_exists.mp ((hd.fromPrk_isSome prk).mpr hp)
    obtain ⟨out, hout⟩ := Option.isSome_iff_exists.mp ((hd.expand_isSome hk info n).mpr hn)
    have hle : ¬ 255 * nh < n := Nat.not_lt.mpr hn
    refine ⟨out.1, ?_⟩
    change (if 255 * nh < n then _ else _) = _
    rw [if_neg hle, hhk, okOr_some, ok_bind, hout]
    rfl
  expand_flatten prk info n := by
    change (if 255 * nh < n then _ else _) = (if 255 * nh < n then _ else _)
    split_ifs
    · rfl
    · congr 1
      funext hk
      rw [hd.expand_flatten]
  length_expand {prk info n out} h := by
    change (if 255 * nh < n then _ else _) = _ at h
    split_ifs at h
    obtain ⟨hk, -, h⟩ := bind_eq_ok.mp h
    obtain ⟨a, -, h⟩ := bind_eq_ok.mp h
    rw [← Except.ok.inj h, Arr.length_val]

theorem KdfAlg.lawful {c : Crates R} (hc : c.HkdfDocumented) : ∀ f : KdfAlg, (f.kdf c).Lawful
  | .hkdfSha256 => hkdfImpl_lawful 0x0001 hc.sha256 (by decide) (by decide)
  | .hkdfSha384 => hkdfImpl_lawful 0x0002 hc.sha384 (by decide) (by decide)
  | .hkdfSha512 => hkdfImpl_lawful 0x0003 hc.sha512 (by decide) (by decide)

variable {F : Kdf}

theorem Kdf.Lawful.tryIntoU16 (hF : F.Lawful) {n : ℕ} (h : n ≤ 255 * F.hashLen) :
    HpkeNg.tryIntoU16 n = some (UInt16.ofNat n) :=
  tryIntoU16_of_lt (by have := hF.hashLen_le; omega)

theorem Kdf.Lawful.labeledExpandPieces_ok (hF : F.Lawful) {prk : Bytes} (suiteId label : Bytes)
    {infoPieces : List Bytes} {n : ℕ} (hp : prk.length = F.hashLen) (hn : n ≤ 255 * F.hashLen)
    (hi : 4 + infoPieces.length ≤ maxExpandPieces) :
    ∃ out, labeledExpandPieces F prk suiteId label infoPieces n = .ok out ∧
      F.expand prk (be16 (UInt16.ofNat n) :: hpkeV1 :: suiteId :: label :: infoPieces) n = .ok out ∧
      out.length = n := by
  obtain ⟨out, ho⟩ := hF.expand_ok
    (be16 (UInt16.ofNat n) :: hpkeV1 :: suiteId :: label :: infoPieces) hp.ge hn
  refine ⟨out, ?_, ho, hF.length_expand ho⟩
  rw [labeledExpandPieces_eq _ _ _ _ _ hi, hF.tryIntoU16 hn, okOr_some, ok_bind, ho]

theorem labeledExpand_eq_pieces (prk suiteId label info : Bytes) (n : ℕ) :
    labeledExpand F prk suiteId label info n = labeledExpandPieces F prk suiteId label [info] n :=
  (labeledExpandPieces_eq F prk suiteId label n (by simp [maxExpandPieces])).symm

end HpkeNg

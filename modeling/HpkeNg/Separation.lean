import HpkeNg.Kem.All
import HpkeNg.KeySchedule
import HpkeNg.PrefixFree
import HpkeNg.Sample

/-!
# The labeled calls are separated

* `SuiteId`, `Header`, `ExtractCall`, `ExpandCall`: the labeled calls of the crate, and the byte
  string each feeds to the KDF;
* `SuiteId.prefixFree`, `Header.prefixFree`: suite ID and label can be read back;
* `Kdf.AgreeOnLabeled`, `Kdf.SameResults`: the crate makes no other KDF calls;
* `PqAlg.shakePieces`: the input of the SHAKE calls, read back from its end;
* `labeled_separated`: equal inputs come from equal calls.
-/

namespace HpkeNg

variable {R : Type}

/-! ## Labels -/

/-- The suite ID of a ciphersuite, or of a KEM. -/
inductive SuiteId : Type where
  | hpke (kemId kdfId aeadId : UInt16)
  | kem (kemId : UInt16)

namespace SuiteId

/-- The bytes of a suite ID. -/
def bytes : SuiteId → Bytes
  | .hpke kemId kdfId aeadId => ascii "HPKE" ++ be16 kemId ++ be16 kdfId ++ be16 aeadId
  | .kem kemId => kemSuiteId kemId

/-- The labels of the calls of `Kdf::extract`. -/
def extractLabels : SuiteId → List Bytes
  | .hpke _ _ _ => [ascii "psk_id_hash", ascii "info_hash", ascii "secret"]
  | .kem _ => [ascii "eae_prk", ascii "dkp_prk"]

/-- The labels of the calls of `Kdf::expand`. -/
def expandLabels : SuiteId → List Bytes
  | .hpke _ _ _ => [ascii "key", ascii "base_nonce", ascii "exp", ascii "sec"]
  | .kem _ => [ascii "shared_secret", ascii "candidate", ascii "sk"]

theorem hpke_inj {k f a k' f' a' : UInt16} (h : (hpke k f a).bytes = (hpke k' f' a').bytes) :
    hpke k f a = hpke k' f' a' := by
  have h1 : ascii "HPKE" ++ be16 k ++ be16 f ++ be16 a =
      ascii "HPKE" ++ be16 k' ++ be16 f' ++ be16 a' := h
  obtain ⟨h1, ha⟩ := List.append_inj h1 (by simp)
  obtain ⟨h1, hf⟩ := List.append_inj h1 (by simp)
  rw [be16_inj (List.append_cancel_left h1), be16_inj hf, be16_inj ha]

theorem kem_prefixFree : PrefixFree kemSuiteId :=
  prefixFree_of_length (fun _ _ => kemSuiteId_inj) (by simp)

/-- **A suite ID can be read back**: the two kinds differ in their first byte. -/
theorem prefixFree : PrefixFree bytes := by
  intro a b s t h
  cases a with
  | hpke k f a =>
    cases b with
    | hpke k' f' a' =>
      obtain ⟨h, hs⟩ := List.append_inj h (by simp [bytes])
      exact ⟨hpke_inj h, hs⟩
    | kem k' => simp [bytes, kemSuiteId, ascii] at h
  | kem k =>
    cases b with
    | hpke k' f' a' => simp [bytes, kemSuiteId, ascii] at h
    | kem k' =>
      obtain ⟨rfl, hs⟩ := kem_prefixFree h
      exact ⟨rfl, hs⟩

end SuiteId

/-- A suite ID and one of its labels. -/
abbrev Header (labels : SuiteId → List Bytes) : Type := Σ s : SuiteId, {l : Bytes // l ∈ labels s}

/-- `"HPKE-v1" || suite_id || label`. -/
def Header.bytes {labels : SuiteId → List Bytes} (h : Header labels) : Bytes :=
  hpkeV1 ++ (h.1.bytes ++ h.2.1)

theorem Header.prefixFree {labels : SuiteId → List Bytes}
    (h : ∀ s, ∀ l ∈ labels s, ∀ l' ∈ labels s, l <+: l' → l = l') :
    PrefixFree fun h : Header labels => h.bytes := by
  have hl : ∀ s, PrefixFree fun l : {l : Bytes // l ∈ labels s} => l.1 := fun s =>
    prefixFree_of_isPrefix fun l l' hp => Subtype.ext (h s l.1 l.2 l'.1 l'.2 hp)
  exact (SuiteId.prefixFree.sigma hl).const_append hpkeV1

theorem SuiteId.extractLabels_isPrefix (s : SuiteId) :
    ∀ l ∈ s.extractLabels, ∀ l' ∈ s.extractLabels, l <+: l' → l = l' := by
  cases s <;> simp only [extractLabels] <;> decide

theorem SuiteId.expandLabels_isPrefix (s : SuiteId) :
    ∀ l ∈ s.expandLabels, ∀ l' ∈ s.expandLabels, l <+: l' → l = l' := by
  cases s <;> simp only [expandLabels] <;> decide

/-! ## Calls -/

/-- A labeled call of `Kdf::extract`. -/
structure ExtractCall where
  header : Header SuiteId.extractLabels
  input : Bytes

/-- A labeled call of `Kdf::expand`. -/
structure ExpandCall where
  len : UInt16
  header : Header SuiteId.expandLabels
  input : Bytes

/-- The input of the call. -/
def ExtractCall.ikm (x : ExtractCall) : Bytes := x.header.bytes ++ x.input

/-- The info of the call. -/
def ExpandCall.info (x : ExpandCall) : Bytes := be16 x.len ++ (x.header.bytes ++ x.input)

theorem ExtractCall.ikm_injective : Function.Injective ExtractCall.ikm := by
  rintro ⟨h, x⟩ ⟨h', x'⟩ heq
  obtain ⟨rfl, rfl⟩ := Header.prefixFree SuiteId.extractLabels_isPrefix heq
  rfl

theorem be16_prefixFree : PrefixFree be16 := prefixFree_of_length (fun _ _ => be16_inj) (by simp)

theorem ExpandCall.info_injective : Function.Injective ExpandCall.info := by
  rintro ⟨l, h, x⟩ ⟨l', h', x'⟩ heq
  obtain ⟨rfl, heq⟩ := be16_prefixFree heq
  obtain ⟨rfl, rfl⟩ := Header.prefixFree SuiteId.expandLabels_isPrefix heq
  rfl

/-! ## The crate makes no other calls -/

/-- Two KDFs that answer every labeled call alike, however its input is cut into pieces. -/
structure Kdf.AgreeOnLabeled (F F' : Kdf) : Prop where
  id : F.id = F'.id
  hashLen : F.hashLen = F'.hashLen
  extract : ∀ (x : ExtractCall) (salt : Bytes) (pieces : List Bytes), pieces.flatten = x.ikm →
    F.extract salt pieces = F'.extract salt pieces
  expand : ∀ (x : ExpandCall) (prk : Bytes) (pieces : List Bytes), pieces.flatten = x.info →
    F.expand prk pieces x.len.toNat = F'.expand prk pieces x.len.toNat

section Context

variable {K : Kem R} {F : Kdf} {A : Aead} (F' : Kdf)

/-- The same context over another KDF. -/
def Context.withKdf (ctx : Context K F A) : Context K F' A where
  cipher := ctx.cipher
  baseNonce := ctx.baseNonce
  exporterSecret := ctx.exporterSecret
  seq := ctx.seq
  rawKey := ctx.rawKey

theorem Context.withKdf_new (key baseNonce exporterSecret : Bytes) :
    Context.withKdf F' <$> (Context.new key baseNonce exporterSecret : Outcome (Context K F A)) =
      Context.new key baseNonce exporterSecret := by
  simp only [Context.new, map_bind, map_pure]
  rfl

end Context

/-- Every function of the crate that calls a KDF returns the same over either. -/
structure Kdf.SameResults (R : Type) (F F' : Kdf) : Prop where
  schedule : ∀ (K : Kem R) (A : Aead) (s : ScheduleCall), Context.withKdf F' <$> s.run K F A =
    s.run K F' A
  contextExport :
    ∀ {K : Kem R} {A : Aead} (ctx : Context K F A) (exporterContext : Bytes) (length : ℕ),
    (ctx.withKdf F').export exporterContext length = ctx.export exporterContext length
  extractAndExpand : ∀ (D : DiffieHellman R) (dh : Bytes) (kemContext : List Bytes), D.kdf = F →
    HpkeNg.extractAndExpand { D with kdf := F' } dh kemContext =
    HpkeNg.extractAndExpand D dh kemContext
  extractAndExpandPieces : ∀ (D : DiffieHellman R) (dhPieces kemContext : List Bytes), D.kdf = F →
    HpkeNg.extractAndExpandPieces { D with kdf := F' } dhPieces kemContext =
      HpkeNg.extractAndExpandPieces D dhPieces kemContext
  derivePCurveSk :
    ∀ {SK : Type} (id : UInt16) (skFromBytes : Bytes → Outcome SK) (ikm : Bytes) (nsk : ℕ)
    (bitmask : UInt8), HpkeNg.derivePCurveSk F' id skFromBytes ikm nsk bitmask =
      HpkeNg.derivePCurveSk F id skFromBytes ikm nsk bitmask
  x25519Derive : ∀ (crate : X25519Crate) (id : UInt16) (ikm : Bytes),
    HpkeNg.x25519Derive crate F' id ikm = HpkeNg.x25519Derive crate F id ikm
  x448Derive : ∀ (crate : X448Crate) (id : UInt16) (ikm : Bytes),
    HpkeNg.x448Derive crate F' id ikm = HpkeNg.x448Derive crate F id ikm

namespace Kdf.AgreeOnLabeled

variable {F F' : Kdf} (h : F.AgreeOnLabeled F') {s : SuiteId} {label : Bytes}
include h

theorem labeledExtract (hl : label ∈ s.extractLabels) (salt ikm : Bytes) :
    labeledExtract F salt s.bytes label ikm = labeledExtract F' salt s.bytes label ikm := by
  apply h.extract ⟨⟨s, label, hl⟩, ikm⟩
  simp [ExtractCall.ikm, Header.bytes]

theorem labeledExtractPieces (hl : label ∈ s.extractLabels) (salt : Bytes)
    (ikmPieces : List Bytes) :
    labeledExtractPieces F salt s.bytes label ikmPieces =
      labeledExtractPieces F' salt s.bytes label ikmPieces := by
  by_cases hb : 3 + ikmPieces.length ≤ maxExtractPieces
  · rw [labeledExtractPieces_eq _ _ _ _ hb, labeledExtractPieces_eq _ _ _ _ hb]
    congr 1
    apply h.extract ⟨⟨s, label, hl⟩, ikmPieces.flatten⟩
    simp [ExtractCall.ikm, Header.bytes]
  · have hp := fun F =>
      (labeledExtractPieces_panics_iff F salt s.bytes label ikmPieces).mpr (Nat.not_le.mp hb)
    rw [hp, hp]

theorem labeledExpandPieces (hl : label ∈ s.expandLabels) (prk : Bytes) (infoPieces : List Bytes)
    (n : ℕ) :
    labeledExpandPieces F prk s.bytes label infoPieces n =
      labeledExpandPieces F' prk s.bytes label infoPieces n := by
  by_cases hn : n < 65536
  · by_cases hb : 4 + infoPieces.length ≤ maxExpandPieces
    · rw [labeledExpandPieces_eq _ _ _ _ _ hb, labeledExpandPieces_eq _ _ _ _ _ hb,
        tryIntoU16_of_lt hn, okOr_some, ok_bind, ok_bind]
      have he := h.expand ⟨UInt16.ofNat n, ⟨s, label, hl⟩, infoPieces.flatten⟩ prk
        (be16 (UInt16.ofNat n) :: hpkeV1 :: s.bytes :: label :: infoPieces)
        (by simp [ExpandCall.info, Header.bytes])
      rwa [UInt16.toNat_ofNat', Nat.mod_eq_of_lt hn] at he
    · have hp := fun F => labeledExpandPieces_panic F prk s.bytes label hn (Nat.not_le.mp hb)
      rw [hp, hp]
  · unfold HpkeNg.labeledExpandPieces tryIntoU16
    rw [if_neg hn]
    rfl

theorem labeledExpand (hl : label ∈ s.expandLabels) (prk info : Bytes) (n : ℕ) :
    labeledExpand F prk s.bytes label info n = labeledExpand F' prk s.bytes label info n := by
  rw [labeledExpand_eq_pieces, labeledExpand_eq_pieces]
  exact h.labeledExpandPieces hl prk [info] n

theorem ciphersuite (K : Kem R) (A : Aead) : ciphersuite K F A = ciphersuite K F' A := by
  rw [HpkeNg.ciphersuite, HpkeNg.ciphersuite, h.id]

theorem schedule (K : Kem R) (A : Aead) (s : ScheduleCall) :
    Context.withKdf F' <$> s.run K F A = s.run K F' A := by
  have hpid : s.pskIdHash F (HpkeNg.ciphersuite K F A) =
      s.pskIdHash F' (HpkeNg.ciphersuite K F A) :=
    h.labeledExtract (s := .hpke K.id F.id A.id) (by simp [SuiteId.extractLabels]) _ _
  have hinfo : s.infoHash F (HpkeNg.ciphersuite K F A) = s.infoHash F' (HpkeNg.ciphersuite K F A) :=
    h.labeledExtract (s := .hpke K.id F.id A.id) (by simp [SuiteId.extractLabels]) _ _
  have hsec : s.secret F (HpkeNg.ciphersuite K F A) = s.secret F' (HpkeNg.ciphersuite K F A) :=
    h.labeledExtract (s := .hpke K.id F.id A.id) (by simp [SuiteId.extractLabels]) _ _
  have hx : ∀ label ∈ (SuiteId.hpke K.id F.id A.id).expandLabels, ∀ prk info n,
      HpkeNg.labeledExpandPieces F prk (HpkeNg.ciphersuite K F A) label info n =
        HpkeNg.labeledExpandPieces F' prk (HpkeNg.ciphersuite K F A) label info n :=
    fun label hl => h.labeledExpandPieces (s := .hpke K.id F.id A.id) hl
  rw [s.run_eq_pieces, s.run_eq_pieces, ← h.ciphersuite, ← h.hashLen]
  dsimp only
  rw [hpid, hinfo, hsec, hx _ (by simp [SuiteId.expandLabels]),
    hx _ (by simp [SuiteId.expandLabels]), hx _ (by simp [SuiteId.expandLabels])]
  simp only [map_bind, Context.withKdf_new]

theorem kem_extract {id : UInt16} (hl : label ∈ (SuiteId.kem id).extractLabels) (salt ikm : Bytes) :
    HpkeNg.labeledExtract F salt (kemSuiteId id) label ikm =
      HpkeNg.labeledExtract F' salt (kemSuiteId id) label ikm := h.labeledExtract hl salt ikm

theorem kem_expand {id : UInt16} (hl : label ∈ (SuiteId.kem id).expandLabels) (prk info : Bytes)
    (n : ℕ) :
    HpkeNg.labeledExpand F prk (kemSuiteId id) label info n =
      HpkeNg.labeledExpand F' prk (kemSuiteId id) label info n := h.labeledExpand hl prk info n

theorem kem_expandPieces {id : UInt16} (hl : label ∈ (SuiteId.kem id).expandLabels) (prk : Bytes)
    (infoPieces : List Bytes) (n : ℕ) :
    HpkeNg.labeledExpandPieces F prk (kemSuiteId id) label infoPieces n =
      HpkeNg.labeledExpandPieces F' prk (kemSuiteId id) label infoPieces n :=
  h.labeledExpandPieces hl prk infoPieces n

theorem derivePCurveLoop {SK : Type} {id : UInt16} (skFromBytes : Bytes → Outcome SK) (prk : Bytes)
    (nsk : ℕ) (bitmask : UInt8) (counters : List UInt8) :
    derivePCurveLoop F' (kemSuiteId id) skFromBytes prk nsk bitmask counters =
      derivePCurveLoop F (kemSuiteId id) skFromBytes prk nsk bitmask counters := by
  induction counters with
  | nil => rfl
  | cons counter counters ih =>
    simp only [HpkeNg.derivePCurveLoop, ih,
      h.kem_expand (by simp [SuiteId.expandLabels] : ascii "candidate" ∈ _)]

/-- **The crate calls its KDF with labeled inputs only.** -/
theorem sameResults : F.SameResults R F' where
  schedule := h.schedule
  contextExport {K A} ctx ec length := by
    rw [Context.export, Context.export, ← h.ciphersuite]
    exact (h.labeledExpand (s := .hpke K.id F.id A.id) (by simp [SuiteId.expandLabels])
      ctx.exporterSecret ec length).symm
  extractAndExpand D dh kemContext hD := by
    subst hD
    simp only [HpkeNg.extractAndExpand, suiteId,
      h.kem_extract (by simp [SuiteId.extractLabels] : ascii "eae_prk" ∈ _),
      h.kem_expandPieces (by simp [SuiteId.expandLabels] : ascii "shared_secret" ∈ _)]
  extractAndExpandPieces D dhPieces kemContext hD := by
    subst hD
    have he : HpkeNg.labeledExtractPieces D.kdf [] (kemSuiteId D.id) (ascii "eae_prk") dhPieces =
        HpkeNg.labeledExtractPieces F' [] (kemSuiteId D.id) (ascii "eae_prk") dhPieces :=
      h.labeledExtractPieces (s := .kem D.id) (by simp [SuiteId.extractLabels]) [] dhPieces
    simp only [HpkeNg.extractAndExpandPieces, suiteId, he,
      h.kem_expandPieces (by simp [SuiteId.expandLabels] : ascii "shared_secret" ∈ _)]
  derivePCurveSk id skFromBytes ikm nsk bitmask := by
    simp only [HpkeNg.derivePCurveSk, h.derivePCurveLoop,
      h.kem_extract (by simp [SuiteId.extractLabels] : ascii "dkp_prk" ∈ _)]
  x25519Derive crate id ikm := by
    simp only [HpkeNg.x25519Derive,
      h.kem_extract (by simp [SuiteId.extractLabels] : ascii "dkp_prk" ∈ _),
      h.kem_expand (by simp [SuiteId.expandLabels] : ascii "sk" ∈ _)]
  x448Derive crate id ikm := by
    simp only [HpkeNg.x448Derive,
      h.kem_extract (by simp [SuiteId.extractLabels] : ascii "dkp_prk" ∈ _),
      h.kem_expand (by simp [SuiteId.expandLabels] : ascii "sk" ∈ _)]

end Kdf.AgreeOnLabeled

/-! ## The SHAKE calls of the post-quantum KEMs -/

/-- What `shake256_labeled_derive` feeds to SHAKE256, for a label and an output that fit. -/
def shakePieces (suiteId label ikm : Bytes) (n : ℕ) : List Bytes :=
  [ikm, hpkeV1, suiteId, be16 (UInt16.ofNat label.length), label, be16 (UInt16.ofNat n)]

namespace PqAlg

/-- The KEM ID. -/
def id : PqAlg → UInt16
  | .xWingDraft06 => 0x647A
  | .mlKem768 => 0x0041
  | .mlKem1024 => 0x0042

/-- The bytes of a seed. -/
def seedLen : PqAlg → ℕ
  | .xWingDraft06 => 32
  | .mlKem768 | .mlKem1024 => 64

/-- The pieces of the call that derives the seed. -/
def shakePieces (p : PqAlg) (ikm : Bytes) : List Bytes :=
  HpkeNg.shakePieces (kemSuiteId p.id) deriveKeyPairLabel ikm p.seedLen

theorem kem_id [CryptoRng R] (c : Crates R) (p : PqAlg) : (p.kem c).id = p.id := by cases p <;> rfl

theorem id_injective : Function.Injective id := by
  intro p q h
  cases p <;> cases q <;> first | rfl | exact absurd h (by decide)

/-- **The input of a SHAKE call determines it**: every field behind `ikm` has a fixed length. -/
theorem shakePieces_injective :
    Function.Injective fun x : PqAlg × Bytes => (x.1.shakePieces x.2).flatten := by
  rintro ⟨p, ikm⟩ ⟨q, ikm'⟩ h
  simp only [shakePieces, HpkeNg.shakePieces, List.flatten_cons, List.flatten_nil] at h
  obtain ⟨hikm, ht⟩ := List.append_inj' h (by simp)
  obtain ⟨hs, -⟩ := List.append_inj (List.append_cancel_left ht) (by simp)
  rw [hikm, id_injective (kemSuiteId_inj hs)]

theorem deriveKeyPair_eq [CryptoRng R] (c : Crates R) (p : PqAlg) :
    ∃ g : Arr p.seedLen → (p.kem c).PrivateKey × (p.kem c).PublicKey, ∀ ikm,
      (p.kem c).deriveKeyPair ikm =
      .ok (g (c.shake.finalizeXofRead ((p.shakePieces ikm).foldl c.shake.update c.shake.default)
        p.seedLen)) := by
  cases p with
  | xWingDraft06 => exact ⟨keypairFromSeed c.xWing, fun ikm => rfl⟩
  | mlKem768 => exact ⟨mlKemFromSeed c.mlKem768, fun ikm => rfl⟩
  | mlKem1024 => exact ⟨mlKemFromSeed c.mlKem1024, fun ikm => rfl⟩

end PqAlg

/-- **All labeled calls are separated.** Two calls of `Kdf::extract` with one input have the same
suite ID, label and caller's input, two calls of `Kdf::expand` the same output length too; and the
crate makes no other calls, as its results do not depend on what a KDF answers to others. Two SHAKE
calls with one input are for the same KEM and `ikm`. -/
theorem labeled_separated [CryptoRng R] (c : Crates R) :
    Function.Injective ExtractCall.ikm ∧ Function.Injective ExpandCall.info ∧
    (∀ F F' : Kdf, F.AgreeOnLabeled F' → F.SameResults R F') ∧
    Function.Injective (fun x : PqAlg × Bytes => (x.1.shakePieces x.2).flatten) ∧
    ∀ p : PqAlg, (p.kem c).id = p.id ∧
      ∃ g : Arr p.seedLen → (p.kem c).PrivateKey × (p.kem c).PublicKey,
      ∀ ikm, (p.kem c).deriveKeyPair ikm =
        .ok (g (c.shake.finalizeXofRead ((p.shakePieces ikm).foldl c.shake.update c.shake.default)
          p.seedLen)) :=
  ⟨ExtractCall.ikm_injective, ExpandCall.info_injective, fun _ _ h => h.sameResults,
    PqAlg.shakePieces_injective, fun p => ⟨p.kem_id c, p.deriveKeyPair_eq c⟩⟩

/-- A KDF that answers nothing to inputs without the version. -/
def Kdf.labeledOnly (F : Kdf) : Kdf :=
  { F with extract := fun salt pieces => if hpkeV1 <+: pieces.flatten then F.extract salt pieces else [] }

/-- X25519 derives the same keys over it. -/
theorem labeled_separated_x25519 :
    let F := KdfAlg.hkdfSha256.kdf Sample.crates
    x25519Derive Sample.x25519 F.labeledOnly 0x0020 (ascii "ikm") =
      x25519Derive Sample.x25519 F 0x0020 (ascii "ikm") := by
  intro F
  have h : F.AgreeOnLabeled F.labeledOnly := by
    refine ⟨rfl, rfl, fun x salt pieces hp => ?_, fun _ _ _ _ => rfl⟩
    refine (if_pos ?_).symm
    rw [hp, ExtractCall.ikm, Header.bytes, List.append_assoc]
    exact List.prefix_append _ _
  exact ((labeled_separated Sample.crates).2.2.1 F F.labeledOnly h).x25519Derive Sample.x25519
    0x0020 (ascii "ikm")

end HpkeNg

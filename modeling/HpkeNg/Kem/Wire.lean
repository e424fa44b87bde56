import HpkeNg.Kem.All
import HpkeNg.Sample

/-!
# The wire forms of keys

* `overwrite`, `KemAlg.skBits`, `KemAlg.pkBits`: the bits that decoding fixes;
* `Kem.Normalises`: encoding a decoded string gives it back with these bits overwritten;
* `KemAlg.roundTrips`, `KemAlg.normalises`: every KEM has both properties;
* `Kem.LoadSame`: two strings load as one private key;
* `wire_roundTrip`: all of it, for the nine KEMs, and which strings load as one private key.
-/

namespace HpkeNg

variable {R : Type}

/-! ## The bits that decoding fixes -/

/-- Set bit `j`, the least significant bit first, to `v`. -/
def setBit (j : ℕ) (v : Bool) (x : UInt8) : UInt8 :=
  if v then x ||| 1 <<< UInt8.ofNat j else x &&& ~~~(1 <<< UInt8.ofNat j)

/-- Overwrite bits, each given by its byte, its place in the byte and its value. -/
def overwrite (b : Bytes) (bits : List (ℕ × ℕ × Bool)) : Bytes :=
  bits.foldl (fun b s => b.modify s.1 (setBit s.2.1 s.2.2)) b

/-- Encoding a decoded string changes the given bits only. -/
structure Kem.Normalises (K : Kem R) (skBits pkBits : List (ℕ × ℕ × Bool)) : Prop where
  sk : ∀ {b sk}, K.skFromBytes b = .ok sk → K.skToBytes sk = overwrite b skBits
  pk : ∀ {b pk}, K.pkFromBytes b = .ok pk → K.pkToBytes pk = overwrite b pkBits
  enc : ∀ {b enc}, K.encFromBytes b = .ok enc → K.encAsRef enc = b

/-- The same, for the keys of a group. -/
structure DiffieHellman.Normalises (D : DiffieHellman R) (skBits pkBits : List (ℕ × ℕ × Bool)) :
    Prop where
  sk : ∀ {b sk}, D.skFromBytes b = .ok sk → D.skToBytes sk = overwrite b skBits
  pk : ∀ {b pk}, D.pkFromBytes b = .ok pk → D.pkToBytes pk = overwrite b pkBits

/-- The bits of a private key that the KEM fixes when it loads one. -/
def KemAlg.skBits : KemAlg → List (ℕ × ℕ × Bool)
  | .dhKem .x25519 => [(0, 0, false), (0, 1, false), (0, 2, false), (31, 7, false), (31, 6, true)]
  | .dhKem .x448 => [(0, 0, false), (0, 1, false), (55, 7, true)]
  | _ => []

/-- The bits of a public key that the KEM fixes when it parses one. -/
def KemAlg.pkBits : KemAlg → List (ℕ × ℕ × Bool)
  | .dhKem .x25519 => [(31, 7, false)]
  | _ => []

theorem mask25519_val (a : Arr 32) : (mask25519 a).1 = overwrite a.1 [(31, 7, false)] := rfl

theorem clamp25519_val (a : Arr 32) : (clamp25519 a).1 = overwrite a.1
    [(0, 0, false), (0, 1, false), (0, 2, false), (31, 7, false), (31, 6, true)] := by
  have h0 : ∀ b : Bytes, ((b.modify 0 (setBit 0 false)).modify 0 (setBit 1 false)).modify 0
      (setBit 2 false) = b.modify 0 (· &&& 0xF8) := by
    intro b
    rw [List.modify_modify_eq, List.modify_modify_eq]
    congr 1
    funext x
    simp only [Function.comp_apply, setBit, Bool.false_eq_true, if_false, UInt8.and_assoc]
    rfl
  change _ = ((((a.1.modify 0 (setBit 0 false)).modify 0 (setBit 1 false)).modify 0
    (setBit 2 false)).modify 31 _).modify 31 _
  rw [h0]
  rfl

theorem clamp448_val (a : Arr 56) : (clamp448 a).1 =
    overwrite a.1 [(0, 0, false), (0, 1, false), (55, 7, true)] := by
  have h0 : ∀ b : Bytes, (b.modify 0 (setBit 0 false)).modify 0 (setBit 1 false) =
      b.modify 0 (· &&& 0xFC) := by
    intro b
    rw [List.modify_modify_eq]
    congr 1
    funext x
    simp only [Function.comp_apply, setBit, Bool.false_eq_true, if_false, UInt8.and_assoc]
    rfl
  change _ = ((a.1.modify 0 (setBit 0 false)).modify 0 (setBit 1 false)).modify 55 _
  rw [h0]
  rfl

/-! ## The KEMs -/

section DhKem

variable {D : DiffieHellman R}

theorem dhKem_roundTrips (hD : D.Lawful) (hr : D.RoundTrips) : (dhKem D).toKem.RoundTrips where
  sk {sk} h := by
    obtain ⟨hb, hs⟩ := dhKem_builtSk hD h
    rw [hs]
    exact bind_eq_ok.mpr ⟨_, hr.skFromBytes_skToBytes hb, rfl⟩
  pk {pk} h := bind_eq_ok.mpr ⟨_, hr.pkFromBytes_pkToBytes (dhKem_builtPk hD h), rfl⟩
  enc {enc} h := by
    cases h with
    | encap h => exact dhKem_encFromBytes hD (congrArg Prod.fst h)
    | load h =>
      obtain ⟨hb, rfl⟩ := guard_eq_ok.mp h
      exact guard_eq_ok.mpr ⟨hb, rfl⟩

theorem dhKem_normalises {skBits pkBits : List (ℕ × ℕ × Bool)} (h : D.Normalises skBits pkBits) :
    (dhKem D).toKem.Normalises skBits pkBits where
  sk hsk := by
    obtain ⟨s, hs, hsk⟩ := bind_eq_ok.mp hsk
    obtain rfl := Except.ok.inj hsk
    exact h.sk hs
  pk hpk := by
    obtain ⟨p, hp, hpk⟩ := bind_eq_ok.mp hpk
    obtain rfl := Except.ok.inj hpk
    exact h.pk hp
  enc henc := by
    obtain ⟨-, rfl⟩ := guard_eq_ok.mp henc
    rfl

theorem nistCurve_normalises {nsk : ℕ} {crate : CurveCrate R nsk} (hc : crate.Documented)
    {kdf : Kdf} {id : UInt16} {nsecret : ℕ} {bitmask : UInt8} :
    (nistCurve crate kdf id nsecret bitmask).Normalises [] [] where
  sk h := by
    obtain ⟨hl, hs⟩ := nistSkFromBytes_eq_ok.mp h
    exact hc.toBytes_fromSlice hl hs
  pk {b pk} h := by
    obtain ⟨hl, ht, hp⟩ := nistPkFromBytes_eq_ok.mp h
    -- the accepted bytes start with the uncompressed tag
    obtain ⟨x, xy, rfl⟩ := List.exists_cons_of_length_pos (by omega : 0 < b.length)
    obtain rfl : x = 0x04 := Option.some.inj ht
    have hxy : xy.length = 2 * nsk := by rw [List.length_cons] at hl; omega
    exact (NistPublicKey.encoded_eq pk).trans (hc.toSec1Point_fromSec1Bytes hxy hp)

end DhKem

variable [CryptoRng R] {c : Crates R}

theorem x25519_normalises (hx : c.x25519Dalek.Documented) :
    (x25519 c).Normalises (KemAlg.dhKem .x25519).skBits (KemAlg.dhKem .x25519).pkBits where
  sk h := by
    obtain ⟨arr, rfl, rfl⟩ := x25519SkFromBytes_eq_ok.mp h
    exact (congrArg Subtype.val (hx.toBytes_secretFrom _)).trans (clamp25519_val arr)
  pk h := by
    obtain ⟨arr, rfl, rfl⟩ := x25519PkFromBytes_eq_ok.mp h
    exact mask25519_val arr

theorem x448_normalises :
    (x448 c).Normalises (KemAlg.dhKem .x448).skBits (KemAlg.dhKem .x448).pkBits where
  sk h := by
    obtain ⟨arr, rfl, rfl⟩ := x448SkFromBytes_eq_ok.mp h
    exact clamp448_val arr
  pk h := x448PkFromBytes_eq_ok.mp h

theorem xWing_normalises : (xWingDraft06 c).Normalises [] [] where
  sk h := by
    obtain ⟨seed, rfl, rfl⟩ := xWingSkFromBytes_eq_ok.mp h
    rfl
  pk h := (xWingPkFromBytes_eq_ok.mp h).2.1
  enc h := by
    obtain ⟨-, rfl⟩ := guard_eq_ok.mp h
    rfl

theorem mlKem_normalises {nek nct : ℕ} {crate : MlKemCrate R nek nct} {id : UInt16} :
    (mlKem c crate id).Normalises [] [] where
  sk h := by
    obtain ⟨seed, rfl, rfl⟩ := mlKemSkFromBytes_eq_ok.mp h
    rfl
  pk h := by
    obtain ⟨-, -, h, -⟩ := mlKemPkFromBytes_eq_ok.mp h
    exact h
  enc h := by
    obtain ⟨-, rfl⟩ := guard_eq_ok.mp h
    rfl

theorem KemAlg.roundTrips (hd : c.CurvesDocumented) (hp : c.PqDocumented) :
    ∀ k : KemAlg, (k.kem c).RoundTrips
  | .dhKem g => dhKem_roundTrips (g.lawful hd) (g.roundTrips hd)
  | .pq .xWingDraft06 => xWing_roundTrips hp.xWing
  | .pq .mlKem768 => mlKem_roundTrips hp.mlKem768 0x0041
  | .pq .mlKem1024 => mlKem_roundTrips hp.mlKem1024 0x0042

theorem KemAlg.normalises (hd : c.CurvesDocumented) :
    ∀ k : KemAlg, (k.kem c).Normalises k.skBits k.pkBits
  | .dhKem .p256 => dhKem_normalises (nistCurve_normalises hd.p256)
  | .dhKem .p384 => dhKem_normalises (nistCurve_normalises hd.p384)
  | .dhKem .p521 => dhKem_normalises (nistCurve_normalises hd.p521)
  | .dhKem .k256 => dhKem_normalises (nistCurve_normalises hd.k256)
  | .dhKem .x25519 => dhKem_normalises (x25519_normalises hd.x25519Dalek)
  | .dhKem .x448 => dhKem_normalises x448_normalises
  | .pq .xWingDraft06 => xWing_normalises
  | .pq .mlKem768 => mlKem_normalises
  | .pq .mlKem1024 => mlKem_normalises

/-! ## Which strings load as one private key -/

/-- Two strings load as one private key. -/
def Kem.LoadSame (K : Kem R) (b b' : Bytes) : Prop :=
  ∃ sk, K.skFromBytes b = .ok sk ∧ K.skFromBytes b' = .ok sk

theorem x25519_loadSame (hx : c.x25519Dalek.Documented) (b b' : Arr 32) :
    (DhGroup.x25519.kem c).LoadSame b.1 b'.1 ↔ clamp25519 b = clamp25519 b' := by
  have hl : ∀ a : Arr 32, (DhGroup.x25519.kem c).skFromBytes a.1 =
      .ok (DhPrivateKey.fromSk (x25519 c) ⟨c.x25519Dalek.secretFrom (clamp25519 a)⟩) := by
    intro a
    exact bind_eq_ok.mpr ⟨_, x25519SkFromBytes_eq_ok.mpr ⟨a, rfl, rfl⟩, rfl⟩
  constructor
  · rintro ⟨sk, h, h'⟩
    rw [hl] at h h'
    have hs := congrArg DhPrivateKey.sk (Except.ok.inj (h.trans h'.symm))
    have hb := congrArg c.x25519Dalek.toBytes (X25519PrivateKey.mk.inj hs)
    rwa [hx.toBytes_secretFrom, hx.toBytes_secretFrom] at hb
  · intro h
    exact ⟨_, hl b, (hl b').trans (by rw [h])⟩

theorem x448_loadSame (b b' : Arr 56) :
    (DhGroup.x448.kem c).LoadSame b.1 b'.1 ↔ clamp448 b = clamp448 b' := by
  have hl : ∀ a : Arr 56, (DhGroup.x448.kem c).skFromBytes a.1 =
      .ok (DhPrivateKey.fromSk (x448 c) ⟨clamp448 a⟩) := by
    intro a
    exact bind_eq_ok.mpr ⟨_, x448SkFromBytes_eq_ok.mpr ⟨a, rfl, rfl⟩, rfl⟩
  constructor
  · rintro ⟨sk, h, h'⟩
    rw [hl] at h h'
    have hs := congrArg DhPrivateKey.sk (Except.ok.inj (h.trans h'.symm))
    exact X448PrivateKey.mk.inj hs
  · intro h
    exact ⟨_, hl b, (hl b').trans (by rw [h])⟩

/-- **Wire round trip, for the nine KEMs.** Every key and encapsulated key is decoded back from its
encoding; encoding a decoded string gives it back, but for bit 255 of an X25519 public key and the
bits that RFC 7748 fixes in X25519 and X448 private keys; and these are the bits in which two
strings that load as one private key may differ. -/
theorem wire_roundTrip (hd : c.CurvesDocumented) (hp : c.PqDocumented) :
    (∀ k : KemAlg, (k.kem c).RoundTrips ∧ (k.kem c).Normalises k.skBits k.pkBits) ∧
    (∀ b b' : Arr 32, (DhGroup.x25519.kem c).LoadSame b.1 b'.1 ↔
      ∀ i < 32, ∀ j < 8, ¬ (i = 0 ∧ j < 3) → ¬ (i = 31 ∧ 6 ≤ j) → b.bit i j = b'.bit i j) ∧
    ∀ b b' : Arr 56, (DhGroup.x448.kem c).LoadSame b.1 b'.1 ↔
      ∀ i < 56, ∀ j < 8, ¬ (i = 0 ∧ j < 2) → ¬ (i = 55 ∧ j = 7) → b.bit i j = b'.bit i j := by
  refine ⟨fun k => ⟨k.roundTrips hd hp, k.normalises hd⟩, fun b b' => ?_, fun b b' => ?_⟩
  · rw [x25519_loadSame hd.x25519Dalek, clamp25519_eq_iff]
  · rw [x448_loadSame, clamp448_eq_iff]

/-- An X25519 key pair. -/
theorem wire_roundTrip_x25519 :
    let K := (KemAlg.dhKem .x25519).kem Sample.crates
    let D := DhGroup.x25519.dh Sample.crates
    K.skFromBytes (K.skToBytes (D.keyPair (7 : ℕ)).1) = .ok (D.keyPair (7 : ℕ)).1 := by
  intro K D
  exact ((wire_roundTrip Sample.curvesDocumented Sample.pqDocumented).1 (.dhKem .x25519)).1.sk
    (builtSk_keyPair D (7 : ℕ))

end HpkeNg

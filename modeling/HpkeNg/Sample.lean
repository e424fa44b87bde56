import HpkeNg.Aead
import HpkeNg.Psk

/-!
# Small crates that behave as documented

Stand-ins for the dependencies: HMAC and HKDF over a toy hash, an AEAD whose ciphertext carries its
key, nonce and associated data, and toy groups in which Diffie-Hellman is a product or an XOR.
They meet every documented behaviour, so what the development assumes about its dependencies can be
met.

* `Sample.hkdf`, `Sample.aead`, `Sample.x25519`, `Sample.x448`, `Sample.curve`, `Sample.xWing`,
  `Sample.mlKem`, each with its `Documented`;
* `Sample.crates`, with `hkdfDocumented`, `aeadDocumented`, `curvesDocumented`, `curvesCommute`,
  `pqDocumented`, `pqCorrect`, `replacementDocumented`; `Sample.committing`: its AEADs are ideal.
-/

namespace HpkeNg

namespace Sample

/-- A counter as the random number generator. -/
instance : CryptoRng ℕ where
  fillBytes rng n := (⟨i2osp n (rng + 1), length_i2osp _ _⟩, rng + 1)

/-! ## HKDF -/

/-- A polynomial hash. -/
def hash (nh : ℕ) (b : Bytes) : Bytes := i2osp nh (b.foldl (fun acc x => acc * 257 + x.toNat + 1) 1)

/-- HMAC with 64-byte blocks. -/
def hmac (nh : ℕ) (key text : Bytes) : Bytes :=
  let key := if 64 < key.length then hash nh key else key
  let pad := fun x => (key ++ List.replicate (64 - key.length) 0).map (· ^^^ x)
  hash nh (pad 0x5c ++ hash nh (pad 0x36 ++ text))

/-- The blocks `T(i) | T(i+1) | ...` of HKDF-Expand, given `T(i-1)`. -/
def expandBlocks (nh : ℕ) (prk info : Bytes) : ℕ → ℕ → Bytes → Bytes
  | 0, _, _ => []
  | n + 1, i, prev =>
    let t := hmac nh prk (prev ++ info ++ [UInt8.ofNat i])
    t ++ expandBlocks nh prk info n (i + 1) t

theorem length_hmac (nh : ℕ) (key text : Bytes) : (hmac nh key text).length = nh := length_i2osp _ _

theorem length_expandBlocks (nh : ℕ) (prk info : Bytes) (n i : ℕ) (prev : Bytes) :
    (expandBlocks nh prk info n i prev).length = n * nh := by
  induction n generalizing i prev with
  | zero => rw [expandBlocks, Nat.zero_mul]; rfl
  | succ n ih => rw [expandBlocks, List.length_append, ih, length_hmac, Nat.succ_mul, Nat.add_comm]

/-- The state of Extract is the salt and the input so far. -/
def inputIkm (st : Bytes × Bytes) (ikm : Bytes) : Bytes × Bytes := (st.1, st.2 ++ ikm)

/-- HKDF-Expand, up to 255 blocks. -/
def expand (nh : ℕ) (prk info : Bytes) (n : ℕ) : Option (Arr n) :=
  if n ≤ 255 * nh then Arr.ofBytes? ((expandBlocks nh prk info 255 1 []).take n) else none

/-- HKDF over the toy hash. -/
def hkdf (nh : ℕ) : HkdfCrate nh where
  HkdfExtract := Bytes × Bytes
  new salt := (salt, [])
  inputIkm := inputIkm
  finalize st := ⟨hmac nh st.1 st.2, length_hmac _ _ _⟩
  Hkdf := Bytes
  fromPrk prk := if nh ≤ prk.length then some prk else none
  expandMultiInfo prk info n := expand nh prk info.flatten n

theorem foldl_inputIkm (st : Bytes × Bytes) (ikm : List Bytes) :
    ikm.foldl inputIkm st = inputIkm st ikm.flatten := by
  induction ikm generalizing st with
  | nil => rw [List.foldl_nil, List.flatten_nil, inputIkm, List.append_nil]
  | cons a ikm ih =>
    rw [List.foldl_cons, ih, List.flatten_cons, inputIkm, inputIkm, inputIkm, List.append_assoc]

theorem expand_isSome (nh : ℕ) (prk info : Bytes) (n : ℕ) :
    (expand nh prk info n).isSome ↔ n ≤ 255 * nh := by
  unfold expand
  by_cases h : n ≤ 255 * nh
  · have hl : ((expandBlocks nh prk info 255 1 []).take n).length = n := by
      rw [List.length_take, length_expandBlocks, Nat.min_eq_left h]
    rw [if_pos h, Arr.ofBytes?_of_length hl]
    exact iff_of_true rfl h
  · rw [if_neg h]
    exact iff_of_false (by simp) h

theorem hkdf_documented (nh : ℕ) : (hkdf nh).Documented where
  extract_flatten salt ikm := congrArg (hkdf nh).finalize (foldl_inputIkm (salt, []) ikm)
  expand_flatten prk info n := by
    change expand nh prk info.flatten n = expand nh prk [info.flatten].flatten n
    rw [List.flatten_singleton]
  fromPrk_isSome prk := by
    change (if nh ≤ prk.length then some prk else none).isSome ↔ _
    by_cases h : nh ≤ prk.length
    · simp [h]
    · simp [h]
  expand_isSome prk info n := expand_isSome nh prk info.flatten n

/-- The state of SHAKE is the input so far. -/
def shake : ShakeCrate where
  Shake256 := Bytes
  default := []
  update st b := st ++ b
  finalizeXofRead st n := ⟨hash n st, length_i2osp _ _⟩

/-! ## AEADs -/

/-- What a ciphertext starts with. -/
def header (key nonce aad : Bytes) : Bytes := key ++ nonce ++ i2osp 8 aad.length ++ aad

/-- The key, the nonce and the associated data, then the plaintext in the clear. -/
def aead (nk : ℕ) : AeadCrate nk where
  Cipher := Arr nk
  newFromSlice := Arr.ofBytes?
  encrypt key nonce aad msg :=
    if aad.length < 2 ^ 64 then some (header key.1 nonce.1 aad ++ msg) else none
  decrypt key nonce aad ct :=
    let h := header key.1 nonce.1 aad
    if aad.length < 2 ^ 64 ∧ ct.take h.length = h then some (ct.drop h.length) else none

theorem aead_documented (nk : ℕ) : (aead nk).Documented where
  newFromSlice_isSome key := by
    by_cases h : key.length = nk
    · exact iff_of_true (by simp [aead, Arr.ofBytes?_of_length h]) h
    · exact iff_of_false (by simp [aead, Arr.ofBytes?_of_ne h]) h
  decrypt_encrypt {k nonce aad pt ct} h := by
    change (if aad.length < 2 ^ 64 then some (header k.1 nonce.1 aad ++ pt) else none) =
      some ct at h
    split_ifs at h with ha
    obtain rfl := Option.some.inj h
    have ht : (header k.1 nonce.1 aad ++ pt).take (header k.1 nonce.1 aad).length =
        header k.1 nonce.1 aad := by simp
    change (if aad.length < 2 ^ 64 ∧ _ = _ then some _ else none) = some pt
    rw [if_pos ⟨ha, ht⟩, List.drop_left]

theorem header_inj {nk : ℕ} {k k' : Arr nk} {n n' : Arr 12} {aad aad' m m' : Bytes}
    (ha : aad.length < 2 ^ 64) (ha' : aad'.length < 2 ^ 64)
    (h : header k.1 n.1 aad ++ m = header k'.1 n'.1 aad' ++ m') :
    k = k' ∧ n = n' ∧ aad = aad' ∧ m = m' := by
  simp only [header, List.append_assoc] at h
  obtain ⟨hk, h⟩ := List.append_inj h (by rw [k.2, k'.2])
  obtain ⟨hn, h⟩ := List.append_inj h (by rw [n.2, n'.2])
  obtain ⟨hl, h⟩ := List.append_inj h (by rw [length_i2osp, length_i2osp])
  have hlen : aad.length = aad'.length := i2osp_inj ha ha' hl
  obtain ⟨haa, hm⟩ := List.append_inj h hlen
  exact ⟨Subtype.ext hk, Subtype.ext hn, haa, hm⟩

/-! ## Curves -/

/-- Put a byte where no point of small order has it. -/
def mark25519 (b : Arr 32) : Arr 32 := b.modify 1 fun _ => 2

/-- XOR of two arrays. -/
def xorArr {n : ℕ} (a b : Arr n) : Arr n :=
  ⟨xorBytes a.1 b.1, by rw [length_xorBytes, a.2, b.2, Nat.min_self]⟩

theorem xorArr_comm {n : ℕ} (a b : Arr n) : xorArr a b = xorArr b a :=
  Subtype.ext (List.zipWith_comm_of_comm fun _ _ => UInt8.xor_comm _ _)

/-- A public key is the marked secret. -/
def publicKey25519 (s : Arr 32) : Arr 32 := (mark25519 s).modify 31 (· &&& 0x7F)

/-- The raw secret is the XOR of two public keys. -/
def dh25519 (s pk : Arr 32) : Arr 32 :=
  if isSmallOrder25519 pk then zeros 32 else mark25519 (xorArr (publicKey25519 s) pk)

/-- Public keys are marked copies of the secrets, and DH is an XOR. -/
def x25519 : X25519Crate where
  StaticSecret := Arr 32
  secretFrom b := b
  toBytes s := s
  publicKeyFrom := publicKey25519
  diffieHellman := dh25519

theorem byte_one_mark (b : Arr 32) : (mark25519 b).1.getD 1 0 = 2 := by
  rw [mark25519, Arr.modify_val, List.getD_eq_getElem _ _ (by rw [List.length_modify, b.2]; decide),
    List.getElem_modify_eq]

theorem mark_ne_zeros (b : Arr 32) : mark25519 b ≠ zeros 32 := by
  intro h
  have h2 := byte_one_mark b
  rw [h] at h2
  exact absurd h2 (by decide)

theorem os2ipLe_byte_one {b : Bytes} (h : 2 ≤ b.length) :
    os2ipLe b / 256 % 256 = (b.getD 1 0).toNat := by
  obtain ⟨x, b, rfl⟩ := List.exists_cons_of_length_pos (by omega : 0 < b.length)
  obtain ⟨y, b, rfl⟩ :=
    List.exists_cons_of_length_pos (by rw [List.length_cons] at h; omega : 0 < b.length)
  have hx := x.toNat_lt
  have hy := y.toNat_lt
  simp only [os2ipLe, List.foldr_cons, List.getD_cons_succ, List.getD_cons_zero]
  omega

theorem x25519_documented : x25519.Documented where
  toBytes_secretFrom _ := rfl
  secretFrom_toBytes _ := rfl
  publicKeyFrom_lt s := by
    apply Subtype.ext
    change ((mark25519 s).1.modify 31 _).modify 31 _ = (mark25519 s).1.modify 31 _
    rw [List.modify_modify_eq]
    congr 1
    funext x
    rw [Function.comp_apply, UInt8.and_assoc, UInt8.and_self]

theorem byte_one_publicKey (b : Arr 32) : os2ipLe (publicKey25519 b).1 / 256 % 256 = 2 := by
  have hb : (publicKey25519 b).1.getD 1 0 = 2 := by
    rw [publicKey25519, Arr.modify_val, List.getD_eq_getElem _ _ (by simp),
      List.getElem_modify_ne _ _ (by decide), ← List.getD_eq_getElem _ 0 (by simp)]
    exact byte_one_mark b
  rw [os2ipLe_byte_one (by rw [(publicKey25519 b).2]; decide), hb]
  rfl

/-- No public key is of small order. -/
theorem not_isSmallOrder (b : Arr 32) : ¬ isSmallOrder25519 (publicKey25519 b) := by
  intro h
  have hm : (publicKey25519 b).modify 31 (· &&& 0x7F) = publicKey25519 b :=
    x25519_documented.publicKeyFrom_lt b
  rw [isSmallOrder25519, hm] at h
  have hall : ∀ v ∈ smallOrder25519, v / 256 % 256 ≠ 2 := by decide
  exact hall _ h (byte_one_publicKey b)

theorem x25519_commutes : x25519.Commutes := by
  intro a b
  change dh25519 a (publicKey25519 b) = dh25519 b (publicKey25519 a)
  unfold dh25519
  rw [if_neg (not_isSmallOrder b), if_neg (not_isSmallOrder a), xorArr_comm]

theorem x25519_contributory : x25519.Contributory := by
  intro s pk
  change dh25519 s pk = zeros 32 ↔ _
  unfold dh25519
  by_cases h : isSmallOrder25519 pk
  · rw [if_pos h]
    exact iff_of_true rfl h
  · rw [if_neg h]
    exact iff_of_false (mark_ne_zeros _) h

theorem x25519_zeros (s : x25519.StaticSecret) : x25519.diffieHellman s (zeros 32) = zeros 32 :=
  (x25519_contributory s (zeros 32)).mpr (by decide)

/-! ### Groups of residues modulo 251 -/

/-- The residue that a big-endian encoding ends with. -/
def lastByte (b : Bytes) : ℕ := (b.getLastD 0).toNat

theorem lastByte_i2osp {n v : ℕ} (hn : 0 < n) (hv : v < 251) : lastByte (i2osp n v) = v := by
  obtain ⟨k, rfl⟩ := Nat.exists_eq_succ_of_ne_zero hn.ne'
  rw [lastByte, i2osp, List.getLastD_concat, UInt8.toNat_ofNat', Nat.mod_eq_of_lt (by omega)]

/-- A scalar multiplies a residue. -/
def mul448 (point scalar : Arr 56) : Arr 56 :=
  ⟨i2osp 56 (lastByte point.1 * os2ipLe scalar.1 % 251), length_i2osp _ _⟩

/-- A point is a residue, and scalars multiply it. -/
def x448 : X448Crate where
  generator := ⟨i2osp 56 1, length_i2osp _ _⟩
  mul := mul448

theorem mul448_mul448 (p a b : Arr 56) :
    mul448 (mul448 p a) b = ⟨i2osp 56 (lastByte p.1 * (os2ipLe a.1 * os2ipLe b.1) % 251),
      length_i2osp _ _⟩ := by
  apply Subtype.ext
  change i2osp 56 (lastByte (i2osp 56 _) * os2ipLe b.1 % 251) = _
  rw [lastByte_i2osp (by decide) (Nat.mod_lt _ (by decide)), Nat.mod_mul_mod, Nat.mul_assoc]

theorem x448_commutes : x448.Commutes := by
  intro a b
  change mul448 (mul448 _ a) b = mul448 (mul448 _ b) a
  rw [mul448_mul448, mul448_mul448, Nat.mul_comm (os2ipLe a.1)]

theorem x448_zeroScalar : x448.ZeroScalar := by
  intro p
  apply Subtype.ext
  have h0 : os2ipLe (zeros 56).1 = 0 := by decide
  change i2osp 56 (lastByte p.1 * os2ipLe (zeros 56).1 % 251) = _
  rw [h0, Nat.mul_zero, Nat.zero_mod, i2osp_zero]
  rfl

/-- A nonzero residue. -/
abbrev Residue : Type := {n : ℕ // 0 < n ∧ n < 251}

/-- The residue of a number, if it is one and not zero. -/
def Residue.ofNat? (n : ℕ) : Option Residue := if h : 0 < n ∧ n < 251 then some ⟨n, h⟩ else none

theorem Residue.ofNat?_val (p : Residue) : Residue.ofNat? p.1 = some p := dif_pos p.2

theorem Residue.ofNat?_eq_some {n : ℕ} {p : Residue} : Residue.ofNat? n = some p ↔ p.1 = n := by
  constructor
  · intro h
    unfold Residue.ofNat? at h
    split_ifs at h
    rw [← Option.some.inj h]
  · rintro rfl
    exact p.ofNat?_val

section Curve

variable (nsk : ℕ)

/-- A scalar is its big-endian encoding. -/
def secretFromSlice (b : Bytes) : Option Residue :=
  if i2osp nsk (lastByte b) = b then Residue.ofNat? (lastByte b) else none

/-- The point with `X`-coordinate `n` and `Y`-coordinate 0. -/
def sec1 (n : ℕ) : Bytes := 0x04 :: (i2osp nsk n ++ i2osp nsk 0)

/-- Only the uncompressed form is parsed. -/
def pointFromSec1 (b : Bytes) : Option Residue :=
  let n := lastByte (b.take (1 + nsk))
  if sec1 nsk n = b then Residue.ofNat? n else none

/-- The generator is 1, and the raw secret is the product. -/
def curve : CurveCrate ℕ nsk where
  SecretKey := Residue
  PublicKey := Residue
  generateFromRng rng := (⟨rng % 250 + 1, by omega⟩, rng + 1)
  fromSlice := secretFromSlice nsk
  toBytes s := ⟨i2osp nsk s.1, length_i2osp _ _⟩
  publicKey s := s
  fromSec1Bytes := pointFromSec1 nsk
  toSec1Point p := sec1 nsk p.1
  diffieHellman s p := ⟨i2osp nsk (s.1 * p.1 % 251), length_i2osp _ _⟩

variable {nsk}

theorem lastByte_sec1 (hn : 0 < nsk) {n : ℕ} (h : n < 251) :
    lastByte ((sec1 nsk n).take (1 + nsk)) = n := by
  have ht : (sec1 nsk n).take (1 + nsk) = 0x04 :: i2osp nsk n := by
    rw [sec1, Nat.add_comm, List.take_succ_cons, List.take_left' (length_i2osp _ _)]
  obtain ⟨k, rfl⟩ := Nat.exists_eq_succ_of_ne_zero hn.ne'
  rw [ht, lastByte, i2osp, ← List.cons_append, List.getLastD_concat, UInt8.toNat_ofNat',
    Nat.mod_eq_of_lt (by omega)]

theorem secretFromSlice_i2osp (hn : 0 < nsk) (s : Residue) :
    secretFromSlice nsk (i2osp nsk s.1) = some s := by
  rw [secretFromSlice, lastByte_i2osp hn s.2.2, if_pos rfl, Residue.ofNat?_val]

theorem i2osp_of_secretFromSlice {b : Bytes} {s : Residue} (h : secretFromSlice nsk b = some s) :
    i2osp nsk s.1 = b := by
  unfold secretFromSlice at h
  split_ifs at h with hb
  rw [Residue.ofNat?_eq_some.mp h, hb]

theorem pointFromSec1_sec1 (hn : 0 < nsk) (p : Residue) :
    pointFromSec1 nsk (sec1 nsk p.1) = some p := by
  rw [pointFromSec1, lastByte_sec1 hn p.2.2, if_pos rfl, Residue.ofNat?_val]

theorem sec1_of_pointFromSec1 {b : Bytes} {p : Residue} (h : pointFromSec1 nsk b = some p) :
    sec1 nsk p.1 = b := by
  unfold pointFromSec1 at h
  simp only at h
  split_ifs at h with hb
  rw [Residue.ofNat?_eq_some.mp h, hb]

theorem curve_documented (hn : 0 < nsk) : (curve nsk).Documented where
  fromSlice_toBytes := secretFromSlice_i2osp hn
  toBytes_fromSlice _ h := i2osp_of_secretFromSlice h
  fromSec1Bytes_toSec1Point := pointFromSec1_sec1 hn
  toSec1Point_uncompressed p := ⟨i2osp nsk p.1 ++ i2osp nsk 0,
    by rw [List.length_append, length_i2osp, length_i2osp, Nat.two_mul], rfl⟩
  toSec1Point_fromSec1Bytes _ h := sec1_of_pointFromSec1 h

theorem curve_commutes : (curve nsk).Commutes := by
  intro a b
  apply Subtype.ext
  change i2osp nsk (a.1 * b.1 % 251) = i2osp nsk (b.1 * a.1 % 251)
  rw [Nat.mul_comm]

theorem curve_scalarOne (hn : 0 < nsk) : (curve nsk).ScalarOne := by
  have h1 : secretFromSlice nsk (scalarOne nsk) = some ⟨1, by decide⟩ := by
    rw [scalarOne, secretFromSlice, lastByte_i2osp hn (by decide), if_pos rfl]
    rfl
  refine ⟨by change (secretFromSlice nsk (scalarOne nsk)).isSome; rw [h1]; rfl, ?_⟩
  intro s p h
  obtain rfl := Option.some.inj (h1.symm.trans h)
  change i2osp nsk (1 * p.1 % 251) = ((sec1 nsk p.1).drop 1).take nsk
  rw [Nat.one_mul, Nat.mod_eq_of_lt p.2.2, sec1, List.drop_one, List.tail_cons,
    List.take_left' (length_i2osp _ _)]

end Curve

/-! ## Post-quantum KEMs -/

/-- Fill up with zero bytes. -/
def pad {k : ℕ} (n : ℕ) (h : k ≤ n) (b : Arr k) : Arr n :=
  ⟨b.1 ++ List.replicate (n - k) 0, by rw [List.length_append, b.2, List.length_replicate]; omega⟩

theorem take_pad {k n : ℕ} (h : k ≤ n) (b : Arr k) : (pad n h b).1.take k = b.1 :=
  List.take_left' b.2

/-- The front of a padded array. -/
def unpad (k : ℕ) (b : Bytes) : Option (Arr k) := Arr.ofBytes? (b.take k)

theorem unpad_pad {k n : ℕ} (h : k ≤ n) (b : Arr k) : unpad k (pad n h b).1 = some b := by
  rw [unpad, take_pad, Arr.ofBytes?_val]

/-- The shared secret is a hash of the encapsulation key and the randomness. -/
def sharedSecret (ek randomness : Bytes) : Arr 32 := ⟨hash 32 (ek ++ randomness), length_i2osp _ _⟩

/-- A ciphertext starts with the randomness. -/
def decapsulateSlice (dk : Arr 32) (b : Bytes) : Option (Arr 32) :=
  if b.length = 1120 then some (sharedSecret dk.1 (b.take 32)) else none

/-- The ciphertext is the randomness. -/
def encapsulate {k : ℕ} (nct : ℕ) (h : 32 ≤ nct) (rng : ℕ) (ek : Arr k) : (Arr nct × Arr 32) × ℕ :=
  let r := (CryptoRng.fillBytes rng 32).1
  ((pad nct h r, sharedSecret ek.1 r.1), rng + 1)

theorem decapsulateSlice_encapsulate (h : 32 ≤ 1120) (rng : ℕ) (dk : Arr 32) :
    decapsulateSlice dk (encapsulate 1120 h rng dk).1.1.1 =
      some (encapsulate 1120 h rng dk).1.2 := by
  have hl := (encapsulate 1120 h rng dk).1.1.2
  unfold decapsulateSlice
  rw [if_pos hl, encapsulate, take_pad]

/-- The key pair is the seed. -/
def xWing : XWingCrate ℕ where
  DecapsulationKey := Arr 32
  EncapsulationKey := Arr 32
  dkFrom seed := seed
  encapsulationKey dk := dk
  toBytes := pad 1216 (by omega)
  tryFrom := unpad 32
  encapsulateWithRng := encapsulate 1120 (by omega)
  decapsulateSlice := decapsulateSlice

theorem xWing_documented : xWing.Documented := fun ek => unpad_pad (by omega) ek

theorem xWing_correct : xWing.Correct := by
  intro rng dk
  dsimp only [xWing]
  exact decapsulateSlice_encapsulate _ rng dk

/-- As `xWing`, with a 64-byte seed. -/
def mlKem (nek nct : ℕ) (hek : 64 ≤ nek) (hct : 32 ≤ nct) : MlKemCrate ℕ nek nct where
  DecapsulationKey := Arr 64
  EncapsulationKey := Arr 64
  fromSeed seed := seed
  encapsulationKey dk := dk
  toBytes := pad nek hek
  new b := unpad 64 b.1
  encapsulateWithRng := encapsulate nct hct
  decapsulate dk ct := sharedSecret dk.1 (ct.1.take 32)

theorem mlKem_documented {nek nct : ℕ} (hek : 64 ≤ nek) (hct : 32 ≤ nct) :
    (mlKem nek nct hek hct).Documented := fun ek => unpad_pad hek ek

theorem mlKem_correct {nek nct : ℕ} (hek : 64 ≤ nek) (hct : 32 ≤ nct) :
    (mlKem nek nct hek hct).Correct := fun rng dk =>
  congrArg (sharedSecret (Subtype.val dk)) (take_pad hct (CryptoRng.fillBytes rng 32).1)

/-! ## All of them -/

/-- All of them together. -/
def crates : Crates ℕ where
  hkdfSha256 := hkdf 32
  hkdfSha384 := hkdf 48
  hkdfSha512 := hkdf 64
  shake := shake
  aes128Gcm := aead 16
  aes256Gcm := aead 32
  chacha20Poly1305 := aead 32
  x25519Dalek := x25519
  ed448Goldilocks := x448
  p256 := curve 32
  p384 := curve 48
  p521 := curve 66
  k256 := curve 32
  xWing := xWing
  mlKem768 := mlKem 1184 1088 (by omega) (by omega)
  mlKem1024 := mlKem 1568 1568 (by omega) (by omega)

theorem hkdfDocumented : crates.HkdfDocumented :=
  ⟨hkdf_documented 32, hkdf_documented 48, hkdf_documented 64⟩

theorem aeadDocumented : crates.AeadDocumented :=
  ⟨aead_documented 16, aead_documented 32, aead_documented 32⟩

theorem curvesDocumented : crates.CurvesDocumented :=
  ⟨x25519_documented, curve_documented (by decide), curve_documented (by decide),
    curve_documented (by decide), curve_documented (by decide)⟩

theorem curvesCommute : crates.CurvesCommute :=
  ⟨x25519_commutes, x448_commutes, curve_commutes, curve_commutes, curve_commutes, curve_commutes⟩

theorem pqDocumented : crates.PqDocumented :=
  ⟨xWing_documented, mlKem_documented _ _, mlKem_documented _ _⟩

theorem pqCorrect : crates.PqCorrect := ⟨xWing_correct, mlKem_correct _ _, mlKem_correct _ _⟩

theorem replacementDocumented : crates.ReplacementDocumented :=
  ⟨x25519_contributory, x448_zeroScalar, curve_scalarOne (by decide), curve_scalarOne (by decide),
    curve_scalarOne (by decide), curve_scalarOne (by decide)⟩

theorem sealingImpl_committing {nk : ℕ} {id : UInt16} {key key' : Bytes} {k k' : Arr nk}
    {n n' aad aad' pt pt' ct : Bytes} (hk : (aeadImpl id (aead nk)).init key = .ok k)
    (hk' : (aeadImpl id (aead nk)).init key' = .ok k')
    (h : (sealingImpl id (aead nk)).seal k n aad pt = .ok ct)
    (h' : (sealingImpl id (aead nk)).open k' n' aad' ct = .ok pt') :
    key = key' ∧ n = n' ∧ aad = aad' ∧ pt = pt' := by
  obtain ⟨m, hm, he⟩ := sealingImpl_seal_eq_ok.mp h
  obtain ⟨m', hm', hd⟩ := sealingImpl_open_eq_ok.mp h'
  obtain ⟨ha, rfl⟩ : aad.length < 2 ^ 64 ∧ header k.1 m.1 aad ++ pt = ct := by
    simpa [aead] using he
  obtain ⟨⟨ha', ht⟩, rfl⟩ : (aad'.length < 2 ^ 64 ∧
      (header k.1 m.1 aad ++ pt).take (header k'.1 m'.1 aad').length = header k'.1 m'.1 aad') ∧
      (header k.1 m.1 aad ++ pt).drop (header k'.1 m'.1 aad').length = pt' := by
    simpa [aead] using hd
  have hh := (List.take_append_drop (header k'.1 m'.1 aad').length (header k.1 m.1 aad ++ pt)).symm
  rw [ht] at hh
  obtain ⟨rfl, rfl, rfl, hpt⟩ := header_inj ha ha' hh
  refine ⟨?_, ?_, rfl, hpt⟩
  · rw [← Arr.ofBytes?_eq_some.mp (okOr_eq_ok.mp hk), ← Arr.ofBytes?_eq_some.mp (okOr_eq_ok.mp hk')]
  · rw [← Arr.ofBytes?_eq_some.mp hm, ← Arr.ofBytes?_eq_some.mp hm']

/-- The AEADs are ideal. -/
theorem committing (a : SealingAlg) : a.Committing crates := by
  intro key key' k k' n n' aad aad' pt pt' ct hk hk' h h'
  cases a
  · exact sealingImpl_committing hk hk' h h'
  · exact sealingImpl_committing hk hk' h h'
  · exact sealingImpl_committing hk hk' h h'

/-- A pre-shared key. -/
def psk : Psk := ⟨List.replicate 32 0x61, [0x62], by decide, by decide⟩

end Sample

end HpkeNg

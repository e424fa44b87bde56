import HpkeNg.Sample
import HpkeNg.Session.Failure

/-!
# Which side an error is reported for

`InvalidEncappedKey` and `DecapError` are the receiver's errors, `EncapError` is the sender's. The
DHKEMs report an encapsulated key that they reject as an invalid public key, or as a failed
encapsulation.

* `HpkeError.OfReceiver`, `ReportsOnly`: the errors of the receiver, and a call with no others;
* `EncRejected`: a DHKEM rejects the encapsulated key;
* `errors_of_receiver_iff`: when a receiver's failures are reported with its errors, and a sender's
  with its own; `decap_misreports`: two that are not.
-/

namespace HpkeNg

variable {R : Type}

/-- The errors of the receiver. -/
def HpkeError.OfReceiver (e : HpkeError) : Prop := e = .invalidEncappedKey ∨ e = .decapError

/-- Every failure of the call is an error of the kind `p`. -/
def ReportsOnly {α : Type} (x : Outcome α) (p : HpkeError → Prop) : Prop :=
  ∀ f, x = .error f → ∃ e, f = .err e ∧ p e

theorem Raises.reportsOnly_iff {α : Type} {x : Outcome α} {p q : HpkeError → Prop}
    (h : Raises x p) :
    ReportsOnly x q ↔ ∀ e, p e → q e := by
  constructor
  · intro hx e he
    obtain ⟨e', he', hq⟩ := hx _ ((h.error_iff e).mpr he)
    rwa [Fault.err.inj he']
  · rintro hpq (e | _) hx
    · exact ⟨e, rfl, hpq e ((h.error_iff e).mp hx)⟩
    · exact absurd hx h.not_panic

/-! ## Encapsulated keys that a DHKEM rejects -/

section Rejected

variable {D : DiffieHellman R} (X : RawDh D)

/-- The bytes do not parse as a point, or the DH output with it (`dh1`) is all zero. -/
def EncRejected (enc : DhEncappedKey) (skR : DhPrivateKey D) : Prop :=
  Fails (D.pkFromBytes enc.val) ∨
    ∃ pkE, D.pkFromBytes enc.val = .ok pkE ∧ X.raw skR.sk pkE = zeros X.len

variable {X} {enc : DhEncappedKey} {skR : DhPrivateKey D} {pkS : Option (DhPublicKey D)}

theorem EncRejected.raised (h : EncRejected X enc skR) :
    ∃ e, (DhOp.decap enc skR pkS).Raised X e ∧ ¬ e.OfReceiver := by
  rcases h with h | ⟨pkE, hE, h⟩
  · exact ⟨.invalidPublicKey, Or.inl ⟨rfl, h⟩, by simp [HpkeError.OfReceiver]⟩
  · exact ⟨.encapError, Or.inr ⟨rfl, pkE, hE, Or.inl h⟩, by simp [HpkeError.OfReceiver]⟩

theorem not_raised (h : ¬ EncRejected X enc skR) (e : HpkeError) :
    ¬ (DhOp.decap enc skR none).Raised X e := by
  rintro (⟨-, hE⟩ | ⟨-, pkE, hE, h0 | ⟨pk, ⟨⟩, -⟩⟩)
  · exact h (Or.inl hE)
  · exact h (Or.inr ⟨pkE, hE, h0⟩)

/-- **A receiver's failures are reported as such exactly when `enc` is not rejected.** -/
theorem reportsOnly_iff {α : Type} {x : Outcome α}
    (hx : Raises x ((DhOp.decap enc skR pkS).Raised X)) :
    (pkS = none ∨ EncRejected X enc skR → ReportsOnly x HpkeError.OfReceiver) ↔
      ¬ EncRejected X enc skR := by
  rw [hx.reportsOnly_iff]
  constructor
  · intro h hr
    obtain ⟨e, he, hn⟩ : ∃ e, (DhOp.decap enc skR pkS).Raised X e ∧ ¬ e.OfReceiver := hr.raised
    exact hn (h (Or.inr hr) e he)
  · rintro hr (rfl | h) e he
    · exact absurd he (not_raised hr e)
    · exact absurd h hr

end Rejected

/-! ## The KEMs -/

variable [CryptoRng R] {c : Crates R}

theorem PqAlg.Raised.ofReceiver {p : PqAlg} {enc : (p.kem c).EncappedKey}
    {skR : (p.kem c).PrivateKey} {e : HpkeError} (h : p.Raised c enc skR e) : e.OfReceiver := by
  cases p <;> rcases h with ⟨he, -⟩ | ⟨he, -⟩
  all_goals first | exact Or.inl he | exact Or.inr he

/-- **Whose error it is.** A post-quantum KEM reports every failure of a receiver with an error of
the receiver. A DHKEM does so for the failures that `enc` can cause, all of them in the modes
without a sender's key, exactly when `enc` is not rejected. Every KEM reports every failure of a
sender as an `EncapError`. -/
theorem errors_of_receiver_iff (hc : c.HkdfDocumented) (ha : c.AeadDocumented)
    (hd : c.CurvesDocumented) :
    (∀ (p : PqAlg) (M : ReceiverMode c (.pq p)) enc skR,
      ReportsOnly (M.decap enc skR) HpkeError.OfReceiver ∧ ∀ (f : KdfAlg) (a : AeadAlg) info,
        ReportsOnly (M.setup (f.kdf c) (a.aead c) enc skR info) HpkeError.OfReceiver) ∧
    (∀ (g : DhGroup) (M : ReceiverMode c (.dhKem g)) enc skR,
      ((M.pkS = none ∨ EncRejected (g.rawDh c) enc skR →
        ReportsOnly (M.decap enc skR) HpkeError.OfReceiver) ↔
        ¬ EncRejected (g.rawDh c) enc skR) ∧ ∀ (f : KdfAlg) (a : AeadAlg) info,
      ((M.pkS = none ∨ EncRejected (g.rawDh c) enc skR →
          ReportsOnly (M.setup (f.kdf c) (a.aead c) enc skR info) HpkeError.OfReceiver) ↔
        ¬ EncRejected (g.rawDh c) enc skR)) ∧
    ∀ (k : KemAlg) (M : SenderMode c k) rng pkR,
      ReportsOnly (M.encap rng pkR).1 (· = .encapError) ∧ ∀ (f : KdfAlg) (a : AeadAlg) info,
        ReportsOnly (M.setup (f.kdf c) (a.aead c) rng pkR info).1 (· = .encapError) := by
  refine ⟨fun p M enc skR => ?_, fun g M enc skR => ?_, fun k M rng pkR => ?_⟩
  · have h := M.raises_decap_pq enc skR
    exact ⟨h.reportsOnly_iff.mpr fun e he => he.ofReceiver, fun f a info =>
      (M.raises_setup hc ha h f a info).reportsOnly_iff.mpr fun e he => he.ofReceiver⟩
  · have h := M.raises_decap hc hd enc skR
    exact ⟨reportsOnly_iff h, fun f a info => reportsOnly_iff (M.raises_setup hc ha h f a info)⟩
  · obtain ⟨p, h, hp⟩ : ∃ p, Raises (M.encap rng pkR).1 p ∧ ∀ e, p e → e = .encapError := by
      cases k with
      | dhKem g => exact ⟨_, M.raises_encap hc hd rng pkR, fun e he => he.1⟩
      | pq q =>
        obtain ⟨r, hr⟩ := M.encap_ok rng pkR
        have h : Raises (M.encap rng pkR).1 fun _ => False := hr ▸ .ok r
        exact ⟨_, h, fun e he => he.elim⟩
    exact ⟨h.reportsOnly_iff.mpr hp,
      fun f a info => (M.raises_setup hc ha h f a info).reportsOnly_iff.mpr hp⟩

/-- **Two failures of a receiver reported as others**: P-256 with 65 zero bytes, which are no point,
and X25519 with the point 0. -/
theorem decap_misreports :
    (∃ enc, (DhGroup.p256.kem Sample.crates).encFromBytes (zeros 65).1 = .ok enc ∧
      ∀ skR, (DhGroup.p256.kem Sample.crates).decap enc skR = throwErr .invalidPublicKey) ∧
    ∃ enc, (DhGroup.x25519.kem Sample.crates).encFromBytes (zeros 32).1 = .ok enc ∧
      ∀ skR, (DhGroup.x25519.kem Sample.crates).decap enc skR = throwErr .encapError := by
  have hr := fun g => (ReceiverMode.base (k := .dhKem g)).raises_decap Sample.hkdfDocumented
    Sample.curvesDocumented
  constructor
  · have hE : nistPkFromBytes (Sample.curve 32) (zeros 65).1 = throwErr .invalidPublicKey := rfl
    exact ⟨⟨(zeros 65).1⟩, rfl, fun skR => ((hr .p256 _ skR).error_iff _).mpr (Or.inl ⟨rfl, _, hE⟩)⟩
  · refine ⟨⟨(zeros 32).1⟩, rfl, fun skR => ((hr .x25519 _ skR).error_iff _).mpr ?_⟩
    have hz := Sample.x25519_zeros (X25519PrivateKey.val skR.sk)
    exact Or.inr ⟨rfl, X25519PublicKey.mk (zeros 32), rfl, Or.inl hz⟩

/-- A sender on the point 0, a receiver with a zeroized key, and two of X25519: one on an
encapsulated key that it accepts, one on the point 0. -/
theorem errors_of_receiver_iff_x25519 :
    let D := DhGroup.x25519.dh Sample.crates
    let M : SenderMode Sample.crates (.dhKem .x25519) := .psk Sample.psk
    let pkR : DhPublicKey D := ⟨X25519PublicKey.mk (zeros 32)⟩
    let M' : ReceiverMode Sample.crates (.dhKem .x25519) := .psk Sample.psk
    let skR := (D.keyPair (7 : ℕ)).1
    let Mq : ReceiverMode Sample.crates (.pq .mlKem768) := .base
    let skq := (mlKemFromSeed Sample.crates.mlKem768 (zeros 64)).1.zeroize
    ReportsOnly (M.encap (5 : ℕ) pkR).1 (· = .encapError) ∧
      (∀ enc, ReportsOnly (Mq.decap enc skq) HpkeError.OfReceiver) ∧
      ReportsOnly (M'.decap ⟨i2osp 32 9⟩ skR) HpkeError.OfReceiver ∧
      ¬ ReportsOnly (M'.decap ⟨(zeros 32).1⟩ skR) HpkeError.OfReceiver := by
  intro D M pkR M' skR Mq skq
  obtain ⟨hpq, hdh, hsender⟩ :=
    errors_of_receiver_iff Sample.hkdfDocumented Sample.aeadDocumented Sample.curvesDocumented
  have hparse : D.pkFromBytes (i2osp 32 9) =
      .ok (X25519PublicKey.mk ⟨i2osp 32 9, length_i2osp _ _⟩) := rfl
  have hraw : ∀ b : Arr 32, (DhGroup.x25519.rawDh Sample.crates).raw skR.sk
      (X25519PublicKey.mk b) = zeros 32 ↔ isSmallOrder25519 b :=
    fun b => Sample.x25519_contributory _ b
  refine ⟨(hsender (.dhKem .x25519) M (5 : ℕ) pkR).1, fun enc => (hpq .mlKem768 Mq enc skq).1,
    ?_, ?_⟩
  · refine (hdh .x25519 M' _ skR).1.mpr ?_ (Or.inl rfl)
    rintro (⟨f, hf⟩ | ⟨pkE, hE, h0⟩)
    · cases hparse.symm.trans hf
    · obtain rfl := Except.ok.inj (hparse.symm.trans hE)
      exact absurd ((hraw _).mp h0) (by decide +kernel)
  · intro h
    refine (hdh .x25519 M' _ skR).1.mp (fun _ => h) (Or.inr ⟨_, rfl, ?_⟩)
    exact (hraw _).mpr (by decide)

end HpkeNg

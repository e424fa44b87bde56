import HpkeNg.Crates
import HpkeNg.Aead
import HpkeNg.Kdf
import HpkeNg.Psk
import HpkeNg.Kem.Basic
import HpkeNg.Kem.Dh
import HpkeNg.Kem.Nist
import HpkeNg.Kem.X25519
import HpkeNg.Context
import HpkeNg.Kem.Pq
import HpkeNg.Kem.X448
import HpkeNg.KeySchedule
import HpkeNg.Kem.All
import HpkeNg.Collision
import HpkeNg.Rfc9180
import HpkeNg.Sample
import HpkeNg.KeySchedule.Reference
import HpkeNg.KeySchedule.Binding
import HpkeNg.Kem.Transcript
import HpkeNg.Kem.Reference
import HpkeNg.Kem.Wire
import HpkeNg.Sample.P256
import HpkeNg.Kem.Scrub
import HpkeNg.Hpke
import HpkeNg.Kem.Agreement
import HpkeNg.Session
import HpkeNg.Session.Agreement
import HpkeNg.Session.Binding
import HpkeNg.Context.Sealing
import HpkeNg.Context.Channel
import HpkeNg.Context.Export
import HpkeNg.Kem.PrimeOrder.Derive
import HpkeNg.Kem.PrimeOrder.PublicKey
import HpkeNg.Kem.PrimeOrder.ZeroCheck
import HpkeNg.Kem.X25519.Canonical
import HpkeNg.Session.ErrorKind
import HpkeNg.Session.Pieces
import HpkeNg.Session.ZeroDh
import HpkeNg.Context.Reference
import HpkeNg.Session.Reference
import HpkeNg.World
import HpkeNg.World.Keys
import HpkeNg.World.Order
import HpkeNg.Api
import HpkeNg.Kem.Deterministic
import HpkeNg.Session.Deterministic
import HpkeNg.Session.Interop
import HpkeNg.Session.Wire

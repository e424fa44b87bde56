import HpkeNg.Error

/-!
# Pre-shared keys (`src/psk.rs`)

A `Psk` carries the checks `Psk::new` made, so no PSK-mode entry point meets malformed inputs.
-/

namespace HpkeNg

/-- The minimum accepted PSK length. -/
def minPskLen : ℕ := 32

/-- A pre-shared key with its identifier. -/
structure Psk where
  secret : Bytes
  id : Bytes
  length_secret : minPskLen ≤ secret.length
  id_ne_nil : id ≠ []

/-- `Psk::new`. -/
def Psk.new (secret id : Bytes) : Outcome Psk :=
  if _ : secret.isEmpty ≠ id.isEmpty then throwErr .inconsistentPsk
  else if hs : secret.isEmpty then throwErr .missingPsk
  else if hl : secret.length < minPskLen then throwErr .insecurePsk
  else return ⟨secret, id, Nat.not_lt.mp hl, fun h => by simp_all⟩

/-- **`Psk::new` accepts a pair exactly when the id is not empty and the secret is long enough.** -/
theorem Psk.new_eq_ok {secret id : Bytes} {p : Psk} :
    Psk.new secret id = .ok p ↔ p.secret = secret ∧ p.id = id := by
  constructor
  · intro h
    unfold Psk.new at h
    split_ifs at h
    rw [← Except.ok.inj h]
    exact ⟨rfl, rfl⟩
  · rintro ⟨rfl, rfl⟩
    have hl := p.length_secret
    have hs : p.secret.isEmpty = false := by
      rw [List.isEmpty_eq_false_iff]; rintro h; rw [h] at hl; exact absurd hl (by decide)
    have hi : p.id.isEmpty = false := List.isEmpty_eq_false_iff.mpr p.id_ne_nil
    rw [Psk.new, dif_neg (by rw [hs, hi]; simp), dif_neg (by simp [hs]),
      dif_neg (Nat.not_lt.mpr hl)]
    rfl

theorem Psk.ext {p q : Psk} (hs : p.secret = q.secret) (hi : p.id = q.id) : p = q := by
  cases p; cases q; cases hs; cases hi; rfl

end HpkeNg

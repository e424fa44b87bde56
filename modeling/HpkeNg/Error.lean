import HpkeNg.Rust

/-!
# The error type of the crate
-/

namespace HpkeNg

/-- All error conditions of the crate. -/
inductive HpkeError : Type where
  | openError
  | sealError
  | aeadInitError
  | encapError
  | decapError
  | invalidPublicKey
  | invalidPrivateKey
  | invalidEncappedKey
  | inconsistentPsk
  | missingPsk
  | insecurePsk
  | exportLengthExceeded
  | messageLimitReached
  | deriveKeyPairError
  deriving DecidableEq, Repr

/-- The result of a call of the crate: a value, an `HpkeError`, or a panic. -/
abbrev Outcome (α : Type) : Type := Except (Fault HpkeError) α

/-- `return Err(e)`. -/
abbrev throwErr {α : Type} (e : HpkeError) : Outcome α := .error (.err e)

theorem guard_eq_ok {α : Type} {p : Prop} [Decidable p] {e : HpkeError} {a b : α} :
    (if p then throwErr e else return a : Outcome α) = .ok b ↔ ¬ p ∧ a = b := by
  by_cases h : p
  · rw [if_pos h]
    exact iff_of_false (by rintro ⟨⟩) fun h' => h'.1 h
  · rw [if_neg h, pure_eq_ok, Except.ok.injEq]
    exact (and_iff_right h).symm

end HpkeNg

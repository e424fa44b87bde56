import Mathlib.Data.List.Infix

/-!
# Prefix-free encodings

Encodings as strings that can be read from the front of a longer string.

* `PrefixFree`: a code and what follows it are found again in their concatenation;
* `prefixFree_of_length`, `prefixFree_of_isPrefix`: codes of one length, and codes none of which is
  a prefix of another;
* `PrefixFree.const_append`, `PrefixFree.sigma`: a code after a constant, and after another code.
-/

namespace HpkeNg

variable {α β : Type*}

/-- A code can be split off the front of any longer string. -/
def PrefixFree (f : α → List β) : Prop :=
  ∀ ⦃a a' : α⦄ ⦃s s' : List β⦄, f a ++ s = f a' ++ s' → a = a' ∧ s = s'

theorem prefixFree_of_length {f : α → List β} (hf : Function.Injective f)
    (hl : ∀ a a', (f a).length = (f a').length) : PrefixFree f := by
  intro a a' s s' h
  obtain ⟨ha, hs⟩ := List.append_inj h (hl a a')
  exact ⟨hf ha, hs⟩

theorem prefixFree_of_isPrefix {f : α → List β} (hf : ∀ a a', f a <+: f a' → a = a') :
    PrefixFree f := by
  intro a a' s s' h
  have ha : a = a' := by
    -- of two prefixes of one string, one is a prefix of the other
    have hp : f a' <+: f a ++ s := h ▸ List.prefix_append (f a') s'
    rcases List.prefix_or_prefix_of_prefix (List.prefix_append (f a) s) hp with hp | hp
    · exact hf a a' hp
    · exact (hf a' a hp).symm
  subst ha
  exact ⟨rfl, List.append_cancel_left h⟩

namespace PrefixFree

variable {f : α → List β}

theorem const_append (hf : PrefixFree f) (p : List β) : PrefixFree fun a => p ++ f a := by
  intro a a' s s' h
  rw [List.append_assoc, List.append_assoc] at h
  exact hf (List.append_cancel_left h)

/-- **One code after another**; the second may depend on what the first encodes. -/
theorem sigma (hf : PrefixFree f) {σ : α → Type*} {g : ∀ a, σ a → List β}
    (hg : ∀ a, PrefixFree (g a)) :
    PrefixFree fun x : Sigma σ => f x.1 ++ g x.1 x.2 := by
  rintro ⟨a, b⟩ ⟨a', b'⟩ s s' h
  rw [List.append_assoc, List.append_assoc] at h
  obtain ⟨rfl, h⟩ := hf h
  obtain ⟨rfl, hs⟩ := hg a h
  exact ⟨rfl, hs⟩

end PrefixFree

end HpkeNg

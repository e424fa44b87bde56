import HpkeNg.Kdf

/-!
# Collisions between the KDF calls of two runs

A binding statement compares two runs: equal outputs mean equal inputs, unless one KDF call of the
first run and one of the second have different inputs and the same output.

* `KdfCall`, `Kdf.run`: one call on single strings; `labeledExtractCall`, `labeledExpandCall`;
* `Kdf.Collide`, `Kdf.Collision`: an explicit collision, between two calls and between two runs;
* `Kdf.Lawful.labeledExtract_run`, `Kdf.Lawful.labeledExpandPieces_run`: the labeled functions of
  the crate are runs of such calls;
* `extract_binds`, `expand_binds`: what equal outputs of labeled calls bind.
-/

namespace HpkeNg

/-- A call of a KDF with its pieces concatenated. -/
inductive KdfCall : Type where
  | extract (salt ikm : Bytes)
  | expand (prk info : Bytes) (len : ℕ)
  deriving DecidableEq

/-- What the call returns. -/
def Kdf.run (F : Kdf) : KdfCall → Outcome Bytes
  | .extract salt ikm => .ok (F.extract salt [ikm])
  | .expand prk info len => F.expand prk [info] len

/-- Two calls of one function with different inputs and the same output. -/
inductive Kdf.Collide (F : Kdf) : KdfCall → KdfCall → Prop
  | extract {salt ikm salt' ikm' : Bytes} (hne : (salt, ikm) ≠ (salt', ikm'))
      (h : F.extract salt [ikm] = F.extract salt' [ikm']) :
      Collide F (.extract salt ikm) (.extract salt' ikm')
  | expand {prk info prk' info' : Bytes} {len len' : ℕ} {out : Bytes}
      (hne : (prk, info, len) ≠ (prk', info', len')) (h : F.expand prk [info] len = .ok out)
      (h' : F.expand prk' [info'] len' = .ok out) :
      Collide F (.expand prk info len) (.expand prk' info' len')

/-- A call of one run collides with a call of another. -/
def Kdf.Collision (F : Kdf) (calls calls' : List KdfCall) : Prop :=
  ∃ x ∈ calls, ∃ y ∈ calls', F.Collide x y

/-! ## Labeled calls -/

/-- The call that `labeled_extract` makes. -/
def labeledExtractCall (salt suiteId label ikm : Bytes) : KdfCall :=
  .extract salt (hpkeV1 ++ suiteId ++ label ++ ikm)

/-- The call that `labeled_expand` makes. -/
def labeledExpandCall (prk suiteId label info : Bytes) (len : ℕ) : KdfCall :=
  .expand prk (i2osp 2 len ++ hpkeV1 ++ suiteId ++ label ++ info) len

section Run

variable {F : Kdf}

theorem Kdf.Lawful.labeledExtract_run (hF : F.Lawful) (salt suiteId label ikm : Bytes) :
    F.run (labeledExtractCall salt suiteId label ikm) =
      .ok (labeledExtract F salt suiteId label ikm) := by
  rw [labeledExtract, hF.extract_flatten]
  simp [labeledExtractCall, Kdf.run]

theorem Kdf.Lawful.labeledExtractPieces_run (hF : F.Lawful) (salt suiteId label : Bytes)
    {ikmPieces : List Bytes} (h : 3 + ikmPieces.length ≤ maxExtractPieces) :
    labeledExtractPieces F salt suiteId label ikmPieces =
      .ok (labeledExtract F salt suiteId label ikmPieces.flatten) := by
  rw [labeledExtractPieces_eq _ _ _ _ h, labeledExtract, hF.extract_flatten,
    hF.extract_flatten _ [_, _, _, _]]
  simp

theorem Kdf.Lawful.labeledExpandPieces_run (hF : F.Lawful) (prk suiteId label : Bytes)
    {infoPieces : List Bytes} {n : ℕ} (hn : n ≤ 255 * F.hashLen)
    (hi : 4 + infoPieces.length ≤ maxExpandPieces) :
    labeledExpandPieces F prk suiteId label infoPieces n =
      F.run (labeledExpandCall prk suiteId label infoPieces.flatten n) := by
  have h16 : n < 65536 := by have := hF.hashLen_le; omega
  have hbe : be16 (UInt16.ofNat n) = i2osp 2 n := by
    rw [be16, UInt16.toNat_ofNat', Nat.mod_eq_of_lt h16]
  rw [labeledExpandPieces_eq _ _ _ _ _ hi, hF.tryIntoU16 hn, okOr_some, ok_bind, hF.expand_flatten,
    hbe]
  simp [labeledExpandCall, Kdf.run]

theorem Kdf.Lawful.run_expand_ok (hF : F.Lawful) {prk : Bytes} (suiteId label info : Bytes) {n : ℕ}
    (hp : prk.length = F.hashLen) (hn : n ≤ 255 * F.hashLen) :
    ∃ out, F.run (labeledExpandCall prk suiteId label info n) = .ok out ∧ out.length = n := by
  obtain ⟨out, h⟩ := hF.expand_ok [i2osp 2 n ++ hpkeV1 ++ suiteId ++ label ++ info] hp.ge hn
  exact ⟨out, h, hF.length_expand h⟩

theorem Kdf.Lawful.length_labeledExtract (hF : F.Lawful) (salt suiteId label ikm : Bytes) :
    (labeledExtract F salt suiteId label ikm).length = F.hashLen := hF.length_extract _ _

end Run

/-! ## What equal outputs bind -/

section Binds

variable {F : Kdf} {suiteId suiteId' label : Bytes}

theorem labeled_inj {p p' x x' : Bytes} (hp : p.length = p'.length)
    (hs : suiteId.length = suiteId'.length)
    (h : p ++ hpkeV1 ++ suiteId ++ label ++ x = p' ++ hpkeV1 ++ suiteId' ++ label ++ x') :
    p = p' ∧ suiteId = suiteId' ∧ x = x' := by
  obtain ⟨h, hx⟩ := List.append_inj h (by simp [hp, hs])
  obtain ⟨h, -⟩ := List.append_inj h (by simp [hp, hs])
  obtain ⟨h, hs⟩ := List.append_inj h (by simp [hp])
  exact ⟨(List.append_inj h hp).1, hs, hx⟩

/-- **Equal extracts bind salt, suite and input**, or the two calls collide. -/
theorem extract_binds (hF : F.Lawful) {salt salt' ikm ikm' : Bytes}
    (hs : suiteId.length = suiteId'.length)
    (h : labeledExtract F salt suiteId label ikm = labeledExtract F salt' suiteId' label ikm') :
    (salt = salt' ∧ suiteId = suiteId' ∧ ikm = ikm') ∨
      F.Collide (labeledExtractCall salt suiteId label ikm)
        (labeledExtractCall salt' suiteId' label ikm') := by
  by_cases heq :
    (salt, hpkeV1 ++ suiteId ++ label ++ ikm) = (salt', hpkeV1 ++ suiteId' ++ label ++ ikm')
  · obtain ⟨h1, h2⟩ := Prod.mk.inj heq
    obtain ⟨-, h3, h4⟩ := @labeled_inj suiteId suiteId' label [] [] ikm ikm' rfl hs h2
    exact Or.inl ⟨h1, h3, h4⟩
  · refine Or.inr (.extract heq ?_)
    have h1 := hF.labeledExtract_run salt suiteId label ikm
    have h2 := hF.labeledExtract_run salt' suiteId' label ikm'
    rw [h, ← h2] at h1
    exact Except.ok.inj h1

/-- **Equal expands bind PRK, suite, info and length**, or the two calls collide. -/
theorem expand_binds {prk prk' info info' : Bytes} {n n' : ℕ} {out : Bytes}
    (hs : suiteId.length = suiteId'.length)
    (h : F.run (labeledExpandCall prk suiteId label info n) = .ok out)
    (h' : F.run (labeledExpandCall prk' suiteId' label info' n') = .ok out) :
    (prk = prk' ∧ suiteId = suiteId' ∧ info = info' ∧ n = n') ∨
      F.Collide (labeledExpandCall prk suiteId label info n)
        (labeledExpandCall prk' suiteId' label info' n') := by
  by_cases heq : (prk, i2osp 2 n ++ hpkeV1 ++ suiteId ++ label ++ info, n) =
      (prk', i2osp 2 n' ++ hpkeV1 ++ suiteId' ++ label ++ info', n')
  · obtain ⟨h1, h2⟩ := Prod.mk.inj heq
    obtain ⟨h2, hn⟩ := Prod.mk.inj h2
    obtain ⟨-, h3, h4⟩ := labeled_inj (by rw [length_i2osp, length_i2osp]) hs h2
    exact Or.inl ⟨h1, h3, h4, hn⟩
  · exact Or.inr (.expand heq h h')

end Binds

end HpkeNg

import HpkeNg.Bytes

/-!
# Results and slices

A call of the source returns a value, returns an error, or panics. `Except (Fault ε) α` keeps the
three apart, so that "never panics" is a statement about the model.

* `Fault`, `okOr` (`ok_or`, `map_err`), `expect`, and how binds of them compute (`bind_eq_ok`);
* `Fails`: the call returns an error; `Raises`: exactly which errors it returns;
* slices: `index`, `slice`, `copyFromSlice`, `modifyAt`, each panicking out of range.
-/

namespace HpkeNg

/-- How a call ends without a value: by returning an error, or by a panic. -/
inductive Fault (ε : Type) : Type where
  | err (e : ε)
  | panic
  deriving DecidableEq, Repr

variable {ε α β : Type}

/-- `None` becomes the error `e`. -/
def okOr (e : ε) : Option α → Except (Fault ε) α
  | some a => .ok a
  | none => .error (.err e)

/-- `None` becomes a panic. -/
def expect : Option α → Except (Fault ε) α
  | some a => .ok a
  | none => .error .panic

/-- The call returns an error (and does not panic). -/
def Fails (x : Except (Fault ε) α) : Prop := ∃ e, x = .error (.err e)

/-! ## How binds compute -/

@[simp] theorem pure_eq_ok (a : α) : (pure a : Except ε α) = .ok a := rfl

@[simp] theorem ok_bind (a : α) (f : α → Except ε β) : (Except.ok a >>= f) = f a := rfl

@[simp] theorem error_bind (e : ε) (f : α → Except ε β) :
    ((Except.error e : Except ε α) >>= f) = .error e := rfl

theorem bind_eq_ok {x : Except (Fault ε) α} {f : α → Except (Fault ε) β} {b : β} :
    (x >>= f) = .ok b ↔ ∃ a, x = .ok a ∧ f a = .ok b := by
  cases x with
  | error e => simp
  | ok a => simp

theorem isOk_iff {x : Except (Fault ε) α} : x.isOk = true ↔ ∃ a, x = .ok a := by
  cases x with
  | error e => exact iff_of_false Bool.false_ne_true (by rintro ⟨a, h⟩; cases h)
  | ok a => exact iff_of_true rfl ⟨a, rfl⟩

@[simp] theorem not_fails_ok (a : α) : ¬ Fails (.ok a : Except (Fault ε) α) := by
  rintro ⟨e, h⟩; cases h

@[simp] theorem fails_err (e : ε) : Fails (.error (.err e) : Except (Fault ε) α) := ⟨e, rfl⟩

@[simp] theorem okOr_some (e : ε) (a : α) : okOr e (some a) = .ok a := rfl
@[simp] theorem okOr_none (e : ε) : okOr e (none : Option α) = .error (.err e) := rfl
@[simp] theorem expect_some (a : α) : (expect (some a) : Except (Fault ε) α) = .ok a := rfl

theorem okOr_eq_ok {e : ε} {o : Option α} {a : α} : okOr e o = .ok a ↔ o = some a := by
  cases o with
  | none => simp
  | some b => simp

theorem okOr_eq_err {e e' : ε} {o : Option α} :
    okOr e o = .error (.err e') ↔ e' = e ∧ o = none := by
  cases o with
  | none => simp [eq_comm]
  | some b => simp

/-! ## Which errors a call returns -/

/-- The call returns an error exactly when `P` holds, and never panics. -/
def FailsIff (x : Except (Fault ε) α) (P : Prop) : Prop := (Fails x ↔ P) ∧ x ≠ .error .panic

/-- The call never panics, and returns the error `e` exactly when `p e`. -/
structure Raises (x : Except (Fault ε) α) (p : ε → Prop) : Prop where
  error_iff : ∀ e, x = .error (.err e) ↔ p e
  not_panic : x ≠ .error .panic

namespace Raises

variable {x : Except (Fault ε) α} {p q : ε → Prop}

theorem ok (a : α) : Raises (.ok a : Except (Fault ε) α) fun _ => False :=
  ⟨fun _ => iff_of_false (by rintro ⟨⟩) id, by rintro ⟨⟩⟩

theorem err (e : ε) : Raises (.error (.err e) : Except (Fault ε) α) fun e' => e' = e :=
  ⟨fun e' => by simp [eq_comm], by rintro ⟨⟩⟩

theorem of_fault {e : ε} (h : ∀ f, x = .error f → f = .err e) :
    Raises x fun e' => e' = e ∧ Fails x := by
  refine ⟨fun e' => ⟨fun hx => ?_, fun ⟨he, e'', hx⟩ => ?_⟩, fun hx => ?_⟩
  · exact ⟨Fault.err.inj (h _ hx), e', hx⟩
  · rw [hx, h _ hx, he]
  · cases h _ hx

theorem okOr (e : ε) (o : Option α) : Raises (HpkeNg.okOr e o) fun e' => e' = e ∧ o = none := by
  refine ⟨fun _ => okOr_eq_err, fun h => ?_⟩
  cases o <;> cases h

theorem congr (h : Raises x p) (hpq : ∀ e, p e ↔ q e) : Raises x q :=
  ⟨fun e => (h.error_iff e).trans (hpq e), h.not_panic⟩

theorem isOk (h : Raises x p) : (∃ a, x = .ok a) ↔ ∀ e, ¬ p e := by
  cases x with
  | ok a => exact iff_of_true ⟨a, rfl⟩ fun e he => by cases (h.error_iff e).mpr he
  | error f =>
    cases f with
    | panic => exact absurd rfl h.not_panic
    | err e => exact iff_of_false (by rintro ⟨a, ⟨⟩⟩) fun hn => hn e ((h.error_iff e).mp rfl)

theorem fails (h : Raises x p) : Fails x ↔ ∃ e, p e := exists_congr h.error_iff

theorem failsIff {P : Prop} (h : Raises x p) (hP : (∃ e, p e) ↔ P) : FailsIff x P :=
  ⟨h.fails.trans hP, h.not_panic⟩

/-- **A bind raises what its first call does, or else what the rest does.** -/
theorem bind {f : α → Except (Fault ε) β} {r : α → ε → Prop} (h : Raises x p)
    (hf : ∀ a, x = .ok a → Raises (f a) (r a)) :
    Raises (x >>= f) fun e => p e ∨ ∃ a, x = .ok a ∧ r a e := by
  cases x with
  | error f =>
    refine ⟨fun e => ?_, fun hp => h.not_panic (congrArg Except.error (Except.error.inj hp))⟩
    rw [error_bind, ← h.error_iff e, Except.error.injEq, Except.error.injEq]
    refine (or_iff_left ?_).symm
    rintro ⟨a, ⟨⟩, -⟩
  | ok a =>
    have hp : ∀ e, ¬ p e := h.isOk.mp ⟨a, rfl⟩
    refine ⟨fun e => ?_, (hf a rfl).not_panic⟩
    rw [ok_bind, (hf a rfl).error_iff e]
    constructor
    · exact fun hr => Or.inr ⟨a, rfl, hr⟩
    · rintro (he | ⟨b, hb, hr⟩)
      · exact absurd he (hp e)
      · rwa [Except.ok.inj hb]

theorem bind_ok {f : α → Except (Fault ε) β} (h : Raises x p)
    (hf : ∀ a, x = .ok a → ∃ b, f a = .ok b) :
    Raises (x >>= f) p := by
  refine (h.bind (r := fun _ _ => False) fun a ha => ?_).congr fun e => by simp
  obtain ⟨b, hb⟩ := hf a ha
  exact hb ▸ .ok b

theorem of_map {f : α → β} (h : Raises (x >>= fun a => .ok (f a)) p) : Raises x p := by
  cases x with
  | ok a => exact ⟨fun e => by rw [← h.error_iff e]; simp, by rintro ⟨⟩⟩
  | error f =>
    exact ⟨fun e => by rw [← h.error_iff e]; simp, fun hp => h.not_panic (by rw [hp]; rfl)⟩

end Raises

/-! ## Slices -/

/-- `b[i]`. -/
def index (b : Bytes) (i : ℕ) : Except (Fault ε) UInt8 := expect b[i]?

/-- `&b[lo..hi]`. -/
def slice (b : Bytes) (lo hi : ℕ) : Except (Fault ε) Bytes :=
  if lo ≤ hi ∧ hi ≤ b.length then .ok ((b.drop lo).take (hi - lo)) else .error .panic

/-- `a[lo..hi].copy_from_slice(src)`. -/
def copyFromSlice {n : ℕ} (a : Arr n) (lo hi : ℕ) (src : Bytes) : Except (Fault ε) (Arr n) :=
  if h : lo ≤ hi ∧ hi ≤ n ∧ src.length = hi - lo then
    .ok ⟨a.1.take lo ++ src ++ a.1.drop hi, by
      rw [List.length_append, List.length_append, List.length_take, List.length_drop, a.2]; omega⟩
  else .error .panic

/-- `f(&mut b[i])`. -/
def modifyAt (b : Bytes) (i : ℕ) (f : UInt8 → UInt8) : Except (Fault ε) Bytes :=
  if i < b.length then .ok (b.modify i f) else .error .panic

theorem index_eq_ok {b : Bytes} {i : ℕ} {x : UInt8} :
    (index b i : Except (Fault ε) UInt8) = .ok x ↔ b[i]? = some x := by
  unfold index
  cases b[i]? with
  | none => exact iff_of_false (by rintro ⟨⟩) (by rintro ⟨⟩)
  | some y => simp

theorem index_ok {b : Bytes} {i : ℕ} (h : i < b.length) :
    ∃ x, (index b i : Except (Fault ε) UInt8) = .ok x :=
  ⟨b[i], index_eq_ok.mpr (List.getElem?_eq_getElem h)⟩

theorem slice_ok {b : Bytes} {lo hi : ℕ} (h : lo ≤ hi) (hb : hi ≤ b.length) :
    (slice b lo hi : Except (Fault ε) Bytes) = .ok ((b.drop lo).take (hi - lo)) := if_pos ⟨h, hb⟩

theorem slice_zero {b : Bytes} {hi : ℕ} (h : hi ≤ b.length) :
    (slice b 0 hi : Except (Fault ε) Bytes) = .ok (b.take hi) := by
  rw [slice_ok (Nat.zero_le _) h, List.drop_zero, Nat.sub_zero]

theorem copyFromSlice_all {n : ℕ} (a : Arr n) (src : Arr n) :
    (copyFromSlice a 0 n src.1 : Except (Fault ε) (Arr n)) = .ok src := by
  rw [copyFromSlice, dif_pos ⟨Nat.zero_le _, le_rfl, by rw [src.2, Nat.sub_zero]⟩]
  congr 1
  apply Subtype.ext
  change a.1.take 0 ++ src.1 ++ a.1.drop n = src.1
  rw [List.take_zero, List.nil_append, List.drop_of_length_le (by rw [a.2]), List.append_nil]

theorem copyFromSlice_eq_ok {n : ℕ} {a : Arr n} {src : Bytes} {r : Arr n} (hs : src.length = n) :
    (copyFromSlice a 0 n src : Except (Fault ε) (Arr n)) = .ok r ↔ r.1 = src := by
  have h : (copyFromSlice a 0 n src : Except (Fault ε) (Arr n)) = .ok ⟨src, hs⟩ :=
    copyFromSlice_all a ⟨src, hs⟩
  rw [h, Except.ok.injEq, Subtype.ext_iff, eq_comm]

theorem copyFromSlice_ok {n lo hi : ℕ} (a : Arr n) {src : Bytes} (h : lo ≤ hi) (hn : hi ≤ n)
    (hs : src.length = hi - lo) :
    ∃ r : Arr n, (copyFromSlice a lo hi src : Except (Fault ε) (Arr n)) = .ok r ∧
      r.1 = a.1.take lo ++ src ++ a.1.drop hi := by
  rw [copyFromSlice, dif_pos ⟨h, hn, hs⟩]
  exact ⟨_, rfl, rfl⟩

end HpkeNg

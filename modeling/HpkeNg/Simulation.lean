import HpkeNg.Machine

/-!
# One machine follows another

* `Machine.results`: what a run returns;
* `Machine.Follows`: a machine answers as another does, until it stops;
* `Machine.Follows.run`, `Machine.Follows.halted`: so it does over a run, and there it stays;
* `Machine.messages`, `Machine.Reads`: a machine reads what another sends, in order;
* `Machine.Reads.run`: so it does over a run;
* `Component`, `Component.run`: a part of a world, and what is addressed to it.
-/

namespace HpkeNg

namespace Machine

variable {σ τ Op Op' Res Res' : Type}

section Run

variable (M : Machine σ Op Res) (s : σ)

/-- What the operations of a run return. -/
def results (ops : List Op) : List Res := (M.trace s ops).map Event.result

@[simp] theorem results_nil : M.results s [] = [] := rfl

@[simp] theorem results_cons (op : Op) (ops : List Op) :
    M.results s (op :: ops) = (M.step s op).1 :: M.results (M.step s op).2 ops := rfl

theorem final_append (ops ops' : List Op) :
    M.final s (ops ++ ops') = M.final (M.final s ops) ops' := by
  induction ops generalizing s with
  | nil => rfl
  | cons op ops ih => exact ih _

theorem trace_append (ops ops' : List Op) :
    M.trace s (ops ++ ops') = M.trace s ops ++ M.trace (M.final s ops) ops' := by
  induction ops generalizing s with
  | nil => rfl
  | cons op ops ih =>
    rw [List.cons_append, trace, ih]
    rfl

end Run

/-- Until it stops, `M` answers an operation as `N` answers its translation, and the states stay
related; once it has stopped, it stays where it is. -/
structure Follows (M : Machine σ Op Res) (N : Machine τ Op' Res') (rel : σ → τ → Prop)
    (translate : Op → Op') (same : Res → Res' → Prop) (stopped : σ → Prop) : Prop where
  step : ∀ {s t}, rel s t → ¬ stopped s → ∀ op, same (M.step s op).1 (N.step t (translate op)).1 ∧
    rel (M.step s op).2 (N.step t (translate op)).2
  halt : ∀ {s}, stopped s → ∀ op, (M.step s op).2 = s

namespace Follows

variable {M : Machine σ Op Res} {N : Machine τ Op' Res'} {rel : σ → τ → Prop} {translate : Op → Op'}
  {same : Res → Res' → Prop} {stopped : σ → Prop} (h : M.Follows N rel translate same stopped)
include h

/-- **A run follows until the machine stops.** -/
theorem run {s : σ} {t : τ} (hst : rel s t) (ops : List Op) :
    ∃ before after, ops = before ++ after ∧
    List.Forall₂ same (M.results s before) (N.results t (before.map translate)) ∧
    rel (M.final s before) (N.final t (before.map translate)) ∧
    (after = [] ∨ stopped (M.final s before)) := by
  induction ops generalizing s t with
  | nil => exact ⟨[], [], rfl, .nil, hst, Or.inl rfl⟩
  | cons op ops ih =>
    by_cases hs : stopped s
    · exact ⟨[], op :: ops, rfl, .nil, hst, Or.inr hs⟩
    · obtain ⟨hres, hst'⟩ := h.step hst hs op
      obtain ⟨before, after, hops, hrun, hend, hafter⟩ := ih hst'
      exact ⟨op :: before, after, congrArg (op :: ·) hops, .cons hres hrun, hend, hafter⟩

/-- **Once stopped, every step of a run starts and ends in the same state.** -/
theorem halted {s : σ} (hs : stopped s) {ops : List Op} {e : Event σ Op Res}
    (he : e ∈ M.trace s ops) :
    ∃ op, e = M.event s op ∧ e.after = s := by
  obtain ⟨s', op, rfl, rfl⟩ := forall_trace
    (show ∀ s' op, s' = s → (M.step s' op).2 = s from fun _ op h' => by rw [h']; exact h.halt hs op)
    rfl he
  exact ⟨op, rfl, h.halt hs op⟩

end Follows

/-! ## Reading what a machine sends -/

section Reads

variable {μ : Type}

/-- What the steps of a run send. -/
def messages (S : Machine σ Op Res) (message : Op → Res → Option μ) (s : σ) (ops : List Op) :
    List μ :=
  (S.trace s ops).filterMap fun e => message e.op e.result

/-- `T` answers every message of `S` by `got`, and a step without a message is none of its business;
`rel n` relates the two while `n` more messages can be read. -/
structure Reads (T : Machine τ Op' Res') (S : Machine σ Op Res) (message : Op → Res → Option μ)
    (receive : μ → Op') (got : μ → Res') (rel : ℕ → σ → τ → Prop) : Prop where
  idle : ∀ {n s t op}, rel n s t → message op (S.step s op).1 = none → rel n (S.step s op).2 t
  read : ∀ {n s t op m}, rel (n + 1) s t → message op (S.step s op).1 = some m →
    (T.step t (receive m)).1 = got m ∧ rel n (S.step s op).2 (T.step t (receive m)).2

theorem Reads.run {T : Machine τ Op' Res'} {S : Machine σ Op Res} {message : Op → Res → Option μ}
    {receive : μ → Op'} {got : μ → Res'} {rel : ℕ → σ → τ → Prop}
    (h : T.Reads S message receive got rel) {n : ℕ} {s : σ} {t : τ} (hst : rel n s t)
    {ops : List Op} (hn : (S.messages message s ops).length ≤ n) :
    T.results t ((S.messages message s ops).map receive) = (S.messages message s ops).map got ∧
      rel (n - (S.messages message s ops).length) (S.final s ops)
        (T.final t ((S.messages message s ops).map receive)) := by
  induction ops generalizing n s t with
  | nil => exact ⟨rfl, hst⟩
  | cons op ops ih =>
    cases hm : message op (S.step s op).1 with
    | none =>
      have htail : S.messages message s (op :: ops) = S.messages message (S.step s op).2 ops :=
        List.filterMap_cons_none hm
      rw [htail] at hn ⊢
      exact ih (h.idle hst hm) hn
    | some m =>
      have htail : S.messages message s (op :: ops) = m :: S.messages message (S.step s op).2 ops :=
        List.filterMap_cons_some hm
      rw [htail, List.length_cons] at hn ⊢
      obtain ⟨k, rfl⟩ : ∃ k, n = k + 1 := ⟨n - 1, by omega⟩
      obtain ⟨hres, hrel⟩ := h.read hst hm
      obtain ⟨hrun, hend⟩ := ih hrel (Nat.le_of_succ_le_succ hn)
      refine ⟨?_, ?_⟩
      · rw [List.map_cons, List.map_cons, results_cons, hres, hrun]
      · rw [Nat.add_sub_add_right]
        exact hend

end Reads

end Machine

/-! ## A part of a world -/

section Component

variable {ω α σ Op : Type*}

/-- A part of a world is worked on by what is addressed to it, and by nothing else. -/
structure Component (next : ω → α → ω) (part : ω → Option σ) (perform : σ → List Op → σ)
    (addressed : α → Option Op) : Prop where
  nil : ∀ s, perform s [] = s
  append : ∀ s ops ops', perform (perform s ops) ops' = perform s (ops ++ ops')
  step : ∀ {w s}, part w = some s →
    ∀ act, part (next w act) = some (perform s (addressed act).toList)

/-- **A part after a run of the world** has done what was addressed to it, in that order. -/
theorem Component.run {next : ω → α → ω} {part : ω → Option σ} {perform : σ → List Op → σ}
    {addressed : α → Option Op} (h : Component next part perform addressed) {w : ω} {s : σ}
    (hs : part w = some s) (acts : List α) :
    part (acts.foldl next w) = some (perform s (acts.filterMap addressed)) := by
  induction acts generalizing w s with
  | nil => exact hs.trans (congrArg some (h.nil s).symm)
  | cons act acts ih =>
    refine (ih (h.step hs act)).trans (congrArg some ?_)
    rw [h.append]
    cases ha : addressed act with
    | none => rw [List.filterMap_cons_none ha]; rfl
    | some op => rw [List.filterMap_cons_some ha]; rfl

theorem getElem?_modify_addressed {perform : σ → List Op → σ} (hnil : ∀ s, perform s [] = s)
    {parts : List σ} {i i' : ℕ} {s : σ} (hs : parts[i]? = some s) (op : Op) :
    (parts.modify i' (perform · [op]))[i]? =
      some (perform s (if i' = i then some op else none).toList) := by
  rw [List.getElem?_modify, hs]
  by_cases hi : i' = i
  · rw [if_pos hi]
    exact congrArg some (if_pos hi)
  · rw [if_neg hi]
    exact congrArg some ((if_neg hi).trans (hnil s).symm)

end Component

end HpkeNg

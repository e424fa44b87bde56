import Mathlib.Data.List.Basic
import Mathlib.Data.List.Range
import Mathlib.Logic.Relation
import Mathlib.Tactic.Common

/-!
# Machines, their runs, and in-order channels

* `Machine`, `Machine.event`, `Machine.trace`, `Machine.final`: a machine and its run;
* `Machine.invariant`, `Machine.forall_trace`: what every step preserves holds throughout a run;
* `Machine.Counts`: a counter of the steps of one kind, and what it numbers;
* `Channel`, `Channel.Step`: messages arrive in the order in which they were sent, each once.
-/

namespace HpkeNg

variable {σ Op Res : Type}

/-- A machine: an operation returns a result and the next state. -/
structure Machine (σ Op Res : Type) where
  step : σ → Op → Res × σ

/-- One step of a run. -/
structure Event (σ Op Res : Type) where
  op : Op
  before : σ
  result : Res
  after : σ

namespace Machine

section Run

variable (M : Machine σ Op Res)

/-- The record of one step. -/
def event (s : σ) (op : Op) : Event σ Op Res where
  op := op
  before := s
  result := (M.step s op).1
  after := (M.step s op).2

/-- The steps of a run, in order. -/
def trace : σ → List Op → List (Event σ Op Res)
  | _, [] => []
  | s, op :: ops => M.event s op :: trace (M.step s op).2 ops

/-- The state after a run. -/
def final : σ → List Op → σ
  | s, [] => s
  | s, op :: ops => final (M.step s op).2 ops

end Run

variable {M : Machine σ Op Res}

theorem invariant {I : σ → Prop} (hstep : ∀ s op, I s → I (M.step s op).2) {s : σ} (h : I s)
    (ops : List Op) : I (M.final s ops) := by
  induction ops generalizing s with
  | nil => exact h
  | cons op ops ih => exact ih (hstep s op h)

/-- **A step of a run is a step from a state that satisfies the invariant.** -/
theorem forall_trace {I : σ → Prop} (hstep : ∀ s op, I s → I (M.step s op).2) {s : σ} (h : I s)
    {ops : List Op} {e : Event σ Op Res} (he : e ∈ M.trace s ops) :
    ∃ t op, I t ∧ e = M.event t op := by
  induction ops generalizing s with
  | nil => cases he
  | cons op ops ih =>
    rcases List.mem_cons.mp he with rfl | he
    · exact ⟨s, op, h, rfl⟩
    · exact ih (hstep s op h) he

theorem mem_trace {s : σ} {ops : List Op} {e : Event σ Op Res} (he : e ∈ M.trace s ops) :
    ∃ t op, e = M.event t op := by
  obtain ⟨t, op, -, he⟩ :=
    forall_trace (show ∀ (t : σ) (op : Op), True → True from fun _ _ h => h) trivial he
  exact ⟨t, op, he⟩

/-- `count` is one higher after every step that `advances`, and the same after every other. -/
def Counts (M : Machine σ Op Res) (count : σ → ℕ) (advances : Event σ Op Res → Bool) : Prop :=
  ∀ s op, count (M.step s op).2 = if advances (M.event s op) then count s + 1 else count s

namespace Counts

variable {count : σ → ℕ} {advances : Event σ Op Res → Bool} (h : M.Counts count advances)
include h

theorem final_eq (s : σ) (ops : List Op) :
    count (M.final s ops) = count s + ((M.trace s ops).filter advances).length := by
  induction ops generalizing s with
  | nil => rfl
  | cons op ops ih =>
    have hs := h s op
    rw [final, ih, trace, List.filter_cons]
    by_cases ha : advances (M.event s op) = true
    · rw [if_pos ha] at hs ⊢
      rw [List.length_cons]
      omega
    · rw [if_neg ha] at hs ⊢
      omega

/-- **A counter numbers the steps that advance it, without gap or repetition.** -/
theorem map_before (s : σ) (ops : List Op) :
    ((M.trace s ops).filter advances).map (fun e => count e.before) =
      List.range' (count s) ((M.trace s ops).filter advances).length := by
  induction ops generalizing s with
  | nil => rfl
  | cons op ops ih =>
    have hs := h s op
    rw [trace, List.filter_cons]
    by_cases ha : advances (M.event s op) = true
    · rw [if_pos ha] at hs ⊢
      rw [List.map_cons, ih, hs, List.length_cons, List.range'_succ]
      rfl
    · rw [if_neg ha] at hs ⊢
      rw [ih, hs]

end Counts

end Machine

/-! ## Channels -/

theorem getElem?_concat_eq_some {α : Type} {l : List α} {x y : α} {i : ℕ} :
    (l ++ [x])[i]? = some y ↔ l[i]? = some y ∨ i = l.length ∧ x = y := by
  rcases lt_trichotomy i l.length with h | h | h
  · rw [List.getElem?_append_left h]
    exact ⟨Or.inl, fun h' => h'.resolve_right fun h' => absurd h'.1 h.ne⟩
  · rw [h, List.getElem?_concat_length, List.getElem?_eq_none le_rfl, Option.some.injEq]
    simp
  · rw [List.getElem?_eq_none (by rw [List.length_append, List.length_singleton]; omega),
      List.getElem?_eq_none h.le]
    refine iff_of_false (by simp) ?_
    rintro (h' | ⟨h', -⟩)
    · cases h'
    · omega

/-- What was sent over a channel, and what arrived. -/
structure Channel (μ : Type) where
  sent : List μ
  received : List μ

namespace Channel

variable {μ : Type}

/-- A message is sent, the next one arrives, or nothing happens. -/
inductive Step : Channel μ → Channel μ → Prop
  | send (ch : Channel μ) (x : μ) : Step ch { ch with sent := ch.sent ++ [x] }
  | receive (ch : Channel μ) (x : μ) (h : ch.sent[ch.received.length]? = some x) :
    Step ch { ch with received := ch.received ++ [x] }
  | idle (ch : Channel μ) : Step ch ch

theorem Step.isPrefix {ch ch' : Channel μ} (h : Step ch ch') (hp : ch.received <+: ch.sent) :
    ch'.received <+: ch'.sent := by
  cases h with
  | send x => exact hp.trans (List.prefix_append _ _)
  | receive x hx =>
    obtain ⟨rest, hrest⟩ := hp
    rw [← hrest, List.getElem?_append_right (le_refl _), Nat.sub_self] at hx
    obtain ⟨rest, rfl⟩ : ∃ rest', rest = x :: rest' := by
      cases rest with
      | nil => cases hx
      | cons y rest' => exact ⟨rest', by rw [Option.some.inj hx]⟩
    refine ⟨rest, ?_⟩
    change ch.received ++ [x] ++ rest = ch.sent
    rw [← hrest, List.append_assoc, List.singleton_append]
  | idle => exact hp

/-- **A system that behaves like a channel keeps the order.** `Inv` is what its steps preserve. -/
theorem isPrefix_of_refines {τ : Type} {step : τ → τ → Prop} (view : τ → Channel μ) {Inv : τ → Prop}
    (hstep : ∀ s s', Inv s → step s s' → Inv s' ∧ Step (view s) (view s')) {s₀ s : τ} (h₀ : Inv s₀)
    (hr : (view s₀).received = []) (h : Relation.ReflTransGen step s₀ s) :
    Inv s ∧ (view s).received <+: (view s).sent := by
  induction h with
  | refl => exact ⟨h₀, hr ▸ List.nil_prefix⟩
  | tail _ hs ih =>
    obtain ⟨hinv, hchannel⟩ := hstep _ _ ih.1 hs
    exact ⟨hinv, hchannel.isPrefix ih.2⟩

end Channel

end HpkeNg

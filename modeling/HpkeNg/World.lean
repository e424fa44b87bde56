import HpkeNg.Context.Reference
import HpkeNg.Session.Binding

/-!
# Many sessions at once

The program around the crate: it sets up sessions in any number, of any KEM, AEAD and mode, over one
RNG, and works on all of them in any order.

* `SenderSession`, `ReceiverSession`: what a setup returned, and what has been done with it since;
* `World`, `World.step`, `World.run`: the sessions, and what can happen;
* `World.sender_run`, `World.receiver_run`: a session sees what is addressed to it, and nothing
  else;
* `SenderSession.inv`, `ReceiverSession.spec`: what a session has done is numbered by its counter.
-/

namespace HpkeNg

variable {R : Type} [CryptoRng R]

/-! ## Sessions -/

section Held

variable {c : Crates R} {k : KemAlg}

/-- The sender's private key is in a caller's hands. -/
def SenderMode.Held : SenderMode c k → Prop
  | .base | .psk _ => True
  | @SenderMode.auth _ _ _ g skS | @SenderMode.authPsk _ _ _ g _ skS => (g.kem c).HeldSk skS

theorem SenderMode.Held.skS {g : DhGroup} {M : SenderMode c (.dhKem g)} (h : M.Held) :
    ∀ sk ∈ M.skS, (g.kem c).HeldSk sk := by
  cases M with
  | base => rintro _ ⟨⟩
  | psk p => rintro _ ⟨⟩
  | auth skS => rintro _ ⟨⟩; exact h
  | authPsk p skS => rintro _ ⟨⟩; exact h

end Held

/-- A session of a sender: the inputs of its setup, what the setup returned, and what has been done
with the context since. -/
structure SenderSession (c : Crates R) (f : KdfAlg) where
  k : KemAlg
  a : SealingAlg
  mode : SenderMode c k
  held : mode.Held
  rng : R
  pkR : (k.kem c).PublicKey
  info : Bytes
  enc : (k.kem c).EncappedKey
  start : SenderContext (k.kem c) (f.kdf c) (a.aead c)
  setup : (mode.setup (f.kdf c) (a.aead c) rng pkR info).1 = .ok (enc, start)
  ops : List SendOp

/-- A session of a receiver. -/
structure ReceiverSession (c : Crates R) (f : KdfAlg) where
  k : KemAlg
  a : SealingAlg
  mode : ReceiverMode c k
  enc : (k.kem c).EncappedKey
  skR : (k.kem c).PrivateKey
  held : (k.kem c).HeldSk skR
  info : Bytes
  start : ReceiverContext (k.kem c) (f.kdf c) (a.aead c)
  setup : mode.setup (f.kdf c) (a.aead c) enc skR info = .ok start
  ops : List ReceiverOp

variable {c : Crates R} {f : KdfAlg}

namespace SenderSession

variable (s : SenderSession c f)

/-- The steps of the session, with their AEAD calls. -/
def events : List (SenderEvent (s.k.kem c) (f.kdf c) (s.a.aead c)) :=
  (sender (s.a.sealing c).check).trace s.start (s.ops.map (SendOp.call (s.a.sealing c)))

/-- The context as it is now. -/
def ctx : SenderContext (s.k.kem c) (f.kdf c) (s.a.aead c) :=
  (sender (s.a.sealing c).check).final s.start (s.ops.map (SendOp.call (s.a.sealing c)))

/-- The messages sealed so far. -/
def sealed : List Message := s.events.filterMap SenderEvent.message

/-- The session after further operations. -/
def perform (ops : List SendOp) : SenderSession c f := { s with ops := s.ops ++ ops }

@[simp] theorem perform_nil : s.perform [] = s := by rw [perform, List.append_nil]

theorem perform_append (ops ops' : List SendOp) :
    (s.perform ops).perform ops' = s.perform (ops ++ ops') := by
  simp only [perform, List.append_assoc]

end SenderSession

namespace ReceiverSession

variable (r : ReceiverSession c f)

/-- What the session has done. -/
def events : List (ReceiverEvent (r.k.kem c) (f.kdf c) (r.a.aead c)) :=
  (receiver (r.a.sealing c)).trace r.start r.ops

/-- The context as it is now. -/
def ctx : ReceiverContext (r.k.kem c) (f.kdf c) (r.a.aead c) :=
  (receiver (r.a.sealing c)).final r.start r.ops

/-- The associated data and plaintexts accepted so far. -/
def accepted : List (Bytes × Bytes) := r.events.filterMap ReceiverEvent.accepted

/-- The session after further operations. -/
def perform (ops : List ReceiverOp) : ReceiverSession c f := { r with ops := r.ops ++ ops }

@[simp] theorem perform_nil : r.perform [] = r := by rw [perform, List.append_nil]

theorem perform_append (ops ops' : List ReceiverOp) :
    (r.perform ops).perform ops' = r.perform (ops ++ ops') := by
  simp only [perform, List.append_assoc]

end ReceiverSession

/-! ## The world -/

/-- All sessions, in the order in which they were set up. -/
structure World (c : Crates R) (f : KdfAlg) where
  rng : R
  senders : List (SenderSession c f)
  receivers : List (ReceiverSession c f)

/-- What can happen. -/
inductive WorldAction (c : Crates R) : Type where
  | generate (k : KemAlg)
  | setupSender (k : KemAlg) (a : SealingAlg) (mode : SenderMode c k) (held : mode.Held)
    (pkR : (k.kem c).PublicKey) (info : Bytes)
  | setupReceiver (k : KemAlg) (a : SealingAlg) (mode : ReceiverMode c k)
    (enc : (k.kem c).EncappedKey) (skR : (k.kem c).PrivateKey) (held : (k.kem c).HeldSk skR)
    (info : Bytes)
  | sender (i : ℕ) (op : SendOp)
  | receiver (j : ℕ) (op : ReceiverOp)

/-- What is addressed to a session. -/
def WorldAction.toSender (i : ℕ) : WorldAction c → Option SendOp
  | .sender i' op => if i' = i then some op else none
  | _ => none

/-- What is addressed to a receiver's session. -/
def WorldAction.toReceiver (j : ℕ) : WorldAction c → Option ReceiverOp
  | .receiver j' op => if j' = j then some op else none
  | _ => none

namespace World

/-- A setup that fails moves the RNG and makes no session. -/
def step (w : World c f) : WorldAction c → World c f
  | .generate k => { w with rng := ((k.kem c).generate w.rng).2 }
  | .setupSender k a mode held pkR info =>
    let rng := (mode.setup (f.kdf c) (a.aead c) w.rng pkR info).2
    match h : (mode.setup (f.kdf c) (a.aead c) w.rng pkR info).1 with
    | .ok (enc, start) =>
      { w with
        rng := rng
        senders := w.senders ++ [⟨k, a, mode, held, w.rng, pkR, info, enc, start, h, []⟩] }
    | .error _ => { w with rng }
  | .setupReceiver k a mode enc skR held info =>
    match h : mode.setup (f.kdf c) (a.aead c) enc skR info with
    | .ok start =>
      { w with receivers := w.receivers ++ [⟨k, a, mode, enc, skR, held, info, start, h, []⟩] }
    | .error _ => w
  | .sender i op => { w with senders := w.senders.modify i (·.perform [op]) }
  | .receiver j op => { w with receivers := w.receivers.modify j (·.perform [op]) }

/-- The world after a sequence of actions. -/
def run (w : World c f) (acts : List (WorldAction c)) : World c f := acts.foldl step w

theorem step_setupSender {w : World c f} {k : KemAlg} {a : SealingAlg} {mode : SenderMode c k}
    {held pkR info enc start}
    (h : (mode.setup (f.kdf c) (a.aead c) w.rng pkR info).1 = .ok (enc, start)) :
    w.step (.setupSender k a mode held pkR info) =
      { w with
        rng := (mode.setup (f.kdf c) (a.aead c) w.rng pkR info).2
        senders := w.senders ++ [⟨k, a, mode, held, w.rng, pkR, info, enc, start, h, []⟩] } := by
  rw [step]
  split
  · next enc' start' h' =>
    obtain ⟨rfl, rfl⟩ := Prod.mk.inj (Except.ok.inj (h.symm.trans h'))
    rfl
  · next e h' => cases h.symm.trans h'

theorem step_setupReceiver {w : World c f} {k : KemAlg} {a : SealingAlg} {mode : ReceiverMode c k}
    {enc skR held info start} (h : mode.setup (f.kdf c) (a.aead c) enc skR info = .ok start) :
    w.step (.setupReceiver k a mode enc skR held info) =
      { w with
        receivers := w.receivers ++ [⟨k, a, mode, enc, skR, held, info, start, h, []⟩] } := by
  rw [step]
  split
  · next start' h' =>
    obtain rfl := Except.ok.inj (h.symm.trans h')
    rfl
  · next e h' => cases h.symm.trans h'

/-! ## A session sees what is addressed to it -/

variable {w : World c f} {act : WorldAction c}

theorem sender_step {i : ℕ} {s : SenderSession c f} (h : w.senders[i]? = some s) :
    (w.step act).senders[i]? = some (s.perform (act.toSender i).toList) := by
  have hs : some (s.perform (none : Option SendOp).toList) = some s := congrArg some s.perform_nil
  cases act with
  | generate k => exact h.trans hs.symm
  | setupSender k a mode held pkR info =>
    rw [step]
    split
    · rw [List.getElem?_append_left (List.getElem?_eq_some_iff.mp h).1]
      exact h.trans hs.symm
    · exact h.trans hs.symm
  | setupReceiver k a mode enc skR held info =>
    rw [step]
    split <;> exact h.trans hs.symm
  | sender i' op => exact getElem?_modify_addressed SenderSession.perform_nil h op
  | receiver j op => exact h.trans hs.symm

theorem receiver_step {j : ℕ} {r : ReceiverSession c f} (h : w.receivers[j]? = some r) :
    (w.step act).receivers[j]? = some (r.perform (act.toReceiver j).toList) := by
  have hr : some (r.perform (none : Option ReceiverOp).toList) = some r :=
    congrArg some r.perform_nil
  cases act with
  | generate k => exact h.trans hr.symm
  | setupSender k a mode held pkR info =>
    rw [step]
    split <;> exact h.trans hr.symm
  | setupReceiver k a mode enc skR held info =>
    rw [step]
    split
    · rw [List.getElem?_append_left (List.getElem?_eq_some_iff.mp h).1]
      exact h.trans hr.symm
    · exact h.trans hr.symm
  | sender i op => exact h.trans hr.symm
  | receiver j' op => exact getElem?_modify_addressed ReceiverSession.perform_nil h op

theorem receiver_of_step {j : ℕ} {r' : ReceiverSession c f}
    (h : (w.step act).receivers[j]? = some r') :
    (∃ r, w.receivers[j]? = some r ∧ r' = r.perform (act.toReceiver j).toList) ∨ r'.ops = [] := by
  cases hr : w.receivers[j]? with
  | some r => exact Or.inl ⟨r, rfl, Option.some.inj (h.symm.trans (receiver_step hr))⟩
  | none =>
    right
    cases act with
    | generate k => cases h.symm.trans hr
    | setupSender k a mode held pkR info =>
      rw [step] at h
      split at h <;> cases h.symm.trans hr
    | setupReceiver k a mode enc skR held info =>
      rw [step] at h
      split at h
      · rcases getElem?_concat_eq_some.mp h with h | ⟨-, rfl⟩
        · cases h.symm.trans hr
        · rfl
      · cases h.symm.trans hr
    | sender i op => cases h.symm.trans hr
    | receiver j' op =>
      rw [step, List.getElem?_modify, hr] at h
      cases h

theorem sender_component (i : ℕ) :
    Component (step (c := c) (f := f)) (fun w => w.senders[i]?)
      SenderSession.perform (·.toSender i) :=
  ⟨SenderSession.perform_nil, SenderSession.perform_append, fun h _ => sender_step h⟩

theorem receiver_component (j : ℕ) :
    Component (step (c := c) (f := f)) (fun w => w.receivers[j]?)
      ReceiverSession.perform (·.toReceiver j) :=
  ⟨ReceiverSession.perform_nil, ReceiverSession.perform_append, fun h _ => receiver_step h⟩

/-- **A sender's session after a run.** Whatever else happens in between, it has done what was
addressed to it, in that order. -/
theorem sender_run {i : ℕ} {s : SenderSession c f} (h : w.senders[i]? = some s)
    (acts : List (WorldAction c)) :
    (w.run acts).senders[i]? = some (s.perform (acts.filterMap (·.toSender i))) :=
  (sender_component i).run h acts

theorem receiver_run {j : ℕ} {r : ReceiverSession c f} (h : w.receivers[j]? = some r)
    (acts : List (WorldAction c)) :
    (w.run acts).receivers[j]? = some (r.perform (acts.filterMap (·.toReceiver j))) :=
  (receiver_component j).run h acts

end World

/-! ## What a session has done -/

namespace SenderSession

variable (s : SenderSession c f)

/-- After the first operations of a session, its counter counts and its `i`-th message is sealed
under the `i`-th nonce. -/
theorem inv : Net.Inv (s.a.sealing c) s.start (⟨s.start.val⟩ : ReceiverContext _ _ _)
    ⟨s.ctx, ⟨s.start.val⟩, s.events, []⟩ := by
  obtain ⟨ss, -, hrun⟩ := SenderMode.setup_eq_ok s.setup
  rw [ctx, events]
  generalize hcalls : s.ops.map (SendOp.call (s.a.sealing c)) = calls
  have hanswer : ∀ op ∈ calls, ∀ {aad pt answer}, op = .seal aad pt answer →
      answer = (s.a.sealing c).answer := by
    rw [← hcalls]
    rintro _ hop aad pt answer rfl
    obtain ⟨op, -, hop⟩ := List.mem_map.mp hop
    cases op with
    | «seal» aad' pt' => injection hop with _ _ h; exact h.symm
    | «export» ec length => cases hop
  clear hcalls
  induction calls using List.reverseRecOn with
  | nil =>
    have hseq : s.start.val.seq.toNat = 0 := by rw [ScheduleCall.run_seq hrun]; rfl
    exact ⟨rfl, rfl, hseq, hseq, by rintro i m ⟨⟩, by rintro e ⟨⟩⟩
  | append_singleton calls op ih =>
    have hI := (ih fun op' h => hanswer op' (List.mem_append_left _ h)).bySender
      (hanswer op (List.mem_append_right _ (List.mem_singleton_self op)))
    rw [Machine.final_append, Machine.trace_append]
    exact hI.1

theorem length_exporterSecret (hc : c.HkdfDocumented) :
    s.ctx.val.exporterSecret.length = (f.kdf c).hashLen := by
  obtain ⟨ss, -, hrun⟩ := SenderMode.setup_eq_ok s.setup
  have hof : s.start.val.Of s.ctx.val := s.inv.sender
  rw [hof.exporterSecret]
  exact ScheduleCall.run_exporterSecret (KdfAlg.lawful hc f) hrun

theorem sealed_perform (ops : List SendOp) : s.sealed <+: (s.perform ops).sealed := by
  have h : (s.perform ops).sealed = s.sealed ++ ((sender (s.a.sealing c).check).trace s.ctx
      (ops.map (SendOp.call (s.a.sealing c)))).filterMap SenderEvent.message := by
    rw [sealed, events, perform, List.map_append, Machine.trace_append, List.filterMap_append]
    rfl
  rw [h]
  exact List.prefix_append _ _

end SenderSession

namespace ReceiverSession

variable (r : ReceiverSession c f)

theorem spec : r.start.val.Of r.ctx.val ∧ r.ctx.val.seq.toNat = r.accepted.length := by
  obtain ⟨ss, -, hrun⟩ := ReceiverMode.setup_eq_ok r.setup
  refine ⟨Machine.invariant (receiver_moves (r.a.sealing c)).of rfl r.ops, ?_⟩
  have hcount := (receiver_moves (r.a.sealing c)).counts.final_eq r.start r.ops
  rw [ScheduleCall.run_seq hrun] at hcount
  rw [accepted, List.length_filterMap_eq_countP, List.countP_eq_length_filter]
  exact hcount.trans (Nat.zero_add _)

theorem length_exporterSecret (hc : c.HkdfDocumented) :
    r.ctx.val.exporterSecret.length = (f.kdf c).hashLen := by
  obtain ⟨ss, -, hrun⟩ := ReceiverMode.setup_eq_ok r.setup
  rw [r.spec.1.exporterSecret]
  exact ScheduleCall.run_exporterSecret (KdfAlg.lawful hc f) hrun

theorem accepted_perform (ops : List ReceiverOp) : (r.perform ops).accepted =
    r.accepted ++ ((receiver (r.a.sealing c)).trace r.ctx ops).filterMap
      ReceiverEvent.accepted := by
  rw [accepted, events, perform, Machine.trace_append, List.filterMap_append]
  rfl

end ReceiverSession

end HpkeNg

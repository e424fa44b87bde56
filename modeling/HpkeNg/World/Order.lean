import HpkeNg.Session.Agreement
import HpkeNg.World.Keys

/-!
# Messages across sessions

* `World.Ideal`, `World.Step`: what any receiver opens, some sender has sealed under that key;
* `World.Inv`: whatever a receiver has accepted, the sender of its session has sealed at that place;
* `world_in_order`: a receiver accepts what one sender sealed, in order, each message once;
* `receiver_accepts`, `world_delivers`: what was sealed can be delivered, whatever else happens.
-/

namespace HpkeNg

variable {R : Type} [CryptoRng R] {c : Crates R} {f : KdfAlg}

theorem SenderSession.getElem?_sealed_perform (s : SenderSession c f) (ops : List SendOp) {n : ℕ}
    {m : Message} (h : s.sealed[n]? = some m) : (s.perform ops).sealed[n]? = some m := by
  obtain ⟨rest, hrest⟩ := s.sealed_perform ops
  rw [← hrest]
  exact (List.getElem?_append_left (List.getElem?_eq_some_iff.mp h).1).trans h

/-! ## An ideal AEAD -/

namespace World

/-- An ideal AEAD: what is delivered to a receiver opens only if some sender has sealed it, under
the same AEAD, key, nonce and associated data. -/
def Ideal (w : World c f) : WorldAction c → Prop
  | .receiver j (.open aad ct) => ∀ r, w.receivers[j]? = some r → ∀ pt,
      r.ctx.opened (r.a.sealing c) aad ct = .ok pt → ∃ s ∈ w.senders, s.a = r.a ∧
        s.endpoint.key = r.endpoint.key ∧
        ∃ e ∈ s.events, e.SealedUnder (r.endpoint.nonce r.ctx.val.seq.toNat) aad ct
  | _ => True

/-- One step of the world. -/
def Step (w w' : World c f) : Prop := ∃ act, w.Ideal act ∧ w' = w.step act

/-- What a receiver has accepted, the sender of its session has sealed at the same place. -/
def Matched (w : World c f) (r : ReceiverSession c f) : Prop :=
  ∀ (n : ℕ) aad pt, r.accepted[n]? = some (aad, pt) →
  ∃ (i : ℕ) (s : SenderSession c f) (m : Message),
    w.senders[i]? = some s ∧ s.endpoint.Same r.endpoint ∧ s.sealed[n]? = some m ∧ m.aad = aad ∧
    m.pt = pt

/-- Every receiver is matched, unless KDF calls collide. -/
def Inv (w : World c f) : Prop := w.Collides ∨ ∀ r ∈ w.receivers, w.Matched r

/-! ## What a step keeps -/

variable {w : World c f} {act : WorldAction c}

theorem ends_step {x : Endpoint c f} (h : x ∈ w.ends) : x ∈ (w.step act).ends := by
  rcases List.mem_append.mp h with h | h
  · obtain ⟨s, hs, rfl⟩ := List.mem_map.mp h
    obtain ⟨i, hi⟩ := List.mem_iff_getElem?.mp hs
    exact List.mem_append_left _ (List.mem_map.mpr ⟨_, List.mem_of_getElem? (sender_step hi), rfl⟩)
  · obtain ⟨r, hr, rfl⟩ := List.mem_map.mp h
    obtain ⟨j, hj⟩ := List.mem_iff_getElem?.mp hr
    exact List.mem_append_right _ (List.mem_map.mpr
      ⟨_, List.mem_of_getElem? (receiver_step hj), rfl⟩)

theorem Collides.step (h : w.Collides) : (w.step act).Collides := by
  obtain ⟨x, hx, y, hy, hxy⟩ := h
  exact ⟨x, ends_step hx, y, ends_step hy, hxy⟩

theorem Matched.step {r : ReceiverSession c f} (h : w.Matched r) : (w.step act).Matched r := by
  intro n aad pt hn
  obtain ⟨i, s, m, hi, hsame, hm, haad, hpt⟩ := h n aad pt hn
  exact ⟨i, _, m, sender_step hi, hsame, s.getElem?_sealed_perform _ hm, haad, hpt⟩

end World

theorem ReceiverSession.accepted_step (r : ReceiverSession c f) (act : WorldAction c) (j : ℕ) :
    (r.perform (act.toReceiver j).toList).accepted = r.accepted ∨
      ∃ aad ct pt, act = .receiver j (.open aad ct) ∧ r.ctx.opened (r.a.sealing c) aad ct = .ok pt ∧
        (r.perform (act.toReceiver j).toList).accepted = r.accepted ++ [(aad, pt)] := by
  rw [r.accepted_perform]
  cases hop : act.toReceiver j with
  | none => exact Or.inl (List.append_nil _)
  | some op =>
    have hact : act = .receiver j op := by
      cases act with
      | receiver j' op' =>
        rw [WorldAction.toReceiver] at hop
        split_ifs at hop with hjj
        rw [hjj, Option.some.inj hop]
      | generate k => cases hop
      | setupSender k a mode held pkR info => cases hop
      | setupReceiver k a mode enc skR held info => cases hop
      | sender i op' => cases hop
    rw [Option.toList_some, Machine.trace, Machine.trace]
    cases hacc : ReceiverEvent.accepted ((receiver (r.a.sealing c)).event r.ctx op) with
    | none =>
      rw [List.filterMap_cons_none hacc]
      exact Or.inl (List.append_nil _)
    | some m =>
      obtain ⟨ct, rfl, -, ho, -⟩ := receiver_accepted (r.a.sealing c) hacc
      rw [List.filterMap_cons_some hacc]
      exact Or.inr ⟨m.1, ct, m.2, hact, ho, rfl⟩

theorem SenderSession.sealedUnder (s : SenderSession c f) {m : Message} (h : m ∈ s.sealed) :
    ∃ (n : ℕ) (pt : Bytes), (∃ e ∈ s.events, e.SealedUnder (s.endpoint.nonce n) m.aad m.ct) ∧
      (s.a.sealing c).seal s.start.val.cipher (s.endpoint.nonce n) m.aad pt = .ok m.ct := by
  obtain ⟨e, he, hm⟩ := List.mem_filterMap.mp h
  obtain ⟨ctx, op, rfl⟩ := Machine.mem_trace he
  have hsealed : SenderEvent.sealed ((sender (s.a.sealing c).check).event ctx op) := by
    rw [SenderEvent.sealed, hm]
    rfl
  obtain ⟨aad, pt, answer, ct, hop, -, -, hevent⟩ := sender_sealed _ hsealed
  rw [hevent, SenderEvent.message, hop] at hm
  obtain rfl := Option.some.inj hm
  have hu : SenderEvent.SealedUnder ((sender (s.a.sealing c).check).event ctx op)
      (ctx.sealCall aad pt).nonce aad ct := by
    rw [hevent]
    exact ⟨rfl, _, _, List.mem_singleton_self _⟩
  obtain ⟨n, m', hm', hnonce, rfl, rfl⟩ := s.inv.sent he hu
  rw [hnonce] at hu
  exact ⟨n, m'.pt, ⟨_, he, hu⟩, s.inv.sealed hm'⟩

/-! ## One delivery -/

section Delivery

variable (hc : c.HkdfDocumented) (ha : c.AeadDocumented) (hd : c.CurvesDocumented)

omit [CryptoRng R] in
theorem SealingAlg.toRfc_open {a : SealingAlg} {key : Bytes} {k : (a.aead c).Cipher}
    (h : (a.aead c).init key = .ok k) (nonce aad ct : Bytes) : (a.toRfc c).open key nonce aad ct =
      ((a.sealing c).open k nonce aad ct : Outcome Bytes).toOption := by
  simp only [SealingAlg.toRfc, h, ok_bind]

omit [CryptoRng R] in
theorem SealingAlg.Committing.toRfc {a : SealingAlg} (hcom : a.Committing c)
    {key key' n n' aad aad' pt pt' ct : Bytes} (h : (a.toRfc c).seal key n aad pt = some ct)
    (h' : (a.toRfc c).open key' n' aad' ct = some pt') : key = key' ∧ n = n' ∧ aad = aad' := by
  have hok : ∀ {x : Outcome Bytes} {b : Bytes}, x.toOption = some b → x = .ok b := by
    intro x b hx
    cases x with
    | error e => cases hx
    | ok b' => rw [Option.some.inj hx]
  obtain ⟨k, hk, hs⟩ := bind_eq_ok.mp (hok h)
  obtain ⟨k', hk', ho⟩ := bind_eq_ok.mp (hok h')
  obtain ⟨hkey, hn, haad, -⟩ := hcom hk hk' hs ho
  exact ⟨hkey, hn, haad⟩

include hc ha

theorem SenderSession.open_sealed (s : SenderSession c f) {i : ℕ} {m : Message}
    (h : s.sealed[i]? = some m) :
    (s.a.toRfc c).open s.endpoint.key (s.endpoint.nonce i) m.aad m.ct = some m.pt := by
  obtain ⟨-, -, -, hinit, -⟩ := s.endpoint.outputs hc
  have hseal := s.inv.sealed h
  refine (SealingAlg.toRfc_open (a := s.a) hinit _ _ _).trans ?_
  exact congrArg Except.toOption (s.a.open_seal ha hseal)

omit ha in
theorem ReceiverSession.open_opened (r : ReceiverSession c f) {aad ct pt : Bytes}
    (h : r.ctx.opened (r.a.sealing c) aad ct = .ok pt) :
    (r.a.toRfc c).open r.endpoint.key (r.endpoint.nonce r.ctx.val.seq.toNat) aad ct = some pt := by
  obtain ⟨-, -, -, hinit, -⟩ := r.endpoint.outputs hc
  refine (SealingAlg.toRfc_open (a := r.a) hinit _ _ _).trans ?_
  rw [ReceiverContext.opened, r.spec.1] at h
  exact congrArg Except.toOption h

omit ha in
/-- **A network that makes up no ciphertexts satisfies the ideal**, if the AEADs commit to what they
encrypt: it may reorder, repeat, drop, relabel and misdirect. -/
theorem World.ideal_of_committing (hcom : ∀ a : SealingAlg, a.Committing c) {w : World c f} {j : ℕ}
    {aad ct : Bytes}
    (h : ∀ r, w.receivers[j]? = some r → ∃ s ∈ w.senders, s.a = r.a ∧ ∃ m ∈ s.sealed, m.ct = ct) :
    w.Ideal (.receiver j (.open aad ct)) := by
  intro r hr pt ho
  obtain ⟨s, hs, hsa, m, hm, rfl⟩ := h r hr
  obtain ⟨n, pt', ⟨e, he, hu⟩, hseal⟩ := s.sealedUnder hm
  obtain ⟨-, -, -, hinit, -⟩ := s.endpoint.outputs hc
  have hsealed : (s.a.toRfc c).seal s.endpoint.key (s.endpoint.nonce n) m.aad pt' = some m.ct := by
    change (((s.a.aead c).init s.endpoint.key >>= fun k => (s.a.sealing c).seal k _ m.aad pt' :
      Outcome Bytes)).toOption = _
    rw [show (s.a.aead c).init s.endpoint.key = .ok s.start.val.cipher from hinit, ok_bind, hseal]
    rfl
  rw [hsa] at hsealed
  obtain ⟨hkey, hn, rfl⟩ := SealingAlg.Committing.toRfc (hcom r.a) hsealed (r.open_opened hc ho)
  exact ⟨s, hs, hsa, hkey, e, he, hn ▸ hu⟩

include hd

/-- **What an ideal AEAD opens is the next message of the session**, unless KDF calls collide. -/
theorem World.Ideal.opened {w : World c f} {j : ℕ} {r : ReceiverSession c f}
    (hr : w.receivers[j]? = some r) {aad ct pt : Bytes}
    (hideal : w.Ideal (.receiver j (.open aad ct)))
    (ho : r.ctx.opened (r.a.sealing c) aad ct = .ok pt) : w.Collides ∨
      ∃ (i : ℕ) (s : SenderSession c f) (m : Message), w.senders[i]? = some s ∧
        s.endpoint.Same r.endpoint ∧ s.sealed[r.accepted.length]? = some m ∧ m.aad = aad ∧ m.pt = pt := by
  obtain ⟨s, hs, hsa, hkey, e, he, hu⟩ := hideal r hr pt ho
  obtain ⟨i, hi⟩ := List.mem_iff_getElem?.mp hs
  rcases Endpoint.same_of_key hc hd (s.derived hc hd) (r.derived hc hd) hkey with hsame | hcol
  swap
  · exact Or.inl ⟨_, List.mem_append_left _ (List.mem_map_of_mem hs), _,
      List.mem_append_right _ (List.mem_map_of_mem (List.mem_of_getElem? hr)), hcol⟩
  obtain ⟨n, m, hm, hnonce, haad, hct⟩ := s.inv.sent he hu
  obtain ⟨-, hseq⟩ := r.spec
  obtain ⟨-, -, hnonces⟩ := hsame.secrets hc
  -- equal nonces are nonces of one message
  have hn : r.accepted.length = n := by
    have hlt : n < 2 ^ 64 := by
      have h1 := (List.getElem?_eq_some_iff.mp hm).1
      have h2 := s.ctx.val.seq.toNat_lt
      rw [s.inv.sealed_seq] at h2
      exact h1.trans h2
    have hnonce' : r.endpoint.nonce r.ctx.val.seq.toNat = r.endpoint.nonce n :=
      hnonce.trans (hnonces n)
    rw [← hseq]
    exact nonceAt_inj _ (r.a.sealing c).check r.ctx.val.seq.toNat_lt hlt hnonce'
  refine Or.inr ⟨i, s, m, hi, hsame, hn ▸ hm, haad, ?_⟩
  -- the AEAD opens what it has sealed to one plaintext only
  have hsealed := s.open_sealed hc ha hm
  have hopen := r.open_opened hc ho
  rw [hseq, hn] at hopen
  rw [hsa, hkey, hnonces, haad, hct] at hsealed
  exact Option.some.inj (hsealed.symm.trans hopen)

theorem World.Inv.step {w w' : World c f} (hI : w.Inv) (h : w.Step w') : w'.Inv := by
  obtain ⟨act, hideal, rfl⟩ := h
  by_cases hcol : w.Collides
  · exact Or.inl hcol.step
  refine Or.inr fun r' hr' => ?_
  obtain ⟨j, hj⟩ := List.mem_iff_getElem?.mp hr'
  rcases receiver_of_step hj with ⟨r, hr, rfl⟩ | hnew
  · have hm : (w.step act).Matched r := (hI.resolve_left hcol r (List.mem_of_getElem? hr)).step
    rcases r.accepted_step act j with hacc | ⟨aad, ct, pt, rfl, ho, hacc⟩
    · intro n aad pt hn
      exact hm n aad pt (hacc ▸ hn)
    · intro n aad' pt' hn
      rw [hacc] at hn
      rcases getElem?_concat_eq_some.mp hn with hn | ⟨rfl, hnew⟩
      · exact hm n aad' pt' hn
      · -- what the session accepts now is the next message
        obtain ⟨rfl, rfl⟩ := Prod.mk.inj hnew
        rcases hideal.opened hc ha hd hr ho with hcol' | ⟨i, s, m, hi, hsame, hm', haad, hpt⟩
        · exact absurd hcol' hcol
        · exact ⟨i, _, m, sender_step hi, hsame, s.getElem?_sealed_perform _ hm', haad, hpt⟩
  · intro n aad pt hn
    rw [ReceiverSession.accepted, ReceiverSession.events, hnew] at hn
    cases hn

theorem World.inv_of_reachable {rng : R} {w : World c f}
    (h : Relation.ReflTransGen World.Step ⟨rng, [], []⟩ w) : w.Inv := by
  induction h with
  | refl => exact Or.inr (by rintro r ⟨⟩)
  | tail _ hs ih => exact ih.step hc ha hd hs

end Delivery

/-- If no setup repeats another, a matched receiver has accepted a prefix of what one sender
sealed. -/
theorem World.Matched.isPrefix {w : World c f} (hrep : ¬ w.Repeats) {r : ReceiverSession c f}
    (h : w.Matched r) :
    r.accepted = [] ∨ ∃ s ∈ w.senders, s.endpoint.Same r.endpoint ∧
      r.accepted <+: s.sealed.map fun m => (m.aad, m.pt) := by
  cases hr : r.accepted with
  | nil => exact Or.inl rfl
  | cons first rest =>
    obtain ⟨i, s, -, hi, hsame, -⟩ := h 0 first.1 first.2 (by rw [hr]; rfl)
    refine Or.inr ⟨s, List.mem_of_getElem? hi, hsame, ?_⟩
    rw [← hr]
    refine List.prefix_iff_getElem?.mpr fun n hn => ?_
    obtain ⟨i', s', m, hi', hsame', hm, haad, hpt⟩ := h n _ _ (List.getElem?_eq_getElem hn)
    -- every message comes from one sender
    have hii : i = i' := by
      by_contra hne
      exact hrep ⟨i, i', s, s', hne, hi, hi', hsame.trans hsame'.symm⟩
    subst hii
    obtain rfl := Option.some.inj (hi.symm.trans hi')
    rw [List.getElem?_map, hm, Option.map_some, haad, hpt]
    rfl

/-- **Every receiver accepts what one sender sealed, in order, each message once.** Over any number
of sessions, set up and used in any order on a network that delivers what it likes to whom it likes:
what a receiver has accepted is a prefix of what one sender has sealed, and the two are the ends of
one session, with the same mode, suite, `info`, PSK and shared secret, and for a DHKEM with the same
encapsulated key, recipient and sender. The exceptions are colliding KDF calls, and two setups of a
sender that came out as one session. -/
theorem world_in_order (hc : c.HkdfDocumented) (ha : c.AeadDocumented) (hd : c.CurvesDocumented)
    {rng : R} {w : World c f} (h : Relation.ReflTransGen World.Step ⟨rng, [], []⟩ w) :
    w.Collides ∨ w.Repeats ∨ ∀ r ∈ w.receivers, r.accepted = [] ∨ ∃ s ∈ w.senders,
      s.endpoint.Same r.endpoint ∧ r.accepted <+: s.sealed.map fun m => (m.aad, m.pt) := by
  rcases World.inv_of_reachable hc ha hd h with hcol | hI
  · exact Or.inl hcol
  by_cases hrep : w.Repeats
  · exact Or.inr (Or.inl hrep)
  · exact Or.inr (Or.inr fun r hr => (hI r hr).isPrefix hrep)

theorem World.reachable_delivery (hc : c.HkdfDocumented) (hcom : ∀ a : SealingAlg, a.Committing c)
    {k : KemAlg} {a : SealingAlg} {mode : SenderMode c k} (held : mode.Held)
    {mode' : ReceiverMode c k} {rng : R} {pkR skR info} (held' : (k.kem c).HeldSk skR)
    {enc start start'} {aad pt ct : Bytes}
    (hs : (mode.setup (f.kdf c) (a.aead c) rng pkR info).1 = .ok (enc, start))
    (hr : mode'.setup (f.kdf c) (a.aead c) enc skR info = .ok start')
    (hct : (start.seal (a.sealing c) aad pt).run.1 = .ok ct) :
    ∃ (w : World c f) (s : SenderSession c f) (r : ReceiverSession c f),
      Relation.ReflTransGen World.Step ⟨rng, [], []⟩ w ∧ w.senders = [s] ∧
        s.sealed = [⟨aad, pt, ct⟩] ∧ w.receivers = [r] ∧ r.ops = [.open aad ct] := by
  let s : SenderSession c f := ⟨k, a, mode, held, rng, pkR, info, enc, start, hs, [.seal aad pt]⟩
  let r : ReceiverSession c f := ⟨k, a, mode', enc, skR, held', info, start', hr, []⟩
  let rng' := (mode.setup (f.kdf c) (a.aead c) rng pkR info).2
  have hsealed : s.sealed = [⟨aad, pt, ct⟩] := by
    have hstep := sending_step (a.sealing c) start (.seal aad pt)
    have hmsg : SenderEvent.message ((sender (a.sealing c).check).event start
        (.seal aad pt (a.sealing c).answer)) = some ⟨aad, pt, ct⟩ :=
      SenderEvent.message_eq rfl ((congrArg Prod.fst hstep).symm.trans hct)
    exact List.filterMap_cons_some hmsg
  have hw₁ : (⟨rng, [], []⟩ : World c f).step (.setupSender k a mode held pkR info) =
      ⟨rng', [⟨k, a, mode, held, rng, pkR, info, enc, start, hs, []⟩], []⟩ :=
      World.step_setupSender hs
  have hw₃ : (⟨rng', [s], []⟩ : World c f).step (.setupReceiver k a mode' enc skR held' info) =
      ⟨rng', [s], [r]⟩ :=
    World.step_setupReceiver hr
  have hideal : (⟨rng', [s], [r]⟩ : World c f).Ideal (.receiver 0 (.open aad ct)) := by
    refine World.ideal_of_committing hc hcom fun r' hr' => ?_
    obtain rfl := Option.some.inj hr'
    exact ⟨s, List.mem_singleton_self _, rfl, _, hsealed ▸ List.mem_singleton_self _, rfl⟩
  refine ⟨⟨rng', [s], [r.perform [.open aad ct]]⟩, s, _, ?_, rfl, hsealed, rfl, rfl⟩
  have h₁ := Relation.ReflTransGen.single (r := World.Step)
    ⟨.setupSender k a mode held pkR info, trivial, hw₁.symm⟩
  have h₂ := h₁.tail ⟨.sender 0 (.seal aad pt), trivial, rfl⟩
  exact (h₂.tail ⟨.setupReceiver k a mode' enc skR held' info, trivial, hw₃.symm⟩).tail
    ⟨_, hideal, rfl⟩

/-- A message of an authenticated session with a PSK, delivered. -/
theorem world_in_order_sample :
    ∃ (w : World Sample.crates .hkdfSha256) (s : SenderSession Sample.crates .hkdfSha256)
      (r : ReceiverSession Sample.crates .hkdfSha256) (ct : Bytes),
      w.senders = [s] ∧ s.sealed = [⟨[1], [2], ct⟩] ∧
      w.receivers = [r] ∧ r.ops = [.open [1] ct] ∧
      (w.Collides ∨ w.Repeats ∨ ∀ r ∈ w.receivers, r.accepted = [] ∨ ∃ s ∈ w.senders,
        s.endpoint.Same r.endpoint ∧ r.accepted <+: s.sealed.map fun m => (m.aad, m.pt)) := by
  let D := DhGroup.x25519.dh Sample.crates
  let S := SealingAlg.aes128Gcm.sealing Sample.crates
  let M : SenderMode Sample.crates (.dhKem .x25519) := .authPsk Sample.psk (D.keyPair (9 : ℕ)).1
  let M' : ReceiverMode Sample.crates (.dhKem .x25519) := .authPsk Sample.psk (D.keyPair (9 : ℕ)).2
  have hok : (M.seal (KdfAlg.hkdfSha256.kdf Sample.crates) S (5 : ℕ) (D.keyPair (7 : ℕ)).2
      (ascii "info") [1] [2]).1.isOk = true := by decide +kernel
  obtain ⟨p, hp⟩ := isOk_iff.mp hok
  replace hp := (M.seal_eq S (5 : ℕ) _ (ascii "info") [1] [2]).symm.trans hp
  obtain ⟨⟨enc, start⟩, hs, hp⟩ := bind_eq_ok.mp hp
  obtain ⟨ct, hct, -⟩ := bind_eq_ok.mp hp
  have hm : M.Matches M' := .authPsk _ (.generate (dhKem_generate D (9 : ℕ)))
  obtain ⟨-, hr, -⟩ :=
    hm.setup Sample.curvesDocumented Sample.pqDocumented Sample.curvesCommute Sample.pqCorrect
      (.generate (dhKem_generate D (7 : ℕ))) hs
  obtain ⟨w, s, r, h, hw⟩ := World.reachable_delivery Sample.hkdfDocumented Sample.committing
    (show M.Held from .built (builtSk_keyPair D (9 : ℕ))) (.built (builtSk_keyPair D (7 : ℕ)))
    hs hr hct
  obtain ⟨hsenders, hsealed, hreceivers, hops⟩ := hw
  exact ⟨w, s, r, ct, hsenders, hsealed, hreceivers, hops,
    world_in_order Sample.hkdfDocumented Sample.aeadDocumented Sample.curvesDocumented h⟩

/-! ## Deliveries -/

section Deliver

variable {K : Kem R} {F : Kdf} {A : Aead} (S : SealingAead Id A)

omit [CryptoRng R] in
theorem receiver_accepts {ctx : ReceiverContext K F A} {ops : List ReceiverOp} {rest : List Message}
    (hops : ops.filter ReceiverOp.isMessage = rest.map fun m => .open m.aad m.ct)
    (hlim : ctx.val.seq.toNat + rest.length < 2 ^ 64)
    (hopen : ∀ {i m}, rest[i]? = some m →
      S.open ctx.val.cipher (nonceAt ctx.val.baseNonce A.nonceLen (ctx.val.seq.toNat + i))
        m.aad m.ct = .ok m.pt) :
    ((receiver S).trace ctx ops).filterMap ReceiverEvent.accepted =
      rest.map fun m => (m.aad, m.pt) := by
  induction ops generalizing ctx rest with
  | nil =>
    rw [List.filter_nil] at hops
    rw [List.map_eq_nil_iff.mp hops.symm]
    rfl
  | cons op ops ih =>
    rw [Machine.trace]
    cases op with
    | «export» ec length => exact ih hops hlim hopen
    | «open» aad ct =>
      cases rest with
      | nil => cases hops
      | cons m rest =>
        obtain ⟨hm, hrest⟩ := List.cons.inj hops
        injection hm with haad hct
        subst haad hct
        rw [List.length_cons] at hlim
        have hne := Context.seq_ne_seqMax hlim
        have ho : ctx.opened S m.aad m.ct = .ok m.pt := hopen (i := 0) rfl
        have hstep := receiver_step_open S ctx m.aad m.ct
        rw [if_neg hne, ho] at hstep
        have hnext := Context.toNat_next hne
        have hacc : ReceiverEvent.accepted ((receiver S).event ctx (.open m.aad m.ct)) =
            some (m.aad, m.pt) := by
          rw [ReceiverEvent.accepted, Machine.event, hstep]
        rw [List.filterMap_cons_some hacc, hstep, List.map_cons]
        refine congrArg (List.cons _) (@ih ⟨ctx.val.next⟩ rest hrest ?_ fun {i m'} hi => ?_)
        · rw [hnext]
          omega
        · rw [hnext, Nat.add_right_comm, Nat.add_assoc]
          exact hopen (i := i + 1) hi

end Deliver

section Answered

variable (hd : c.CurvesDocumented) (hp : c.PqDocumented) (hx : c.CurvesCommute) (hq : c.PqCorrect)
  {s : SenderSession c f} {r : ReceiverSession c f} (h : s.Answered r)
include hd hp hx hq h

theorem SenderSession.Answered.export_eq (ec : Bytes) (length : ℕ) :
    r.ctx.export ec length = s.ctx.export ec length := by
  have hofS := s.inv.sender
  have hofR := r.spec.1
  cases h with
  | @intro k a mode mode' held rng pkR info enc start hs ops skR held' start' hr ops' hm hk =>
    obtain ⟨-, hsetup, -⟩ := hm.setup hd hp hx hq hk hs
    obtain rfl := Except.ok.inj (hsetup.symm.trans hr)
    exact Context.export_congr rfl (hofR.exporterSecret.trans hofS.exporterSecret.symm) ec length

theorem SenderSession.Answered.open_sealed (ha : c.AeadDocumented) {n : ℕ} {m : Message}
    (hm : s.sealed[n]? = some m) : (r.a.sealing c).open r.start.val.cipher
      (nonceAt r.start.val.baseNonce (r.a.aead c).nonceLen n) m.aad m.ct = .ok m.pt := by
  have hseal := s.inv.sealed hm
  cases h with
  | @intro k a mode mode' held rng pkR info enc start hs ops skR held' start' hr ops' hmatch hk =>
    obtain ⟨-, hsetup, -⟩ := hmatch.setup hd hp hx hq hk hs
    obtain rfl := Except.ok.inj (hsetup.symm.trans hr)
    exact a.open_seal ha hseal

end Answered

/-- **What was sealed can be delivered.** In every world, a receiver whose setup answers a sender's
accepts the messages it has not had yet when they arrive in order, with exports and any steps of
other sessions in between; afterwards both sides still export the same, and up to `255 * Nh` bytes
they export. -/
theorem world_delivers (hc : c.HkdfDocumented) (ha : c.AeadDocumented) (hd : c.CurvesDocumented)
    (hp : c.PqDocumented) (hx : c.CurvesCommute) (hq : c.PqCorrect) {w : World c f} {i j : ℕ}
    {s : SenderSession c f} {r : ReceiverSession c f} (hs : w.senders[i]? = some s)
    (hr : w.receivers[j]? = some r) (h : s.Answered r) {acts : List (WorldAction c)}
    (hacts : (acts.filterMap (·.toReceiver j)).filter ReceiverOp.isMessage =
      (s.sealed.drop r.accepted.length).map fun m => .open m.aad m.ct) :
    ∃ s' r', (w.run acts).senders[i]? = some s' ∧ (w.run acts).receivers[j]? = some r' ∧
      r'.accepted = r.accepted ++ (s.sealed.drop r.accepted.length).map (fun m => (m.aad, m.pt)) ∧
      (∀ ec length, r'.ctx.export ec length = s'.ctx.export ec length) ∧
      ∀ ec length, length ≤ 255 * (f.kdf c).hashLen → ∃ secret, secret.length = length ∧
        s'.ctx.export ec length = .ok secret ∧ r'.ctx.export ec length = .ok secret := by
  have h' : (s.perform (acts.filterMap (·.toSender i))).Answered
      (r.perform (acts.filterMap (·.toReceiver j))) := by
    cases h with
    | intro hm hk => exact .intro hm hk
  refine ⟨_, _, World.sender_run hs acts, World.receiver_run hr acts, ?_, h'.export_eq hd hp hx hq,
    fun ec length hl => ?_⟩
  · rw [r.accepted_perform]
    congr 1
    obtain ⟨hof, hseq⟩ := r.spec
    have hsealed := s.inv.sealed_seq
    have hltS := s.ctx.val.seq.toNat_lt
    have hltR := r.ctx.val.seq.toNat_lt
    refine receiver_accepts (r.a.sealing c) hacts ?_ fun {n m} hm => ?_
    · change s.ctx.val.seq.toNat = s.sealed.length at hsealed
      rw [List.length_drop]
      omega
    · rw [List.getElem?_drop] at hm
      rw [hseq, hof]
      exact h.open_sealed hd hp hx hq ha hm
  · obtain ⟨secret, hs', hlen⟩ := Context.export_ok (KdfAlg.lawful hc f)
      ((s.perform (acts.filterMap (·.toSender i))).length_exporterSecret hc) ec hl
    exact ⟨secret, hlen, hs', (h'.export_eq hd hp hx hq ec length).trans hs'⟩

/-- The messages of a session, delivered after an export, and an export on both sides. -/
theorem world_delivers_sample : ∃ (s s' : SenderSession Sample.crates .hkdfSha256)
    (r r' : ReceiverSession Sample.crates .hkdfSha256), s.ops = [.seal [1] [2]] ∧ r.ops = [] ∧
      r'.accepted = r.accepted ++ (s.sealed.drop r.accepted.length).map (fun m => (m.aad, m.pt)) ∧
      (∀ ec length, r'.ctx.export ec length = s'.ctx.export ec length) ∧
      ∃ secret, secret.length = 40 ∧ s'.ctx.export [3] 40 = .ok secret ∧
        r'.ctx.export [3] 40 = .ok secret := by
  let D := DhGroup.x25519.dh Sample.crates
  let M : SenderMode Sample.crates (.dhKem .x25519) := .base
  have hok : (M.setup (KdfAlg.hkdfSha256.kdf Sample.crates)
      (SealingAlg.aes128Gcm.aead Sample.crates) (5 : ℕ) (D.keyPair (7 : ℕ)).2
      (ascii "info")).1.isOk = true := by decide +kernel
  obtain ⟨⟨enc, start⟩, hs⟩ := isOk_iff.mp hok
  have hm : M.Matches .base := .base
  have hk : (KemAlg.dhKem .x25519).KeyPair Sample.crates (D.keyPair (7 : ℕ)).1
      (D.keyPair (7 : ℕ)).2 :=
    .generate (dhKem_generate D (7 : ℕ))
  obtain ⟨-, hr, -⟩ :=
    hm.setup Sample.curvesDocumented Sample.pqDocumented Sample.curvesCommute Sample.pqCorrect hk hs
  let s : SenderSession Sample.crates .hkdfSha256 :=
    ⟨_, .aes128Gcm, M, trivial, (5 : ℕ), _, _, enc, start, hs, [.seal [1] [2]]⟩
  let r : ReceiverSession Sample.crates .hkdfSha256 :=
    ⟨_, .aes128Gcm, .base, enc, _, .built (builtSk_keyPair D (7 : ℕ)), _, _, hr, []⟩
  let acts : List (WorldAction Sample.crates) := .receiver 0 (.export [9] 3) ::
    s.sealed.map fun m => .receiver 0 (.open m.aad m.ct)
  have hacts : (acts.filterMap (·.toReceiver 0)).filter ReceiverOp.isMessage =
      (s.sealed.drop r.accepted.length).map fun m => .open m.aad m.ct := by
    change ((s.sealed.map fun m => WorldAction.receiver 0 (.open m.aad m.ct)).filterMap
      (·.toReceiver 0)).filter ReceiverOp.isMessage = s.sealed.map fun m => .open m.aad m.ct
    generalize s.sealed = messages
    induction messages with
    | nil => rfl
    | cons m messages ih => exact congrArg (List.cons _) ih
  obtain ⟨s', r', -, -, hacc, hsame, hexp⟩ :=
    world_delivers Sample.hkdfDocumented Sample.aeadDocumented
      Sample.curvesDocumented Sample.pqDocumented Sample.curvesCommute Sample.pqCorrect
      (show (⟨(5 : ℕ), [s], [r]⟩ : World Sample.crates .hkdfSha256).senders[0]? = some s from rfl)
      (show (⟨(5 : ℕ), [s], [r]⟩ : World Sample.crates .hkdfSha256).receivers[0]? = some r from rfl)
      (.intro hm hk) hacts
  exact ⟨s, s', r, r', rfl, rfl, hacc, hsame, hexp [3] 40 (by decide : 40 ≤ 255 * 32)⟩

end HpkeNg

import HpkeNg.Context.Sealing

/-!
# A sender and a receiver across a network

* `receiver`: the receiver's context as a machine;
* `Net`, `Net.step`: both sides and a network that delivers what it likes to the receiver;
  `Net.of_step`: no action changes more than a counter;
* `Net.Ideal`: what the AEAD opens, the sender has sealed;
* `Net.Inv`, `Net.view`: the invariant, and the channel that a network implements;
* `net_in_order`: the receiver accepts what was sealed, in order, and can always go on.
-/

namespace HpkeNg

variable {R : Type} {K : Kem R} {F : Kdf} {A : Aead}

/-! ## The receiver as a machine -/

/-- What the owner of a receiver's context can do with it. -/
inductive ReceiverOp : Type where
  | open (aad ct : Bytes)
  | export (exporterContext : Bytes) (length : ℕ)

/-- The receiver's context as a machine. -/
def receiver (S : SealingAead Id A) :
    Machine (ReceiverContext K F A) ReceiverOp (Outcome Bytes) where
  step ctx
    | .open aad ct => (ctx.open S aad ct).run
    | .export exporterContext length => (ctx.export exporterContext length, ctx)

/-- A step of a receiver, with the context before and after. -/
abbrev ReceiverEvent (K : Kem R) (F : Kdf) (A : Aead) : Type :=
  Event (ReceiverContext K F A) ReceiverOp (Outcome Bytes)

/-- The associated data and the plaintext of a successful `open`. -/
def ReceiverEvent.accepted (e : ReceiverEvent K F A) : Option (Bytes × Bytes) :=
  match e.op, e.result with
  | .open aad _, .ok pt => some (aad, pt)
  | _, _ => none

section Receiver

variable (S : SealingAead Id A)

/-- What the AEAD says to a ciphertext that arrives. -/
def ReceiverContext.opened (ctx : ReceiverContext K F A) (aad ct : Bytes) : Outcome Bytes :=
  S.open ctx.val.cipher (nonceAt ctx.val.baseNonce A.nonceLen ctx.val.seq.toNat) aad ct

/-- **One `open`**: at the limit nothing happens; below, the counter moves if the AEAD opens. -/
theorem receiver_step_open (ctx : ReceiverContext K F A) (aad ct : Bytes) :
    (receiver S).step ctx (.open aad ct) =
      if ctx.val.seq = seqMax then (throwErr .messageLimitReached, ctx)
      else (ctx.opened S aad ct, ⟨ctx.val.advance (ctx.opened S aad ct)⟩) := by
  have hs := ctx.val.open_eq S aad ct
  by_cases hlim : ctx.val.seq = seqMax
  · rw [if_pos hlim] at hs ⊢
    simp only [receiver, ReceiverContext.open, hs]
    rfl
  · rw [if_neg hlim] at hs ⊢
    simp only [receiver, ReceiverContext.open, hs]
    rfl

theorem receiver_accepted {ctx : ReceiverContext K F A} {op : ReceiverOp} {aad pt : Bytes}
    (ha : ReceiverEvent.accepted ((receiver S).event ctx op) = some (aad, pt)) :
    ∃ ct, op = .open aad ct ∧ ctx.val.seq ≠ seqMax ∧ ctx.opened S aad ct = .ok pt ∧
      ((receiver S).step ctx op).2 = ⟨ctx.val.next⟩ := by
  cases op with
  | «export» ec length => cases ha
  | «open» aad' ct =>
    rw [ReceiverEvent.accepted, Machine.event, receiver_step_open] at ha
    rw [receiver_step_open]
    by_cases hlim : ctx.val.seq = seqMax
    · rw [if_pos hlim] at ha
      cases ha
    · rw [if_neg hlim] at ha ⊢
      cases ho : ctx.opened S aad' ct with
      | error f =>
        rw [ho] at ha
        cases ha
      | ok pt' =>
        rw [ho] at ha
        obtain ⟨rfl, rfl⟩ := Prod.mk.inj (Option.some.inj ha)
        exact ⟨ct, rfl, hlim, ho, rfl⟩

theorem receiver_unchanged {ctx : ReceiverContext K F A} {op : ReceiverOp}
    (ha : ReceiverEvent.accepted ((receiver S).event ctx op) = none) :
    ((receiver S).step ctx op).2 = ctx := by
  cases op with
  | «export» ec length => rfl
  | «open» aad ct =>
    rw [ReceiverEvent.accepted, Machine.event] at ha
    rw [receiver_step_open] at ha ⊢
    by_cases hlim : ctx.val.seq = seqMax
    · rw [if_pos hlim]
    · rw [if_neg hlim] at ha ⊢
      cases ho : ctx.opened S aad ct with
      | error f => rfl
      | ok pt =>
        rw [ho] at ha
        cases ha

theorem receiver_moves :
    Context.Moves (receiver S : Machine (ReceiverContext K F A) _ _) ReceiverContext.val
    fun e => (ReceiverEvent.accepted e).isSome := by
  intro ctx op
  refine ⟨fun ha => ?_, fun ha => receiver_unchanged S (Option.not_isSome_iff_eq_none.mp ha)⟩
  obtain ⟨m, ha⟩ := Option.isSome_iff_exists.mp ha
  obtain ⟨ct, -, hlim, -, hafter⟩ := receiver_accepted S ha
  exact ⟨hlim, congrArg ReceiverContext.val hafter⟩

end Receiver

/-! ## The network -/

/-- What the AEAD itself answers. -/
def SealingAead.answer (S : SealingAead Id A) : AeadCall A → Outcome Bytes
  | .seal cipher nonce aad pt => S.seal cipher nonce aad pt
  | .open cipher nonce aad ct => S.open cipher nonce aad ct

/-- Both sides of a session, and what each has done so far. -/
structure Net (K : Kem R) (F : Kdf) (A : Aead) where
  sender : SenderContext K F A
  receiver : ReceiverContext K F A
  sent : List (SenderEvent K F A)
  received : List (ReceiverEvent K F A)

/-- What can happen: the sender acts, the network delivers any bytes, the receiver exports. -/
inductive Action : Type where
  | seal (aad pt : Bytes)
  | deliver (aad ct : Bytes)
  | senderExport (exporterContext : Bytes) (length : ℕ)
  | receiverExport (exporterContext : Bytes) (length : ℕ)

namespace Net

variable (S : SealingAead Id A) (net : Net K F A)

/-- The sender takes a step, which is logged. -/
def bySender (op : SenderOp A) : Net K F A :=
  let e := (HpkeNg.sender S.check).event net.sender op
  { net with sender := e.after, sent := net.sent ++ [e] }

/-- The receiver takes a step, which is logged. -/
def byReceiver (op : ReceiverOp) : Net K F A :=
  let e := (HpkeNg.receiver S).event net.receiver op
  { net with receiver := e.after, received := net.received ++ [e] }

/-- What an action does to the two sides. -/
def step : Action → Net K F A
  | .seal aad pt => net.bySender S (.seal aad pt S.answer)
  | .deliver aad ct => net.byReceiver S (.open aad ct)
  | .senderExport exporterContext length => net.bySender S (.export exporterContext length)
  | .receiverExport exporterContext length => net.byReceiver S (.export exporterContext length)

/-- The messages sealed so far. -/
def sealed : List Message := net.sent.filterMap SenderEvent.message

/-- The associated data and plaintexts accepted so far. -/
def accepted : List (Bytes × Bytes) := net.received.filterMap ReceiverEvent.accepted

end Net

/-- A ciphertext was made under a nonce and associated data. -/
def SenderEvent.SealedUnder (e : SenderEvent K F A) (nonce aad ct : Bytes) : Prop :=
  e.result.1 = .ok ct ∧ ∃ cipher pt, .seal cipher nonce aad pt ∈ e.result.2

/-- An ideal AEAD: what is delivered opens under a nonce only if the sender has sealed it under that
nonce and that associated data. -/
def Net.Ideal (S : SealingAead Id A) (net : Net K F A) : Action → Prop
  | .deliver aad ct => ∀ nonce pt, S.open net.receiver.val.cipher nonce aad ct = .ok pt →
      ∃ e ∈ net.sent, e.SealedUnder nonce aad ct
  | _ => True

/-- One step of the network. -/
def Net.Step (S : SealingAead Id A) (net net' : Net K F A) : Prop :=
  ∃ act, net.Ideal S act ∧ net' = net.step S act

theorem Net.of_step (S : SealingAead Id A) (net : Net K F A) {ctx₀ ctx₁ : Context K F A}
    (hs : ctx₀.Of net.sender.val) (hr : ctx₁.Of net.receiver.val) (act : Action) :
    ctx₀.Of (net.step S act).sender.val ∧ ctx₁.Of (net.step S act).receiver.val := by
  cases act with
  | «seal» aad pt => exact ⟨(sender_moves S.check).of _ _ hs, hr⟩
  | senderExport ec length => exact ⟨(sender_moves S.check).of _ _ hs, hr⟩
  | deliver aad ct => exact ⟨hs, (receiver_moves S).of _ _ hr⟩
  | receiverExport ec length => exact ⟨hs, (receiver_moves S).of _ _ hr⟩

theorem Net.sent_deliver (S : SealingAead Id A) (net : Net K F A) (aad ct : Bytes) :
    (net.step S (.deliver aad ct)).sent = net.sent := rfl

/-! ## The invariant -/

/-- A network implements a channel. -/
def Net.view (net : Net K F A) : Channel (Bytes × Bytes) where
  sent := net.sealed.map fun m => (m.aad, m.pt)
  received := net.accepted

section Inv

variable (S : SealingAead Id A) (sender₀ : SenderContext K F A) (receiver₀ : ReceiverContext K F A)

/-- The counters count, and the `i`-th message is sealed under the `i`-th nonce. -/
structure Net.Inv (net : Net K F A) : Prop where
  sender : sender₀.val.Of net.sender.val
  receiver : receiver₀.val.Of net.receiver.val
  sealed_seq : net.sender.val.seq.toNat = net.sealed.length
  accepted_seq : net.receiver.val.seq.toNat = net.accepted.length
  sealed : ∀ {i m}, net.sealed[i]? = some m →
    S.seal sender₀.val.cipher (nonceAt sender₀.val.baseNonce A.nonceLen i) m.aad m.pt = .ok m.ct
  sent : ∀ {e}, e ∈ net.sent → ∀ {nonce aad ct}, e.SealedUnder nonce aad ct → ∃ i m,
    net.sealed[i]? = some m ∧ nonce = nonceAt sender₀.val.baseNonce A.nonceLen i ∧ m.aad = aad ∧
    m.ct = ct

variable {S sender₀ receiver₀} {net : Net K F A}

theorem SenderEvent.SealedUnder.sealed {h : seqLen ≤ A.nonceLen ∧ A.nonceLen ≤ maxNonceLen}
    {ctx : SenderContext K F A} {op : SenderOp A} {nonce aad ct : Bytes}
    (hu : SenderEvent.SealedUnder ((HpkeNg.sender h).event ctx op) nonce aad ct) :
    SenderEvent.sealed ((HpkeNg.sender h).event ctx op) := by
  obtain ⟨hok, cipher, pt, hcall⟩ := hu
  cases op with
  | «export» ec length => cases hcall
  | «seal» aad' pt' answer =>
    rw [SenderEvent.sealed, SenderEvent.message_eq rfl hok]
    rfl

theorem Net.Inv.bySender (hI : net.Inv S sender₀ receiver₀) {op : SenderOp A}
    (hop : ∀ {aad pt answer}, op = .seal aad pt answer → answer = S.answer) :
    (net.bySender S op).Inv S sender₀ receiver₀ ∧
      Channel.Step net.view (net.bySender S op).view := by
  by_cases hs : SenderEvent.sealed ((HpkeNg.sender S.check).event net.sender op) = true
  · obtain ⟨aad, pt, answer, ct, rfl, hlim, hct, he⟩ := sender_sealed S.check hs
    obtain rfl := hop rfl
    have hsealed : (net.bySender S (.seal aad pt S.answer)).sealed =
        net.sealed ++ [⟨aad, pt, ct⟩] := by
      rw [Net.sealed, Net.bySender, he, List.filterMap_append]
      rfl
    have hcall : net.sender.sealCall aad pt = .seal sender₀.val.cipher
        (nonceAt sender₀.val.baseNonce A.nonceLen net.sealed.length) aad pt := by
      rw [SenderContext.sealCall, hI.sealed_seq, hI.sender]
    refine ⟨⟨?_, hI.receiver, ?_, hI.accepted_seq, ?_, ?_⟩, ?_⟩
    · exact (sender_moves S.check).of _ _ hI.sender
    · rw [hsealed, List.length_append, ← hI.sealed_seq, Net.bySender, he]
      exact Context.toNat_next hlim
    · intro i m hi
      rw [hsealed] at hi
      rcases getElem?_concat_eq_some.mp hi with hi | ⟨rfl, rfl⟩
      · exact hI.sealed hi
      · rw [hcall] at hct
        exact hct
    · intro e hmem nonce aad' ct' hu
      rw [hsealed]
      rcases List.mem_append.mp hmem with hmem | hmem
      · obtain ⟨i, m, hi, hm⟩ := hI.sent hmem hu
        exact ⟨i, m, getElem?_concat_eq_some.mpr (Or.inl hi), hm⟩
      · rw [List.mem_singleton.mp hmem, he] at hu
        obtain ⟨hok, cipher, pt', hmem⟩ := hu
        have hsame := List.mem_singleton.mp hmem
        rw [hcall] at hsame
        injection hsame with _ hnonce haad _
        exact ⟨_, _, List.getElem?_concat_length, hnonce, haad.symm, Except.ok.inj hok⟩
    · have hview : (net.bySender S (.seal aad pt S.answer)).view =
          { net.view with sent := net.view.sent ++ [(aad, pt)] } := by
        rw [Net.view, hsealed, List.map_append]
        rfl
      rw [hview]
      exact .send _ _
  · -- nothing was sealed: the log grows, and nothing else changes
    have hsender : (net.bySender S op).sender = net.sender := sender_unchanged S.check hs
    have hsealed : (net.bySender S op).sealed = net.sealed := by
      rw [Net.sealed, Net.bySender, List.filterMap_append, List.filterMap_cons_none
        (Option.not_isSome_iff_eq_none.mp hs), List.filterMap_nil, List.append_nil, Net.sealed]
    have hview : (net.bySender S op).view = net.view := by
      rw [Net.view, hsealed]
      rfl
    refine ⟨⟨?_, hI.receiver, ?_, hI.accepted_seq, ?_, ?_⟩, ?_⟩
    · rw [hsender]
      exact hI.sender
    · rw [hsender, hsealed]
      exact hI.sealed_seq
    · rw [hsealed]
      exact hI.sealed
    · intro e hmem nonce aad ct hu
      rw [hsealed]
      rcases List.mem_append.mp hmem with hmem | hmem
      · exact hI.sent hmem hu
      · rw [List.mem_singleton.mp hmem] at hu
        exact absurd hu.sealed hs
    · rw [hview]
      exact .idle _

variable (hcipher : receiver₀.val.cipher = sender₀.val.cipher)
  (hbase : receiver₀.val.baseNonce = sender₀.val.baseNonce)
  (hopen : ∀ {nonce aad pt ct}, S.seal sender₀.val.cipher nonce aad pt = .ok ct →
    S.open sender₀.val.cipher nonce aad ct = .ok pt)
include hcipher hbase hopen

theorem Net.Inv.opened (hI : net.Inv S sender₀ receiver₀) {aad pt ct : Bytes}
    (hideal : net.Ideal S (.deliver aad ct))
    (ho : net.receiver.opened S aad ct = .ok pt) :
    net.sealed[net.accepted.length]? = some ⟨aad, pt, ct⟩ := by
  have ho' : S.open sender₀.val.cipher
      (nonceAt sender₀.val.baseNonce A.nonceLen net.accepted.length) aad ct = .ok pt := by
    rw [← ho, ReceiverContext.opened, hI.accepted_seq, hI.receiver]
    simp only [hcipher, hbase]
  have hk : net.receiver.val.cipher = sender₀.val.cipher := by rw [hI.receiver, ← hcipher]
  obtain ⟨e, hmem, hu⟩ := hideal _ _ (hk ▸ ho')
  obtain ⟨i, m, hi, hnonce, rfl, rfl⟩ := hI.sent hmem hu
  -- equal nonces are nonces of one message
  have hlt : i < net.sealed.length := (List.getElem?_eq_some_iff.mp hi).1
  have heq : net.accepted.length = i := by
    refine nonceAt_inj sender₀.val.baseNonce S.check ?_ ?_ hnonce
    · rw [← hI.accepted_seq]
      exact net.receiver.val.seq.toNat_lt
    · exact hlt.trans (by rw [← hI.sealed_seq]; exact net.sender.val.seq.toNat_lt)
  have hpt := hopen (hI.sealed hi)
  rw [heq] at ho' ⊢
  rw [hi, ← Except.ok.inj (hpt.symm.trans ho')]

theorem Net.Inv.byReceiver (hI : net.Inv S sender₀ receiver₀)
    {op : ReceiverOp} (hideal : ∀ {aad ct}, op = .open aad ct → net.Ideal S (.deliver aad ct)) :
    (net.byReceiver S op).Inv S sender₀ receiver₀ ∧
      Channel.Step net.view (net.byReceiver S op).view := by
  have hof : receiver₀.val.Of (net.byReceiver S op).receiver.val :=
    (receiver_moves S).of _ _ hI.receiver
  cases ha : ReceiverEvent.accepted ((HpkeNg.receiver S).event net.receiver op) with
  | none =>
    have hreceiver : (net.byReceiver S op).receiver = net.receiver := receiver_unchanged S ha
    have haccepted : (net.byReceiver S op).accepted = net.accepted := by
      rw [Net.accepted, Net.byReceiver, List.filterMap_append, List.filterMap_cons_none ha,
        List.filterMap_nil, List.append_nil, Net.accepted]
    refine ⟨⟨hI.sender, hof, hI.sealed_seq, ?_, hI.sealed, hI.sent⟩, ?_⟩
    · rw [hreceiver, haccepted]
      exact hI.accepted_seq
    · have hview : (net.byReceiver S op).view = net.view := by
        rw [Net.view, haccepted]
        rfl
      rw [hview]
      exact .idle _
  | some m =>
    obtain ⟨aad, pt⟩ := m
    obtain ⟨ct, rfl, hlim, ho, hnext⟩ := receiver_accepted S ha
    have hreceiver : (net.byReceiver S (.open aad ct)).receiver = ⟨net.receiver.val.next⟩ := hnext
    have haccepted : (net.byReceiver S (.open aad ct)).accepted = net.accepted ++ [(aad, pt)] := by
      rw [Net.accepted, Net.byReceiver, List.filterMap_append, List.filterMap_cons_some ha,
        List.filterMap_nil, Net.accepted]
    have hm := hI.opened hcipher hbase hopen (hideal rfl) ho
    refine ⟨⟨hI.sender, hof, hI.sealed_seq, ?_, hI.sealed, hI.sent⟩, ?_⟩
    · rw [hreceiver, haccepted, List.length_append, ← hI.accepted_seq]
      exact Context.toNat_next hlim
    · have hview : (net.byReceiver S (.open aad ct)).view =
          { net.view with received := net.view.received ++ [(aad, pt)] } := by
        rw [Net.view, haccepted]
        rfl
      rw [hview]
      refine .receive _ _ ?_
      change (net.sealed.map _)[net.accepted.length]? = _
      rw [List.getElem?_map, hm]
      rfl

/-- **Every step of the network keeps the invariant and is a step of the channel.** -/
theorem Net.Inv.step (hI : net.Inv S sender₀ receiver₀) {net' : Net K F A} (h : net.Step S net') :
    net'.Inv S sender₀ receiver₀ ∧ Channel.Step net.view net'.view := by
  obtain ⟨act, hideal, rfl⟩ := h
  cases act with
  | «seal» aad pt => exact hI.bySender (by rintro _ _ _ ⟨⟩; rfl)
  | deliver aad ct => exact hI.byReceiver hcipher hbase hopen (by rintro _ _ ⟨⟩; exact hideal)
  | senderExport ec length => exact hI.bySender (by rintro _ _ _ ⟨⟩)
  | receiverExport ec length => exact hI.byReceiver hcipher hbase hopen (by rintro _ _ ⟨⟩)

theorem Net.Inv.open_next (hI : net.Inv S sender₀ receiver₀) {m : Message}
    (hm : net.sealed[net.accepted.length]? = some m) :
    (net.receiver.open S m.aad m.ct).run = (.ok m.pt, ⟨net.receiver.val.next⟩) := by
  have hlt : net.accepted.length < net.sealed.length := (List.getElem?_eq_some_iff.mp hm).1
  have hlim : net.receiver.val.seq ≠ seqMax := by
    intro hmax
    have hr : net.accepted.length = 2 ^ 64 - 1 := by rw [← hI.accepted_seq, hmax]; rfl
    have hs := net.sender.val.seq.toNat_lt
    rw [hI.sealed_seq] at hs
    omega
  have ho : net.receiver.opened S m.aad m.ct = .ok m.pt := by
    rw [ReceiverContext.opened, hI.accepted_seq, hI.receiver]
    simp only [hcipher, hbase]
    exact hopen (hI.sealed hm)
  have hstep := receiver_step_open S net.receiver m.aad m.ct
  rw [if_neg hlim, ho] at hstep
  exact hstep

end Inv

theorem receiver_fails {c : Crates R} {a : SealingAlg} {ctx ctx' : ReceiverContext K F (a.aead c)}
    {aad ct : Bytes} {f : Fault HpkeError}
    (h : (ctx.open (a.sealing c) aad ct).run = (.error f, ctx')) :
    ctx' = ctx ∧ f = .err (if ctx.val.seq = seqMax then .messageLimitReached else .openError) := by
  have hstep := receiver_step_open (a.sealing c) ctx aad ct
  replace hstep := hstep.symm.trans h
  by_cases hlim : ctx.val.seq = seqMax
  · rw [if_pos hlim] at hstep ⊢
    obtain ⟨hf, hctx⟩ := Prod.mk.inj hstep
    exact ⟨hctx.symm, (Except.error.inj hf).symm⟩
  · rw [if_neg hlim] at hstep ⊢
    obtain ⟨hf, hctx⟩ := Prod.mk.inj hstep
    rw [hf] at hctx
    exact ⟨hctx.symm, a.open_fault hf⟩

/-- **The receiver accepts what the sender sealed, in order, each message once.** The network may
reorder, repeat, drop or relabel ciphertexts and make up its own: what the receiver has accepted is
a prefix of what was sealed, its counter is the length of that prefix, a failing `open` changes
nothing, and the next message still opens. -/
theorem net_in_order {c : Crates R} (ha : c.AeadDocumented) (a : SealingAlg)
    {sender₀ : SenderContext K F (a.aead c)} {receiver₀ : ReceiverContext K F (a.aead c)}
    (hcipher : receiver₀.val.cipher = sender₀.val.cipher)
    (hbase : receiver₀.val.baseNonce = sender₀.val.baseNonce) (hs : sender₀.val.seq = 0)
    (hr : receiver₀.val.seq = 0) {net : Net K F (a.aead c)}
    (h : Relation.ReflTransGen (Net.Step (a.sealing c)) ⟨sender₀, receiver₀, [], []⟩ net) :
    net.accepted <+: (net.sealed.map fun m => (m.aad, m.pt)) ∧
      net.receiver.val.seq.toNat = net.accepted.length ∧
      (∀ aad ct f receiver', (net.receiver.open (a.sealing c) aad ct).run = (.error f, receiver') →
        receiver' = net.receiver ∧
          f = .err (if net.receiver.val.seq = seqMax then .messageLimitReached else .openError)) ∧
      ∀ m, net.sealed[net.accepted.length]? = some m →
        (net.receiver.open (a.sealing c) m.aad m.ct).run = (.ok m.pt, ⟨net.receiver.val.next⟩) := by
  have hopen : ∀ {nonce aad pt ct}, (a.sealing c).seal sender₀.val.cipher nonce aad pt = .ok ct →
      (a.sealing c).open sender₀.val.cipher nonce aad ct = .ok pt := fun h => a.open_seal ha h
  have h₀ : Net.Inv (a.sealing c) sender₀ receiver₀ ⟨sender₀, receiver₀, [], []⟩ := by
    refine ⟨rfl, rfl, ?_, ?_, ?_, ?_⟩
    · rw [hs]; rfl
    · rw [hr]; rfl
    · intro i m hi
      cases hi
    · intro e he
      cases he
  obtain ⟨hI, horder⟩ := Channel.isPrefix_of_refines Net.view
    (fun _ _ hI hstep => Net.Inv.step hcipher hbase hopen hI hstep) h₀ rfl h
  exact ⟨horder, hI.accepted_seq, fun _ _ _ _ => receiver_fails,
    fun _ => hI.open_next hcipher hbase hopen⟩

/-- A message, delivered and replayed. -/
theorem net_in_order_aes128 :
    let K := mlKem768 Sample.crates
    let F := KdfAlg.hkdfSha256.kdf Sample.crates
    let S := SealingAlg.aes128Gcm.sealing Sample.crates
    let ctx : Context K F (SealingAlg.aes128Gcm.aead Sample.crates) :=
      { cipher := (⟨List.replicate 16 7, rfl⟩ : Arr 16), baseNonce := zeros 12,
        exporterSecret := [], seq := 0, rawKey := List.replicate 16 7 }
    let net₁ := (⟨⟨ctx⟩, ⟨ctx⟩, [], []⟩ : Net K F _).step S (.seal [1] [2])
    ∃ m, net₁.sealed = [m] ∧
      let net := (net₁.step S (.deliver m.aad m.ct)).step S (.deliver m.aad m.ct)
      net.accepted <+: (net.sealed.map fun m => (m.aad, m.pt)) ∧
        net.receiver.val.seq.toNat = net.accepted.length := by
  intro K F S ctx net₁
  obtain ⟨ct, hct⟩ : ∃ ct, S.seal ctx.cipher (nonceAt ctx.baseNonce 12 0) [1] [2] = .ok ct :=
    isOk_iff.mp (by decide +kernel)
  have hstep := sender_step_seal S.check (⟨ctx⟩ : SenderContext K F _) [1] [2] S.answer
  rw [if_neg (by decide)] at hstep
  have he : (sender S.check).event (⟨ctx⟩ : SenderContext K F _) (.seal [1] [2] S.answer) =
      ⟨.seal [1] [2] S.answer, ⟨ctx⟩,
        (.ok ct, [.seal ctx.cipher (nonceAt ctx.baseNonce 12 0) [1] [2]]), ⟨ctx.next⟩⟩ := by
    have hanswer : S.answer ((⟨ctx⟩ : SenderContext K F _).sealCall [1] [2]) = .ok ct := hct
    rw [Machine.event, hstep, hanswer]
    rfl
  have hsent : net₁.sent = [(sender S.check).event ⟨ctx⟩ (.seal [1] [2] S.answer)] := rfl
  have hideal : ∀ {net : Net K F _}, net.sent = net₁.sent → ctx.Of net.receiver.val →
      net.Ideal S (.deliver [1] ct) := by
    intro net hlog hof nonce pt hopen
    have hk : net.receiver.val.cipher = ctx.cipher := by rw [hof]
    rw [hk] at hopen
    have hinit : ((SealingAlg.aes128Gcm).aead Sample.crates).init (List.replicate 16 7) =
      .ok ctx.cipher := rfl
    obtain ⟨-, rfl, -, -⟩ := Sample.committing .aes128Gcm hinit hinit hct hopen
    rw [hlog, hsent, he]
    exact ⟨_, List.mem_singleton_self _, rfl, _, _, List.mem_singleton_self _⟩
  refine ⟨⟨[1], [2], ct⟩, ?_, ?_⟩
  · rw [Net.sealed, hsent, he]
    rfl
  · intro net
    have hof : ctx.Of net₁.sender.val ∧ ctx.Of net₁.receiver.val :=
      Net.of_step S ⟨⟨ctx⟩, ⟨ctx⟩, [], []⟩ (show ctx.Of ctx from rfl) (show ctx.Of ctx from rfl)
        (.seal [1] [2])
    have hof' := net₁.of_step S hof.1 hof.2 (.deliver [1] ct)
    have h₁ : Net.Step S ⟨⟨ctx⟩, ⟨ctx⟩, [], []⟩ net₁ := ⟨.seal [1] [2], trivial, rfl⟩
    have h₂ : Net.Step S net₁ (net₁.step S (.deliver [1] ct)) :=
      ⟨.deliver [1] ct, hideal rfl hof.2, rfl⟩
    have h₃ : Net.Step S (net₁.step S (.deliver [1] ct)) net :=
      ⟨.deliver [1] ct, hideal (net₁.sent_deliver S [1] ct) hof'.2, rfl⟩
    obtain ⟨horder, hseq, -⟩ := net_in_order Sample.aeadDocumented .aes128Gcm rfl rfl rfl rfl
      (((Relation.ReflTransGen.single h₁).tail h₂).tail h₃)
    exact ⟨horder, hseq⟩

end HpkeNg

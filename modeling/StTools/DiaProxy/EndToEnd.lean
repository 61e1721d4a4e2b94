import StTools.DiaProxy.RunRule

/-!
# End-to-end identifiers

A request goes to the server with an end-to-end identifier that is made of the position of its
client, the seed of the proxy and a counter of the client thread.  The counter runs from 0 to 7295
and starts again.  It goes on with every request that was given a transaction record, also when the
request is then refused because the server connection is down or its queue is full.

Identifiers of different positions or seeds differ.  At one position an identifier comes again after
7296 requests that were given a record, and not before.
-/

namespace DiaProxy

/-! ## Packing -/

/-- The identifier before it is stored in 32 bits. -/
def packed (pos : ℤ) (seed counter : ℕ) : ℤ := (pos + 1) * 1000000 + seed * 10000 + counter

/-- The identifier fits into 32 bits. -/
lemma packed_bounds {pos : ℤ} {seed counter : ℕ} (hpos : 0 ≤ pos ∧ pos ≤ 999) (hseed : seed ≤ 96)
    (hcounter : counter ≤ 7295) : 0 ≤ packed pos seed counter ∧ packed pos seed counter < 2 ^ 32 := by
  unfold packed
  omega

/-- The parts can be read back. -/
lemma packed_inj {pos pos' : ℤ} {seed seed' counter counter' : ℕ} (hseed : seed ≤ 96)
    (hseed' : seed' ≤ 96) (hcounter : counter ≤ 7295) (hcounter' : counter' ≤ 7295)
    (h : packed pos seed counter = packed pos' seed' counter') :
    pos = pos' ∧ seed = seed' ∧ counter = counter' := by
  unfold packed at h
  omega

/-- A value that fits into 32 bits is stored as it is. -/
lemma toNat_ofInt_of_lt {i : ℤ} (hpos : 0 ≤ i) (hlt : i < 2 ^ 32) :
    ((UInt32.ofInt i).toNat : ℤ) = i := by
  have hmod : i % 2 ^ 32 = i := Int.emod_eq_of_lt hpos hlt
  rw [UInt32.ofInt, hmod, UInt32.toNat_ofNat_of_lt' (by change i.toNat < 4294967296; omega)]
  exact Int.toNat_of_nonneg hpos

/-! ## The counter of a client thread -/

namespace Proxy

/-- Whether a request of a client was given a record, and then whether it was forwarded. -/
def requestForwarded (s : Proxy) (nr sender counterE2e : ℕ) (buff : Mem) (toreceive : ℕ) :
    Option Bool :=
  let tag := s.requestTag nr sender s.requests buff
  match (s.receiveRequest nr).findTransaction with
  | (_, none) => none
  | (s, some slot) =>
    let s := s.fillTransaction slot tag
    some (s.queueRequestToServer nr
      (s.requestToServerMessage nr counterE2e tag buff toreceive slot)).2

/-- The same for a message of a client; other messages are not given a record. -/
def messageForwarded (s : Proxy) (nr sender counterE2e : ℕ) (buff : Mem) (toreceive : ℕ) :
    Option Bool :=
  match s.selectConnection nr buff toreceive with
  | none => none
  | some s =>
    if buff.cmdCode = cmdCodeCer ∨ buff.cmdCode ∈ serverRequestCodes then none
    else s.requestForwarded nr sender counterE2e buff toreceive

end Proxy

/-- A request that was given a record. -/
structure Numbered where
  /-- The position of its client. -/
  pos : ℤ
  /-- The end-to-end identifier in its header afterwards. -/
  end2end : UInt32
  /-- Whether it was forwarded. -/
  forwarded : Bool
  deriving DecidableEq, Repr

/-- The proxy, and what one client thread knows. -/
structure NumberingState where
  proxy : Proxy
  /-- `counter_e2e`. -/
  counterE2e : ℕ := 0
  /-- Ghost: the requests that the thread gave a record, newest first. -/
  numbered : List Numbered := []

/-- The counter goes on. -/
def nextCounterE2e (counterE2e : ℕ) : ℕ := if counterE2e = 7295 then 0 else counterE2e + 1

/-- What can happen next. -/
inductive NumberingEvent
  /-- The thread handles a message of one of its clients. -/
  | message (nr sender : ℕ) (buff : Mem) (toreceive answers : ℕ)
  /-- The thread ends, and one that is started in its place begins to count. -/
  | restart
  /-- Anything else happens. -/
  | other (e : Event)

/-- One step, with what a client thread notes. -/
def numberingStep (thread : ℕ) (s : NumberingState) : NumberingEvent → Option NumberingState
  | .message nr sender buff toreceive answers =>
    (step s.proxy (.clientMessage thread nr sender s.counterE2e buff toreceive answers)).map
      fun proxy =>
        match s.proxy.messageForwarded nr sender s.counterE2e buff toreceive with
        | none => { s with proxy := proxy }
        | some forwarded =>
          let head :=
            (s.proxy.clientMessage thread nr sender s.counterE2e buff toreceive answers).2
          { proxy := proxy
            counterE2e := nextCounterE2e s.counterE2e
            numbered := ⟨(s.proxy.client nr).pos, head.end2end, forwarded⟩ :: s.numbered }
  | .restart => (step s.proxy (.exitClientThread thread)).map fun proxy => { proxy := proxy }
  | .other e => (step s.proxy e).map fun proxy => { s with proxy := proxy }

/-- The thread is started with the proxy. -/
def NumberingState.init (cerData : CerData) : NumberingState := { proxy := Proxy.init cerData }

/-! ## The identifiers that were given -/

/-- The search for a record keeps the clients and the configuration. -/
lemma findTransaction_keeps (s : Proxy) :
    s.findTransaction.1.vClient = s.vClient ∧ s.findTransaction.1.cerData = s.cerData := by
  unfold Proxy.findTransaction
  dsimp only
  split <;> exact ⟨rfl, rfl⟩

/-- A request that is given a record leaves with the identifier that is made for it. -/
lemma end2end_clientRequest {s : Proxy} {nr sender counterE2e : ℕ} {buff : Mem} {toreceive : ℕ}
    {forwarded : Bool} (h : s.requestForwarded nr sender counterE2e buff toreceive = some forwarded) :
    (s.clientRequest nr sender counterE2e buff toreceive).2.end2end =
      UInt32.ofInt (packed (s.client nr).pos s.cerData.e2eSeed counterE2e) := by
  obtain ⟨hclients, hdata⟩ := findTransaction_keeps (s.receiveRequest nr)
  unfold Proxy.requestForwarded at h
  rcases hfind : (s.receiveRequest nr).findTransaction with ⟨t, _ | slot⟩ <;>
    rw [hfind] at h hclients hdata
  · cases h
  · have hsent : (s.clientRequest nr sender counterE2e buff toreceive).2 =
        (t.fillTransaction slot (s.requestTag nr sender s.requests buff)).requestToServer nr
          counterE2e slot buff := by
      unfold Proxy.clientRequest
      simp only [hfind]
    rw [hsent, Proxy.requestToServer, Mem.end2end_setHop2hop, Mem.end2end_setEnd2end]
    change UInt32.ofInt (packed (Table.read t.vClient {} nr).pos t.cerData.e2eSeed counterE2e) = _
    rw [show t.vClient = s.vClient from hclients, show t.cerData = s.cerData from hdata]
    rfl

/-- A message that is given a record leaves with the identifier that is made for it. -/
theorem end2end_clientMessage {s : Proxy} {thread nr sender counterE2e : ℕ} {buff : Mem}
    {toreceive : ℕ} {forwarded : Bool} (answers : ℕ)
    (h : s.messageForwarded nr sender counterE2e buff toreceive = some forwarded) :
    (s.clientMessage thread nr sender counterE2e buff toreceive answers).2.end2end =
      UInt32.ofInt (packed (s.client nr).pos s.cerData.e2eSeed counterE2e) := by
  unfold Proxy.messageForwarded at h
  unfold Proxy.clientMessage
  cases hselect : s.selectConnection nr buff toreceive with
  | none =>
    rw [hselect] at h
    cases h
  | some t =>
    rw [hselect] at h
    dsimp only at h ⊢
    split at h
    · cases h
    · rename_i hcode
      rw [not_or] at hcode
      have hpos : (t.client nr).pos = (s.client nr).pos :=
        Proxy.selectConnection_client ClientConnection.pos (fun _ _ => rfl) hselect nr
      have hdata : t.cerData = s.cerData := by
        obtain ⟨_, _, rfl, -⟩ := Proxy.selectConnection_eq hselect
        rfl
      rw [if_neg hcode.1, if_neg hcode.2, end2end_clientRequest h, hpos, hdata]

/-- The configuration does not change. -/
lemma cerData_isInvariant (cerData : CerData) (L : Limits) :
    IsInvariant (fun s => s.cerData = cerData) L where
  logged := by
    rintro s s' h ⟨_, _, _, _, rfl⟩
    exact h
  client _ _ _ h := h
  register _ _ _ _ _ h := h
  cursor _ h := h
  closeClient _ _ _ _ _ h := h
  exitThread _ _ _ h := h
  enqueue _ _ _ _ h := h
  answered _ _ _ _ _ h := h
  clientRequest _ _ _ _ _ _ _ _ hout h := by
    cases hout with
    | noSlot next hnone hnext hs' =>
      obtain ⟨_, _, _, _, rfl⟩ := hs'
      exact h
    | refused next slot hacc hslot hfree hnext hs' =>
      obtain ⟨_, _, _, _, rfl⟩ := hs'
      exact h
    | queued next slot hacc hslot hfree hnext hs' =>
      obtain ⟨_, _, _, _, rfl⟩ := hs'
      exact h
  discard h := h
  serverRequest _ _ _ _ _ _ hout h := by
    cases hout with
    | noSlot next hnone hnext hs' =>
      obtain ⟨_, _, _, _, rfl⟩ := hs'
      exact h
    | refused next slot hacc hslot hfree hnext hs' =>
      obtain ⟨_, _, _, _, rfl⟩ := hs'
      exact h
    | queued next slot hacc hslot hfree hnext hs' =>
      obtain ⟨_, _, _, _, rfl⟩ := hs'
      exact h
  finish _ _ _ _ _ h := h
  advance _ _ _ _ h := h
  skip _ _ _ _ _ h := h
  drop _ _ _ _ h := h
  connection _ _ h := h
  startDia _ _ h := h
  cleanDia _ _ h := h
  connect _ _ _ _ _ h := h
  openQueue _ h := h
  accept _ _ _ _ _ _ _ _ _ _ h := h
  processing h := h
  supervise _ _ h := h
  forget h := h
  freed _ h := h
  purge _ _ _ _ h := h

/-- The invariant of the numbering: the identifiers are those of the counter, one after the
other. -/
structure NumberingInv (cerData : CerData) (s : NumberingState) : Prop where
  /-- The tables have their sizes. -/
  sized : Sized s.proxy
  /-- The configuration. -/
  data : s.proxy.cerData = cerData
  /-- The counter is the number of requests, in turns of 7296. -/
  counter : s.counterE2e = s.numbered.length % 7296
  /-- The identifiers. -/
  ids : ∀ k g, s.numbered[k]? = some g → g.end2end = UInt32.ofInt
    (packed g.pos cerData.e2eSeed ((s.numbered.length - 1 - k) % 7296))

/-- The counter goes on in turns of 7296. -/
lemma nextCounterE2e_mod (n : ℕ) : nextCounterE2e (n % 7296) = (n + 1) % 7296 := by
  unfold nextCounterE2e
  split <;> omega

/-- What happens elsewhere keeps the invariant. -/
lemma NumberingInv.proxy {cerData : CerData} {s : NumberingState} (h : NumberingInv cerData s)
    {e : Event} {proxy : Proxy} (hstep : step s.proxy e = some proxy) :
    NumberingInv cerData { s with proxy := proxy } where
  sized := (sized_isInvariant Limits.none).of_step h.sized (Limits.none_allows _ _) hstep h.sized
  data := (cerData_isInvariant cerData Limits.none).of_step h.sized (Limits.none_allows _ _) hstep
    h.data
  counter := h.counter
  ids := h.ids

/-- Every step keeps the invariant. -/
lemma NumberingInv.step {cerData : CerData} {thread : ℕ} {s s' : NumberingState}
    (h : NumberingInv cerData s) {e : NumberingEvent} (hstep : numberingStep thread s e = some s') :
    NumberingInv cerData s' := by
  cases e with
  | other e =>
    obtain ⟨proxy, hproxy, rfl⟩ := Option.map_eq_some_iff.mp hstep
    exact h.proxy hproxy
  | restart =>
    obtain ⟨proxy, hproxy, rfl⟩ := Option.map_eq_some_iff.mp hstep
    have hkept := h.proxy hproxy
    exact ⟨hkept.sized, hkept.data, rfl, fun k g hk => by simp at hk⟩
  | message nr sender buff toreceive answers =>
    obtain ⟨proxy, hproxy, rfl⟩ := Option.map_eq_some_iff.mp hstep
    have hkept := h.proxy hproxy
    cases hforwarded : s.proxy.messageForwarded nr sender s.counterE2e buff toreceive with
    | none => exact hkept
    | some forwarded =>
      constructor
      · exact hkept.sized
      · exact hkept.data
      · rw [List.length_cons, h.counter, nextCounterE2e_mod]
      · intro k g hk
        cases k with
        | zero =>
          obtain rfl := Option.some.inj hk
          rw [end2end_clientMessage answers hforwarded, h.data, h.counter]
          rfl
        | succ k =>
          rw [List.getElem?_cons_succ] at hk
          rw [h.ids k g hk, List.length_cons,
            show s.numbered.length + 1 - 1 - (k + 1) = s.numbered.length - 1 - k by omega]

/-- The invariant holds after every run. -/
lemma numberingInv_of_exec {cerData : CerData} {thread : ℕ} {es : List NumberingEvent}
    {s : NumberingState}
    (hexec : LabelledSystem.exec (numberingStep thread) (.init cerData) es = some s) :
    NumberingInv cerData s :=
  LabelledSystem.exec_of_step (fun _ _ _ h hstep => h.step hstep)
    ⟨sized_init cerData, rfl, rfl, fun _ _ hk => by simp [NumberingState.init] at hk⟩ hexec

/-- The position is one of the thousand that a proxy has. -/
def Numbered.InPosition (g : Numbered) : Prop := 0 ≤ g.pos ∧ g.pos ≤ 999

instance (g : Numbered) : Decidable g.InPosition := inferInstanceAs (Decidable (_ ∧ _))

/-- What is expected of the requests that a thread gave records, besides those of a thread of the
same proxy or of another. -/
structure IdsApart (seed seed' : ℕ) (numbered numbered' : List Numbered) : Prop where
  /-- An identifier is the packed value, and that fits into 32 bits. -/
  fits : ∀ g ∈ numbered, g.InPosition → ∃ counter ≤ 7295,
    packed g.pos seed counter < 2 ^ 32 ∧ (g.end2end.toNat : ℤ) = packed g.pos seed counter
  /-- Identifiers of different positions or seeds differ. -/
  differ : ∀ g ∈ numbered, ∀ g' ∈ numbered', g.InPosition → g'.InPosition →
    (g.pos, seed) ≠ (g'.pos, seed') → g.end2end ≠ g'.end2end
  /-- At one position an identifier comes again only if 7295 requests were given a record in
  between. -/
  turns : ∀ i j g g', numbered[i]? = some g → numbered[j]? = some g' → i < j → g.InPosition →
    g.pos = g'.pos → g.end2end = g'.end2end → 7295 ≤ j - i - 1

/-- The identifier of a request that was given a record, as a number. -/
lemma NumberingInv.toNat_end2end {cerData : CerData} {s : NumberingState}
    (h : NumberingInv cerData s) (hseed : cerData.e2eSeed ≤ 96) {k : ℕ} {g : Numbered}
    (hk : s.numbered[k]? = some g) (hg : g.InPosition) :
    packed g.pos cerData.e2eSeed ((s.numbered.length - 1 - k) % 7296) < 2 ^ 32 ∧
      (g.end2end.toNat : ℤ) =
        packed g.pos cerData.e2eSeed ((s.numbered.length - 1 - k) % 7296) := by
  have hcounter : (s.numbered.length - 1 - k) % 7296 ≤ 7295 := by omega
  obtain ⟨hpos, hlt⟩ := packed_bounds hg hseed hcounter
  exact ⟨hlt, by rw [h.ids k g hk, toNat_ofInt_of_lt hpos hlt]⟩

/-- **End-to-end identifiers of client threads.**  After any two runs of a thread, of one proxy or
of two, the identifiers of different positions or seeds differ and fit into 32 bits; and at one
position an identifier comes again only if the thread gave 7295 other requests a record in between,
whether or not they were forwarded. -/
theorem idsApart {cerData cerData' : CerData} (hseed : cerData.e2eSeed ≤ 96)
    (hseed' : cerData'.e2eSeed ≤ 96) {thread thread' : ℕ} {es es' : List NumberingEvent}
    {s s' : NumberingState}
    (hexec : LabelledSystem.exec (numberingStep thread) (.init cerData) es = some s)
    (hexec' : LabelledSystem.exec (numberingStep thread') (.init cerData') es' = some s') :
    IdsApart cerData.e2eSeed cerData'.e2eSeed s.numbered s'.numbered := by
  have h := numberingInv_of_exec hexec
  have h' := numberingInv_of_exec hexec'
  constructor
  · intro g hg hpos
    obtain ⟨k, hk⟩ := List.mem_iff_getElem?.mp hg
    exact ⟨_, by omega, h.toNat_end2end hseed hk hpos⟩
  · intro g hg g' hg' hpos hpos' hne heq
    obtain ⟨k, hk⟩ := List.mem_iff_getElem?.mp hg
    obtain ⟨k', hk'⟩ := List.mem_iff_getElem?.mp hg'
    have hid := (h.toNat_end2end hseed hk hpos).2
    rw [heq, (h'.toNat_end2end hseed' hk' hpos').2] at hid
    obtain ⟨hp, hs, -⟩ := packed_inj hseed' hseed (by omega) (by omega) hid
    exact hne (by rw [hp, hs])
  · intro i j g g' hi hj hij hpos hsame heq
    have hid := (h.toNat_end2end hseed hi hpos).2
    have hpos' : g'.InPosition := by unfold Numbered.InPosition at hpos ⊢; rwa [← hsame]
    rw [heq, (h.toNat_end2end hseed hj hpos').2] at hid
    obtain ⟨-, -, hcounter⟩ := packed_inj hseed hseed (by omega) (by omega) hid
    obtain ⟨hjlt, -⟩ := List.getElem?_eq_some_iff.mp hj
    omega

/-! ## Requests that are refused -/

/-- A request is forwarded when there is a record and its server connection takes it. -/
theorem requestForwarded_iff (s : Proxy) (nr sender counterE2e : ℕ) (buff : Mem) (toreceive : ℕ)
    (hcur : s.nextTransaction < s.vTransaction.length) (hfree : s.HasFreeTransaction) :
    ∃ forwarded, s.requestForwarded nr sender counterE2e buff toreceive = some forwarded ∧
      (forwarded = true ↔ s.Accepts
        ((s.connection (s.client nr).diaServerConnection).status = .connected)
        (s.connection (s.client nr).diaServerConnection).sockId) := by
  unfold Proxy.requestForwarded
  generalize s.requestTag nr sender s.requests buff = tag
  dsimp only
  have hreceive : Proxy.Logged { s with requests := s.requests + 1 } (s.receiveRequest nr) :=
    ⟨_, _, _, _, rfl⟩
  rcases hreceive.findTransaction_cases hcur with
    ⟨slot, next, t, -, -, -, hfind, hlog⟩ | ⟨hnone, -⟩
  · rw [hfind]
    have hfill : (s.withRequest next slot fun t => Transaction.fill { t with status := .used }
        tag).Logged (t.fillTransaction slot tag) := by
      obtain ⟨_, _, _, _, rfl⟩ := hlog
      unfold Proxy.fillTransaction Proxy.setTransaction Proxy.withRequest
      rw [Table.modify_modify]
      exact ⟨_, _, _, _, rfl⟩
    dsimp only
    generalize t.fillTransaction slot tag = t at hfill ⊢
    refine ⟨_, rfl, ?_⟩
    rw [hfill.requestToServerMessage_eq]
    delta Proxy.queueRequestToServer
    rw [hfill.client_eq, hfill.connection_eq]
    rcases (hfill.trans (Proxy.logged_uses _
        (.connection (s.client nr).diaServerConnection))).queueIf
        ((s.connection (s.client nr).diaServerConnection).status = .connected)
        (s.connection (s.client nr).diaServerConnection).sockId
        (s.requestToServerMessage nr counterE2e tag buff toreceive slot) with
      ⟨hacc, -, hfalse⟩ | ⟨hacc, -, htrue⟩
    · exact iff_of_false (by
        intro heq
        exact absurd (hfalse.symm.trans heq) (by decide)) hacc
    · exact iff_of_true htrue hacc
  · exact absurd hfree hnone

/-- A request of an application that is only a header; its command code is 316. -/
def applicationRequest (appId : UInt8) : Mem :=
  Mem.load [1, 0, 0, 20, 0xc0, 0, 1, 60, 1, 0, 0, appId, 0, 0, 0, 0, 0, 0, 0, 0] fun _ => 0

/-- The first client has an ISM connection that is down and an ESM connection that takes requests,
and there is a record for its next request. -/
structure Prepared (s : Proxy) : Prop where
  ism : s.cerData.ismPort ≠ 0
  handles : s.MayHandle 0 0
  cursor : s.nextTransaction < s.vTransaction.length
  free : s.HasFreeTransaction
  pos : (s.client 0).pos = 0
  ismDown : (s.connection (s.client 0).ismServerConnection).status ≠ .connected
  esmUp : (s.connection (s.client 0).esmServerConnection).status = .connected
  esmQueue : (s.mPendingToSend.lookup (s.connection (s.client 0).esmServerConnection).sockId).any
    fun queue => queue.length ≤ s.cerData.maxSizeMessageQueue

/-- The ESM connection takes a request. -/
lemma Prepared.accepts {s : Proxy} (h : Prepared s) :
    s.Accepts ((s.connection (s.client 0).esmServerConnection).status = .connected)
      (s.connection (s.client 0).esmServerConnection).sockId := by
  obtain ⟨queue, hlookup, hle⟩ := (Option.any_eq_true _ _).mp h.esmQueue
  refine ⟨h.esmUp, ?_, queue, hlookup⟩
  rintro ⟨queue', hlookup', hgt⟩
  obtain rfl := Option.some.inj (hlookup.symm.trans hlookup')
  exact absurd (of_decide_eq_true hle) (Nat.not_le.mpr hgt)

/-- A message of the first client that chooses a connection is handled as a request. -/
lemma numberingStep_request {s : NumberingState} (h : Prepared s.proxy) {appId : UInt8} {t : Proxy}
    (hselect : s.proxy.selectConnection 0 (applicationRequest appId) 20 = some t)
    (hcode : (applicationRequest appId).cmdCode = 316) :
    ∃ (forwarded : Bool) (g : Numbered), g.pos = 0 ∧ g.forwarded = forwarded ∧
      (forwarded = true ↔ t.Accepts
        ((t.connection (t.client 0).diaServerConnection).status = .connected)
        (t.connection (t.client 0).diaServerConnection).sockId) ∧
      numberingStep 0 s (.message 0 0 (applicationRequest appId) 20 0) = some
        { proxy := (t.clientRequest 0 0 s.counterE2e (applicationRequest appId) 20).1
          counterE2e := nextCounterE2e s.counterE2e
          numbered := g :: s.numbered } := by
  have hnotCer : (applicationRequest appId).cmdCode ≠ cmdCodeCer := by rw [hcode]; decide
  have hnotAnswer : (applicationRequest appId).cmdCode ∉ serverRequestCodes := by
    rw [hcode]
    decide
  have hcursor : t.nextTransaction < t.vTransaction.length ∧ t.HasFreeTransaction := by
    obtain ⟨_, _, rfl, -⟩ := Proxy.selectConnection_eq hselect
    exact ⟨h.cursor, h.free⟩
  obtain ⟨forwarded, hforwarded, hiff⟩ := requestForwarded_iff t 0 0 s.counterE2e
    (applicationRequest appId) 20 hcursor.1 hcursor.2
  refine ⟨forwarded, ⟨(s.proxy.client 0).pos, (t.clientRequest 0 0 s.counterE2e
    (applicationRequest appId) 20).2.end2end, forwarded⟩, h.pos, rfl, hiff, ?_⟩
  have hmessage : s.proxy.messageForwarded 0 0 s.counterE2e (applicationRequest appId) 20 =
      some forwarded := by
    unfold Proxy.messageForwarded
    rw [hselect]
    dsimp only
    rw [if_neg (not_or.mpr ⟨hnotCer, hnotAnswer⟩), hforwarded]
  have hclient : s.proxy.clientMessage 0 0 0 s.counterE2e (applicationRequest appId) 20 0 =
      t.clientRequest 0 0 s.counterE2e (applicationRequest appId) 20 := by
    unfold Proxy.clientMessage
    rw [hselect]
    dsimp only
    rw [if_neg hnotCer, if_neg hnotAnswer]
  have hstep : step s.proxy (.clientMessage 0 0 0 s.counterE2e (applicationRequest appId) 20 0) =
      some (t.clientRequest 0 0 s.counterE2e (applicationRequest appId) 20).1 :=
    (if_pos ⟨h.handles, by rw [Proxy.failedScan_eq_none hselect hnotCer]; rfl⟩).trans
      (by rw [hclient])
  unfold numberingStep
  dsimp only
  rw [hstep, hmessage, Option.map_some, hclient]
  rfl

/-- An ISM request of the first client is given a record and refused. -/
lemma Prepared.ismRequest {s : NumberingState} (h : Prepared s.proxy) :
    ∃ s' g, numberingStep 0 s (.message 0 0 (applicationRequest 0) 20 0) = some s' ∧
      Prepared s'.proxy ∧ s'.numbered = g :: s.numbered ∧ g.pos = 0 ∧ g.forwarded = false := by
  let t := s.proxy.setClient 0 fun c => { c with diaServerConnection := c.ismServerConnection }
  have hselect : s.proxy.selectConnection 0 (applicationRequest 0) 20 = some t := by
    unfold Proxy.selectConnection
    rw [if_neg h.ism]
    exact if_pos (by decide +kernel)
  have hrange : Table.InRange s.proxy.vClient 0 := ⟨le_rfl, Int.ofNat_lt.mpr h.handles.1⟩
  have hclient : t.client 0 = { s.proxy.client 0 with
      diaServerConnection := (s.proxy.client 0).ismServerConnection } :=
    Table.read_modify_self _ hrange
  have hdown : (t.connection (t.client 0).diaServerConnection).status ≠ .connected := by
    rw [hclient]
    exact h.ismDown
  obtain ⟨forwarded, g, hpos, hg, hiff, hstep⟩ :=
    numberingStep_request h hselect (by decide +kernel)
  have hfalse : forwarded = false := by
    rw [← Bool.not_eq_true]
    exact fun htrue => hdown (hiff.mp htrue).1
  refine ⟨_, g, hstep, ?_, rfl, hpos, hg.trans hfalse⟩
  have hout := t.clientRequest_outcome 0 0 s.counterE2e (applicationRequest 0) 20 h.cursor
  dsimp only
  cases hout with
  | noSlot next hnone hnext hs' => exact absurd h.free hnone
  | queued next slot hacc hslot hfree hnext hs' => exact absurd hacc.1 hdown
  | refused next slot hacc hslot hfree hnext hs' =>
    have hmay : t.MayHandle 0 0 := h.handles.selectConnection hselect
    obtain ⟨_, _, _, _, hs'⟩ := hs'
    rw [hs']
    refine ⟨h.ism, hmay, ?_, ⟨slot, ?_, ?_⟩, ?_, ?_, ?_, ?_⟩
    · simpa only [Table.length_modify] using hnext
    · simpa only [Table.length_modify] using hslot
    · refine decide_eq_true ?_
      have hslotRange : Table.InRange t.vTransaction slot :=
        ⟨Int.natCast_nonneg slot, Int.ofNat_lt.mpr hslot⟩
      exact congrArg Transaction.status (Table.read_modify_self _ hslotRange)
    · change (t.client 0).pos = 0
      rw [hclient]
      exact h.pos
    · change (t.connection (t.client 0).ismServerConnection).status ≠ .connected
      rw [hclient]
      exact h.ismDown
    · change (t.connection (t.client 0).esmServerConnection).status = .connected
      rw [hclient]
      exact h.esmUp
    · change (t.mPendingToSend.lookup (t.connection (t.client 0).esmServerConnection).sockId).any
        (fun queue => queue.length ≤ t.cerData.maxSizeMessageQueue) = true
      rw [hclient]
      exact h.esmQueue

/-- An ESM request of the first client is given a record and forwarded. -/
lemma Prepared.esmRequest {s : NumberingState} (h : Prepared s.proxy) :
    ∃ s' g, numberingStep 0 s (.message 0 0 (applicationRequest 0x23) 20 0) = some s' ∧
      s'.numbered = g :: s.numbered ∧ g.pos = 0 ∧ g.forwarded = true := by
  let t := s.proxy.setClient 0 fun c => { c with diaServerConnection := c.esmServerConnection }
  have hselect : s.proxy.selectConnection 0 (applicationRequest 0x23) 20 = some t := by
    unfold Proxy.selectConnection
    rw [if_neg h.ism]
    refine (if_neg (by decide +kernel)).trans ((if_neg (by decide +kernel)).trans ?_)
    exact if_pos (by decide +kernel)
  have hrange : Table.InRange s.proxy.vClient 0 := ⟨le_rfl, Int.ofNat_lt.mpr h.handles.1⟩
  have hclient : t.client 0 = { s.proxy.client 0 with
      diaServerConnection := (s.proxy.client 0).esmServerConnection } :=
    Table.read_modify_self _ hrange
  obtain ⟨forwarded, g, hpos, hg, hiff, hstep⟩ :=
    numberingStep_request h hselect (by decide +kernel)
  refine ⟨_, g, hstep, rfl, hpos, hg.trans (hiff.mpr ?_)⟩
  rw [hclient]
  exact h.accepts

/-- Refused requests take identifiers like the others. -/
lemma Prepared.ismRequests {s : NumberingState} (h : Prepared s.proxy) (n : ℕ) :
    ∃ s' new, LabelledSystem.exec (numberingStep 0) s
        (List.replicate n (.message 0 0 (applicationRequest 0) 20 0)) = some s' ∧
      Prepared s'.proxy ∧ s'.numbered = new ++ s.numbered ∧ new.length = n ∧
      ∀ g ∈ new, g.forwarded = false := by
  induction n generalizing s with
  | zero => exact ⟨s, [], rfl, h, rfl, rfl, fun g hg => absurd hg List.not_mem_nil⟩
  | succ n ih =>
    obtain ⟨t, g, hstep, ht, hnumbered, -, hg⟩ := h.ismRequest
    obtain ⟨s', new, hexec, hs', hnew, hlength, hrefused⟩ := ih ht
    refine ⟨s', new ++ [g], ?_, hs', ?_, ?_, ?_⟩
    · rw [List.replicate_succ]
      exact LabelledSystem.exec_cons_eq_some.mpr ⟨t, hstep, hexec⟩
    · rw [hnew, hnumbered, List.append_assoc, List.singleton_append]
    · rw [List.length_append, hlength, List.length_singleton]
    · exact List.forall_mem_append.mpr ⟨hrefused, List.forall_mem_singleton.mpr hg⟩

/-- A proxy with a separate connection for ISM applications. -/
def ismAndEsm : CerData := .ismAndEsm

/-- The ESM connection is established, a client connects and makes an ESM request. -/
def firstRequest : List NumberingEvent :=
  [.other (.startDiaThread 1), .other (.connect 1 5), .other (.accept 6),
    .message 0 0 (applicationRequest 0x23) 20 0]

/-- It makes 7295 ISM requests and an ESM request. -/
def nextEsmRequest : List NumberingEvent :=
  firstRequest ++ (List.replicate 7295 (.message 0 0 (applicationRequest 0) 20 0) ++
    [.message 0 0 (applicationRequest 0x23) 20 0])

/-- Two requests of one client in a row have identifiers of their own. -/
theorem idsApart_twoRequests : ∃ s, LabelledSystem.exec (numberingStep 0) (.init ismAndEsm)
    (firstRequest ++ [.message 0 0 (applicationRequest 0) 20 0]) = some s ∧
      s.numbered = [⟨0, 1000001, false⟩, ⟨0, 1000000, true⟩] ∧ IdsApart 0 0 s.numbered s.numbered := by
  have hrun : (LabelledSystem.exec (numberingStep 0) (.init ismAndEsm)
      (firstRequest ++ [.message 0 0 (applicationRequest 0) 20 0])).map NumberingState.numbered =
        some [⟨0, 1000001, false⟩, ⟨0, 1000000, true⟩] := by decide +kernel
  obtain ⟨s, hexec, hnumbered⟩ := Option.map_eq_some_iff.mp hrun
  have hseed : ismAndEsm.e2eSeed ≤ 96 := by decide
  exact ⟨s, hexec, hnumbered, idsApart hseed hseed hexec hexec⟩

/-- After the first request the client is prepared. -/
lemma firstRequest_prepared : ∃ s,
    LabelledSystem.exec (numberingStep 0) (.init ismAndEsm) firstRequest = some s ∧
      s.numbered = [⟨0, 1000000, true⟩] ∧ Prepared s.proxy := by
  have hrun : (LabelledSystem.exec (numberingStep 0) (.init ismAndEsm) firstRequest).map
      (fun s => (s.numbered, decide (s.proxy.cerData.ismPort ≠ 0 ∧ s.proxy.MayHandle 0 0 ∧
        s.proxy.nextTransaction < s.proxy.vTransaction.length ∧
        (∃ i < s.proxy.vTransaction.length, s.proxy.isFree i) ∧ (s.proxy.client 0).pos = 0 ∧
        (s.proxy.connection (s.proxy.client 0).ismServerConnection).status ≠ .connected ∧
        (s.proxy.connection (s.proxy.client 0).esmServerConnection).status = .connected ∧
        (s.proxy.mPendingToSend.lookup
          (s.proxy.connection (s.proxy.client 0).esmServerConnection).sockId).any
            fun queue => queue.length ≤ s.proxy.cerData.maxSizeMessageQueue))) =
      some ([⟨0, 1000000, true⟩], true) := by decide +kernel
  obtain ⟨s, hexec, hs⟩ := Option.map_eq_some_iff.mp hrun
  obtain ⟨hnumbered, hfacts⟩ := Prod.mk.inj hs
  obtain ⟨hism, hmay, hcursor, hfree, hpos, hdown, hup, hqueue⟩ := of_decide_eq_true hfacts
  exact ⟨s, hexec, hnumbered, hism, hmay, hcursor, hfree, hpos, hdown, hup, hqueue⟩

/-- Two requests of one client are forwarded with the same identifier, and none in between was
forwarded. -/
theorem nextEsmRequest_repeats : ∃ s g g', LabelledSystem.exec (numberingStep 0) (.init ismAndEsm)
    nextEsmRequest = some s ∧ s.numbered[0]? = some g ∧ s.numbered[7296]? = some g' ∧
      g.forwarded = true ∧ g'.forwarded = true ∧ g.pos = 0 ∧ g'.pos = 0 ∧
      g.end2end = g'.end2end ∧ ((s.numbered.take 7296).drop 1).countP Numbered.forwarded = 0 := by
  obtain ⟨s₁, hexec₁, hnumbered₁, hprepared⟩ := firstRequest_prepared
  obtain ⟨s₂, new, hexec₂, hprepared₂, hnumbered₂, hlength, hrefused⟩ := hprepared.ismRequests 7295
  obtain ⟨s, g, hstep, hnumbered, hpos, hforwarded⟩ := hprepared₂.esmRequest
  have hexec : LabelledSystem.exec (numberingStep 0) (.init ismAndEsm) nextEsmRequest = some s :=
    LabelledSystem.exec_append_eq_some.mpr ⟨s₁, hexec₁, LabelledSystem.exec_append_eq_some.mpr
      ⟨s₂, hexec₂, LabelledSystem.exec_cons_eq_some.mpr ⟨s, hstep, rfl⟩⟩⟩
  have hall : s.numbered = g :: (new ++ [⟨0, 1000000, true⟩]) := by
    rw [hnumbered, hnumbered₂, hnumbered₁]
  have hzero : s.numbered[0]? = some g := by rw [hall]; rfl
  have hlast : s.numbered[7296]? = some ⟨0, 1000000, true⟩ := by
    rw [hall, List.getElem?_cons_succ, List.getElem?_append_right (Nat.le_of_eq hlength), hlength]
    rfl
  have hsize : s.numbered.length = 7297 := by
    rw [hall, List.length_cons, List.length_append, hlength]
    rfl
  have hinv := numberingInv_of_exec hexec
  refine ⟨s, g, _, hexec, hzero, hlast, hforwarded, rfl, hpos, rfl, ?_, ?_⟩
  · -- Both were given the identifier of the counter 0.
    rw [hinv.ids 0 g hzero, hinv.ids 7296 _ hlast, hsize, hpos]
  · rw [hall, List.take_succ_cons, List.drop_succ_cons, List.drop_zero,
      List.take_append_of_le_length (Nat.le_of_eq hlength.symm),
      List.take_of_length_le (Nat.le_of_eq hlength), List.countP_eq_zero]
    intro h hh
    rw [hrefused h hh]
    decide

end DiaProxy

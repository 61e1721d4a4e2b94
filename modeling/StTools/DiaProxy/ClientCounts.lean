import StTools.DiaProxy.ListenerThread
import StTools.Lib.LabelledSystem

/-!
# How many clients a server connection has

The listener counts a new client on the server connection that it found for it.  `closeClient`
counts it off the connection in `diaServerConnection`, which every message of the client may change
when there is a separate connection for ISM applications.  And a client that is closed while more of
its messages wait in the buffer can be closed once more.  So a count is right as long as every client
that is closed is online and back on the connection it was counted on.
-/

namespace DiaProxy

namespace Proxy

/-! ## What changes the counts -/

/-- How many clients are counted on a server connection. -/
def clientsOn (s : Proxy) (i : ℤ) : UInt32 := (s.statistic i).numberOfClients

/-- A counter that is not the one of the clients. -/
lemma clientsOn_count (s : Proxy) (i j : ℤ) {f : Statistic → Statistic}
    (hf : ∀ c, (f c).numberOfClients = c.numberOfClients) :
    (s.count i f).clientsOn j = s.clientsOn j := by
  change (if j = i then f (s.statistic j) else s.statistic j).numberOfClients = _
  split
  · exact hf _
  · rfl

/-- Giving messages up does not count clients. -/
lemma clientsOn_foldl_cleanMessage (s : Proxy) (queue : List Message) (i : ℤ) :
    (queue.foldl cleanMessage s).clientsOn i = s.clientsOn i := by
  induction queue generalizing s with
  | nil => rfl
  | cons m queue ih =>
    rw [List.foldl_cons, ih]
    refine (s.setTransaction m.transaction Transaction.clear).clientsOn_count
      m.diaServerConnection i (f := fun c => c.discard m.messageType) fun c => ?_
    cases m.messageType <;> rfl

/-- Giving a queue up does not count clients. -/
lemma clientsOn_cleanPendingMessages (s : Proxy) (socket i : ℤ) :
    (s.cleanPendingMessages socket).clientsOn i = s.clientsOn i := by
  unfold cleanPendingMessages
  split
  · rfl
  · exact clientsOn_foldl_cleanMessage _ _ i

/-- **What `closeClient` counts**: a client less on the connection that is in the slot. -/
theorem clientsOn_closeClient (s : Proxy) (thread nr : ℕ) (i : ℤ) :
    (s.closeClient thread nr).clientsOn i =
      if i = (s.client nr).diaServerConnection then s.clientsOn i - 1 else s.clientsOn i := by
  unfold closeClient
  dsimp only
  generalize hbase : (if ((s.markOffline nr).client nr).sock ≠ -1 then
    ((s.markOffline nr).closeSocket nr).cleanQueue nr else s.markOffline nr) = base
  have hoffline : ((s.markOffline nr).client nr).diaServerConnection =
      (s.client nr).diaServerConnection :=
    client_setClient_field ClientConnection.diaServerConnection fun _ => rfl
  have hconnection : (base.client nr).diaServerConnection =
      (s.client nr).diaServerConnection := by
    rw [← hbase]
    split
    · obtain ⟨_, _, _, _, heq⟩ := (s.markOffline nr).closeSocket_cleanQueue_eq nr
      rw [heq]
      exact hoffline
    · exact hoffline
  have hcount : base.clientsOn i = s.clientsOn i := by
    rw [← hbase]
    split
    · exact clientsOn_cleanPendingMessages _ _ i
    · rfl
  obtain ⟨_, _, heq, -⟩ :=
    (((base.leaveConnection nr).resetClient nr).leaveThread thread nr).rebuildFds_eq thread
  rw [heq, ← hconnection, ← hcount]
  change (if i = (base.client nr).diaServerConnection then _ else base.statistic i).numberOfClients = _
  split <;> rfl

/-- The choice of a connection does not count clients. -/
lemma clientsOn_selectConnection {s s' : Proxy} {nr : ℕ} {buff : Mem} {toreceive : ℕ}
    (h : s.selectConnection nr buff toreceive = some s') (i : ℤ) :
    s'.clientsOn i = s.clientsOn i := by
  obtain ⟨_, _, rfl, -⟩ := selectConnection_eq h
  rfl

/-- `addConnectionToClientThread` counts nothing and keeps the connection of a slot. -/
lemma addConnectionToClientThread_keeps (s : Proxy) (nr : ℕ) :
    (s.addConnectionToClientThread nr).1.statistic = s.statistic ∧
      ∀ i, ((s.addConnectionToClientThread nr).1.client i).esmServerConnection =
        (s.client i).esmServerConnection := by
  have hjoin (t : Proxy) (thread i : ℤ) :
      ((t.joinThread thread nr).client i).esmServerConnection =
        (t.client i).esmServerConnection :=
    client_setClient_field (i := nr) ClientConnection.esmServerConnection fun _ => rfl
  unfold addConnectionToClientThread
  split
  · exact ⟨rfl, fun _ => rfl⟩
  · dsimp only
    split
    · exact ⟨rfl, fun i => hjoin _ _ i⟩
    · exact ⟨rfl, fun i => hjoin _ _ i⟩

/-- **What the listener counts**: a client more on the connection that is stored in its slot. -/
theorem clientsOn_acceptClient {s s' : Proxy} {sock : ℤ} {nr : ℕ}
    (hlength : s.vClient.length = s.cerData.numberOfClients) (hslot : s.findSlot = some nr)
    (h : s.acceptClient sock = some s') (i : ℤ) :
    s'.clientsOn i =
      if i = (s'.client nr).esmServerConnection then s.clientsOn i + 1 else s.clientsOn i := by
  unfold acceptClient at h
  rw [hslot] at h
  dsimp only at h
  rcases s.findConnectionFrom_eq s.vConnections.length s.nextConnection with
    hnone | ⟨con, next, accesses, heq, -, -⟩
  · cases hfind : s.findConnection with
    | mk t found =>
      rw [hfind] at h
      obtain rfl : found = none := by rw [← hnone]; exact congrArg Prod.snd hfind.symm
      cases h
  · have hfind : s.findConnection = _ := heq
    rw [hfind] at h
    dsimp only at h
    have hnr : nr < s.vClient.length := hlength ▸ (findSlot_eq_some hslot).1
    have hrange : Table.InRange s.vClient nr := ⟨Int.natCast_nonneg nr, Int.ofNat_lt.mpr hnr⟩
    generalize hstore : Proxy.storeClient _ nr sock con = stored at h
    have hesm : (stored.client nr).esmServerConnection = con := by
      rw [← hstore, Proxy.client]
      exact congrArg ClientConnection.esmServerConnection (Table.read_modify_self _ hrange)
    have hstatistic : stored.statistic = s.statistic := by rw [← hstore]; rfl
    obtain ⟨hkeeps, hclient⟩ := stored.addConnectionToClientThread_keeps nr
    cases hadd : stored.addConnectionToClientThread nr with
    | mk u thread =>
      rw [hadd] at h hkeeps hclient
      dsimp only at h hkeeps hclient
      -- In both cases the connection is counted after the slot was filled.
      have hcount (t : Proxy) (ht : t.statistic = u.statistic) (hc : t.client nr = u.client nr) :
          (t.joinConnection con).clientsOn i =
            if i = ((t.joinConnection con).client nr).esmServerConnection then s.clientsOn i + 1
            else s.clientsOn i := by
        change (if i = (con : ℤ) then _ else t.statistic i).numberOfClients =
          if i = (t.client nr).esmServerConnection then _ else _
        rw [hc, hclient nr, hesm, ht, hkeeps, hstatistic]
        split <;> rfl
      split at h
      · obtain rfl := Option.some.inj h
        exact hcount u rfl rfl
      · cases thread with
        | none => cases h
        | some thread =>
          obtain rfl := Option.some.inj h
          exact hcount (u.startClientThread thread) rfl rfl

end Proxy

/-! ## Accepts, choices and closings -/

/-- What happens to the clients. -/
inductive CountEvent
  /-- A server connection changes its state. -/
  | status (c : ℕ) (status : ConnectionStatus)
  /-- The listener accepts a client on a descriptor that was not open. -/
  | accept (sock : ℤ)
  /-- A message chooses the server connection of a client. -/
  | select (nr : ℕ) (buff : Mem) (toreceive : ℕ)
  /-- A client thread closes a client, which may have been closed already. -/
  | close (thread nr : ℕ)

/-- One step of the clients. -/
def countStep (s : Proxy) : CountEvent → Option Proxy
  | .status c status => some (s.setConnection c fun d => { d with status := status })
  | .accept sock => if 0 ≤ sock ∧ s.descriptors sock = none then s.acceptClient sock else none
  | .select nr buff toreceive => s.selectConnection nr buff toreceive
  | .close thread nr => if nr < s.vClient.length then some (s.closeClient thread nr) else none

/-- The client is online and was given this server connection when it was accepted. -/
def AttributedTo (i : ℤ) (c : ClientConnection) : Prop :=
  c.status = .online ∧ c.esmServerConnection = i

instance (i : ℤ) (c : ClientConnection) : Decidable (AttributedTo i c) :=
  inferInstanceAs (Decidable (_ ∧ _))

/-- How many clients of a table belong to a server connection. -/
def attributed (clients : List ClientConnection) (i : ℤ) : ℕ :=
  clients.countP fun c => AttributedTo i c

/-- The count of every server connection is that of its clients.  A count that wrapped below zero
would not be, nor one that is kept outside the table. -/
def CountsAgree (s : Proxy) : Prop := ∀ i : ℤ, (s.clientsOn i).toNat = attributed s.vClient i

/-- A client that is closed is online, and on the server connection that it was given when it was
accepted. -/
def ClosesAtHome (s : Proxy) : CountEvent → Prop
  | .close _ nr => (s.client nr).status = .online ∧
    (s.client nr).diaServerConnection = (s.client nr).esmServerConnection
  | _ => True

instance (s : Proxy) (e : CountEvent) : Decidable (ClosesAtHome s e) :=
  match e with
  | .close _ _ => inferInstanceAs (Decidable (_ ∧ _))
  | .status _ _ | .accept _ | .select _ _ _ => inferInstanceAs (Decidable True)

/-- The invariant of the counts. -/
structure CountInv (s : Proxy) : Prop where
  /-- The size of the client table. -/
  clients : s.vClient.length = s.cerData.numberOfClients
  /-- It is an `int`. -/
  bound : s.cerData.numberOfClients < 2147483648
  /-- The counts are right. -/
  counts : CountsAgree s

/-- A change of the slots that keeps who is online and where. -/
lemma CountInv.sameClients {s s' : Proxy} (h : CountInv s) (nr : ℤ)
    {f : ClientConnection → ClientConnection} (hdata : s'.cerData = s.cerData)
    (hcounts : ∀ i, s'.clientsOn i = s.clientsOn i)
    (hclients : s'.vClient = Table.modify s.vClient nr f)
    (hf : ∀ c, (f c).status = c.status ∧ (f c).esmServerConnection = c.esmServerConnection) :
    CountInv s' := by
  constructor
  · rw [hclients, Table.length_modify, hdata, h.clients]
  · exact hdata ▸ h.bound
  · intro i
    rw [hcounts, h.counts, hclients]
    refine (Table.countP_modify_of_keeps (fun c => AttributedTo i c) fun c =>
      decide_eq_decide.mpr ?_).symm
    rw [AttributedTo, AttributedTo, (hf c).1, (hf c).2]

/-- Accepting a client keeps the invariant. -/
lemma CountInv.accept {s s' : Proxy} (h : CountInv s) {sock : ℤ}
    (haccept : s.acceptClient sock = some s') : CountInv s' := by
  rcases Proxy.acceptClient_cases h.clients haccept with
    ⟨-, rfl⟩ | ⟨nr, conFound, next, thread, hslot, hconnected, -, -, hlog⟩
  · exact h
  obtain ⟨hnr, hoffline⟩ := Proxy.findSlot_eq_some hslot
  have hrange : Table.InRange s.vClient nr :=
    ⟨Int.natCast_nonneg nr, by rw [h.clients]; exact Int.ofNat_lt.mpr hnr⟩
  have hcounts := Proxy.clientsOn_acceptClient h.clients hslot haccept
  have hclients : s'.vClient = Table.modify s.vClient nr (s.acceptedClient nr sock conFound) := by
    obtain ⟨_, _, _, _, rfl⟩ := hlog
    rfl
  have hself : s'.client nr = s.acceptedClient nr sock conFound (s.client nr) := by
    rw [Proxy.client, hclients, Table.read_modify_self _ hrange]
    rfl
  have hcer : s'.cerData = s.cerData := by
    obtain ⟨_, _, _, _, rfl⟩ := hlog
    rfl
  constructor
  · rw [hclients, Table.length_modify, hcer, h.clients]
  · exact hcer ▸ h.bound
  · intro i
    have hmodify := Table.countP_modify (AttributedTo i) (d := {})
      (s.acceptedClient nr sock conFound) hrange
    have hold : ¬ AttributedTo i (Table.read s.vClient {} nr) := by
      rintro ⟨honline, -⟩
      rw [show (Table.read s.vClient {} nr).status = .offline from hoffline] at honline
      cases honline
    have hbound : attributed s.vClient i ≤ s.cerData.numberOfClients :=
      h.clients ▸ List.countP_le_length
    have hlt := h.bound
    have hagree := h.counts i
    rw [if_neg hold, ← hclients] at hmodify
    change attributed s'.vClient i + 0 = attributed s.vClient i + _ at hmodify
    have hesm : (s'.client nr).esmServerConnection = conFound := by rw [hself]; rfl
    rw [hcounts, hesm]
    by_cases hi : i = conFound
    · subst hi
      rw [if_pos ⟨rfl, rfl⟩] at hmodify
      rw [if_pos rfl, UInt32.toNat_add, hagree, UInt32.toNat_one]
      omega
    · rw [if_neg fun hatt => hi hatt.2.symm] at hmodify
      rw [if_neg hi, hagree]
      omega

/-- A client that is closed is attributed to no connection any more. -/
lemma attributed_close {clients : List ClientConnection} {nr : ℕ} (hnr : nr < clients.length)
    (i : ℤ) : attributed (Table.modify clients nr Proxy.closedClient) i +
        (if AttributedTo i (Table.read clients {} nr) then 1 else 0) =
      attributed clients i := by
  have hrange : Table.InRange clients nr := ⟨Int.natCast_nonneg nr, Int.ofNat_lt.mpr hnr⟩
  have hmodify := Table.countP_modify (AttributedTo i) (d := {}) Proxy.closedClient hrange
  have hgone : ¬ AttributedTo i (Proxy.closedClient (Table.read clients {} nr)) := by
    rintro ⟨hon, -⟩
    cases hon
  rw [if_neg hgone] at hmodify
  exact hmodify

/-- After a closing the counts agree exactly when the client was online and closed at home. -/
lemma CountInv.close_iff {s : Proxy} (h : CountInv s) {thread nr : ℕ} (hnr : nr < s.vClient.length) :
    CountsAgree (s.closeClient thread nr) ↔ ClosesAtHome s (.close thread nr) := by
  have hcounts := s.clientsOn_closeClient thread nr
  obtain ⟨threads, ⟨_, _, _, _, heq⟩, -⟩ := s.closeClient_eq thread nr
  have hclients : (s.closeClient thread nr).vClient =
      Table.modify s.vClient nr Proxy.closedClient := by rw [heq]
  unfold CountsAgree
  rw [hclients]
  constructor
  · -- The connection of the slot is counted down, so the client must be one of its clients.
    intro hagree
    have hleft := attributed_close hnr (s.client nr).diaServerConnection
    have hnow := hagree (s.client nr).diaServerConnection
    rw [hcounts, if_pos rfl, UInt32.toNat_sub, UInt32.toNat_one] at hnow
    have hthen := h.counts (s.client nr).diaServerConnection
    have hlt := (s.clientsOn (s.client nr).diaServerConnection).toNat_lt
    by_contra hnot
    rw [if_neg fun hatt => hnot ⟨hatt.1, hatt.2.symm⟩] at hleft
    omega
  · rintro ⟨honline, hhome⟩ i
    have hleft := attributed_close hnr i
    have hthen := h.counts i
    have hatt : AttributedTo i (Table.read s.vClient {} nr) ↔
        i = (s.client nr).diaServerConnection :=
      ⟨fun hatt => hatt.2.symm.trans hhome.symm, fun hi => ⟨honline, hhome.symm.trans hi.symm⟩⟩
    rw [if_congr hatt rfl rfl] at hleft
    rw [hcounts]
    split
    · rename_i hi
      rw [if_pos hi] at hleft
      rw [UInt32.toNat_sub_of_le _ _ (UInt32.le_iff_toNat_le.mpr (by
        rw [UInt32.toNat_one]; omega)), UInt32.toNat_one]
      omega
    · rename_i hi
      rw [if_neg hi] at hleft
      omega

/-- A closing at home keeps the invariant. -/
lemma CountInv.close {s : Proxy} (h : CountInv s) {thread nr : ℕ} (hnr : nr < s.vClient.length)
    (hhome : ClosesAtHome s (.close thread nr)) : CountInv (s.closeClient thread nr) := by
  have hcounts := (h.close_iff hnr).mpr hhome
  obtain ⟨threads, ⟨_, _, _, _, heq⟩, -⟩ := s.closeClient_eq thread nr
  rw [heq] at hcounts ⊢
  exact ⟨(Table.length_modify s.vClient nr Proxy.closedClient).trans h.clients, h.bound, hcounts⟩

/-- Before the first client. -/
lemma countInv_init {cerData : CerData} (h : cerData.numberOfClients < 2147483648) :
    CountInv (Proxy.init cerData) := by
  constructor
  · exact List.length_replicate
  · exact h
  · intro i
    refine (List.countP_eq_zero.mpr fun c hc => ?_).symm
    obtain rfl := List.eq_of_mem_replicate hc
    exact fun hon => absurd (of_decide_eq_true hon).1 (by decide)

/-- A proxy with a separate connection for ISM applications and four client slots. -/
def withIsm : CerData := .ismAndEsm

/-- A header with this application id. -/
def applicationHeader (appId : UInt8) : Mem := fun i =>
  if i = 8 then 1 else if i = 11 then appId else 0

/-- A client comes, sends a message of an application, and goes. -/
def visit (appId : UInt8) : List CountEvent :=
  [.status 1 .connected, .accept 5, .select 0 (applicationHeader appId) 20, .close 0 0]

end DiaProxy

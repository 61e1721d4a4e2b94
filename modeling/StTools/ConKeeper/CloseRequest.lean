import StTools.ConKeeper.Record
import StTools.Lib.LabelledSystem

/-!
# The request to close a client

When the accepted connection is gone, the server thread asks the client to close with `TO_BE_CLOSED`, in
the field in which the client thread writes `CONNECTING` when it begins and `TO_BE_RESTARTED` when it ends
to be started again, and in which the control thread finds that.  Between its end and the next start the
client has no thread that could see the request.

The system here is one record, from the time when the listener has filled it to the time when the control
thread frees it.  `noLeak_throughout_iff` says in which runs the request is never lost.
-/

namespace ConKeeper

/-- What the listener has still to do for the record. -/
inductive SetUp
  | createClient
  | createServer
  | done
  deriving Repr, DecidableEq

/-- Where the control thread is, as far as it deals with this record. -/
inductive Check
  | asleep
  /-- It has copied the record. -/
  | scan (client server : ConnectionStatus)
  /-- It creates a client thread. -/
  | creating
  deriving Repr, DecidableEq

/-- A record in use. -/
structure Served where
  /-- The record. -/
  con : Connection
  /-- The data of the application. -/
  app : ApplicationData
  /-- The listener. -/
  setUp : SetUp
  /-- The client threads. -/
  clients : List ClientThread
  /-- The server threads. -/
  servers : List ServerThread
  /-- The control thread. -/
  control : Check

/-- What can happen. -/
inductive Served.Event
  /-- Another thread changes the data of the application. -/
  | setApp (app : ApplicationData)
  /-- The listener creates a thread, or fails and exits. -/
  | setUp (ok : Bool)
  /-- A step of the client thread `k`. -/
  | client (k : ℕ) (input : Input)
  /-- A step of the server thread `k`. -/
  | server (k : ℕ) (input : Input)
  /-- A step of the control thread; whether it can create a thread. -/
  | control (ok : Bool)
  deriving DecidableEq

/-- The list after a step of the thread `k`. -/
def nextThreads {τ : Type} (threads : List τ) (k : ℕ) : Option τ → List τ
  | some t => threads.set k t
  | none => threads.eraseIdx k

/-- A list in which a thread has made a step is empty only when the thread has ended. -/
lemma nextThreads_ne_nil {τ : Type} {threads : List τ} {k : ℕ} {t t' : τ}
    (ht : threads[k]? = some t) : nextThreads threads k (some t') ≠ [] := by
  intro hnil
  have hlength := congrArg List.length hnil
  obtain ⟨hk, -⟩ := List.getElem?_eq_some_iff.mp ht
  simp only [nextThreads, List.length_set, List.length_nil] at hlength
  omega

/-- The thread of a list of at most one. -/
lemma eq_singleton_of_getElem? {τ : Type} {threads : List τ} {k : ℕ} {t : τ}
    (hone : threads.length ≤ 1) (ht : threads[k]? = some t) : threads = [t] ∧ k = 0 := by
  obtain ⟨hk, ht⟩ := List.getElem?_eq_some_iff.mp ht
  obtain rfl : k = 0 := by omega
  obtain ⟨t', ht'⟩ := List.length_eq_one_iff.mp (by omega : threads.length = 1)
  simp only [ht', List.getElem_cons_zero] at ht
  exact ⟨ht ▸ ht', rfl⟩

/-- A step of the only thread. -/
lemma nextThreads_singleton {τ : Type} (t : τ) (next : Option τ) :
    nextThreads [t] 0 next = next.toList := by
  cases next <;> rfl

namespace Served

/-- A step of the listener. -/
def setUpStep (s : Served) (ok : Bool) : Option Served :=
  match s.setUp with
  | .createClient =>
    if ok then
      some { s with
        setUp := .createServer
        con := { s.con with client := { s.con.client with threadID := true } }
        clients := s.clients ++ [⟨s.con.type, .created⟩] }
    else some { s with setUp := .done }
  | .createServer =>
    if ok then
      some { s with setUp := .done, servers := s.servers ++ [⟨s.con.type, .created⟩] }
    else some { s with setUp := .done }
  | .done => none

/-- A step of the control thread. -/
def controlStep (s : Served) (ok : Bool) : Option Served :=
  match s.control with
  | .asleep =>
    if s.app.status = .ready then
      some { s with control := .scan s.con.client.status s.con.server.status }
    else some s
  | .scan client server =>
    if client = .offline ∧ server = .offline then
      some { s with con := { s.con with type := .none, messageLen := 0 }, control := .asleep }
    else if client = .toBeRestarted ∧ s.con.client.threadID = false then
      some { s with control := .creating }
    else some { s with control := .asleep }
  | .creating =>
    if s.con.type = .none ∨ ok = false then some { s with control := .asleep }
    else
      some { s with
        con := { s.con with client := { s.con.client with threadID := true } }
        clients := s.clients ++ [⟨s.con.type, .created⟩]
        control := .asleep }

/-- One step. -/
def step (s : Served) : Event → Option Served
  | .setApp app => some { s with app := app }
  | .setUp ok => s.setUpStep ok
  | .client k input => do
    let t ← s.clients[k]?
    let o ← t.step s.app s.con input
    return { s with con := o.con, app := o.app, clients := nextThreads s.clients k o.thread }
  | .server k input => do
    let t ← s.servers[k]?
    let o ← t.step s.app s.con input
    return { s with con := o.con, app := o.app, servers := nextThreads s.servers k o.thread }
  | .control ok => s.controlStep ok

/-- A record that the listener has filled for a socket; the control thread may be in a pass. -/
def init (type : ConnectionType) (sock : ℤ) (app : ApplicationData) (control : Check) : Served where
  con := { Connection.initial with
    type := type
    server := ⟨sock, .connecting⟩
    client := ⟨-1, .unknown, .connecting, false⟩ }
  app := app
  setUp := .createClient
  clients := []
  servers := []
  control := control

/-! ## What should hold -/

/-- When the server thread has exited, the client is `OFFLINE`, or it is `TO_BE_CLOSED` and a client thread
runs. -/
def NoLeak (s : Served) : Prop :=
  s.con.type ≠ .none → s.con.server.status = .offline →
    s.con.client.status = .offline ∨ (s.con.client.status = .toBeClosed ∧ s.clients ≠ [])

/-- The step does not lose the request: no client thread writes `CONNECTING` or `TO_BE_RESTARTED` after the
exit of the server thread, and this exits only while the client has a thread or is `OFFLINE`. -/
def Orderly (s : Served) : Event → Prop
  | .client k _ => ∀ t, s.clients[k]? = some t → t.pc = .created ∨ t.pc = .closing true →
      s.con.type ≠ .none → s.con.server.status ≠ .offline
  | .server k _ => ∀ t, s.servers[k]? = some t → t.pc = .closing → s.con.type ≠ .none →
      s.con.client.status = .offline ∨ s.clients ≠ []
  | _ => True

/-! ## The invariant -/

/-- The invariant of the runs in order. -/
structure Inv (s : Served) : Prop where
  /-- The request is not lost. -/
  noLeak : s.NoLeak
  /-- At most one server thread runs. -/
  one : s.servers.length ≤ 1
  /-- It is created by the listener. -/
  setUp : s.setUp ≠ .done → s.servers = [] ∧ s.con.server.status = .connecting
  /-- Before it is online. -/
  starting : ∀ t ∈ s.servers, t.pc = .created ∨ t.pc = .starting → s.con.server.status = .connecting
  /-- And then. -/
  online : ∀ t ∈ s.servers, t.pc ≠ .created → t.pc ≠ .starting → s.con.server.status = .online

variable {s s' : Served}

lemma inv_init (type : ConnectionType) (sock : ℤ) (app : ApplicationData) (control : Check) :
    (init type sock app control).Inv where
  noLeak _ hoffline := by cases hoffline
  one := Nat.zero_le 1
  setUp _ := ⟨rfl, rfl⟩
  starting t ht := by cases ht
  online t ht := by cases ht

/-- A step of a client thread. -/
lemma Inv.client (h : s.Inv) {k : ℕ} {input : Input} (horder : s.Orderly (.client k input))
    (hstep : step s (.client k input) = some s') : s'.Inv := by
  obtain ⟨t, ht, hstep⟩ := Option.bind_eq_some_iff.mp hstep
  obtain ⟨o, ho, hstep⟩ := Option.bind_eq_some_iff.mp hstep
  obtain rfl := Option.some.inj hstep
  obtain ⟨htype, hserver, hcases⟩ := ClientThread.step_cases ho
  refine ⟨?_, h.one, ?_, ?_, ?_⟩
  · intro hused hoffline
    dsimp only at hused hoffline ⊢
    rw [htype] at hused
    rw [hserver] at hoffline
    obtain ⟨hpc, -⟩ | ⟨restart, hpc, hcon, -⟩ | ⟨-, -, -, ⟨t', ht', -⟩, hstatus⟩ := hcases
    · exact absurd hoffline (horder t ht (.inl hpc) hused)
    · cases restart with
      | true => exact absurd hoffline (horder t ht (.inr hpc) hused)
      | false =>
        left
        rw [hcon]
        rfl
    · obtain hsame | ⟨hother, -⟩ := hstatus
      · rw [hsame, ht']
        exact (h.noLeak hused hoffline).imp_right fun hclosed =>
          ⟨hclosed.1, nextThreads_ne_nil ht⟩
      · -- The client is `OFFLINE` or `TO_BE_CLOSED`, so nothing is written.
        obtain hclient | ⟨hclient, -⟩ := h.noLeak hused hoffline <;> simp [hclient] at hother
  · simpa only [hserver] using h.setUp
  · simpa only [hserver] using h.starting
  · simpa only [hserver] using h.online

/-- A step of the server thread. -/
lemma Inv.server (h : s.Inv) {k : ℕ} {input : Input} (horder : s.Orderly (.server k input))
    (hstep : step s (.server k input) = some s') : s'.Inv := by
  obtain ⟨t, ht, hstep⟩ := Option.bind_eq_some_iff.mp hstep
  obtain ⟨o, ho, hstep⟩ := Option.bind_eq_some_iff.mp hstep
  obtain rfl := Option.some.inj hstep
  have hexit := horder t ht
  obtain ⟨hservers, rfl⟩ := eq_singleton_of_getElem? h.one ht
  have hmem : t ∈ s.servers := by simp [hservers]
  have hsetUp : s.setUp = .done := by
    by_contra hnot
    simp [(h.setUp hnot).1] at hservers
  have hnextThreads : nextThreads s.servers 0 o.thread = o.thread.toList :=
    hservers ▸ nextThreads_singleton t o.thread
  have hone : (nextThreads s.servers 0 o.thread).length ≤ 1 :=
    hnextThreads ▸ Option.length_toList_le
  have hthreads : ∀ u ∈ nextThreads s.servers 0 o.thread, o.thread = some u := fun u hu =>
    Option.mem_toList.mp (hnextThreads ▸ hu)
  obtain ⟨htype, -, hcases⟩ := ServerThread.step_cases ho
  obtain ⟨hpc, hcon, hnext⟩ | ⟨hpc, hstatus, -, t', ht', hpc'⟩ | ⟨hpc, hcon, hthread⟩ |
    ⟨hcreated, hstarting, -, hserver, ⟨t', ht', hcreated', hstarting'⟩, -⟩ := hcases
  · -- It begins.
    have hconnecting := h.starting t hmem (.inl hpc)
    have hstarting : ∀ u ∈ nextThreads s.servers 0 o.thread, u.pc = .starting := by
      intro u hu
      exact hnext u (hthreads u hu)
    refine ⟨?_, hone, fun hnot => absurd hsetUp hnot, ?_, ?_⟩
    · simpa only [NoLeak, hcon] using h.noLeak
    · intro u _ _
      simpa only [hcon] using hconnecting
    · intro u hu _ hnot
      exact absurd (hstarting u hu) hnot
  · -- It is online.
    refine ⟨fun _ hoffline => ?_, hone, fun hnot => absurd hsetUp hnot, ?_, fun _ _ _ _ => hstatus⟩
    · dsimp only at hoffline
      rw [hstatus] at hoffline
      cases hoffline
    · intro u hu hbefore
      obtain rfl := Option.some.inj (ht'.symm.trans (hthreads u hu))
      simp [hpc'] at hbefore
  · -- It exits, and the client can see the request.
    refine ⟨fun hused _ => ?_, hone, fun hnot => absurd hsetUp hnot, ?_, ?_⟩
    · dsimp only at hused ⊢
      rw [htype] at hused
      rw [hcon]
      by_cases hclient : s.con.client.status = .offline
      · exact .inl (if_pos hclient)
      · exact .inr ⟨if_neg hclient, (hexit hpc hused).resolve_left hclient⟩
    · exact fun u hu => absurd (hthreads u hu) (by simp [hthread])
    · exact fun u hu => absurd (hthreads u hu) (by simp [hthread])
  · have honline := h.online t hmem hcreated hstarting
    refine ⟨fun _ hoffline => ?_, hone, fun hnot => absurd hsetUp hnot, ?_, fun _ _ _ _ => ?_⟩
    · dsimp only at hoffline
      rw [hserver, honline] at hoffline
      cases hoffline
    · intro u hu hbefore
      obtain rfl := Option.some.inj (ht'.symm.trans (hthreads u hu))
      exact absurd hbefore (not_or.mpr ⟨hcreated', hstarting'⟩)
    · simpa only [hserver] using honline

/-- A step of the listener. -/
lemma Inv.setUpStep (h : s.Inv) {ok : Bool} (hstep : s.setUpStep ok = some s') : s'.Inv := by
  unfold Served.setUpStep at hstep
  split at hstep
  · rename_i hcreate
    have hbefore := h.setUp (by rw [hcreate]; decide)
    split at hstep <;> obtain rfl := Option.some.inj hstep
    · refine ⟨fun _ hoffline => ?_, h.one, fun _ => hbefore, h.starting, h.online⟩
      exact absurd (hbefore.2.symm.trans hoffline) (by decide)
    · exact ⟨h.noLeak, h.one, fun hnot => absurd rfl hnot, h.starting, h.online⟩
  · rename_i hcreate
    obtain ⟨hservers, hconnecting⟩ := h.setUp (by rw [hcreate]; decide)
    split at hstep <;> obtain rfl := Option.some.inj hstep
    · refine ⟨h.noLeak, by simp [hservers], fun hnot => absurd rfl hnot, fun _ _ _ => hconnecting, ?_⟩
      intro t ht hcreated
      obtain rfl : t = ⟨s.con.type, .created⟩ := by simpa [hservers] using ht
      exact absurd rfl hcreated
    · exact ⟨h.noLeak, h.one, fun hnot => absurd rfl hnot, h.starting, h.online⟩
  · cases hstep

/-- A step of the control thread. -/
lemma Inv.controlStep (h : s.Inv) {ok : Bool} (hstep : s.controlStep ok = some s') : s'.Inv := by
  unfold Served.controlStep at hstep
  split at hstep
  · split at hstep <;> obtain rfl := Option.some.inj hstep
    · exact ⟨h.noLeak, h.one, h.setUp, h.starting, h.online⟩
    · exact h
  · split at hstep
    · -- The record is free.
      obtain rfl := Option.some.inj hstep
      exact ⟨fun hused => absurd rfl hused, h.one, h.setUp, h.starting, h.online⟩
    · split at hstep <;> obtain rfl := Option.some.inj hstep <;>
        exact ⟨h.noLeak, h.one, h.setUp, h.starting, h.online⟩
  · split at hstep <;> obtain rfl := Option.some.inj hstep
    · exact ⟨h.noLeak, h.one, h.setUp, h.starting, h.online⟩
    · refine ⟨fun hused hoffline => ?_, h.one, h.setUp, h.starting, h.online⟩
      exact (h.noLeak hused hoffline).imp_right fun hclosed => ⟨hclosed.1, by simp⟩

/-- **One step** in order. -/
lemma Inv.step (h : s.Inv) {e : Event} (horder : s.Orderly e)
    (hstep : Served.step s e = some s') : s'.Inv := by
  cases e with
  | setApp app =>
    obtain rfl := Option.some.inj hstep
    exact ⟨h.noLeak, h.one, h.setUp, h.starting, h.online⟩
  | setUp ok => exact h.setUpStep hstep
  | client k input => exact h.client horder hstep
  | server k input => exact h.server horder hstep
  | control ok => exact h.controlStep hstep

/-- A step that is not in order loses the request. -/
lemma not_noLeak {e : Event} (horder : ¬ s.Orderly e) (hstep : step s e = some s') : ¬ s'.NoLeak := by
  intro hnoLeak
  cases e with
  | client k input =>
    unfold Orderly at horder
    push Not at horder
    obtain ⟨t, ht, hpc, hused, hoffline⟩ := horder
    obtain ⟨u, hu, hstep⟩ := Option.bind_eq_some_iff.mp hstep
    obtain rfl := Option.some.inj (ht.symm.trans hu)
    obtain ⟨o, ho, hstep⟩ := Option.bind_eq_some_iff.mp hstep
    obtain rfl := Option.some.inj hstep
    obtain ⟨htype, hserver, hcases⟩ := ClientThread.step_cases ho
    have hclient : o.con.client.status = .connecting ∨ o.con.client.status = .toBeRestarted := by
      obtain ⟨-, hstatus, -⟩ | ⟨restart, hclosing, hcon, -⟩ | ⟨hcreated, hclosing, -⟩ := hcases
      · exact .inl hstatus
      · obtain hpc | hpc := hpc
        · cases hclosing.symm.trans hpc
        · obtain rfl := ClientPc.closing.inj (hclosing.symm.trans hpc)
          right
          rw [hcon]
          rfl
      · exact absurd hpc (not_or.mpr ⟨hcreated, hclosing true⟩)
    have hleft : o.con.client.status = .offline ∨ o.con.client.status = .toBeClosed :=
      (hnoLeak (htype ▸ hused) (hserver ▸ hoffline)).imp_right And.left
    obtain hleft | hleft := hleft <;> simp [hleft] at hclient
  | server k input =>
    unfold Orderly at horder
    push Not at horder
    obtain ⟨t, ht, hpc, hused, hclient, hclients⟩ := horder
    obtain ⟨u, hu, hstep⟩ := Option.bind_eq_some_iff.mp hstep
    obtain rfl := Option.some.inj (ht.symm.trans hu)
    obtain ⟨o, ho, hstep⟩ := Option.bind_eq_some_iff.mp hstep
    obtain rfl := Option.some.inj hstep
    have hcon : o.con = s.con.resetServer := by
      have hcases := (ServerThread.step_cases ho).2.2
      simp only [hpc] at hcases
      have hcases : o.con = s.con.resetServer ∧ o.thread = none := by simpa using hcases
      exact hcases.1
    have hleft := hnoLeak (by dsimp only; rw [hcon]; exact hused) (by dsimp only; rw [hcon]; rfl)
    simp [hcon, Connection.resetServer, hclient, hclients] at hleft
  | setApp | setUp | control => exact horder trivial

/-- **No request to close is lost** in exactly the runs in which every step is in order. -/
theorem noLeak_throughout_iff (type : ConnectionType) (sock : ℤ) (app : ApplicationData)
    (control : Check) (es : List Event) :
    LabelledSystem.Throughout step NoLeak (init type sock app control) es ↔
      LabelledSystem.Along step Orderly (init type sock app control) es := by
  refine LabelledSystem.throughout_iff_along (I := Inv) ?_ (fun s h => h.noLeak) ?_
    (inv_init type sock app control)
  · intro s e s' h horder hstep
    exact h.step horder hstep
  · intro s e s' _ horder hstep
    exact not_noLeak horder hstep

/-- The data of a ready application. -/
def readyApp : ApplicationData := ⟨.ready, .unknown, false⟩

/-- The real server does not answer, and the peer closes before the client is started again. -/
def closedWhileRestarting : List Event :=
  [.setUp true, .setUp true, .client 0 .none, .client 0 .none, .client 0 (.connect .refused),
    .client 0 .none, .server 0 .none, .server 0 .none, .server 0 .none, .server 0 .none,
    .server 0 (.received .failed), .server 0 .none, .control true, .control true]

/-- The record stays `TO_BE_CLOSED` without a thread, and the control thread does not free it. -/
theorem closedWhileRestarting_leaks :
    ((LabelledSystem.exec step (init .ldap 5 readyApp .asleep) closedWhileRestarting).map fun s =>
        (s.con.type, s.con.client.status, s.clients, s.servers, s.control)) =
          some (.ldap, .toBeClosed, [], [], .asleep) ∧
      ¬ LabelledSystem.Throughout step NoLeak (init .ldap 5 readyApp .asleep)
        closedWhileRestarting := by
  refine ⟨rfl, fun h => ?_⟩
  obtain ⟨s, hs⟩ : ∃ s, LabelledSystem.exec step (init .ldap 5 readyApp .asleep)
    closedWhileRestarting = some s := ⟨_, rfl⟩
  have hleft := h.last hs
  obtain rfl := Option.some.inj hs
  obtain hoffline | ⟨-, hclients⟩ := hleft (by decide) rfl
  · cases hoffline
  · exact hclients rfl

end Served

end ConKeeper

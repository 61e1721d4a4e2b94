import StTools.ConKeeper.CloseRequest
import StTools.Lib.RoundRobin
import Mathlib.Data.List.Perm.Basic
import Mathlib.Logic.Function.Basic

/-!
# The connection records

A listener takes a free record under the mutex, by setting its type, and enters it in `conIndex`; it sets
the statuses and creates the two threads later, without the mutex.  The control thread copies all records
and then goes through `conIndex`: a record that was `OFFLINE` on both sides in the copy is set free, and a
client that was `TO_BE_RESTARTED` gets a new thread.

So a record must not be `OFFLINE` in the copy while a thread is on its way to it.  `safe_of_along` says
that nothing else can go wrong: in a run in which no copy shows such a record, and no connection is accepted
during a pass of the control thread, a record is set free only when it is not used.
-/

namespace ConKeeper

/-- An element of `v_connections`, with the threads that run on it. -/
structure Record where
  /-- The record. -/
  con : Connection
  /-- The client threads. -/
  clients : List ClientThread
  /-- The server threads. -/
  servers : List ServerThread
  deriving DecidableEq

/-- Where a listener is. -/
inductive ListenerPc (n : ℕ)
  /-- It waits for a connection. -/
  | on
  /-- It has accepted one, and `findConnection` has returned a record. -/
  | found (i : Fin n) (sock : ℤ)
  /-- The status of the server is set. -/
  | serverSet (i : Fin n) (sock : ℤ)
  /-- That of the client too. -/
  | clientSet (i : Fin n) (sock : ℤ)
  /-- The rest too. -/
  | filled (i : Fin n)
  /-- The client thread is created. -/
  | clientCreated (i : Fin n)
  /-- The listener has exited. -/
  | gone
  deriving DecidableEq

/-- A listener. -/
structure ListenerThread (n : ℕ) where
  /-- The type of its connections. -/
  type : ConnectionType
  /-- There are listeners for the three types. -/
  type_ne : type ≠ .none
  /-- Where it is. -/
  pc : ListenerPc n

/-- The copies of the statuses, client and server. -/
abbrev Copy (n : ℕ) := Fin n → ConnectionStatus × ConnectionStatus

/-- The listener has the record. -/
def ListenerPc.Has {n : ℕ} (i : Fin n) : ListenerPc n → Prop
  | .found j _ => j = i
  | .serverSet j _ => j = i
  | .clientSet j _ => j = i
  | .filled j => j = i
  | .clientCreated j => j = i
  | _ => False

/-- The listener has the record, and there is no client thread yet. -/
def ListenerPc.Early {n : ℕ} (i : Fin n) : ListenerPc n → Prop
  | .clientCreated _ => False
  | pc => pc.Has i

/-- Where the control thread is. -/
inductive Control (n : ℕ)
  | asleep
  /-- At the place `pos` of `conIndex`. -/
  | scan (copy : Copy n) (pos : ℕ)
  /-- It is going to set the type of a record to `NONE`. -/
  | freeing (copy : Copy n) (pos : ℕ) (i : Fin n)
  /-- It is going to erase the record from `conIndex`. -/
  | erasing (copy : Copy n) (pos : ℕ) (i : Fin n)
  /-- It is going to create a client thread. -/
  | creating (copy : Copy n) (pos : ℕ) (i : Fin n)

namespace Control

variable {n : ℕ}

/-- The copy of its pass. -/
def copy? : Control n → Option (Copy n)
  | asleep => none
  | scan copy _ => some copy
  | freeing copy _ _ => some copy
  | erasing copy _ _ => some copy
  | creating copy _ _ => some copy

/-- It is setting the record free. -/
def Frees (i : Fin n) : Control n → Prop
  | freeing _ _ j => j = i
  | erasing _ _ j => j = i
  | _ => False

/-- The record that is free and still in `conIndex`. -/
def erased : Control n → Option (Fin n)
  | erasing _ _ i => some i
  | _ => none

end Control

/-- The program. -/
structure Pool (n m : ℕ) where
  /-- `v_connections`. -/
  records : Fin n → Record
  /-- The indices of the records in use. -/
  conIndex : List (Fin n)
  /-- Where the next search begins. -/
  nextConnection : ℕ
  /-- The data of the application. -/
  app : ApplicationData
  /-- The listeners. -/
  listeners : Fin m → ListenerThread n
  /-- The control thread. -/
  control : Control n
  /-- Ghost: a search has read behind the end of `v_connections`. -/
  overrun : Bool

/-- What can happen. -/
inductive Pool.Event (n m : ℕ)
  /-- Another thread changes the data of the application. -/
  | setApp (app : ApplicationData)
  /-- A listener accepts a connection and looks for a record. -/
  | accept (l : Fin m) (sock : ℤ)
  /-- Another step of a listener; whether it succeeds. -/
  | listener (l : Fin m) (ok : Bool)
  /-- A step of a client thread. -/
  | client (i : Fin n) (k : ℕ) (input : Input)
  /-- A step of a server thread. -/
  | server (i : Fin n) (k : ℕ) (input : Input)
  /-- A step of the control thread; whether it can create a thread. -/
  | control (ok : Bool)

namespace Pool

variable {n m : ℕ}

/-- The pool with another value for a record. -/
def setRecord (s : Pool n m) (i : Fin n) (r : Record) : Pool n m :=
  { s with records := Function.update s.records i r }

/-- The pool with a listener at another place. -/
def setListener (s : Pool n m) (l : Fin m) (pc : ListenerPc n) : Pool n m :=
  { s with listeners := Function.update s.listeners l { s.listeners l with pc := pc } }

/-- The loop of `findConnection`, from an index on, for at most `fuel` records.  The index is not wrapped:
the loop may read behind the end of `v_connections`, and then there is no result. -/
def findFrom (s : Pool n m) : ℕ → ℕ → Option (Option (Fin n))
  | 0, _ => some none
  | fuel + 1, index =>
    if h : index < n then
      if (s.records ⟨index, h⟩).con.type = .none then some (some ⟨index, h⟩)
      else s.findFrom fuel (index + 1)
    else none

/-- The search of `findConnection`; `some none` stands for `-1`. -/
def findConnection (s : Pool n m) : Option (Option (Fin n)) := s.findFrom n s.nextConnection

/-- A record is taken for a connection of a type. -/
def take (s : Pool n m) (i : Fin n) (type : ConnectionType) : Pool n m :=
  { s.setRecord i { s.records i with con := { (s.records i).con with type := type } } with
    nextConnection := RoundRobin.advance n s.nextConnection
    conIndex := s.conIndex ++ [i] }

/-- A listener accepts a connection.  What a search finds behind the end is not modelled. -/
def acceptStep (s : Pool n m) (l : Fin m) (sock : ℤ) : Option (Pool n m) :=
  match (s.listeners l).pc with
  | .on =>
    match s.findConnection with
    | none => some { s with overrun := true }
    | some none => some s
    | some (some i) => some ((s.take i (s.listeners l).type).setListener l (.found i sock))
  | _ => none

/-- A client thread is created on a record. -/
def createClient (s : Pool n m) (i : Fin n) (type : ConnectionType) : Pool n m :=
  s.setRecord i { s.records i with
    con := { (s.records i).con with client := { (s.records i).con.client with threadID := true } }
    clients := (s.records i).clients ++ [⟨type, .created⟩] }

/-- A server thread is created on a record. -/
def createServer (s : Pool n m) (i : Fin n) (type : ConnectionType) : Pool n m :=
  s.setRecord i { s.records i with servers := (s.records i).servers ++ [⟨type, .created⟩] }

/-- The fields of a record are changed. -/
def modifyCon (s : Pool n m) (i : Fin n) (f : Connection → Connection) : Pool n m :=
  s.setRecord i { s.records i with con := f (s.records i).con }

/-- Another step of a listener. -/
def listenerStep (s : Pool n m) (l : Fin m) (ok : Bool) : Option (Pool n m) :=
  match (s.listeners l).pc with
  | .found i sock =>
    some ((s.modifyCon i fun c => { c with server := { c.server with status := .connecting } }).setListener
      l (.serverSet i sock))
  | .serverSet i sock =>
    some ((s.modifyCon i fun c => c.setClientStatus .connecting).setListener l (.clientSet i sock))
  | .clientSet i sock =>
    some ((s.modifyCon i fun c => { c with
      server := { c.server with sock := sock }
      client := { c.client with connectedTo := .unknown } }).setListener l (.filled i))
  | .filled i =>
    if ok then some ((s.createClient i (s.listeners l).type).setListener l (.clientCreated i))
    else some (s.setListener l .gone)
  | .clientCreated i =>
    if ok then some ((s.createServer i (s.listeners l).type).setListener l .on)
    else some (s.setListener l .gone)
  | _ => none

/-- A step of the control thread; only its passes in `READY` are here. -/
def controlStep (s : Pool n m) (ok : Bool) : Option (Pool n m) :=
  match s.control with
  | .asleep =>
    if s.app.status = .ready then
      some { s with
        control := .scan (fun i => ((s.records i).con.client.status, (s.records i).con.server.status)) 0 }
    else some s
  | .scan copy pos =>
    match s.conIndex[pos]? with
    | none => some { s with control := .asleep }
    | some i =>
      if copy i = (.offline, .offline) then some { s with control := .freeing copy pos i }
      else if (copy i).1 = .toBeRestarted ∧ (s.records i).con.client.threadID = false then
        some { s with control := .creating copy pos i }
      else some { s with control := .scan copy (pos + 1) }
  | .freeing copy pos i =>
    some { s.modifyCon i fun c => { c with type := .none, messageLen := 0 } with
      control := .erasing copy pos i }
  | .erasing copy pos _ =>
    some { s with conIndex := s.conIndex.eraseIdx pos, control := .scan copy pos }
  | .creating copy pos i =>
    if (s.records i).con.type = .none ∨ ok = false then some { s with control := .scan copy (pos + 1) }
    else
      some { s.createClient i (s.records i).con.type with control := .scan copy (pos + 1) }

/-- One step. -/
def step (s : Pool n m) : Event n m → Option (Pool n m)
  | .setApp app => some { s with app := app }
  | .accept l sock => s.acceptStep l sock
  | .listener l ok => s.listenerStep l ok
  | .client i k input => do
    let t ← (s.records i).clients[k]?
    let o ← t.step s.app (s.records i).con input
    return { s.setRecord i { s.records i with
      con := o.con, clients := nextThreads (s.records i).clients k o.thread } with app := o.app }
  | .server i k input => do
    let t ← (s.records i).servers[k]?
    let o ← t.step s.app (s.records i).con input
    return { s.setRecord i { s.records i with
      con := o.con, servers := nextThreads (s.records i).servers k o.thread } with app := o.app }
  | .control ok => s.controlStep ok

/-- The program when its listeners are on; they are for some types of connections. -/
def init (types : Fin m → { type : ConnectionType // type ≠ .none }) (app : ApplicationData) : Pool n m where
  records _ := ⟨Connection.initial, [], []⟩
  conIndex := []
  nextConnection := 0
  app := app
  listeners l := ⟨types l, (types l).2, .on⟩
  control := .asleep
  overrun := false

/-! ## What should hold -/

/-- Nobody uses the record. -/
def Unused (s : Pool n m) (i : Fin n) : Prop :=
  (s.records i).clients = [] ∧ (s.records i).servers = [] ∧ ∀ l, ¬ (s.listeners l).pc.Has i

/-- A record in use is not handed out again. -/
structure Safe (s : Pool n m) : Prop where
  /-- What is set free is not used. -/
  frees : ∀ i, s.control.Frees i → s.Unused i
  /-- What `findConnection` may return is not used. -/
  free : ∀ i, (s.records i).con.type = .none → s.Unused i
  /-- A record is in the hands of one listener or of one server thread. -/
  single : ∀ i, (s.records i).servers.length ≤ 1 ∧
    ∀ l, (s.listeners l).pc.Has i →
      (s.records i).servers = [] ∧ ∀ l', (s.listeners l').pc.Has i → l = l'
  /-- `conIndex` has every record that is not free exactly once. -/
  index : ∀ i, (s.records i).con.type ≠ .none → s.conIndex.count i = 1
  /-- No other memory is taken for a record. -/
  inside : s.overrun = false

/-- The step is in order: no connection is accepted during a pass of the control thread, the search for a
record stays in `v_connections`, and no record that is copied with both statuses `OFFLINE` is being set up
or has a client thread. -/
def Orderly (s : Pool n m) : Event n m → Prop
  | .accept _ _ => s.control = .asleep ∧ s.findConnection ≠ none
  | .control _ =>
    s.control = .asleep → ∀ i, (s.records i).con.type ≠ .none →
      (s.records i).con.client.status = .offline → (s.records i).con.server.status = .offline →
        (s.records i).clients = [] ∧ ∀ l sock, (s.listeners l).pc ≠ .found i sock
  | _ => True

end Pool

/-! ## The invariant -/

/-- A record that no thread has, with both statuses `OFFLINE`. -/
structure Record.Idle (r : Record) : Prop where
  /-- No client thread. -/
  clients : r.clients = []
  /-- No server thread. -/
  servers : r.servers = []
  /-- The client. -/
  client : r.con.client.status = .offline
  /-- The server. -/
  server : r.con.server.status = .offline

/-- The threads of a record fit its statuses. -/
structure Record.Fits (r : Record) : Prop where
  /-- One client thread, -/
  client : r.clients.length ≤ 1
  /-- which has its number in the record. -/
  threadID : r.con.client.threadID = false → r.clients = []
  /-- When it has begun, the client is not `OFFLINE`. -/
  begun : ∀ t ∈ r.clients, t.pc ≠ .created → r.con.client.status ≠ .offline
  /-- One server thread. -/
  server : r.servers.length ≤ 1
  /-- Before it is online. -/
  starting : ∀ t ∈ r.servers, t.pc = .created ∨ t.pc = .starting → r.con.server.status = .connecting
  /-- And then. -/
  online : ∀ t ∈ r.servers, t.pc ≠ .created → t.pc ≠ .starting → r.con.server.status = .online

/-- The state of a record in the hands of a listener. -/
def ListenerPc.Fits {n : ℕ} (r : Record) : ListenerPc n → Prop
  | .found _ _ => r.Idle
  | .serverSet _ _ => r.clients = [] ∧ r.servers = [] ∧ r.con.client.status = .offline ∧
      r.con.server.status = .connecting
  | .clientSet _ _ => r.clients = [] ∧ r.servers = [] ∧ r.con.client.status = .connecting ∧
      r.con.server.status = .connecting
  | .filled _ => r.clients = [] ∧ r.servers = [] ∧ r.con.client.status = .connecting ∧
      r.con.server.status = .connecting
  | .clientCreated _ => r.servers = [] ∧ r.con.server.status = .connecting
  | _ => True

/-- A record in the hands of a listener has no server thread. -/
lemma ListenerPc.Fits.servers {n : ℕ} {pc : ListenerPc n} {i : Fin n} {r : Record} (h : pc.Fits r)
    (hhas : pc.Has i) : r.servers = [] := by
  cases pc with
  | found j sock => exact Record.Idle.servers h
  | serverSet j sock => exact h.2.1
  | clientSet j sock => exact h.2.1
  | filled j => exact h.2.1
  | clientCreated j => exact h.1
  | on | gone => exact hhas.elim

/-- Before its client thread is created there is none, and the client is not `TO_BE_RESTARTED`. -/
lemma ListenerPc.Fits.early {n : ℕ} {pc : ListenerPc n} {i : Fin n} {r : Record} (h : pc.Fits r)
    (hearly : pc.Early i) : r.clients = [] ∧ r.con.client.status ≠ .toBeRestarted := by
  cases pc with
  | found j sock => exact ⟨Record.Idle.clients h, by simp [Record.Idle.client h]⟩
  | serverSet j sock => exact ⟨h.1, by simp [h.2.2.1]⟩
  | clientSet j sock => exact ⟨h.1, by simp [h.2.2.1]⟩
  | filled j => exact ⟨h.1, by simp [h.2.2.1]⟩
  | clientCreated j | on | gone => exact hearly.elim

/-- What a listener has after that. -/
lemma ListenerPc.Fits.late {n : ℕ} {pc : ListenerPc n} {i : Fin n} {r r' : Record} (h : pc.Fits r)
    (hhas : pc.Has i) (hearly : ¬ pc.Early i) (hservers : r'.servers = r.servers)
    (hstatus : r'.con.server.status = r.con.server.status) : pc.Fits r' := by
  cases pc with
  | clientCreated j => exact ⟨hservers.trans h.1, hstatus.trans h.2⟩
  | on | gone => exact hhas.elim
  | found j sock | serverSet j sock | clientSet j sock | filled j => exact absurd hhas hearly

/-- When its server is `OFFLINE`, it was just found. -/
lemma ListenerPc.Fits.found {n : ℕ} {pc : ListenerPc n} {i : Fin n} {r : Record} (h : pc.Fits r)
    (hhas : pc.Has i) (hoffline : r.con.server.status = .offline) : ∃ sock, pc = .found i sock := by
  cases pc with
  | found j sock =>
    obtain rfl : j = i := hhas
    exact ⟨sock, rfl⟩
  | serverSet j sock | clientSet j sock | filled j =>
    exact absurd (h.2.2.2.symm.trans hoffline) (by decide)
  | clientCreated j => exact absurd (h.2.symm.trans hoffline) (by decide)
  | on | gone => exact hhas.elim

namespace Record

variable {r : Record} {app : ApplicationData} {k : ℕ} {i : Input}

/-- A record whose server is `OFFLINE` has no server thread. -/
lemma Fits.servers_of_offline (h : r.Fits) (hoffline : r.con.server.status = .offline) :
    r.servers = [] := by
  refine List.eq_nil_iff_forall_not_mem.mpr fun t ht => ?_
  by_cases hbefore : t.pc = .created ∨ t.pc = .starting
  · exact absurd ((h.starting t ht hbefore).symm.trans hoffline) (by decide)
  · obtain ⟨hcreated, hstarting⟩ := not_or.mp hbefore
    exact absurd ((h.online t ht hcreated hstarting).symm.trans hoffline) (by decide)

/-- A record without threads. -/
lemma fits_of_nil (hclients : r.clients = []) (hservers : r.servers = []) : r.Fits := by
  constructor <;> simp [hclients, hservers]

/-- A client thread is created. -/
lemma Fits.createClient (h : r.Fits) (hclients : r.clients = []) (type : ConnectionType) :
    ({ r with
      con := { r.con with client := { r.con.client with threadID := true } }
      clients := r.clients ++ [⟨type, .created⟩] } : Record).Fits := by
  refine ⟨by simp [hclients], by simp, fun t ht hcreated => ?_, h.server, h.starting, h.online⟩
  obtain rfl : t = ⟨type, .created⟩ := by simpa [hclients] using ht
  exact absurd rfl hcreated

/-- The server thread is created. -/
lemma Fits.createServer (h : r.Fits) (hservers : r.servers = [])
    (hstatus : r.con.server.status = .connecting) (type : ConnectionType) :
    ({ r with servers := r.servers ++ [⟨type, .created⟩] } : Record).Fits := by
  refine ⟨h.client, h.threadID, h.begun, by simp [hservers], fun _ _ _ => hstatus,
    fun t ht hcreated => ?_⟩
  obtain rfl : t = ⟨type, .created⟩ := by simpa [hservers] using ht
  exact absurd rfl hcreated

/-- A step of a client thread. -/
lemma Fits.clientStep (h : r.Fits) {t : ClientThread} {o : Outcome ClientThread}
    (ht : r.clients[k]? = some t) (ho : t.step app r.con i = some o) :
    ({ r with con := o.con, clients := nextThreads r.clients k o.thread } : Record).Fits := by
  obtain ⟨hclients, rfl⟩ := eq_singleton_of_getElem? h.client ht
  obtain ⟨-, hserver, hcases⟩ := ClientThread.step_cases ho
  have hmem : t ∈ r.clients := by simp [hclients]
  have hnextThreads : nextThreads r.clients 0 o.thread = o.thread.toList :=
    hclients ▸ nextThreads_singleton t o.thread
  refine ⟨?_, ?_, ?_, h.server, by simpa only [hserver] using h.starting,
    by simpa only [hserver] using h.online⟩
  · exact hnextThreads ▸ Option.length_toList_le
  · intro hid
    obtain ⟨-, -, hsame, -⟩ | ⟨restart, -, -, hthread⟩ | ⟨-, -, hsame, -⟩ := hcases
    · simp [h.threadID (hsame ▸ hid)] at hmem
    · dsimp only
      rw [hnextThreads, hthread]
      rfl
    · simp [h.threadID (hsame ▸ hid)] at hmem
  · intro u hu hcreated
    obtain ⟨-, hstatus, -⟩ | ⟨restart, -, -, hthread⟩ | ⟨hpc, -, -, -, hstatus⟩ := hcases
    · simp [hstatus]
    · dsimp only at hu
      rw [hnextThreads, hthread] at hu
      cases hu
    · have hbegun := h.begun t hmem hpc
      obtain hsame | ⟨-, hstatus | hstatus⟩ := hstatus
      · exact fun hoffline => hbegun (hsame ▸ hoffline)
      · simp [hstatus]
      · simp [hstatus]

/-- A step of a server thread. -/
lemma Fits.serverStep (h : r.Fits) {t : ServerThread} {o : Outcome ServerThread}
    (ht : r.servers[k]? = some t) (ho : t.step app r.con i = some o) :
    ({ r with con := o.con, servers := nextThreads r.servers k o.thread } : Record).Fits := by
  obtain ⟨hservers, rfl⟩ := eq_singleton_of_getElem? h.server ht
  obtain ⟨-, hid, hcases⟩ := ServerThread.step_cases ho
  have hmem : t ∈ r.servers := by simp [hservers]
  have hnextThreads : nextThreads r.servers 0 o.thread = o.thread.toList :=
    hservers ▸ nextThreads_singleton t o.thread
  have hlength : (nextThreads r.servers 0 o.thread).length ≤ 1 :=
    hnextThreads ▸ Option.length_toList_le
  have hthreads : ∀ u ∈ nextThreads r.servers 0 o.thread, o.thread = some u := fun u hu =>
    Option.mem_toList.mp (hnextThreads ▸ hu)
  obtain ⟨hpc, hcon, hnext⟩ | ⟨hpc, hstatus, hclient, t', ht', hpc'⟩ | ⟨hpc, hcon, hthread⟩ |
    ⟨hcreated, hstarting, -, hserver, ⟨t', ht', hcreated', hstarting'⟩, hclient⟩ := hcases
  · have hconnecting := h.starting t hmem (.inl hpc)
    refine ⟨h.client, by simpa only [hcon] using h.threadID, by simpa only [hcon] using h.begun,
      hlength, fun u _ _ => by simpa only [hcon] using hconnecting, fun u hu _ hnot => ?_⟩
    exact absurd (hnext u (hthreads u hu)) hnot
  · refine ⟨h.client, by simpa only [hclient] using h.threadID, by simpa only [hclient] using h.begun,
      hlength, fun u hu hbefore => ?_, fun _ _ _ _ => hstatus⟩
    obtain rfl := Option.some.inj (ht'.symm.trans (hthreads u hu))
    simp [hpc'] at hbefore
  · refine ⟨h.client, by simpa only [hid] using h.threadID, fun u hu hpc => ?_, hlength,
      fun u hu => absurd (hthreads u hu) (by simp [hthread]),
      fun u hu => absurd (hthreads u hu) (by simp [hthread])⟩
    simp [hcon, Connection.resetServer, h.begun u hu hpc]
  · have honline := h.online t hmem hcreated hstarting
    refine ⟨h.client, by simpa only [hid] using h.threadID, fun u hu hpc => ?_, hlength,
      fun u hu hbefore => ?_, fun _ _ _ _ => by simpa only [hserver] using honline⟩
    · obtain hsame | hstatus := hclient
      · exact fun hoffline => h.begun u hu hpc (hsame ▸ hoffline)
      · simp [hstatus]
    · obtain rfl := Option.some.inj (ht'.symm.trans (hthreads u hu))
      exact absurd hbefore (not_or.mpr ⟨hcreated', hstarting'⟩)

end Record

namespace Pool

variable {n m : ℕ} {s s' : Pool n m}

/-- The copy of the records is right about what the control thread decides by. -/
def CopyFits (s : Pool n m) (copy : Copy n) : Prop :=
  ∀ i, (s.records i).con.type ≠ .none →
    (copy i = (.offline, .offline) → (s.records i).Idle ∧ ∀ l, ¬ (s.listeners l).pc.Has i) ∧
      ((copy i).1 = .toBeRestarted → ∀ l, ¬ (s.listeners l).pc.Early i)

/-- The control thread knows what it does. -/
def ControlFits (s : Pool n m) : Control n → Prop
  | .freeing copy pos i => s.conIndex[pos]? = some i ∧ (s.records i).con.type ≠ .none ∧
      copy i = (.offline, .offline)
  | .erasing _ pos i => s.conIndex[pos]? = some i ∧ (s.records i).con.type = .none
  | .creating copy _ i => (copy i).1 = .toBeRestarted ∧
      (s.records i).con.client.threadID = false
  | _ => True

/-- The invariant of the runs in order. -/
structure Inv (s : Pool n m) : Prop where
  /-- The records. -/
  fits : ∀ i, (s.records i).Fits
  /-- A record that is free. -/
  free : ∀ i, (s.records i).con.type = .none → (s.records i).Idle
  /-- A record in the hands of a listener. -/
  has : ∀ i l, (s.listeners l).pc.Has i →
    (s.records i).con.type ≠ .none ∧ (s.listeners l).pc.Fits (s.records i)
  /-- Of one listener. -/
  unique : ∀ i l l', (s.listeners l).pc.Has i → (s.listeners l').pc.Has i → l = l'
  /-- The records in use are in `conIndex`. -/
  index : ∀ i, (s.records i).con.type ≠ .none → s.conIndex.count i = 1
  /-- And one that is being set free. -/
  noIndex : ∀ i, (s.records i).con.type = .none →
    s.conIndex.count i = if s.control.erased = some i then 1 else 0
  /-- The copy. -/
  copy : ∀ copy, s.control.copy? = some copy → s.CopyFits copy
  /-- The control thread. -/
  control : s.ControlFits s.control

lemma inv_init (types : Fin m → { type : ConnectionType // type ≠ .none }) (app : ApplicationData) :
    (init (n := n) types app).Inv where
  fits i := by constructor <;> simp [init]
  free i _ := ⟨rfl, rfl, rfl, rfl⟩
  has i l h := h.elim
  unique i l l' h := h.elim
  index i h := absurd rfl h
  noIndex i _ := rfl
  copy copy h := by cases h
  control := trivial

/-- The invariant gives the property. -/
lemma Inv.safe (h : s.Inv) (hinside : s.overrun = false) : s.Safe where
  inside := hinside
  frees i hi := by
    have hcontrol := h.control
    cases hpc : s.control with
    | freeing copy pos j =>
      rw [hpc] at hi hcontrol
      obtain rfl : j = i := hi
      obtain ⟨-, hused, hcopy⟩ := hcontrol
      obtain ⟨hidle, hhas⟩ := (h.copy copy (by rw [hpc]; rfl) j hused).1 hcopy
      exact ⟨hidle.clients, hidle.servers, hhas⟩
    | erasing copy pos j =>
      rw [hpc] at hi hcontrol
      obtain rfl : j = i := hi
      have hidle := h.free j hcontrol.2
      exact ⟨hidle.clients, hidle.servers, fun l hl => (h.has j l hl).1 hcontrol.2⟩
    | asleep | scan copy pos | creating copy pos j =>
      rw [hpc] at hi
      exact hi.elim
  free i hfree := by
    have hidle := h.free i hfree
    exact ⟨hidle.clients, hidle.servers, fun l hl => (h.has i l hl).1 hfree⟩
  single i := by
    refine ⟨(h.fits i).server, fun l hl => ⟨?_, fun l' hl' => h.unique i l l' hl hl'⟩⟩
    exact (h.has i l hl).2.servers hl
  index := h.index

/-- Another value for a record in use, that no copy has as `OFFLINE` twice. -/
lemma Inv.setRecord (h : s.Inv) {i : Fin n} {r : Record} (hfits : r.Fits)
    (hused : (s.records i).con.type ≠ .none) (htype : r.con.type = (s.records i).con.type)
    (hcopy : ∀ copy, s.control.copy? = some copy → copy i ≠ (.offline, .offline))
    (hhas : ∀ l, (s.listeners l).pc.Has i → (s.listeners l).pc.Fits r)
    (hcreating : ∀ copy pos, s.control = .creating copy pos i → r.con.client.threadID = false) :
    (s.setRecord i r).Inv := by
  have htypes : ∀ j, ((s.setRecord i r).records j).con.type = (s.records j).con.type := by
    intro j
    by_cases hj : j = i
    · subst hj
      simpa [Pool.setRecord] using htype
    · simp [Pool.setRecord, Function.update_of_ne hj]
  have hother : ∀ {j}, j ≠ i → (s.setRecord i r).records j = s.records j := by
    intro j hj
    simp [Pool.setRecord, Function.update_of_ne hj]
  have hself : (s.setRecord i r).records i = r := by simp [Pool.setRecord]
  refine ⟨fun j => ?_, fun j hj => ?_, fun j l hl => ?_, h.unique, fun j hj => ?_, fun j hj => ?_,
    fun copy hcontrol j hj => ?_, ?_⟩
  · by_cases hj : j = i
    · rw [hj, hself]
      exact hfits
    · rw [hother hj]
      exact h.fits j
  · rw [htypes] at hj
    have hne : j ≠ i := by
      rintro rfl
      exact hused hj
    rw [hother hne]
    exact h.free j hj
  · rw [htypes]
    refine ⟨(h.has j l hl).1, ?_⟩
    by_cases hj : j = i
    · subst hj
      rw [hself]
      exact hhas l hl
    · rw [hother hj]
      exact (h.has j l hl).2
  · exact h.index j (htypes j ▸ hj)
  · exact h.noIndex j (htypes j ▸ hj)
  · rw [htypes] at hj
    obtain ⟨hidle, hearly⟩ := h.copy copy hcontrol j hj
    refine ⟨fun hoffline => ?_, hearly⟩
    have hne : j ≠ i := by
      rintro rfl
      exact hcopy copy hcontrol hoffline
    rw [hother hne]
    exact hidle hoffline
  · have hcontrol := h.control
    change (s.setRecord i r).ControlFits s.control
    cases hpc : s.control with
    | freeing copy pos j =>
      rw [hpc] at hcontrol
      exact ⟨hcontrol.1, by rw [htypes]; exact hcontrol.2.1, hcontrol.2.2⟩
    | erasing copy pos j =>
      rw [hpc] at hcontrol
      exact ⟨hcontrol.1, by rw [htypes]; exact hcontrol.2⟩
    | creating copy pos j =>
      rw [hpc] at hcontrol
      refine ⟨hcontrol.1, ?_⟩
      by_cases hj : j = i
      · subst hj
        rw [hself]
        exact hcreating copy pos hpc
      · rw [hother hj]
        exact hcontrol.2
    | asleep | scan copy pos => trivial

/-- A step of a client thread. -/
lemma Inv.client (h : s.Inv) {i : Fin n} {k : ℕ} {input : Input}
    (hstep : step s (.client i k input) = some s') : s'.Inv := by
  obtain ⟨t, ht, hstep⟩ := Option.bind_eq_some_iff.mp hstep
  obtain ⟨o, ho, hstep⟩ := Option.bind_eq_some_iff.mp hstep
  obtain rfl := Option.some.inj hstep
  obtain ⟨htype, hserver, -⟩ := ClientThread.step_cases ho
  have hfits := (h.fits i).clientStep ht ho
  have hclients : (s.records i).clients ≠ [] := by
    rintro hnil
    simp [hnil] at ht
  have hused : (s.records i).con.type ≠ .none := fun hfree => hclients (h.free i hfree).clients
  have hnext : Inv { s with app := o.app } :=
    ⟨h.fits, h.free, h.has, h.unique, h.index, h.noIndex, h.copy, h.control⟩
  refine hnext.setRecord hfits hused htype (fun copy hcopy hoffline => ?_) (fun l hl => ?_)
    fun copy pos hcreating => ?_
  · exact hclients ((h.copy copy hcopy i hused).1 hoffline).1.clients
  · have hpc := (h.has i l hl).2
    refine hpc.late hl (fun hearly => hclients (hpc.early hearly).1) rfl ?_
    simp only [hserver]
  · have hcontrol := h.control
    rw [show s.control = .creating copy pos i from hcreating] at hcontrol
    exact absurd ((h.fits i).threadID hcontrol.2) hclients

/-- A step of a server thread. -/
lemma Inv.server (h : s.Inv) {i : Fin n} {k : ℕ} {input : Input}
    (hstep : step s (.server i k input) = some s') : s'.Inv := by
  obtain ⟨t, ht, hstep⟩ := Option.bind_eq_some_iff.mp hstep
  obtain ⟨o, ho, hstep⟩ := Option.bind_eq_some_iff.mp hstep
  obtain rfl := Option.some.inj hstep
  obtain ⟨htype, hid, -⟩ := ServerThread.step_cases ho
  have hfits := (h.fits i).serverStep ht ho
  have hservers : (s.records i).servers ≠ [] := by
    rintro hnil
    simp [hnil] at ht
  have hused : (s.records i).con.type ≠ .none := fun hfree => hservers (h.free i hfree).servers
  have hnext : Inv { s with app := o.app } :=
    ⟨h.fits, h.free, h.has, h.unique, h.index, h.noIndex, h.copy, h.control⟩
  refine hnext.setRecord hfits hused htype (fun copy hcopy hoffline => ?_) (fun l hl => ?_)
    fun copy pos hcreating => ?_
  · exact hservers ((h.copy copy hcopy i hused).1 hoffline).1.servers
  · exact absurd ((h.has i l hl).2.servers hl) hservers
  · have hcontrol := h.control
    rw [show s.control = .creating copy pos i from hcreating] at hcontrol
    exact hid.trans hcontrol.2

/-- A listener goes to a place where it has at most a record that no other has. -/
lemma Inv.setListener (h : s.Inv) {l : Fin m} {pc : ListenerPc n}
    (hhas : ∀ i, pc.Has i → (s.records i).con.type ≠ .none ∧ pc.Fits (s.records i) ∧
      (∀ l', l' ≠ l → ¬ (s.listeners l').pc.Has i) ∧
      ∀ copy, s.control.copy? = some copy → copy i ≠ (.offline, .offline) ∧
        ((copy i).1 = .toBeRestarted → ¬ pc.Early i)) : (s.setListener l pc).Inv := by
  have hself : ((s.setListener l pc).listeners l).pc = pc := by simp [Pool.setListener]
  have hother : ∀ {l'}, l' ≠ l → (s.setListener l pc).listeners l' = s.listeners l' := by
    intro l' hne
    simp [Pool.setListener, Function.update_of_ne hne]
  refine ⟨h.fits, h.free, fun i l' hl' => ?_, fun i l₁ l₂ h₁ h₂ => ?_, h.index, h.noIndex,
    fun copy hcopy i hi => ⟨fun hoffline => ?_, fun hrestart l' hl' => ?_⟩, h.control⟩
  · by_cases hne : l' = l
    · subst hne
      rw [hself] at hl' ⊢
      exact ⟨(hhas i hl').1, (hhas i hl').2.1⟩
    · rw [hother hne] at hl' ⊢
      exact h.has i l' hl'
  · by_cases hne₁ : l₁ = l <;> by_cases hne₂ : l₂ = l
    · exact hne₁.trans hne₂.symm
    · subst hne₁
      rw [hself] at h₁
      rw [hother hne₂] at h₂
      exact absurd h₂ ((hhas i h₁).2.2.1 l₂ hne₂)
    · subst hne₂
      rw [hself] at h₂
      rw [hother hne₁] at h₁
      exact absurd h₁ ((hhas i h₂).2.2.1 l₁ hne₁)
    · rw [hother hne₁] at h₁
      rw [hother hne₂] at h₂
      exact h.unique i l₁ l₂ h₁ h₂
  · obtain ⟨hidle, hnobody⟩ := (h.copy copy hcopy i hi).1 hoffline
    refine ⟨hidle, fun l' hl' => ?_⟩
    by_cases hne : l' = l
    · subst hne
      rw [hself] at hl'
      exact ((hhas i hl').2.2.2 copy hcopy).1 hoffline
    · rw [hother hne] at hl'
      exact hnobody l' hl'
  · by_cases hne : l' = l
    · subst hne
      rw [hself] at hl'
      have hhas' : pc.Has i := by
        cases pc <;> first | exact hl' | exact hl'.elim
      exact ((hhas i hhas').2.2.2 copy hcopy).2 hrestart hl'
    · rw [hother hne] at hl'
      exact (h.copy copy hcopy i hi).2 hrestart l' hl'

/-- A listener with a record goes on, with another value for the record. -/
lemma Inv.update (h : s.Inv) {i : Fin n} {l : Fin m} {r : Record} {pc : ListenerPc n}
    (hl : (s.listeners l).pc.Has i) (hfits : r.Fits) (htype : r.con.type = (s.records i).con.type)
    (hnext : ∀ j, pc.Has j → j = i) (hpc : pc.Fits r)
    (hearly : pc.Early i → (s.listeners l).pc.Early i)
    (hid : ¬ (s.listeners l).pc.Early i → r.con.client.threadID = (s.records i).con.client.threadID) :
    ((s.setRecord i r).setListener l pc).Inv := by
  have hused := (h.has i l hl).1
  have hother : ∀ l', l' ≠ l → ¬ (s.listeners l').pc.Has i :=
    fun l' hne hl' => hne (h.unique i l' l hl' hl)
  have hcopy : ∀ copy, s.control.copy? = some copy → copy i ≠ (.offline, .offline) :=
    fun copy hcopy hoffline => ((h.copy copy hcopy i hused).1 hoffline).2 l hl
  -- Without this listener, nobody has the record.
  have hgone : (s.setListener l .gone).Inv := h.setListener fun j hj => hj.elim
  have hset : ((s.setListener l .gone).setRecord i r).Inv := by
    refine hgone.setRecord hfits hused htype hcopy (fun l' hl' => ?_) fun copy pos hcreating => ?_
    · by_cases hne : l' = l
      · subst hne
        simp [Pool.setListener, ListenerPc.Has] at hl'
      · simp only [Pool.setListener, Function.update_of_ne hne] at hl'
        exact absurd hl' (hother l' hne)
    · have hcontrol := h.control
      rw [show s.control = .creating copy pos i from hcreating] at hcontrol
      have hlate : ¬ (s.listeners l).pc.Early i := by
        refine (h.copy copy ?_ i hused).2 hcontrol.1 l
        rw [show s.control = .creating copy pos i from hcreating]
        rfl
      exact (hid hlate).trans hcontrol.2
  have hfinal : (((s.setListener l .gone).setRecord i r).setListener l pc).Inv := by
    refine hset.setListener fun j hj => ?_
    obtain rfl := hnext j hj
    refine ⟨?_, ?_, fun l' hne hl' => ?_, fun copy hc => ⟨hcopy copy hc, fun hrestart he => ?_⟩⟩
    · simpa [Pool.setRecord, htype] using hused
    · simpa [Pool.setRecord] using hpc
    · simp only [Pool.setRecord, Pool.setListener, Function.update_of_ne hne] at hl'
      exact hother l' hne hl'
    · exact (h.copy copy hc j hused).2 hrestart l (hearly he)
  simpa [Pool.setListener, Pool.setRecord] using hfinal

/-- A step of a listener that has a record. -/
lemma Inv.listenerStep (h : s.Inv) {l : Fin m} {ok : Bool} (hstep : s.listenerStep l ok = some s') :
    s'.Inv := by
  unfold Pool.listenerStep at hstep
  split at hstep
  · rename_i i sock hpc
    have hl : (s.listeners l).pc.Has i := by rw [hpc]; rfl
    have hidle := (h.has i l hl).2
    rw [hpc] at hidle
    obtain ⟨hclients, hservers, hclient, -⟩ : (s.records i).Idle := hidle
    obtain rfl := Option.some.inj hstep
    refine h.update hl (Record.fits_of_nil hclients hservers) rfl
      (fun j hj => hj.symm) ⟨hclients, hservers, hclient, rfl⟩ ?_ fun _ => rfl
    exact fun _ => by rw [hpc]; rfl
  · rename_i i sock hpc
    have hl : (s.listeners l).pc.Has i := by rw [hpc]; rfl
    have hbefore := (h.has i l hl).2
    rw [hpc] at hbefore
    obtain ⟨hclients, hservers, -, hserver⟩ := hbefore
    obtain rfl := Option.some.inj hstep
    refine h.update hl (Record.fits_of_nil hclients hservers) rfl
      (fun j hj => hj.symm) ⟨hclients, hservers, rfl, hserver⟩ ?_ fun _ => rfl
    exact fun _ => by rw [hpc]; rfl
  · rename_i i sock hpc
    have hl : (s.listeners l).pc.Has i := by rw [hpc]; rfl
    have hbefore := (h.has i l hl).2
    rw [hpc] at hbefore
    obtain ⟨hclients, hservers, hclient, hserver⟩ := hbefore
    obtain rfl := Option.some.inj hstep
    refine h.update hl (Record.fits_of_nil hclients hservers) rfl
      (fun j hj => hj.symm) ⟨hclients, hservers, hclient, hserver⟩ ?_ fun _ => rfl
    exact fun _ => by rw [hpc]; rfl
  · rename_i i hpc
    have hl : (s.listeners l).pc.Has i := by rw [hpc]; rfl
    have hearly : (s.listeners l).pc.Early i := by rw [hpc]; rfl
    have hbefore := (h.has i l hl).2
    rw [hpc] at hbefore
    obtain ⟨hclients, hservers, -, hserver⟩ := hbefore
    split at hstep <;> obtain rfl := Option.some.inj hstep
    · exact h.update hl ((h.fits i).createClient hclients _) rfl (fun j hj => hj.symm)
        ⟨hservers, hserver⟩ (fun hnot => hnot.elim) fun hnot => absurd hearly hnot
    · exact h.setListener fun j hj => hj.elim
  · rename_i i hpc
    have hl : (s.listeners l).pc.Has i := by rw [hpc]; rfl
    have hbefore := (h.has i l hl).2
    rw [hpc] at hbefore
    obtain ⟨hservers, hserver⟩ := hbefore
    split at hstep <;> obtain rfl := Option.some.inj hstep
    · exact h.update hl ((h.fits i).createServer hservers hserver _) rfl (fun j hj => hj.elim)
        trivial (fun hnot => hnot.elim) fun _ => rfl
    · exact h.setListener fun j hj => hj.elim
  · cases hstep

/-- What `findConnection` returns is free. -/
lemma type_of_findFrom {fuel index : ℕ} {i : Fin n} (h : s.findFrom fuel index = some (some i)) :
    (s.records i).con.type = .none := by
  induction fuel generalizing index with
  | zero => cases h
  | succ fuel ih =>
    unfold findFrom at h
    split at h
    · split at h
      · rename_i hfree
        obtain rfl := Option.some.inj (Option.some.inj h)
        exact hfree
      · exact ih h
    · cases h

/-- A record is taken while the control thread sleeps. -/
lemma Inv.take (h : s.Inv) {i : Fin n} {type : ConnectionType} (hcontrol : s.control = .asleep)
    (hfree : (s.records i).con.type = .none) (htype : type ≠ .none) : (s.take i type).Inv := by
  have hself : (s.take i type).records i =
      { s.records i with con := { (s.records i).con with type := type } } := by
    simp [Pool.take, Pool.setRecord]
  have hother : ∀ {j}, j ≠ i → (s.take i type).records j = s.records j := by
    intro j hj
    simp [Pool.take, Pool.setRecord, Function.update_of_ne hj]
  have hcount : s.conIndex.count i = 0 := by
    rw [h.noIndex i hfree, hcontrol]
    rfl
  have hnobody : ∀ l, ¬ (s.listeners l).pc.Has i := fun l hl => (h.has i l hl).1 hfree
  refine ⟨fun j => ?_, fun j hj => ?_, fun j l hl => ?_, h.unique, fun j hj => ?_, fun j hj => ?_,
    fun copy hcopy => ?_, ?_⟩
  · by_cases hji : j = i
    · subst hji
      rw [hself]
      obtain ⟨hclients, hservers, -, -⟩ := h.free j hfree
      exact Record.fits_of_nil hclients hservers
    · rw [hother hji]
      exact h.fits j
  · have hji : j ≠ i := by
      rintro rfl
      rw [hself] at hj
      exact htype hj
    rw [hother hji] at hj ⊢
    exact h.free j hj
  · have hji : j ≠ i := by
      rintro rfl
      exact hnobody l hl
    rw [hother hji]
    exact h.has j l hl
  · change (s.conIndex ++ [i]).count j = 1
    by_cases hji : j = i
    · subst hji
      simp [List.count_append, hcount]
    · rw [hother hji] at hj
      simpa [List.count_append, Ne.symm hji] using h.index j hj
  · have hji : j ≠ i := by
      rintro rfl
      rw [hself] at hj
      exact htype hj
    rw [hother hji] at hj
    change (s.conIndex ++ [i]).count j = if s.control.erased = some j then 1 else 0
    simpa [List.count_append, Ne.symm hji] using h.noIndex j hj
  · simp [Pool.take, Pool.setRecord, hcontrol, Control.copy?] at hcopy
  · change (s.take i type).ControlFits s.control
    rw [hcontrol]
    trivial

/-- A connection is accepted while the control thread sleeps. -/
lemma Inv.acceptStep (h : s.Inv) {l : Fin m} {sock : ℤ} (horder : s.control = .asleep)
    (hstep : s.acceptStep l sock = some s') : s'.Inv := by
  unfold Pool.acceptStep at hstep
  split at hstep
  · rename_i hon
    rcases hfound : s.findConnection with _ | _ | i
    · rw [hfound] at hstep
      obtain rfl := Option.some.inj hstep
      exact ⟨h.fits, h.free, h.has, h.unique, h.index, h.noIndex, h.copy, h.control⟩
    · rw [hfound] at hstep
      obtain rfl := Option.some.inj hstep
      exact h
    · rw [hfound] at hstep
      obtain rfl := Option.some.inj hstep
      have hfree := type_of_findFrom hfound
      have hidle := h.free i hfree
      have hnobody : ∀ l, ¬ (s.listeners l).pc.Has i := fun l hl => (h.has i l hl).1 hfree
      have htake := h.take horder hfree (s.listeners l).type_ne
      refine htake.setListener fun j hj => ?_
      obtain rfl : i = j := hj
      refine ⟨?_, ?_, fun l' _ => hnobody l', fun copy hcopy => ?_⟩
      · simpa [Pool.take, Pool.setRecord] using (s.listeners l).type_ne
      · exact ⟨by simpa [Pool.take, Pool.setRecord] using hidle.clients,
          by simpa [Pool.take, Pool.setRecord] using hidle.servers,
          by simpa [Pool.take, Pool.setRecord] using hidle.client,
          by simpa [Pool.take, Pool.setRecord] using hidle.server⟩
      · simp [Pool.take, Pool.setRecord, horder, Control.copy?] at hcopy
  · cases hstep

/-- The control thread goes on with the same copy. -/
lemma Inv.setControl (h : s.Inv) {control : Control n}
    (hcopy : ∀ copy, control.copy? = some copy → s.CopyFits copy)
    (hbefore : s.control.erased = none) (hafter : control.erased = none)
    (hfits : s.ControlFits control) : Inv { s with control := control } := by
  refine ⟨h.fits, h.free, h.has, h.unique, h.index, fun i hi => ?_, hcopy, hfits⟩
  simpa [hbefore, hafter] using h.noIndex i hi

/-- A record that nobody uses is set free. -/
lemma Inv.setFree (h : s.Inv) {copy : Copy n} {pos : ℕ} {i : Fin n}
    (herased : s.control.erased = none)
    (hcontrol : s.conIndex[pos]? = some i ∧ (s.records i).con.type ≠ .none ∧
      copy i = (.offline, .offline)) (hcopy : s.CopyFits copy) :
    Inv { s.modifyCon i fun c => { c with type := .none, messageLen := 0 } with
      control := .erasing copy pos i } := by
  obtain ⟨hi, hused, hoffline⟩ := hcontrol
  obtain ⟨⟨hclients, hservers, hclient, hserver⟩, hnobody⟩ := (hcopy i hused).1 hoffline
  set r : Record := { s.records i with
    con := { (s.records i).con with type := .none, messageLen := 0 } } with hr
  have hself : (s.setRecord i r).records i = r := by simp [Pool.setRecord]
  have hother : ∀ {j}, j ≠ i → (s.setRecord i r).records j = s.records j := by
    intro j hj
    simp [Pool.setRecord, Function.update_of_ne hj]
  change Inv { s.setRecord i r with control := .erasing copy pos i }
  refine ⟨fun j => ?_, fun j hj => ?_, fun j l hl => ?_, h.unique, fun j hj => ?_, fun j hj => ?_,
    fun copy' hcopy' j hj => ?_, hi, ?_⟩
  · by_cases hji : j = i
    · rw [hji]
      dsimp only
      rw [hself]
      exact Record.fits_of_nil hclients hservers
    · dsimp only
      rw [hother hji]
      exact h.fits j
  · dsimp only at hj ⊢
    by_cases hji : j = i
    · rw [hji, hself]
      exact ⟨hclients, hservers, hclient, hserver⟩
    · rw [hother hji] at hj ⊢
      exact h.free j hj
  · have hji : j ≠ i := by
      rintro rfl
      exact hnobody l hl
    dsimp only
    rw [hother hji]
    exact h.has j l hl
  · dsimp only at hj
    have hji : j ≠ i := by
      rintro rfl
      rw [hself] at hj
      exact hj rfl
    rw [hother hji] at hj
    exact h.index j hj
  · dsimp only at hj
    by_cases hji : j = i
    · subst hji
      change s.conIndex.count j = _
      simpa [Control.erased] using h.index j hused
    · rw [hother hji] at hj
      have hcount := h.noIndex j hj
      rw [herased] at hcount
      have hne : i ≠ j := fun heq => hji heq.symm
      change s.conIndex.count j = _
      simpa [Control.erased, hne] using hcount
  · obtain rfl := Option.some.inj hcopy'
    dsimp only at hj
    have hji : j ≠ i := by
      rintro rfl
      rw [hself] at hj
      exact hj rfl
    rw [hother hji] at hj
    obtain ⟨hidle, hearly⟩ := hcopy j hj
    refine ⟨fun hoffline => ?_, hearly⟩
    dsimp only
    rw [hother hji]
    exact hidle hoffline
  · dsimp only
    rw [hself]

/-- A step of the control thread. -/
lemma Inv.controlStep (h : s.Inv) {ok : Bool} (horder : s.Orderly (.control ok))
    (hstep : s.controlStep ok = some s') : s'.Inv := by
  unfold Pool.controlStep at hstep
  split at hstep
  · -- It copies the records.
    rename_i hasleep
    split at hstep
    · obtain rfl := Option.some.inj hstep
      refine h.setControl (fun copy hcopy i hused => ?_) (by rw [hasleep]; rfl) rfl trivial
      obtain rfl := Option.some.inj hcopy
      refine ⟨fun hoffline => ?_, fun hrestart l hearly => ?_⟩
      · obtain ⟨hclient, hserver⟩ := Prod.mk.inj hoffline
        obtain ⟨hclients, hfound⟩ := horder hasleep i hused hclient hserver
        refine ⟨⟨hclients, (h.fits i).servers_of_offline hserver, hclient, hserver⟩, fun l hl => ?_⟩
        obtain ⟨sock, hsock⟩ := (h.has i l hl).2.found hl hserver
        exact hfound l sock hsock
      · have hhas : (s.listeners l).pc.Has i := by
          cases hpc : (s.listeners l).pc <;> rw [hpc] at hearly <;>
            first | exact hearly | exact hearly.elim
        exact ((h.has i l hhas).2.early hearly).2 hrestart
    · exact Option.some.inj hstep ▸ h
  · rename_i copy pos hscan
    have hcopy : s.CopyFits copy := h.copy copy (by rw [hscan]; rfl)
    have hcopy' : ∀ copy', some copy = some copy' → s.CopyFits copy' := by
      rintro copy' heq
      exact Option.some.inj heq ▸ hcopy
    have herased : s.control.erased = none := by rw [hscan]; rfl
    split at hstep
    · obtain rfl := Option.some.inj hstep
      exact h.setControl (fun copy hcopy => by cases hcopy) herased rfl trivial
    · rename_i i hi
      split at hstep
      · rename_i hoffline
        obtain rfl := Option.some.inj hstep
        refine h.setControl hcopy' herased rfl ⟨hi, fun hfree => ?_, hoffline⟩
        have hcount := h.noIndex i hfree
        rw [herased] at hcount
        exact List.count_eq_zero.mp hcount (List.mem_of_getElem? hi)
      · split at hstep <;> obtain rfl := Option.some.inj hstep
        · rename_i hrestart
          exact h.setControl hcopy' herased rfl hrestart
        · exact h.setControl hcopy' herased rfl trivial
  · -- It sets a record free that nobody uses.
    rename_i copy pos i hfreeing
    have hcontrol := h.control
    rw [hfreeing] at hcontrol
    obtain rfl := Option.some.inj hstep
    exact h.setFree (by rw [hfreeing]; rfl) hcontrol (h.copy copy (by rw [hfreeing]; rfl))
  · -- It erases the record from the index.
    rename_i copy pos i herasing
    have hcontrol := h.control
    rw [herasing] at hcontrol
    have hcopy : s.CopyFits copy := h.copy copy (by rw [herasing]; rfl)
    have hcount : ∀ j, (s.conIndex.eraseIdx pos).count j + (if i = j then 1 else 0) =
        s.conIndex.count j := by
      intro j
      obtain ⟨hpos, hi⟩ := List.getElem?_eq_some_iff.mp hcontrol.1
      have hperm := (List.getElem_cons_eraseIdx_perm hpos).count_eq j
      rw [hi, List.count_cons] at hperm
      simpa using hperm
    obtain rfl := Option.some.inj hstep
    refine ⟨h.fits, h.free, h.has, h.unique, fun j hj => ?_, fun j hj => ?_,
      fun copy' heq => Option.some.inj heq ▸ hcopy, trivial⟩
    · have hne : i ≠ j := by
        rintro rfl
        exact hj hcontrol.2
      have hbefore := hcount j
      rw [h.index j hj, if_neg hne] at hbefore
      exact hbefore
    · have hbefore := hcount j
      rw [h.noIndex j hj, herasing] at hbefore
      simpa [Control.erased] using hbefore
  · rename_i copy pos i hcreating
    have hcontrol := h.control
    rw [hcreating] at hcontrol
    have hcopy : s.CopyFits copy := h.copy copy (by rw [hcreating]; rfl)
    have hcopy' : ∀ copy', some copy = some copy' → s.CopyFits copy' := by
      rintro copy' heq
      exact Option.some.inj heq ▸ hcopy
    have hnext : Inv { s with control := .scan copy (pos + 1) } :=
      h.setControl hcopy' (by rw [hcreating]; rfl) rfl trivial
    split at hstep <;> obtain rfl := Option.some.inj hstep
    · exact hnext
    · rename_i hcreates
      obtain ⟨hused, -⟩ := not_or.mp hcreates
      have hclients := (h.fits i).threadID hcontrol.2
      refine hnext.setRecord ((h.fits i).createClient hclients _) hused rfl
        (fun copy' heq hoffline => ?_) (fun l hl => ?_) fun _ _ heq => by cases heq
      · obtain rfl := Option.some.inj heq
        have hrestart := hcontrol.1
        simp [hoffline] at hrestart
      · exact (h.has i l hl).2.late hl ((hcopy i hused).2 hcontrol.1 l) rfl rfl

/-- **One step** in order. -/
lemma Inv.step (h : s.Inv) {e : Event n m} (horder : s.Orderly e)
    (hstep : Pool.step s e = some s') : s'.Inv := by
  cases e with
  | setApp app =>
    obtain rfl := Option.some.inj hstep
    exact ⟨h.fits, h.free, h.has, h.unique, h.index, h.noIndex, h.copy, h.control⟩
  | accept l sock => exact h.acceptStep horder.1 hstep
  | listener l ok => exact h.listenerStep hstep
  | client i k input => exact h.client hstep
  | server i k input => exact h.server hstep
  | control ok => exact h.controlStep horder hstep

/-- A step in order leaves no memory of `v_connections`. -/
lemma overrun_of_step {e : Event n m} (horder : s.Orderly e) (hstep : s.step e = some s') :
    s'.overrun = s.overrun := by
  cases e with
  | setApp app =>
    obtain rfl := Option.some.inj hstep
    rfl
  | accept l sock =>
    simp only [step, Pool.acceptStep] at hstep
    split at hstep
    · rcases hfound : s.findConnection with _ | _ | i
      · exact absurd hfound horder.2
      all_goals
        rw [hfound] at hstep
        obtain rfl := Option.some.inj hstep
        rfl
    · cases hstep
  | listener l ok =>
    simp only [step, Pool.listenerStep] at hstep
    split at hstep
    any_goals split at hstep
    all_goals cases hstep
    all_goals rfl
  | client i k input =>
    obtain ⟨t, -, hstep⟩ := Option.bind_eq_some_iff.mp hstep
    obtain ⟨o, -, hstep⟩ := Option.bind_eq_some_iff.mp hstep
    obtain rfl := Option.some.inj hstep
    rfl
  | server i k input =>
    obtain ⟨t, -, hstep⟩ := Option.bind_eq_some_iff.mp hstep
    obtain ⟨o, -, hstep⟩ := Option.bind_eq_some_iff.mp hstep
    obtain rfl := Option.some.inj hstep
    rfl
  | control ok =>
    simp only [step, Pool.controlStep] at hstep
    repeat' split at hstep
    all_goals obtain rfl := Option.some.inj hstep
    all_goals rfl

/-- **No record in use is handed out again** in a run whose steps are all in order. -/
theorem safe_of_along (types : Fin m → { type : ConnectionType // type ≠ .none })
    (app : ApplicationData) {es : List (Event n m)}
    (horder : LabelledSystem.Along step Orderly (init types app) es) :
    LabelledSystem.Throughout step Safe (init types app) es :=
  LabelledSystem.throughout_of_along (I := fun s => Inv s ∧ s.overrun = false)
    (fun _ _ _ h ho hs => ⟨h.1.step ho hs, (overrun_of_step ho hs).trans h.2⟩)
    (fun _ h => h.1.safe h.2) ⟨inv_init types app, rfl⟩ horder

lemma ldap_ne_none : ConnectionType.ldap ≠ .none := by decide

/-- One listener for `LDAP` connections, and one record. -/
def oneRecord : Pool 1 1 := init (fun _ => ⟨.ldap, ldap_ne_none⟩) Served.readyApp

/-- A connection is accepted, and then the control thread makes a pass. -/
def acceptedBefore : List (Event 1 1) :=
  [.accept 0 5, .listener 0 true, .listener 0 true, .listener 0 true, .listener 0 true,
    .listener 0 true, .control true, .control true, .control true]

/-- The record is still in use then. -/
theorem acceptedBefore_safe :
    ((LabelledSystem.exec step oneRecord acceptedBefore).map fun s =>
        ((s.records 0).con.type, (s.records 0).servers.length, s.conIndex)) = some (.ldap, 1, [0]) ∧
      LabelledSystem.Throughout step Safe oneRecord acceptedBefore := by
  refine ⟨rfl, safe_of_along _ _ fun s hs => ⟨⟨rfl, Option.some_ne_none _⟩, ?_⟩⟩
  obtain rfl := Option.some.inj hs
  iterate 5
    refine fun s hs => ⟨trivial, ?_⟩
    obtain rfl := Option.some.inj hs
  refine fun s hs => ⟨fun _ i _ hclient => ?_, ?_⟩
  · obtain rfl : i = 0 := Subsingleton.elim i 0
    cases hclient
  obtain rfl := Option.some.inj hs
  refine fun s hs => ⟨fun hasleep => (by cases hasleep), ?_⟩
  obtain rfl := Option.some.inj hs
  exact fun s hs => ⟨fun hasleep => (by cases hasleep), trivial⟩

/-- The control thread copies the record after the listener has found it and before it has set the
statuses, and comes to it when the threads run. -/
def copiedEarly : List (Event 1 1) :=
  [.accept 0 5, .control true, .listener 0 true, .listener 0 true, .listener 0 true,
    .listener 0 true, .listener 0 true, .control true, .control true, .control true, .accept 0 6]

/-- The next connection gets the same record. -/
theorem copiedEarly_not_safe :
    ((LabelledSystem.exec step oneRecord copiedEarly).map fun s =>
        ((s.listeners 0).pc, (s.records 0).servers.length, (s.records 0).clients.length)) =
          some (.found 0 6, 1, 1) ∧
      ¬ LabelledSystem.Throughout step Safe oneRecord copiedEarly := by
  refine ⟨rfl, fun h => ?_⟩
  obtain ⟨s, hs⟩ : ∃ s, LabelledSystem.exec step oneRecord copiedEarly = some s := ⟨_, rfl⟩
  have hsingle := ((h.last hs).single 0).2 0
  obtain rfl := Option.some.inj hs
  exact absurd (hsingle rfl).1 (by decide)

end Pool

end ConKeeper

import StTools.ConKeeper.CloseRequest

/-!
# The replay of the first message

The server thread stores the first chunk that it relays in the record, and a client thread that connects
again, after the real server has answered once, sends this chunk first and waits for a positive answer.
The server thread looks at the status of the client before it sends, and the client may have a new socket
when it does.

A record is followed here with what was written to the socket of its client.  `faithful_of_along` says in
which runs the replay is faithful: every chunk that is stored has its place in the record, and the client
does not get a new socket between the look of the server thread at its status and the call of `send`.
What the look is good for is `Inv.online`: a client that is online has no socket on which the replay is
not finished.
-/

namespace ConKeeper

/-! ## The history -/

/-- What was written to the last socket of the client. -/
structure SocketLog where
  /-- The first message was answered before the client connected. -/
  replays : Bool
  /-- All bytes. -/
  written : List UInt8
  /-- The server thread wrote some of them before the answer. -/
  relayed : Bool
  /-- The first message was answered on this socket. -/
  answered : Bool
  deriving Repr, DecidableEq

namespace SocketLog

/-- More bytes are written. -/
def write (log : SocketLog) (bytes : List UInt8) : SocketLog :=
  { log with written := log.written ++ bytes }

/-- The log after a step of a client thread. -/
def afterClient (log : SocketLog) (c : Connection) (t : ClientThread) (i : Input)
    (bytes : List UInt8) : SocketLog :=
  match t.pc with
  | .connected _ => ⟨c.firstConnectionOk, [], false, false⟩
  | .readAnswer => { log with answered := log.answered || i = .answer .positive }
  | _ => log.write bytes

/-- The log after a step of a server thread. -/
def afterServer (log : SocketLog) (bytes : List UInt8) : SocketLog :=
  { log.write bytes with relayed := log.relayed || (!log.answered && bytes ≠ []) }

/-- What a step of a client thread does to the log. -/
lemma afterClient_cases (log : SocketLog) (c : Connection) (t : ClientThread) (i : Input)
    (bytes : List UInt8) :
    ((∃ sock, t.pc = .connected sock) ∧
        log.afterClient c t i bytes = ⟨c.firstConnectionOk, [], false, false⟩) ∨
      (t.pc = .readAnswer ∧ log.afterClient c t i bytes =
        { log with answered := log.answered || i = .answer .positive }) ∨
      ((∀ sock, t.pc ≠ .connected sock) ∧ log.afterClient c t i bytes = log.write bytes) := by
  unfold afterClient
  split <;> simp_all

/-- The replay is not finished. -/
def Pending (log : SocketLog) : Prop := log.replays = true ∧ log.answered = false

instance (log : SocketLog) : Decidable log.Pending := inferInstanceAs (Decidable (_ ∧ _))

end SocketLog

/-- The size of the buffers, `DEFAULT_BUFFER_SIZE`. -/
def bufferSize : ℕ := 65535

/-- The bytes that are received are some, and not more than the buffer has room for. -/
def Input.Fits : Input → Prop
  | .received (.bytes bytes) => 0 < bytes.length ∧ bytes.length ≤ bufferSize
  | _ => True

instance : (i : Input) → Decidable i.Fits
  | .received (.bytes bytes) => inferInstanceAs (Decidable (0 < bytes.length ∧ bytes.length ≤ bufferSize))
  | .received .pending => isTrue trivial
  | .received .failed => isTrue trivial
  | .none => isTrue trivial
  | .connect _ => isTrue trivial
  | .answer _ => isTrue trivial
  | .send _ => isTrue trivial

/-- The bytes that are written to a socket of the client. -/
def Outcome.bytes {τ : Type} (o : Outcome τ) : List UInt8 := o.sent.elim [] Prod.snd

/-- The chunk that the server thread begins to relay. -/
def ServerThread.relays (t : ServerThread) (c : Connection) : Option (List UInt8) :=
  match t.pc with
  | .testOnline bytes => if c.client.status = .online then some bytes else none
  | _ => none

/-- The server thread has seen that the client is online, and has not called `send` yet. -/
def ServerThread.Relaying (t : ServerThread) : Prop :=
  match t.pc with
  | .testStored _ | .store _ | .send _ => True
  | _ => False

instance (t : ServerThread) : Decidable t.Relaying := by
  unfold ServerThread.Relaying
  split <;> infer_instance

/-- The client thread is going to put its socket into the record. -/
def ClientThread.Connects (t : ClientThread) : Prop :=
  match t.pc with
  | .connected _ => True
  | _ => False

instance (t : ClientThread) : Decidable t.Connects := by
  unfold ClientThread.Connects
  split <;> infer_instance

/-- The client thread has no socket yet. -/
def ClientThread.Opens (t : ClientThread) : Prop :=
  match t.pc with
  | .starting | .connecting | .connected _ => True
  | _ => False

/-- The chunk that the server thread is going to store. -/
def ServerThread.stores (t : ServerThread) : Option (List UInt8) :=
  match t.pc with
  | .store bytes => some bytes
  | _ => none

namespace Served

/-- What a client thread does, when it makes a step. -/
def clientOutcome (s : Served) (k : ℕ) (input : Input) : Option (Outcome ClientThread) :=
  s.clients[k]?.bind fun t => t.step s.app s.con input

/-- What a server thread does. -/
def serverOutcome (s : Served) (k : ℕ) (input : Input) : Option (Outcome ServerThread) :=
  s.servers[k]?.bind fun t => t.step s.app s.con input

/-- The input that a thread gets fits. -/
def Event.Fits : Event → Prop
  | .client _ input => input.Fits
  | .server _ input => input.Fits
  | _ => True

instance : (e : Event) → Decidable e.Fits
  | .client _ input => inferInstanceAs (Decidable input.Fits)
  | .server _ input => inferInstanceAs (Decidable input.Fits)
  | .setApp _ => isTrue trivial
  | .setUp _ => isTrue trivial
  | .control _ => isTrue trivial

end Served

/-- A record in use, with its history. -/
structure Replay where
  /-- The record and its threads. -/
  served : Served
  /-- The first chunk that was relayed. -/
  first : Option (List UInt8)
  /-- The last socket of the client. -/
  socket : SocketLog

namespace Replay

open Served (Event)

/-- The first chunk after a step. -/
def firstAfter (s : Replay) : Event → Option (List UInt8)
  | .server k _ => s.first.or (s.served.servers[k]?.bind fun t => t.relays s.served.con)
  | _ => s.first

/-- The socket after a step. -/
def socketAfter (s : Replay) : Event → SocketLog
  | .client k input =>
    match s.served.clients[k]?, s.served.clientOutcome k input with
    | some t, some o => s.socket.afterClient s.served.con t input o.bytes
    | _, _ => s.socket
  | .server k input =>
    match s.served.serverOutcome k input with
    | some o => s.socket.afterServer o.bytes
    | none => s.socket
  | _ => s.socket

/-- One step of the record, with an input that fits. -/
def step (s : Replay) (e : Event) : Option Replay :=
  if e.Fits then
    (s.served.step e).map fun served => ⟨served, s.firstAfter e, s.socketAfter e⟩
  else none

/-- A connection is accepted. -/
def init (type : ConnectionType) (sock : ℤ) (app : ApplicationData) (control : Check) : Replay where
  served := Served.init type sock app control
  first := none
  socket := ⟨false, [], false, false⟩

/-! ## What should hold -/

/-- The replay is faithful: nothing is stored outside of `message`; before the answer on a socket that was
opened after the first one, only bytes of the first chunk were written to it, and not by the server thread;
and after the answer what was written begins with this chunk. -/
structure Faithful (s : Replay) : Prop where
  /-- The message is in its place. -/
  inside : s.served.con.message.length ≤ 1024
  /-- Before the answer. -/
  before : s.socket.Pending → s.socket.relayed = false ∧ s.socket.written <+: s.first.getD []
  /-- And after it. -/
  after : s.socket.replays = true → s.socket.answered = true → s.socket.written ≠ [] →
    s.socket.relayed = false ∧ s.first.getD [] <+: s.socket.written

/-- The step is in order: a chunk that is stored is not longer than `message`; a client thread connects
again, after the first message was answered, only when a chunk was relayed and no server thread is about to
send one; and the control thread frees the record or creates a client thread only when no thread is there
yet. -/
def Orderly (s : Replay) : Event → Prop
  | .client k _ => ∀ t ∈ s.served.clients[k]?, t.Connects → s.served.con.firstConnectionOk = true →
    s.first ≠ none ∧ ∀ server ∈ s.served.servers, ¬ server.Relaying
  | .server k _ => ∀ bytes ∈ s.served.servers[k]?.bind ServerThread.stores, bytes.length ≤ 1024
  | .control ok =>
    (s.served.control = .scan .offline .offline →
      s.served.clients = [] ∧ s.served.servers = [] ∧ s.served.setUp = .done) ∧
    (s.served.control = .creating → ok = true →
      s.served.clients = [] ∧ s.served.setUp ≠ .createClient)
  | _ => True

instance (s : Replay) : (e : Event) → Decidable (s.Orderly e)
  | .client k _ => inferInstanceAs (Decidable (∀ t ∈ s.served.clients[k]?, _ → _ → _ ∧
      ∀ server ∈ s.served.servers, ¬ server.Relaying))
  | .server k _ => inferInstanceAs
      (Decidable (∀ bytes ∈ s.served.servers[k]?.bind ServerThread.stores, bytes.length ≤ 1024))
  | .control _ => inferInstanceAs (Decidable ((_ → _) ∧ (_ → _ → _)))
  | .setApp _ => isTrue trivial
  | .setUp _ => isTrue trivial

/-! ## The invariant -/

/-- The server thread is gone for ever. -/
def Over (s : Replay) : Prop :=
  s.served.servers = [] ∧ s.served.setUp = .done ∧ s.served.con.messageLen = 0

/-- What holds of the server thread: until it relays its first chunk there is none. -/
def ServerFits (first : Option (List UInt8)) (messageLen : ℕ) (t : ServerThread) : Prop :=
  t.type ≠ .load ∧
    match t.pc with
    | .waiting bytes | .waitingLook bytes | .testOnline bytes =>
      bytes ≠ [] ∧ (messageLen = 0 → first = none)
    | .testStored bytes => bytes ≠ [] ∧ (messageLen = 0 → first = some bytes)
    | .store bytes => bytes ≠ [] ∧ first = some bytes
    | _ => messageLen = 0 → first = none

/-- What holds at a place of the client thread while the replay is not finished: nothing was written
before it is sent, and then all of it was. -/
def AtPlace (s : Replay) : ClientPc → Prop
  | .created | .starting | .connecting | .connected _ | .firstFailed | .closing _ => True
  | .testFirstOk | .sendFirst =>
    s.socket.written = [] ∧ (s.served.con.messageLen = 0 → s.Over)
  | .awaitAnswer | .readAnswer =>
    s.first = some s.socket.written ∨ (s.socket.written = [] ∧ s.Over)
  | .switch seen =>
    (s.served.con.client.status = .connecting → s.socket.written = []) ∧
      (seen = .connecting → s.socket.written = [])
  | .ready => s.Over
  | _ => s.served.con.client.status = .connecting → s.socket.written = []

/-- The invariant of the runs in order. -/
structure Inv (s : Replay) : Prop where
  /-- The message is in its place. -/
  inside : s.served.con.message.length ≤ 1024
  /-- It is the first chunk. -/
  stored : s.served.con.messageLen ≠ 0 →
    s.first = some (s.served.con.message.take s.served.con.messageLen)
  /-- It is not a `LOAD` connection. -/
  type : s.served.con.type ≠ .load
  /-- The server thread is created by the listener. -/
  setUp : s.served.setUp ≠ .done →
    s.served.servers = [] ∧ s.first = none ∧ s.served.con.messageLen = 0
  /-- And so is the first client thread. -/
  setUpClient : s.served.setUp = .createClient → s.served.clients = []
  /-- At most one server thread runs. -/
  servers : s.served.servers.length ≤ 1
  /-- And one client thread. -/
  clients : s.served.clients.length ≤ 1
  /-- It is none for a `LOAD` connection either. -/
  clientType : ∀ t ∈ s.served.clients, t.type ≠ .load
  /-- While it has no socket, the client is not online. -/
  opens : ∀ t ∈ s.served.clients, t.Opens → s.served.con.client.status ≠ .online
  /-- The server thread. -/
  server : ∀ t ∈ s.served.servers, ServerFits s.first s.served.con.messageLen t
  /-- A chunk was relayed before the client connected again. -/
  relayed : s.socket.replays = true → s.first ≠ none
  /-- And the first message is to be sent again, unless the server thread is gone. -/
  answered : s.socket.replays = true → s.served.con.firstConnectionOk = true ∨ s.Over
  /-- Before the answer the server thread is not about to send. -/
  idle : s.socket.Pending → ∀ t ∈ s.served.servers, ¬ t.Relaying
  /-- For the client is not online, unless the server thread is gone. -/
  online : s.socket.Pending → s.served.con.client.status = .online → s.Over
  /-- The client thread. -/
  client : ∀ t ∈ s.served.clients, s.socket.Pending → s.AtPlace t.pc
  /-- The socket before the answer. -/
  before : s.socket.Pending → s.socket.relayed = false ∧
    (s.socket.written = [] ∨ ∃ chunk, s.first = some chunk ∧ s.socket.written <+: chunk)
  /-- And after it. -/
  after : s.socket.replays = true → s.socket.answered = true → s.socket.relayed = false ∧
    ((∃ chunk, s.first = some chunk ∧ chunk <+: s.socket.written) ∨
      (s.socket.written = [] ∧ s.Over))

variable {s s' : Replay}

/-- A step is one of the record, with an input that fits. -/
lemma step_eq_some {e : Event} (h : s.step e = some s') :
    e.Fits ∧ ∃ served, s.served.step e = some served ∧
      s' = ⟨served, s.firstAfter e, s.socketAfter e⟩ := by
  unfold Replay.step at h
  split_ifs at h with hinput
  obtain ⟨served, hserved, rfl⟩ := Option.map_eq_some_iff.mp h
  exact ⟨hinput, served, hserved, rfl⟩

lemma Inv.faithful (h : s.Inv) : s.Faithful where
  inside := h.inside
  before hpending := by
    obtain ⟨hrelayed, hwritten | ⟨chunk, hfirst, hwritten⟩⟩ := h.before hpending
    · exact ⟨hrelayed, hwritten ▸ List.nil_prefix⟩
    · exact ⟨hrelayed, by simpa [hfirst] using hwritten⟩
  after hreplays hanswered hwritten := by
    obtain ⟨hrelayed, ⟨chunk, hfirst, hchunk⟩ | ⟨hnil, -⟩⟩ := h.after hreplays hanswered
    · exact ⟨hrelayed, by simpa [hfirst] using hchunk⟩
    · exact absurd hnil hwritten

lemma inv_init {type : ConnectionType} (htype : type ≠ .load) (sock : ℤ) (app : ApplicationData)
    (control : Check) : (init type sock app control).Inv where
  inside := Nat.zero_le _
  stored hlen := absurd rfl hlen
  type := htype
  setUp _ := ⟨rfl, rfl, rfl⟩
  setUpClient _ := rfl
  servers := Nat.zero_le _
  clients := Nat.zero_le _
  clientType t ht := by cases ht
  opens t ht := by cases ht
  server t ht := by cases ht
  relayed hreplays := by cases hreplays
  answered hreplays := by cases hreplays
  idle hpending := by cases hpending.1
  online hpending := by cases hpending.1
  client t ht := by cases ht
  before hpending := by cases hpending.1
  after hreplays := by cases hreplays

/-! ## The server thread -/

/-- The changes that a step of the server thread makes to the connection. -/
lemma server_con {app : ApplicationData} {c : Connection} {t : ServerThread} {i : Input}
    {o : Outcome ServerThread} (h : t.step app c i = some o) :
    o.con = c ∨ (∃ bytes, t.pc = .store bytes ∧ o.con = c.storeFirstMessage bytes) ∨
      o.con = { c with server := { c.server with status := .online } } ∨
      o.con = c.setClientStatus .toBeRestarted ∨ (o.con = c.resetServer ∧ o.thread = none) := by
  cases i with
  | none =>
    simp only [ServerThread.step] at h
    unfold ServerThread.move at h
    split at h
    all_goals grind [ServerThread.go]
  | connect result => cases h
  | answer answer => cases h
  | received received => cases received <;> simp only [ServerThread.step] at h <;> grind [ServerThread.go]
  | send n =>
    simp only [ServerThread.step] at h
    split at h
    all_goals grind

/-- What a step of the server thread does to the record. -/
lemma server_record {app : ApplicationData} {c : Connection} {t : ServerThread} {i : Input}
    {o : Outcome ServerThread} (h : t.step app c i = some o) :
    (o.con.client.status = .connecting → c.client.status = .connecting) ∧
      (o.con.client.status = .online → c.client.status = .online) ∧
      (o.con.firstConnectionOk = c.firstConnectionOk ∨ (o.con.messageLen = 0 ∧ o.thread = none)) ∧
      ((∃ bytes, t.pc = .store bytes ∧ o.con.message = bytes ++ c.message.drop bytes.length ∧
          o.con.messageLen = bytes.length) ∨
        (o.con.message.length = c.message.length ∧ o.con.messageLen = 0 ∧ o.thread = none) ∨
        (o.con.message = c.message ∧ o.con.messageLen = c.messageLen)) := by
  rcases server_con h with hcon | ⟨bytes, hpc, hcon⟩ | hcon | hcon | ⟨hcon, hthread⟩
  all_goals rw [hcon]
  · exact ⟨id, id, .inl rfl, .inr (.inr ⟨rfl, rfl⟩)⟩
  · exact ⟨id, id, .inl rfl, .inl ⟨bytes, hpc, rfl, rfl⟩⟩
  · exact ⟨id, id, .inl rfl, .inr (.inr ⟨rfl, rfl⟩)⟩
  · exact ⟨nofun, nofun, .inl rfl, .inr (.inr ⟨rfl, rfl⟩)⟩
  · have hended : c.resetServer.client.status = .offline ∨ c.resetServer.client.status = .toBeClosed := by
      unfold Connection.resetServer
      dsimp only
      split_ifs <;> simp
    refine ⟨fun hstatus => ?_, fun hstatus => ?_, .inr ⟨rfl, hthread⟩,
      .inr (.inl ⟨List.length_set, rfl, hthread⟩)⟩
    all_goals simp [hstatus] at hended

/-- The server thread sends only when it has seen that the client is online. -/
lemma server_relaying {app : ApplicationData} {c : Connection} {t : ServerThread} {i : Input}
    {o : Outcome ServerThread} (h : t.step app c i = some o) (hidle : ¬ t.Relaying) :
    o.bytes = [] ∧ ∀ t', o.thread = some t' → t'.Relaying → c.client.status = .online := by
  cases i with
  | none =>
    simp only [ServerThread.step] at h
    unfold ServerThread.move at h
    split at h
    all_goals grind [ServerThread.go, ServerThread.Relaying, Outcome.bytes]
  | connect result => cases h
  | answer answer => cases h
  | received received =>
    cases received <;> simp only [ServerThread.step] at h <;>
      grind [ServerThread.go, ServerThread.Relaying, Outcome.bytes]
  | send n =>
    simp only [ServerThread.step] at h
    split at h
    all_goals grind [ServerThread.Relaying]

/-- What holds of the server thread holds after a step. -/
lemma ServerFits.step {app : ApplicationData} {c : Connection} {first : Option (List UInt8)}
    {t t' : ServerThread} {i : Input} {o : Outcome ServerThread} (h : ServerFits first c.messageLen t)
    (hi : i.Fits) (hstep : t.step app c i = some o) (ht' : o.thread = some t') :
    ServerFits (first.or (t.relays c)) o.con.messageLen t' := by
  obtain ⟨htype, hpc⟩ := h
  cases i with
  | none =>
    simp only [ServerThread.step] at hstep
    unfold ServerThread.move at hstep
    split at hstep
    all_goals grind [ServerFits, ServerThread.go, ServerThread.relays, Connection.setClientStatus,
      Connection.storeFirstMessage]
  | connect result => cases hstep
  | answer answer => cases hstep
  | received received =>
    cases received <;> simp only [ServerThread.step] at hstep <;>
      grind [ServerFits, ServerThread.go, ServerThread.relays, Input.Fits]
  | send n =>
    simp only [ServerThread.step] at hstep
    split at hstep
    all_goals grind [ServerFits, ServerThread.relays]

/-! ## The client thread -/

/-- A client thread does not change what is stored. -/
lemma client_record {app : ApplicationData} {c : Connection} {t : ClientThread} {i : Input}
    {o : Outcome ClientThread} (h : t.step app c i = some o) :
    o.con.message = c.message ∧ o.con.messageLen = c.messageLen := by
  cases i with
  | none =>
    simp only [ClientThread.step] at h
    unfold ClientThread.move at h
    split at h
    all_goals grind [ClientThread.go, Connection.setClientStatus, Connection.resetClient]
  | connect result =>
    cases result <;> simp only [ClientThread.step] at h <;> grind [ClientThread.go]
  | answer answer => cases answer <;> simp only [ClientThread.step] at h <;> grind [ClientThread.go]
  | received received =>
    cases received <;> simp only [ClientThread.step] at h <;> grind [ClientThread.go]
  | send n =>
    simp only [ClientThread.step] at h
    split at h
    all_goals grind [ClientThread.go]

/-- What a client thread does to its status, and whether it connects. -/
lemma client_status {app : ApplicationData} {c : Connection} {t : ClientThread} {i : Input}
    {o : Outcome ClientThread} (h : t.step app c i = some o) :
    (o.con.client.status = .online → c.client.status = .online ∨ t.pc = .ready) ∧
      (o.con.firstConnectionOk = c.firstConnectionOk ∨ o.con.firstConnectionOk = true) ∧
      ∀ t', o.thread = some t' → t'.type = t.type ∧
        (t'.Opens → o.con.client.status ≠ .online ∨ (t.Opens ∧ o.con = c)) := by
  cases i with
  | none =>
    simp only [ClientThread.step] at h
    unfold ClientThread.move at h
    split at h
    all_goals grind [ClientThread.go, Connection.setClientStatus, Connection.resetClient,
      ClientThread.Opens]
  | connect result =>
    cases result <;> simp only [ClientThread.step] at h <;> grind [ClientThread.go, ClientThread.Opens]
  | answer answer =>
    cases answer <;> simp only [ClientThread.step] at h <;> grind [ClientThread.go, ClientThread.Opens]
  | received received =>
    cases received <;> simp only [ClientThread.step] at h <;>
      grind [ClientThread.go, ClientThread.Opens]
  | send n =>
    simp only [ClientThread.step] at h
    split at h
    all_goals grind [ClientThread.go, ClientThread.Opens]

/-- A call of `send` writes a prefix of the bytes. -/
lemma sentBytes_isPrefixOf (sock : ℤ) (bytes : List UInt8) (n : Option ℕ) :
    (sentBytes sock bytes n).elim [] Prod.snd <+: bytes := by
  unfold sentBytes
  split_ifs
  · exact List.nil_prefix
  · cases n with
    | none => exact List.nil_prefix
    | some n => exact List.take_prefix n bytes

/-- It writes all of them when it returns their number. -/
lemma sentBytes_of_sendsAll {sock : ℤ} {bytes : List UInt8} {n : Option ℕ}
    (h : SendsAll sock bytes n) : (sentBytes sock bytes n).elim [] Prod.snd = bytes := by
  obtain ⟨hsock, rfl⟩ := h
  simp [sentBytes, hsock]

/-- Only a call of `send` writes to a socket. -/
lemma quiet_of_client {app : ApplicationData} {c : Connection} {t : ClientThread} {i : Input}
    {o : Outcome ClientThread} (h : t.step app c i = some o) (hi : ∀ n, i ≠ .send n) :
    o.sent = none ∧ t.pc ≠ .sendFirst := by
  cases i with
  | none =>
    simp only [ClientThread.step] at h
    unfold ClientThread.move at h
    split at h
    all_goals grind [ClientThread.go]
  | connect result =>
    cases result <;> simp only [ClientThread.step] at h <;> grind [ClientThread.go]
  | answer answer => cases answer <;> simp only [ClientThread.step] at h <;> grind [ClientThread.go]
  | received received =>
    cases received <;> simp only [ClientThread.step] at h <;> grind [ClientThread.go]
  | send n => exact absurd rfl (hi n)

/-- Only the first message is written to the socket of the client. -/
lemma client_bytes {app : ApplicationData} {c : Connection} {t : ClientThread} {i : Input}
    {o : Outcome ClientThread} (h : t.step app c i = some o) :
    o.bytes <+: c.message.take c.messageLen ∧ (t.pc ≠ .sendFirst → o.bytes = []) ∧
      ∀ t', o.thread = some t' → t.pc = .sendFirst →
        (t'.pc = .awaitAnswer ∧ o.bytes = c.message.take c.messageLen) ∨ t'.pc = .firstFailed := by
  have hnothing : o.sent = none → t.pc ≠ .sendFirst →
      o.bytes <+: c.message.take c.messageLen ∧ (t.pc ≠ .sendFirst → o.bytes = []) ∧
      ∀ t', o.thread = some t' → t.pc = .sendFirst →
        (t'.pc = .awaitAnswer ∧ o.bytes = c.message.take c.messageLen) ∨ t'.pc = .firstFailed := by
    intro hsent hpc
    have hbytes : o.bytes = [] := by rw [Outcome.bytes, hsent]; rfl
    rw [hbytes]
    exact ⟨List.nil_prefix, fun _ => rfl, fun _ _ heq => absurd heq hpc⟩
  by_cases hi : ∀ n, i ≠ .send n
  · obtain ⟨hsent, hpc⟩ := quiet_of_client h hi
    exact hnothing hsent hpc
  · push Not at hi
    obtain ⟨n, rfl⟩ := hi
    simp only [ClientThread.step] at h
    split at h
    · rename_i hpc
      obtain rfl := Option.some.inj h
      refine ⟨sentBytes_isPrefixOf .., fun hne => absurd hpc hne, fun t' ht' _ => ?_⟩
      obtain rfl := Option.some.inj ht'
      dsimp only
      split_ifs with hall
      · exact .inl ⟨rfl, sentBytes_of_sendsAll hall⟩
      · exact .inr rfl
    · split at h <;> obtain rfl := Option.some.inj h <;> exact hnothing rfl (by simp_all)
    · cases h

/-- What holds at the place of the client thread holds after a step. -/
lemma AtPlace.client {t t' : ClientThread} {i : Input} {o : Outcome ClientThread}
    (h : s.AtPlace t.pc) (htype : t.type ≠ .load)
    (hstored : s.served.con.messageLen ≠ 0 →
      s.first = some (s.served.con.message.take s.served.con.messageLen))
    (hempty : s.socket.Pending → s.served.con.messageLen = 0 → s.Over)
    (hok : s.socket.Pending → s.served.con.firstConnectionOk = false → s.Over)
    (hstep : t.step s.served.app s.served.con i = some o) (ht' : o.thread = some t')
    (hcon : s'.served.con = o.con) (hover : s.Over → s'.Over) (hfirst : s'.first = s.first)
    (hsocket : s'.socket = s.socket.afterClient s.served.con t i o.bytes)
    (hpending' : s'.socket.Pending) : s'.AtPlace t'.pc := by
  obtain ⟨-, hnothing, hsent⟩ := client_bytes hstep
  obtain ⟨-, hlen⟩ := client_record hstep
  by_cases hpc : t.pc = .sendFirst
  · have hwritten : s'.socket.written = s.socket.written ++ o.bytes := by
      rw [hsocket, SocketLog.afterClient, hpc]
      rfl
    obtain ⟨hpc', hbytes⟩ | hpc' := hsent t' ht' hpc
    · rw [hpc] at h
      rw [hpc']
      obtain ⟨hnil, hlen0⟩ := h
      rw [hnil, List.nil_append, hbytes] at hwritten
      unfold AtPlace
      rw [hwritten, hfirst]
      by_cases hzero : s.served.con.messageLen = 0
      · exact .inr ⟨by simp [hzero], hover (hlen0 hzero)⟩
      · exact .inl (hstored hzero)
    · rw [hpc']
      trivial
  · rw [hnothing hpc] at hsocket
    cases i with
    | none =>
      simp only [ClientThread.step] at hstep
      unfold ClientThread.move at hstep
      split at hstep
      all_goals grind [AtPlace, ClientThread.go, SocketLog.afterClient, SocketLog.write,
        SocketLog.Pending, Connection.setClientStatus]
    | connect result =>
      cases result <;> simp only [ClientThread.step] at hstep <;> grind [AtPlace, ClientThread.go]
    | answer answer =>
      cases answer <;> simp only [ClientThread.step] at hstep <;>
        grind [AtPlace, ClientThread.go, SocketLog.afterClient, SocketLog.Pending]
    | received received =>
      cases received <;> simp only [ClientThread.step] at hstep <;>
        grind [AtPlace, ClientThread.go, SocketLog.afterClient, SocketLog.write]
    | send n =>
      simp only [ClientThread.step] at hstep
      split at hstep
      all_goals grind [AtPlace, ClientThread.go, SocketLog.afterClient, SocketLog.write]

/-- What the client thread writes before the answer is the first chunk, as far as it goes. -/
lemma Inv.before_write (h : s.Inv) {pc : ClientPc} {bytes : List UInt8}
    (hpending : s.socket.Pending) (hplace : s.AtPlace pc)
    (hbytes : bytes <+: s.served.con.message.take s.served.con.messageLen)
    (hnothing : pc ≠ .sendFirst → bytes = []) :
    (s.socket.write bytes).relayed = false ∧ ((s.socket.write bytes).written = [] ∨
      ∃ chunk, s.first = some chunk ∧ (s.socket.write bytes).written <+: chunk) := by
  obtain ⟨hrelayed, hwritten⟩ := h.before hpending
  refine ⟨hrelayed, ?_⟩
  by_cases hpc : pc = .sendFirst
  · subst hpc
    have hall : (s.socket.write bytes).written = bytes := by simp [SocketLog.write, hplace.1]
    rw [hall]
    by_cases hzero : s.served.con.messageLen = 0
    · left
      simpa [hzero] using hbytes
    · exact .inr ⟨_, h.stored hzero, hbytes⟩
  · simpa [SocketLog.write, hnothing hpc] using hwritten

/-- When the answer comes, the first chunk was written, or the server thread is gone. -/
lemma Inv.after_answer (h : s.Inv) (hreplays : s.socket.replays = true)
    (hplace : s.socket.Pending → s.AtPlace .readAnswer) :
    s.socket.relayed = false ∧ ((∃ chunk, s.first = some chunk ∧ chunk <+: s.socket.written) ∨
      (s.socket.written = [] ∧ s.Over)) := by
  cases hanswered : s.socket.answered with
  | true => exact h.after hreplays hanswered
  | false =>
    have hpending : s.socket.Pending := ⟨hreplays, hanswered⟩
    exact ⟨(h.before hpending).1, (hplace hpending).imp_left fun hfirst =>
      ⟨s.socket.written, hfirst, List.prefix_rfl⟩⟩

/-- The first message is to be sent on the socket when it was answered before the client connected. -/
lemma replays_afterClient {log : SocketLog} {c : Connection} {t : ClientThread} {i : Input}
    {bytes : List UInt8} (h : (log.afterClient c t i bytes).replays = true) :
    (t.Connects ∧ c.firstConnectionOk = true) ∨ (¬ t.Connects ∧ log.replays = true) := by
  obtain ⟨⟨sock, hpc⟩, hlog⟩ | ⟨hpc, hlog⟩ | ⟨hpc, hlog⟩ := log.afterClient_cases c t i bytes
  all_goals rw [hlog] at h
  · exact .inl ⟨by simp [ClientThread.Connects, hpc], h⟩
  · exact .inr ⟨by simp [ClientThread.Connects, hpc], h⟩
  · refine .inr ⟨?_, h⟩
    unfold ClientThread.Connects
    split
    · rename_i sock hsock
      exact absurd hsock (hpc sock)
    · exact not_false

/-- The replay is not finished when it was not, or begins. -/
lemma pending_afterClient {log : SocketLog} {c : Connection} {t : ClientThread} {i : Input}
    {bytes : List UInt8} (h : (log.afterClient c t i bytes).Pending) :
    (t.Connects ∧ c.firstConnectionOk = true) ∨ (¬ t.Connects ∧ log.Pending) := by
  refine (replays_afterClient h.1).imp_right fun hbefore => ⟨hbefore.1, hbefore.2, ?_⟩
  obtain ⟨⟨sock, hpc⟩, -⟩ | ⟨-, hlog⟩ | ⟨-, hlog⟩ := log.afterClient_cases c t i bytes
  · exact absurd (by simp [ClientThread.Connects, hpc]) hbefore.1
  · rw [hlog] at h
    exact (Bool.or_eq_false_iff.mp h.2).1
  · rw [hlog] at h
    exact h.2

/-- When a chunk was relayed, the server thread is not about to send one, and there is no message, then the
server thread is gone. -/
lemma Inv.over_of_empty (h : s.Inv) (hfirst : s.first ≠ none)
    (hidle : ∀ t ∈ s.served.servers, ¬ t.Relaying) (hempty : s.served.con.messageLen = 0) : s.Over := by
  have hsetUp : s.served.setUp = .done := by
    by_contra hnot
    exact hfirst (h.setUp hnot).2.1
  refine ⟨?_, hsetUp, hempty⟩
  by_contra hservers
  obtain ⟨t, ht⟩ := List.exists_mem_of_ne_nil _ hservers
  obtain ⟨-, hfits⟩ := h.server t ht
  have hnot := hidle t ht
  unfold ServerThread.Relaying at hnot
  split at hfits
  all_goals grind

/-- A step of a client thread. -/
lemma Inv.clientStep (h : s.Inv) {k : ℕ} {input : Input} (horder : s.Orderly (.client k input))
    (hstep : s.step (.client k input) = some s') : s'.Inv := by
  obtain ⟨-, served, hserved, rfl⟩ := step_eq_some hstep
  obtain ⟨t, ht, hserved⟩ := Option.bind_eq_some_iff.mp hserved
  obtain ⟨o, ho, hserved⟩ := Option.bind_eq_some_iff.mp hserved
  obtain rfl := Option.some.inj hserved
  have hsocket : s.socketAfter (.client k input) =
      s.socket.afterClient s.served.con t input o.bytes := by
    simp [socketAfter, Served.clientOutcome, ht, ho]
  obtain ⟨hmessage, hlen⟩ := client_record ho
  obtain ⟨hbytes, hnothing, -⟩ := client_bytes ho
  obtain ⟨htype, hserver, -⟩ := ClientThread.step_cases ho
  obtain ⟨hstatus, hfirstOk, hthread⟩ := client_status ho
  have hconnects := horder t ht
  obtain ⟨hclients, rfl⟩ := eq_singleton_of_getElem? h.clients ht
  have hmem : t ∈ s.served.clients := by simp [hclients]
  have hnextThreads : nextThreads s.served.clients 0 o.thread = o.thread.toList :=
    hclients ▸ nextThreads_singleton t o.thread
  have hplace : s.socket.Pending → s.AtPlace t.pc := h.client t hmem
  have hover : s.Over → Replay.Over
      ⟨{ s.served with con := o.con, app := o.app, clients := nextThreads s.served.clients 0 o.thread },
        s.first, s.socketAfter (.client 0 input)⟩ := by
    rintro ⟨hservers, hsetUp, hzero⟩
    exact ⟨hservers, hsetUp, hlen.trans hzero⟩
  have hempty : s.socket.Pending → s.served.con.messageLen = 0 → s.Over := fun hpending =>
    h.over_of_empty (h.relayed hpending.1) (h.idle hpending)
  have hok : s.socket.Pending → s.served.con.firstConnectionOk = false → s.Over := fun hpending hnot =>
    (h.answered hpending.1).resolve_left (by simp [hnot])
  refine ⟨hmessage ▸ h.inside, ?_, htype ▸ h.type, ?_, ?_, h.servers, ?_, ?_, ?_, ?_, ?_, ?_, ?_, ?_, ?_,
    ?_, ?_⟩
  · simpa only [firstAfter, hmessage, hlen] using h.stored
  · simpa only [firstAfter, hlen] using h.setUp
  · intro hsetUp
    exact absurd (h.setUpClient hsetUp) (by simp [hclients])
  · exact hnextThreads ▸ Option.length_toList_le
  · intro t' ht'
    obtain ⟨hsame, -⟩ := hthread t' (Option.mem_toList.mp (hnextThreads ▸ ht'))
    exact hsame ▸ h.clientType t hmem
  · intro t' ht' hopens
    obtain ⟨-, hnot⟩ := hthread t' (Option.mem_toList.mp (hnextThreads ▸ ht'))
    obtain hnot | ⟨hbefore, hsame⟩ := hnot hopens
    · exact hnot
    · dsimp only
      rw [hsame]
      exact h.opens t hmem hbefore
  · simpa only [firstAfter, hlen] using h.server
  · intro hreplays
    obtain ⟨hconnect, hset⟩ | ⟨-, hreplays⟩ := replays_afterClient (hsocket ▸ hreplays)
    · exact (hconnects hconnect hset).1
    · exact h.relayed hreplays
  · intro hreplays
    have hbefore : s.served.con.firstConnectionOk = true ∨ s.Over := by
      obtain ⟨-, hset⟩ | ⟨-, hreplays⟩ := replays_afterClient (hsocket ▸ hreplays)
      · exact .inl hset
      · exact h.answered hreplays
    refine hbefore.imp (fun hset => ?_) hover
    obtain hsame | htrue := hfirstOk
    · exact hsame.trans hset
    · exact htrue
  · intro hpending
    obtain ⟨hconnect, hset⟩ | ⟨-, hpending⟩ := pending_afterClient (hsocket ▸ hpending)
    · exact (hconnects hconnect hset).2
    · exact h.idle hpending
  · intro hpending hnow
    refine hover ?_
    obtain ⟨hconnect, -⟩ | ⟨-, hpending⟩ := pending_afterClient (hsocket ▸ hpending)
    · -- it was not online before it had a socket, and this step does not make it so
      unfold ClientThread.Connects at hconnect
      obtain hbefore | hready := hstatus hnow
      · refine absurd hbefore (h.opens t hmem ?_)
        unfold ClientThread.Opens
        split at hconnect <;> simp_all
      · simp [hready] at hconnect
    · obtain hbefore | hready := hstatus hnow
      · exact h.online hpending hbefore
      · have hgone := hplace hpending
        rwa [hready] at hgone
  · intro t' ht' hpending
    have hthread : o.thread = some t' := Option.mem_toList.mp (hnextThreads ▸ ht')
    refine AtPlace.client ?_ (h.clientType t hmem) h.stored hempty hok ho hthread rfl hover rfl hsocket
      hpending
    obtain ⟨⟨sock, hpc⟩, -⟩ | ⟨hpc, hlog⟩ | ⟨-, hlog⟩ :=
      s.socket.afterClient_cases s.served.con t input o.bytes
    · rw [hpc]
      trivial
    · rw [hsocket, hlog] at hpending
      exact hplace ⟨hpending.1, (Bool.or_eq_false_iff.mp hpending.2).1⟩
    · rw [hsocket, hlog] at hpending
      exact hplace hpending
  · intro hpending
    rw [hsocket] at hpending ⊢
    obtain ⟨-, hlog⟩ | ⟨hpc, hlog⟩ | ⟨-, hlog⟩ :=
      s.socket.afterClient_cases s.served.con t input o.bytes
    · simp [hlog]
    · rw [hlog] at hpending ⊢
      exact h.before ⟨hpending.1, (Bool.or_eq_false_iff.mp hpending.2).1⟩
    · rw [hlog] at hpending ⊢
      exact h.before_write hpending (hplace hpending) hbytes hnothing
  · intro hreplays hanswered
    rw [hsocket] at hreplays hanswered ⊢
    obtain ⟨-, hlog⟩ | ⟨hpc, hlog⟩ | ⟨-, hlog⟩ :=
      s.socket.afterClient_cases s.served.con t input o.bytes
    · simp [hlog] at hanswered
    · rw [hlog] at hreplays ⊢
      obtain ⟨hrelayed, hwritten⟩ := h.after_answer hreplays (hpc ▸ hplace)
      exact ⟨hrelayed, hwritten.imp_right fun hnil => ⟨hnil.1, hover hnil.2⟩⟩
    · rw [hlog] at hreplays hanswered ⊢
      obtain ⟨hrelayed, ⟨chunk, hfirst, hchunk⟩ | ⟨hnil, hzero⟩⟩ := h.after hreplays hanswered
      · exact ⟨hrelayed, .inl ⟨chunk, hfirst, hchunk.trans (List.prefix_append _ _)⟩⟩
      · -- The server thread is gone, and there is no message any more.
        rw [hzero.2.2, List.take_zero, List.prefix_nil] at hbytes
        exact ⟨hrelayed, .inr ⟨by simp [SocketLog.write, hnil, hbytes], hover hzero⟩⟩

/-! ## One step -/

/-- What holds at the place of the client thread depends on a few things only. -/
lemma AtPlace.of_same {pc : ClientPc} (h : s.AtPlace pc)
    (hstatus : s'.served.con.client.status = .connecting → s.served.con.client.status = .connecting)
    (hwritten : s'.socket.written = s.socket.written)
    (hfirst : ∀ chunk, s.first = some chunk → s'.first = some chunk) (hover : s.Over → s'.Over)
    (hlen : s'.served.con.messageLen = 0 → s.served.con.messageLen = 0 ∨ s'.Over) :
    s'.AtPlace pc := by
  cases pc <;> simp only [AtPlace, hwritten] at h ⊢ <;> grind

/-- A step of the server thread. -/
lemma Inv.serverStep (h : s.Inv) {k : ℕ} {input : Input} (horder : s.Orderly (.server k input))
    (hstep : s.step (.server k input) = some s') : s'.Inv := by
  obtain ⟨hinput, served, hserved, rfl⟩ := step_eq_some hstep
  obtain ⟨t, ht, hserved⟩ := Option.bind_eq_some_iff.mp hserved
  obtain ⟨o, ho, hserved⟩ := Option.bind_eq_some_iff.mp hserved
  obtain rfl := Option.some.inj hserved
  have houtcome : s.served.serverOutcome k input = some o := by
    simp [Served.serverOutcome, ht, ho]
  have hsocket : s.socketAfter (.server k input) = s.socket.afterServer o.bytes := by
    simp [socketAfter, houtcome]
  have hfirst : s.firstAfter (.server k input) = s.first.or (t.relays s.served.con) := by
    simp [firstAfter, ht]
  have hstores := horder
  obtain ⟨hstatus, honline, hfirstOk, hrecord⟩ := server_record ho
  obtain ⟨htype, -⟩ := ServerThread.step_cases ho
  obtain ⟨hservers, rfl⟩ := eq_singleton_of_getElem? h.servers ht
  have hmem : t ∈ s.served.servers := by simp [hservers]
  have hquiet : s.socket.Pending → o.bytes = [] := fun hpending =>
    (server_relaying ho (h.idle hpending t hmem)).1
  have hnextThreads : nextThreads s.served.servers 0 o.thread = o.thread.toList :=
    hservers ▸ nextThreads_singleton t o.thread
  have hfits : ServerFits s.first s.served.con.messageLen t := h.server t hmem
  have hsetUp : s.served.setUp = .done := by
    by_contra hnot
    simp [(h.setUp hnot).1] at hservers
  have hfirst' : ∀ chunk, s.first = some chunk → s.firstAfter (.server 0 input) = some chunk := by
    intro chunk hchunk
    simp [hfirst, hchunk]
  have hnotOver : ¬ s.Over := fun hover => by simp [hover.1] at hservers
  have hchunk : ∀ bytes, t.pc = .store bytes → bytes ≠ [] ∧ s.first = some bytes := by
    intro bytes hpc
    simpa only [ServerFits, hpc] using hfits.2
  refine ⟨?_, ?_, htype ▸ h.type, fun hnot => absurd hsetUp hnot, ?_, ?_, h.clients, h.clientType,
    fun t' ht' hopens hnow => h.opens t' ht' hopens (honline hnow), ?_, ?_, ?_, ?_, ?_, ?_, ?_, ?_⟩
  · obtain ⟨bytes, hpc, hmessage, -⟩ | ⟨hmessage, -⟩ | ⟨hmessage, -⟩ := hrecord
    · have hbytes := hstores bytes (by simp [ht, ServerThread.stores, hpc])
      have hinside := h.inside
      simp only [hmessage, List.length_append, List.length_drop]
      omega
    · exact Nat.le_trans (Nat.le_of_eq hmessage) h.inside
    · exact hmessage ▸ h.inside
  · intro hlen
    obtain ⟨bytes, hpc, hmessage, hlen'⟩ | ⟨-, hzero, -⟩ | ⟨hmessage, hlen'⟩ := hrecord
    · simpa [hmessage, hlen'] using hfirst' bytes (hchunk bytes hpc).2
    · exact absurd hzero hlen
    · dsimp only at hlen ⊢
      rw [hlen'] at hlen ⊢
      rw [hmessage]
      exact hfirst' _ (h.stored hlen)
  · intro hnot
    simp [hsetUp] at hnot
  · exact hnextThreads ▸ Option.length_toList_le
  · intro t' ht'
    have hthread : o.thread = some t' := Option.mem_toList.mp (hnextThreads ▸ ht')
    dsimp only
    rw [hfirst]
    exact hfits.step hinput ho hthread
  · intro hreplays
    rw [hsocket] at hreplays
    obtain ⟨chunk, hchunk⟩ := Option.ne_none_iff_exists'.mp (h.relayed hreplays)
    simp [hfirst' chunk hchunk]
  · intro hreplays
    rw [hsocket] at hreplays
    obtain hset | hover := h.answered hreplays
    · obtain hsame | ⟨hzero, hthread⟩ := hfirstOk
      · exact .inl (hsame.trans hset)
      · have hnil : nextThreads s.served.servers 0 o.thread = [] := by rw [hnextThreads, hthread]; rfl
        exact .inr ⟨hnil, hsetUp, hzero⟩
    · exact absurd hover hnotOver
  · intro hpending t' ht' hrelaying
    rw [hsocket] at hpending
    have hthread : o.thread = some t' := Option.mem_toList.mp (hnextThreads ▸ ht')
    have hseen := (server_relaying ho (h.idle hpending t hmem)).2 t' hthread hrelaying
    exact hnotOver (h.online hpending hseen)
  · intro hpending hnow
    rw [hsocket] at hpending
    exact absurd (h.online hpending (honline hnow)) hnotOver
  · intro t' ht' hpending
    rw [hsocket] at hpending
    have hbytes := hquiet hpending
    refine AtPlace.of_same (h.client t' ht' hpending) hstatus ?_ hfirst'
      (fun hover => absurd hover hnotOver) fun hlen => ?_
    · simp [hsocket, hbytes, SocketLog.afterServer, SocketLog.write]
    · obtain ⟨bytes, hpc, -, hlen'⟩ | ⟨-, hzero, hthread⟩ | ⟨-, hlen'⟩ := hrecord
      · dsimp only at hlen
        rw [hlen', List.length_eq_zero_iff] at hlen
        exact absurd hlen (hchunk bytes hpc).1
      · have hnil : nextThreads s.served.servers 0 o.thread = [] := by rw [hnextThreads, hthread]; rfl
        exact .inr ⟨hnil, hsetUp, hzero⟩
      · exact .inl (hlen'.symm.trans hlen)
  · intro hpending
    rw [hsocket] at hpending ⊢
    have hbytes := hquiet hpending
    obtain ⟨hrelayed, hwritten⟩ := h.before hpending
    refine ⟨by simp [SocketLog.afterServer, hbytes, hrelayed], ?_⟩
    simp only [SocketLog.afterServer, SocketLog.write, hbytes, List.append_nil]
    rcases hwritten with hnil | ⟨chunk, hchunk, hprefix⟩
    · exact .inl hnil
    · exact .inr ⟨chunk, hfirst' chunk hchunk, hprefix⟩
  · intro hreplays hanswered
    rw [hsocket] at hreplays hanswered ⊢
    obtain ⟨hrelayed, ⟨chunk, hchunk, hprefix⟩ | ⟨-, hover⟩⟩ := h.after hreplays hanswered
    · refine ⟨?_, .inl ⟨chunk, hfirst' chunk hchunk, hprefix.trans (List.prefix_append _ _)⟩⟩
      simp [SocketLog.afterServer, hrelayed, show s.socket.answered = true from hanswered]
    · exact absurd hover hnotOver

/-- The listener has made a step: it has created one of the threads, or failed. -/
lemma Inv.setUpNext (h : s.Inv) (hnot : s.served.setUp ≠ .done) {served : Served} {threadID : Bool}
    (hcon : served.con = { s.served.con with client := { s.served.con.client with threadID } })
    (hsetUp : served.setUp ≠ .createClient)
    (hservers : served.servers = [] ∨
      (served.setUp = .done ∧ served.servers = [⟨s.served.con.type, .created⟩]))
    (hclients : served.clients = s.served.clients ∨
      served.clients = [⟨s.served.con.type, .created⟩]) :
    (⟨served, s.first, s.socket⟩ : Replay).Inv := by
  have hnotOver : ¬ s.Over := fun hover => hnot hover.2.1
  obtain ⟨-, hfirst, hlen⟩ := h.setUp hnot
  refine ⟨hcon ▸ h.inside, hcon ▸ h.stored, hcon ▸ h.type, fun hnotDone => ⟨?_, hfirst, hcon ▸ hlen⟩,
    fun hcreate => absurd hcreate hsetUp, ?_, ?_, ?_, ?_, ?_, h.relayed, ?_, ?_, ?_, ?_, h.before, ?_⟩
  · obtain hnil | ⟨hdone, -⟩ := hservers
    · exact hnil
    · exact absurd hdone hnotDone
  · obtain hnil | ⟨-, hone⟩ := hservers
    · simp [hnil]
    · simp [hone]
  · obtain hsame | hone := hclients
    · simpa only [hsame] using h.clients
    · simp [hone]
  · intro t ht
    obtain hsame | hone := hclients
    · exact h.clientType t (hsame ▸ ht)
    · obtain rfl : t = ⟨s.served.con.type, .created⟩ := by simpa [hone] using ht
      exact h.type
  · intro t ht hopens
    obtain hsame | hone := hclients
    · simpa [hcon] using h.opens t (hsame ▸ ht) hopens
    · obtain rfl : t = ⟨s.served.con.type, .created⟩ := by simpa [hone] using ht
      exact hopens.elim
  · intro t ht
    obtain hnil | ⟨-, hone⟩ := hservers
    · simp [hnil] at ht
    · obtain rfl : t = ⟨s.served.con.type, .created⟩ := by simpa [hone] using ht
      exact ⟨h.type, fun _ => hfirst⟩
  · intro hreplays
    exact absurd hfirst (h.relayed hreplays)
  · intro hpending
    exact absurd hfirst (h.relayed hpending.1)
  · intro hpending
    exact absurd hfirst (h.relayed hpending.1)
  · intro t ht hpending
    obtain hsame | hone := hclients
    · refine AtPlace.of_same (h.client t (hsame ▸ ht) hpending) ?_ rfl (fun _ => id)
        (fun hover => absurd hover hnotOver) ?_
      · simp [hcon]
      · simp [hcon, hlen]
    · obtain rfl : t = ⟨s.served.con.type, .created⟩ := by simpa [hone] using ht
      trivial
  · intro hreplays hanswered
    exact (h.after hreplays hanswered).imp_right fun hwritten =>
      hwritten.imp_right fun hnil => absurd hnil.2 hnotOver

/-- A step of the listener. -/
lemma Inv.setUpStep (h : s.Inv) {ok : Bool} (hstep : s.step (.setUp ok) = some s') : s'.Inv := by
  obtain ⟨-, served, hserved, rfl⟩ := step_eq_some hstep
  simp only [Served.step, Served.setUpStep] at hserved
  cases hsetUp : s.served.setUp with
  | createClient =>
    have hnot : s.served.setUp ≠ .done := by simp [hsetUp]
    have hservers := (h.setUp hnot).1
    simp only [hsetUp] at hserved
    split_ifs at hserved <;> obtain rfl := Option.some.inj hserved
    · exact h.setUpNext hnot rfl nofun (.inl hservers)
        (.inr (by simp [h.setUpClient hsetUp]))
    · exact h.setUpNext hnot rfl nofun (.inl hservers) (.inl rfl)
  | createServer =>
    have hnot : s.served.setUp ≠ .done := by simp [hsetUp]
    have hservers := (h.setUp hnot).1
    simp only [hsetUp] at hserved
    split_ifs at hserved <;> obtain rfl := Option.some.inj hserved
    · exact h.setUpNext hnot rfl nofun (.inr ⟨rfl, by simp [hservers]⟩) (.inl rfl)
    · exact h.setUpNext hnot rfl nofun (.inl hservers) (.inl rfl)
  | done => simp [hsetUp] at hserved

/-- The control thread goes to another place. -/
lemma Inv.setControl (h : s.Inv) (control : Check) :
    (⟨{ s.served with control := control }, s.first, s.socket⟩ : Replay).Inv :=
  ⟨h.inside, h.stored, h.type, h.setUp, h.setUpClient, h.servers, h.clients, h.clientType, h.opens,
    h.server, h.relayed, h.answered, h.idle, h.online, h.client, h.before, h.after⟩

/-- A step of the control thread. -/
lemma Inv.controlStep (h : s.Inv) {ok : Bool} (horder : s.Orderly (.control ok))
    (hstep : s.step (.control ok) = some s') : s'.Inv := by
  obtain ⟨-, served, hserved, rfl⟩ := step_eq_some hstep
  simp only [Served.step, Served.controlStep] at hserved
  cases hcontrol : s.served.control with
  | asleep =>
    simp only [hcontrol] at hserved
    split_ifs at hserved <;> obtain rfl := Option.some.inj hserved
    · exact h.setControl _
    · exact h
  | scan client server =>
    simp only [hcontrol] at hserved
    split_ifs at hserved with hoffline <;> obtain rfl := Option.some.inj hserved
    · obtain ⟨rfl, rfl⟩ := hoffline
      obtain ⟨hclients, hservers, hsetUp⟩ := horder.1 hcontrol
      refine ⟨h.inside, fun hlen => absurd rfl hlen, nofun, fun hnot => absurd hsetUp hnot,
        fun _ => hclients, h.servers, h.clients, h.clientType, h.opens, fun t ht => ?_, h.relayed,
        fun _ => .inr ⟨hservers, hsetUp, rfl⟩, h.idle, fun _ _ => ⟨hservers, hsetUp, rfl⟩,
        fun t ht => ?_, h.before, fun hreplays hanswered => ?_⟩
      · simp [hservers] at ht
      · simp [hclients] at ht
      · exact (h.after hreplays hanswered).imp_right fun hwritten =>
          hwritten.imp_right fun hnil => ⟨hnil.1, hservers, hsetUp, rfl⟩
    · exact h.setControl _
    · exact h.setControl _
  | creating =>
    simp only [hcontrol] at hserved
    split_ifs at hserved with hfails <;> obtain rfl := Option.some.inj hserved
    · exact h.setControl _
    · obtain ⟨-, hok⟩ := not_or.mp hfails
      obtain ⟨hclients, hsetUp⟩ := horder.2 hcontrol (Bool.not_eq_false ok ▸ hok)
      have hthread : ∀ t ∈ s.served.clients ++ [⟨s.served.con.type, .created⟩],
          t = ⟨s.served.con.type, .created⟩ := by
        simp [hclients]
      refine ⟨h.inside, h.stored, h.type, h.setUp, fun hcreate => absurd hcreate hsetUp, h.servers,
        by simp [hclients], fun t ht => hthread t ht ▸ h.type, fun t ht hopens => ?_, h.server, h.relayed,
        h.answered, h.idle, h.online, fun t ht _ => ?_, h.before, h.after⟩
      · rw [hthread t ht] at hopens
        exact hopens.elim
      · rw [hthread t ht]
        trivial

/-- **One step** in order. -/
lemma Inv.step (h : s.Inv) {e : Event} (horder : s.Orderly e) (hstep : s.step e = some s') :
    s'.Inv := by
  cases e with
  | setApp app =>
    obtain rfl := Option.some.inj hstep
    exact ⟨h.inside, h.stored, h.type, h.setUp, h.setUpClient, h.servers, h.clients, h.clientType, h.opens,
      h.server, h.relayed, h.answered, h.idle, h.online, h.client, h.before, h.after⟩
  | setUp ok => exact h.setUpStep hstep
  | client k input => exact h.clientStep horder hstep
  | server k input => exact h.serverStep horder hstep
  | control ok => exact h.controlStep horder hstep

/-- A client thread begins, and connects to the real server. -/
def connects (sock : ℤ) : List Event :=
  [.client 0 .none, .client 0 .none, .client 0 (.connect (.ok sock)), .client 0 .none,
    .client 0 .none]

/-- The server thread takes a chunk, and has looked whether the client is online. -/
def takes (bytes : List UInt8) : List Event :=
  [.server 0 .none, .server 0 .none, .server 0 (.received (.bytes bytes)), .server 0 .none,
    .server 0 .none, .server 0 .none]

/-- The first chunk is relayed, and the real server answers. -/
def opened : List Event :=
  [.setUp true, .setUp true] ++ connects 7 ++ [.client 0 .none, .client 0 .none, .server 0 .none,
    .server 0 .none] ++ takes [1, 2] ++ [.server 0 .none, .server 0 (.send (some 2)),
    .client 0 .none, .client 0 .none, .client 0 (.received (.bytes [9])),
    .client 0 (.send (some 1)), .client 0 .none]

/-- The connection to the real server is lost, and a new client thread is connected again. -/
def reconnected : List Event :=
  [.client 0 .none, .client 0 .none, .client 0 (.received .failed), .client 0 .none,
    .client 0 .none, .control true, .control true, .control true] ++ connects 8

/-- The first message is sent again and answered. -/
def replayed : List Event :=
  [.client 0 .none, .client 0 .none, .client 0 (.send (some 2)), .client 0 .none,
    .client 0 (.answer .positive), .client 0 .none]

/-- An `LDAP` connection is accepted. -/
def ldap : Replay := init .ldap 5 Served.readyApp .asleep

/-- The first chunk is longer than `message`. -/
def storedLong : List Event :=
  [.setUp true, .setUp true] ++ connects 7 ++ [.client 0 .none, .client 0 .none, .server 0 .none,
    .server 0 .none] ++ takes (List.replicate 1025 1) ++ [.server 0 .none]

end Replay

end ConKeeper

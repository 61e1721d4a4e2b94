import Mathlib.Data.Int.Notation
import Mathlib.Data.Nat.Notation
import Mathlib.Tactic.Common

/-!
# The threads of a connection record

The connection keeper has a record for every accepted connection, with a server thread that reads from
the accepted socket and a client thread that keeps up a connection to the real server.  The three kinds
of connections have the same threads, except that the first message of a `LOAD` connection is not stored.

Both threads read and write the record without the mutex in many places, so every access is a step of its
own; what happens under the mutex is one step.
-/

namespace ConKeeper

/-! ## The data -/

/-- `ConnectionType`; `none` is a free record. -/
inductive ConnectionType
  | none
  | load
  | diameter
  | ldap
  deriving Repr, DecidableEq

/-- `ConnectionStatus`. -/
inductive ConnectionStatus
  | offline
  | connecting
  | online
  | toBeClosed
  | toBeRestarted
  deriving Repr, DecidableEq

/-- `ConKeeperStatus`. -/
inductive ConKeeperStatus
  | starting
  | toBeConfigured
  | ready
  | toBeReset
  | haveToExit
  deriving Repr, DecidableEq

/-- `ActiveZone`. -/
inductive ActiveZone
  | unknown
  | primary
  | secondary
  deriving Repr, DecidableEq

/-- What the threads use of `applicationData`. -/
structure ApplicationData where
  /-- The status. -/
  status : ConKeeperStatus
  /-- The active zone. -/
  activeZone : ActiveZone
  /-- There are two zones. -/
  redundancy : Bool
  deriving Repr, DecidableEq

/-- The threads of connections are to end. -/
def ApplicationData.ends (a : ApplicationData) : Prop := a.status = .haveToExit ∨ a.status = .toBeReset

instance (a : ApplicationData) : Decidable a.ends := inferInstanceAs (Decidable (_ ∨ _))

/-- `InConnection`. -/
structure InConnection where
  /-- The socket. -/
  sock : ℤ
  /-- The status. -/
  status : ConnectionStatus
  deriving Repr, DecidableEq

/-- `OutConnection`. -/
structure OutConnection where
  /-- The socket. -/
  sock : ℤ
  /-- The zone that it is connected to. -/
  connectedTo : ActiveZone
  /-- The status. -/
  status : ConnectionStatus
  /-- `threadID` is not zero. -/
  threadID : Bool
  deriving Repr, DecidableEq

/-- `Connection`. -/
structure Connection where
  /-- The type. -/
  type : ConnectionType
  /-- The bytes of `message`, as far as they were written. -/
  message : List UInt8
  /-- `messageLen`. -/
  messageLen : ℕ
  /-- The first message was answered. -/
  firstConnectionOk : Bool
  /-- The accepted connection. -/
  server : InConnection
  /-- The connection to the real server. -/
  client : OutConnection
  deriving Repr, DecidableEq

/-- A record at the start of the program. -/
def Connection.initial : Connection where
  type := .none
  message := []
  messageLen := 0
  firstConnectionOk := false
  server := ⟨-1, .offline⟩
  client := ⟨-1, .unknown, .offline, false⟩

/-- `storeFirstMessage`.  `message` has 1024 bytes; what a longer message writes behind it is not
modelled. -/
def Connection.storeFirstMessage (c : Connection) (buff : List UInt8) : Connection :=
  { c with message := buff ++ c.message.drop buff.length, messageLen := buff.length }

/-- What the record is set to by `resetServerConnectionAndExit`. -/
def Connection.resetServer (c : Connection) : Connection :=
  { c with
    server := ⟨-1, .offline⟩
    client := { c.client with
      status := if c.client.status = .offline then .offline else .toBeClosed }
    message := c.message.set 0 0
    messageLen := 0
    firstConnectionOk := false }

/-- What the record is set to by `resetClientConnectionAndExit`. -/
def Connection.resetClient (c : Connection) (status : ConnectionStatus) : Connection :=
  { c with client := { c.client with status := status, sock := -1, threadID := false } }

/-- The client has another status. -/
def Connection.setClientStatus (c : Connection) (status : ConnectionStatus) : Connection :=
  { c with client := { c.client with status := status } }

/-- What a step of a thread leads to. -/
structure Outcome (τ : Type) where
  /-- The record. -/
  con : Connection
  /-- The data of the application. -/
  app : ApplicationData
  /-- The thread, if it goes on. -/
  thread : Option τ
  /-- What is written to a socket of the client. -/
  sent : Option (ℤ × List UInt8)
  deriving DecidableEq

/-- What a call of `send` writes to a socket: `n` bytes, if it does not return `-1`. -/
def sentBytes (sock : ℤ) (bytes : List UInt8) (n : Option ℕ) : Option (ℤ × List UInt8) :=
  if sock = -1 then none else n.map fun n => (sock, bytes.take n)

/-- `send` returns the number of the bytes. -/
def SendsAll (sock : ℤ) (bytes : List UInt8) (n : Option ℕ) : Prop :=
  sock ≠ -1 ∧ n = some bytes.length

instance (sock : ℤ) (bytes : List UInt8) (n : Option ℕ) : Decidable (SendsAll sock bytes n) :=
  inferInstanceAs (Decidable (_ ∧ _))

/-! ## The client thread -/

/-- Where a client thread is. -/
inductive ClientPc
  /-- It was created, and has not begun. -/
  | created
  /-- It has written `CONNECTING`. -/
  | starting
  /-- Before `socket`, `bind` and `connect`. -/
  | connecting
  /-- It is connected. -/
  | connected (sock : ℤ)
  /-- At the top of the loop. -/
  | loop
  /-- At the switch, with the status that it has seen. -/
  | switch (seen : ConnectionStatus)
  /-- There is a first message. -/
  | testFirstOk
  /-- It is going to send it. -/
  | sendFirst
  /-- It waits for the answer, and looks whether it has to end. -/
  | awaitAnswer
  /-- It reads the answer. -/
  | readAnswer
  /-- The first message could not be sent, or its answer is not positive. -/
  | firstFailed
  /-- It is ready. -/
  | ready
  /-- The other zone is the active one now. -/
  | otherZone
  /-- It reads. -/
  | receive
  /-- Reading has failed. -/
  | readFailed
  /-- It has read some bytes. -/
  | relay (bytes : List UInt8)
  /-- It has sent them, and the first message was not answered before. -/
  | setFirstOk
  /-- The status is none that it knows. -/
  | wrongState
  /-- In `resetClientConnectionAndExit`, with `TO_BE_RESTARTED` or with `OFFLINE`. -/
  | closing (restart : Bool)
  deriving Repr, DecidableEq

/-- A client thread: which of the three functions it executes, and where it is. -/
structure ClientThread where
  /-- The type of the connections that the function is for. -/
  type : ConnectionType
  /-- Where it is. -/
  pc : ClientPc
  deriving Repr, DecidableEq

/-- How a client connects. -/
inductive ConnectResult
  /-- There is no socket, or it cannot be bound. -/
  | failed
  /-- The server does not answer. -/
  | refused
  | ok (sock : ℤ)
  deriving Repr, DecidableEq

/-- What reading the answer to the first message gives. -/
inductive Answer
  /-- Nothing yet. -/
  | pending
  | positive
  | failed
  deriving Repr, DecidableEq

/-- What reading gives. -/
inductive Received
  /-- Nothing yet. -/
  | pending
  | failed
  | bytes (bytes : List UInt8)
  deriving Repr, DecidableEq

/-- What a step of a thread gets from outside. -/
inductive Input
  | none
  | connect (result : ConnectResult)
  | answer (answer : Answer)
  | received (received : Received)
  /-- What `send` returns. -/
  | send (n : Option ℕ)
  deriving Repr, DecidableEq

namespace ClientThread

/-- The thread goes on at a place. -/
def go (app : ApplicationData) (c : Connection) (t : ClientThread) (pc : ClientPc) :
    Option (Outcome ClientThread) :=
  some ⟨c, app, some { t with pc := pc }, none⟩

/-- A step of a client thread that gets nothing from outside. -/
def move (app : ApplicationData) (c : Connection) (t : ClientThread) :
    ClientPc → Option (Outcome ClientThread)
  | .created => t.go app (c.setClientStatus .connecting) .starting
  | .starting =>
    if app.ends ∨ c.client.status = .toBeClosed then t.go app c (.closing false)
    else t.go app c .connecting
  | .connected sock => t.go app { c with client := { c.client with sock := sock } } .loop
  | .loop =>
    if app.ends then t.go app c (.closing false) else t.go app c (.switch c.client.status)
  | .switch .toBeRestarted => t.go app c (.closing true)
  | .switch .connecting =>
    if t.type ≠ .load ∧ c.messageLen ≠ 0 then t.go app c .testFirstOk else t.go app c .ready
  | .switch .online =>
    if app.redundancy ∧ app.activeZone ≠ c.client.connectedTo then t.go app c .otherZone
    else if c.client.sock = -1 then t.go app c (.closing false)
    else t.go app c .receive
  | .switch .toBeClosed => t.go app c (.closing false)
  | .switch .offline => t.go app c .wrongState
  | .testFirstOk => if c.firstConnectionOk then t.go app c .sendFirst else t.go app c .ready
  | .awaitAnswer =>
    if app.ends ∨ c.client.status = .toBeClosed then t.go app c (.closing false)
    else t.go app c .readAnswer
  | .firstFailed =>
    t.go app (if c.client.status = .connecting then c.setClientStatus .toBeRestarted else c) .loop
  | .ready =>
    t.go app { c with client := { c.client with
        status := if c.client.status = .connecting then .online else c.client.status
        connectedTo := app.activeZone } } .loop
  | .otherZone =>
    t.go app (if c.client.status = .online then c.setClientStatus .toBeRestarted else c) .loop
  | .readFailed =>
    if c.client.status = .online then t.go app c (.closing true) else t.go app c .loop
  | .setFirstOk => t.go app { c with firstConnectionOk := true } .loop
  | .wrongState => t.go { app with status := .toBeReset } c .loop
  | .closing restart =>
    some ⟨c.resetClient (if restart then .toBeRestarted else .offline), app, none, none⟩
  | _ => none

/-- A step of a client thread. -/
def step (app : ApplicationData) (c : Connection) (t : ClientThread) :
    Input → Option (Outcome ClientThread)
  | .none => t.move app c t.pc
  | .connect result =>
    if t.pc = .connecting then
      match result with
      | .failed => t.go app c (.closing false)
      | .refused => t.go app c (.closing true)
      | .ok sock => t.go app c (.connected sock)
    else none
  | .answer answer =>
    if t.pc = .readAnswer then
      match answer with
      | .pending => t.go app c .awaitAnswer
      | .positive => t.go app c .ready
      | .failed => t.go app c .firstFailed
    else none
  | .received received =>
    if t.pc = .receive then
      match received with
      | .pending => t.go app c .loop
      | .failed => t.go app c .readFailed
      | .bytes bytes => t.go app c (.relay bytes)
    else none
  | .send n =>
    match t.pc with
    | .sendFirst =>
      some ⟨c, app,
        some { t with
          pc := if SendsAll c.client.sock (c.message.take c.messageLen) n then .awaitAnswer else .firstFailed },
        sentBytes c.client.sock (c.message.take c.messageLen) n⟩
    | .relay bytes =>
      if c.server.status = .online ∧ t.type ≠ .load ∧ c.firstConnectionOk = false ∧
          SendsAll c.server.sock bytes n then
        t.go app c .setFirstOk
      else t.go app c .loop
    | _ => none

/-- What a step of a client thread does to the statuses. -/
lemma step_cases {app : ApplicationData} {c : Connection} {t : ClientThread} {i : Input}
    {o : Outcome ClientThread} (h : t.step app c i = some o) :
    o.con.type = c.type ∧ o.con.server = c.server ∧
      ((t.pc = .created ∧ o.con.client.status = .connecting ∧
          o.con.client.threadID = c.client.threadID ∧ ∃ t', o.thread = some t' ∧ t'.pc = .starting) ∨
        (∃ restart, t.pc = .closing restart ∧
          o.con = c.resetClient (if restart then .toBeRestarted else .offline) ∧ o.thread = none) ∨
        (t.pc ≠ .created ∧ (∀ restart, t.pc ≠ .closing restart) ∧
          o.con.client.threadID = c.client.threadID ∧ (∃ t', o.thread = some t' ∧ t'.pc ≠ .created) ∧
          (o.con.client.status = c.client.status ∨
            ((c.client.status = .connecting ∨ c.client.status = .online) ∧
              (o.con.client.status = .online ∨ o.con.client.status = .toBeRestarted))))) := by
  cases i with
  | none =>
    simp only [step] at h
    unfold move at h
    split at h
    all_goals grind [go, Connection.setClientStatus, Connection.resetClient]
  | connect result => cases result <;> simp only [step] at h <;> grind [go]
  | answer answer => cases answer <;> simp only [step] at h <;> grind [go]
  | received received => cases received <;> simp only [step] at h <;> grind [go]
  | send n =>
    simp only [step] at h
    split at h
    all_goals grind [go]

end ClientThread

/-! ## The server thread -/

/-- Where a server thread is. -/
inductive ServerPc
  /-- It was created, and has not begun. -/
  | created
  /-- It is going to say that it is online. -/
  | starting
  /-- At the top of the loop. -/
  | loop
  /-- At the switch, with the status that it has seen. -/
  | switch (seen : ConnectionStatus)
  /-- It reads. -/
  | receive
  /-- It has some bytes, and waits while the client is connecting. -/
  | waiting (bytes : List UInt8)
  /-- The same; it looks whether it has to end. -/
  | waitingLook (bytes : List UInt8)
  /-- The client is not connecting. -/
  | testOnline (bytes : List UInt8)
  /-- It is online. -/
  | testStored (bytes : List UInt8)
  /-- This is the first message. -/
  | store (bytes : List UInt8)
  /-- It is going to send. -/
  | send (bytes : List UInt8)
  /-- That has failed. -/
  | sendFailed
  /-- The status is none that it knows. -/
  | wrongState
  /-- In `resetServerConnectionAndExit`. -/
  | closing
  deriving Repr, DecidableEq

/-- A server thread. -/
structure ServerThread where
  /-- The type of the connections that the function is for. -/
  type : ConnectionType
  /-- Where it is. -/
  pc : ServerPc
  deriving Repr, DecidableEq

namespace ServerThread

/-- The thread goes on at a place. -/
def go (app : ApplicationData) (c : Connection) (t : ServerThread) (pc : ServerPc) :
    Option (Outcome ServerThread) :=
  some ⟨c, app, some { t with pc := pc }, none⟩

/-- A step of a server thread that gets nothing from outside. -/
def move (app : ApplicationData) (c : Connection) (t : ServerThread) :
    ServerPc → Option (Outcome ServerThread)
  | .created =>
    -- The thread ends and leaves the record as it is.
    if app.status = .haveToExit then some ⟨c, app, none, none⟩ else t.go app c .starting
  | .starting => t.go app { c with server := { c.server with status := .online } } .loop
  | .loop => if app.ends then t.go app c .closing else t.go app c (.switch c.server.status)
  | .switch .online => if c.server.sock = -1 then t.go app c .closing else t.go app c .receive
  | .switch .toBeClosed => t.go app c .closing
  | .switch .offline => t.go app c .wrongState
  | .switch .connecting => t.go app c .wrongState
  | .switch .toBeRestarted => t.go app c .wrongState
  | .waiting bytes =>
    if c.client.status = .connecting then t.go app c (.waitingLook bytes)
    else t.go app c (.testOnline bytes)
  | .waitingLook bytes =>
    if app.status = .haveToExit then t.go app c .closing else t.go app c (.waiting bytes)
  | .testOnline bytes =>
    if c.client.status = .online then
      if t.type = .load then t.go app c (.send bytes) else t.go app c (.testStored bytes)
    else t.go app c .loop
  | .testStored bytes =>
    if c.messageLen = 0 then t.go app c (.store bytes) else t.go app c (.send bytes)
  | .store bytes => t.go app (c.storeFirstMessage bytes) (.send bytes)
  | .sendFailed => t.go app (c.setClientStatus .toBeRestarted) .loop
  | .wrongState => t.go { app with status := .toBeReset } c .loop
  | .closing => some ⟨c.resetServer, app, none, none⟩
  | _ => none

/-- A step of a server thread. -/
def step (app : ApplicationData) (c : Connection) (t : ServerThread) :
    Input → Option (Outcome ServerThread)
  | .none => t.move app c t.pc
  | .received received =>
    if t.pc = .receive then
      match received with
      | .pending => t.go app c .loop
      | .failed => t.go app c .closing
      | .bytes bytes => t.go app c (.waiting bytes)
    else none
  | .send n =>
    match t.pc with
    | .send bytes =>
      some ⟨c, app, some { t with pc := if SendsAll c.client.sock bytes n then .loop else .sendFailed },
        sentBytes c.client.sock bytes n⟩
    | _ => none
  | _ => none

/-- What a step of a server thread does to the statuses. -/
lemma step_cases {app : ApplicationData} {c : Connection} {t : ServerThread} {i : Input}
    {o : Outcome ServerThread} (h : t.step app c i = some o) :
    o.con.type = c.type ∧ o.con.client.threadID = c.client.threadID ∧
      ((t.pc = .created ∧ o.con = c ∧ ∀ t', o.thread = some t' → t'.pc = .starting) ∨
        (t.pc = .starting ∧ o.con.server.status = .online ∧ o.con.client = c.client ∧
          ∃ t', o.thread = some t' ∧ t'.pc = .loop) ∨
        (t.pc = .closing ∧ o.con = c.resetServer ∧ o.thread = none) ∨
        (t.pc ≠ .created ∧ t.pc ≠ .starting ∧ t.pc ≠ .closing ∧ o.con.server = c.server ∧
          (∃ t', o.thread = some t' ∧ t'.pc ≠ .created ∧ t'.pc ≠ .starting) ∧
          (o.con.client.status = c.client.status ∨ o.con.client.status = .toBeRestarted))) := by
  cases i with
  | none =>
    simp only [step] at h
    unfold move at h
    split at h
    all_goals grind [go, Connection.setClientStatus, Connection.resetServer,
      Connection.storeFirstMessage]
  | connect result => cases h
  | answer answer => cases h
  | received received => cases received <;> simp only [step] at h <;> grind [go]
  | send n =>
    simp only [step] at h
    split at h
    all_goals grind [go]

end ServerThread

end ConKeeper

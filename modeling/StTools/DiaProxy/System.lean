import StTools.Lib.LabelledSystem
import StTools.DiaProxy.DiaThread
import StTools.DiaProxy.ListenerThread
import StTools.DiaProxy.SignalHandling

/-!
# Runs of the proxy

The threads of the proxy as one system: an event is what one thread does between two waits.  The
environment chooses the events with everything the proxy cannot know: which descriptor `accept`
returns, what arrives, what `send` returns, and which connection is lost when.
-/

namespace DiaProxy

/-- What can happen next. -/
inductive Event
  /-- The listener accepts a client on a descriptor that was not open. -/
  | accept (sock : ℤ)
  /-- A client thread gets the end of the stream or an error for one of its clients. -/
  | closeClient (thread nr : ℕ)
  /-- A client thread handles a message to its end: `sender` is the accepted connection that sent it,
  `counterE2e` the counter of the thread, and `answers` the request meant by an answer. -/
  | clientMessage (thread nr sender counterE2e : ℕ) (buff : Mem) (toreceive answers : ℕ)
  /-- A client thread without clients ends. -/
  | exitClientThread (thread : ℕ)
  /-- A pass of `sendPendingMessage` by the thread of a connection. -/
  | send (sock : ℤ) (result : SendResult) (now : ℕ)
  /-- A server thread is started for a connection without a descriptor. -/
  | startDiaThread (c : ℕ)
  /-- A server connection is established on a descriptor that was not open. -/
  | connect (c : ℕ) (sock : ℤ)
  /-- A server thread gets the end of the stream or an error. -/
  | lose (c : ℕ)
  /-- A server thread cleans its connection up to connect it again. -/
  | reconnect (c : ℕ)
  /-- A server thread handles a message; `answers` is the request meant by an answer. -/
  | serverMessage (c : ℕ) (buff : Mem) (dpSize answers : ℕ)
  /-- The proxy thread goes on counting the clients. -/
  | watchClients
  /-- The signal thread begins the clean-up that it was asked for. -/
  | startCleaning
  /-- The signal thread does a piece of the clean-up. -/
  | clean

/-- A client thread may have bytes of this connection to handle for a client slot: the slot was
given to the connection, or it was and the connection is closed. -/
def Proxy.MayHandle (s : Proxy) (nr sender : ℕ) : Prop :=
  nr < s.vClient.length ∧ sender < s.accepted ∧
    ((s.client nr).conn = some sender ∨
      ∀ k < s.vClient.length, (s.client k).status = .online → (s.client k).conn ≠ some sender)

instance (s : Proxy) (nr sender : ℕ) : Decidable (s.MayHandle nr sender) :=
  inferInstanceAs (Decidable (_ ∧ _ ∧ _))

/-- One step of the system. -/
def step (s : Proxy) : Event → Option Proxy
  | .accept sock => if 0 ≤ sock ∧ s.descriptors sock = none then s.acceptClient sock else none
  | .closeClient thread nr =>
    if (nr : ℤ) ∈ (s.clientThread thread).conectionClients ∧ nr < s.vClient.length then
      some (s.closeClient thread nr)
    else none
  | .clientMessage thread nr sender counterE2e buff toreceive answers =>
    -- A scan that throws ends the program, and a thread whose scan does not end makes no step any more.
    if s.MayHandle nr sender ∧ (s.failedScan buff toreceive).isNone then
      some (s.clientMessage thread nr sender counterE2e buff toreceive answers).1
    else none
  | .exitClientThread thread =>
    if 0 < (s.clientThread thread).running ∧ (s.clientThread thread).conectionClients = [] then
      some (s.resetAndExit thread)
    else none
  | .send sock result now =>
    if s.descriptors sock ≠ none then some (s.sendPass sock result now).1 else none
  | .startDiaThread c =>
    if c < s.vConnections.length ∧ (s.connection c).sockId = -1 then some (s.startDiaThread c)
    else none
  | .connect c sock =>
    if c < s.vConnections.length ∧ (s.connection c).status = .connecting ∧ 0 ≤ sock ∧
        s.descriptors sock = none then
      some (s.connectDia c sock)
    else none
  | .lose c => if c < s.vConnections.length then some (s.loseConnection c) else none
  | .reconnect c =>
    if c < s.vConnections.length ∧ (s.connection c).status ∈
        [ConnectionStatus.broken, .toBeConnected, .configurationError] then
      some (s.reconnect c)
    else none
  | .serverMessage c buff dpSize answers =>
    if c < s.vConnections.length ∧ (s.connection c).status = .connected then
      some (s.serverMessage c buff dpSize answers)
    else none
  | .watchClients => some s.watchClients
  | .startCleaning =>
    if s.supervision.maxInactive ∧ s.supervision.stage = none then some s.startCleaning else none
  | .clean => s.supervision.stage.map s.cleanPiece

/-- The state is reached from the start in some run. -/
def Reachable (cerData : CerData) (s : Proxy) : Prop :=
  ∃ es, LabelledSystem.exec step (Proxy.init cerData) es = some s

end DiaProxy

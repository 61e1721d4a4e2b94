import StTools.Lib.QueueMap
import StTools.Lib.Table
import StTools.DiaProxy.Wire
import Mathlib.Data.Finset.Insert
import Mathlib.Data.Finset.Basic

/-!
# The data of the proxy

The tables and maps that the threads of the proxy share, with the values they start from.  The
state `Proxy` also holds what the kernel knows about the process (its open descriptors, what was
written to them, how many client threads run) and some *ghost* data: connection and request
identities and logs of what happened.  No branch of the program reads ghost data; the theorems
are about it.
-/

namespace DiaProxy

/-! ## Clients -/

/-- `ClientStatus`. -/
inductive ClientStatus
  | offline
  | online
  deriving DecidableEq, Repr

/-- The fields of a client connection that only the receive branch uses. -/
structure ClientInput where
  /-- The bytes of an unfinished message, kept between two calls of `recv`. -/
  clientBuff : Mem := fun _ => 0
  /-- The length field of the message being parsed. -/
  toreceive : ℕ := 0
  /-- The number of bytes kept. -/
  received : ℕ := 0

/-- `ClientConnection`, with the values of `initialClient`. -/
structure ClientConnection where
  /-- The descriptor of the connection, or `-1`. -/
  sock : ℤ := -1
  /-- Whether the slot is taken. -/
  status : ClientStatus := .offline
  /-- Never set to `true` by the proxy. -/
  waitingAnswer : Bool := false
  /-- The index of the slot itself, or `-1`. -/
  pos : ℤ := -1
  /-- The server connection that requests of this client go to. -/
  diaServerConnection : ℤ := -1
  /-- The server connection for ISM applications. -/
  ismServerConnection : ℤ := -1
  /-- The server connection for ESM applications. -/
  esmServerConnection : ℤ := -1
  /-- The unfinished input. -/
  input : ClientInput := {}
  /-- Ghost: which accepted connection the slot was last given to. -/
  conn : Option ℕ := none

/-! ## Messages waiting to be sent -/

/-- `MessageType`. -/
inductive MessageType
  | requestToServer
  | requestToClient
  | answerToServer
  | answerToClient
  deriving DecidableEq, Repr

/-- Ghost: where a forwarded request came from and what its identifiers were. -/
structure RequestTag where
  /-- The number of the request among all requests that were given a transaction slot. -/
  id : ℕ := 0
  /-- The client connection (for a request to the server) or the index of the server connection
  (for a request to a client) it was received from. -/
  origin : ℕ := 0
  /-- The client slot it came from or goes to. -/
  client : ℤ := -1
  /-- Its hop-by-hop identifier when it was received. -/
  hopByHop : UInt32 := 0
  /-- Its end-to-end identifier when it was received. -/
  end2end : UInt32 := 0
  deriving DecidableEq, Repr

/-- `Message`. -/
structure Message where
  /-- Its direction and kind. -/
  messageType : MessageType
  /-- The server connection it is counted on. -/
  diaServerConnection : ℤ
  /-- The transaction slot of a request; `-1` for an answer. -/
  transaction : ℤ
  /-- How many of its bytes were written already. -/
  bytesSent : ℕ := 0
  /-- Its bytes. -/
  buffer : List UInt8
  /-- Ghost: the request that the message forwards. -/
  tag : RequestTag := {}
  /-- Ghost: its number among the messages ever queued. -/
  serial : ℕ := 0
  deriving DecidableEq, Repr

/-- `message_len`: the buffer is allocated with this many bytes. -/
def Message.messageLen (m : Message) : ℕ := m.buffer.length

/-- The bytes of the message as memory, to read its header fields. -/
def Message.mem (m : Message) : Mem := Mem.load m.buffer fun _ => 0

/-- The message is a request and has a transaction slot. -/
def Message.IsRequest (m : Message) : Prop :=
  m.messageType = .requestToServer ∨ m.messageType = .requestToClient

instance (m : Message) : Decidable m.IsRequest := inferInstanceAs (Decidable (_ ∨ _))

/-! ## Server connections -/

/-- `ConnectionStatus`. -/
inductive ConnectionStatus
  | off
  | toBeConnected
  | connecting
  | connected
  | disconnected
  | broken
  | maxConexionReached
  | configurationError
  deriving DecidableEq, Repr

/-- `ConnectionType`. -/
inductive ConnectionType
  | generic
  | specific
  deriving DecidableEq, Repr

/-- `DiaServerConnection`. -/
structure DiaServerConnection where
  /-- The state of the connection. -/
  status : ConnectionStatus := .off
  /-- Its descriptor, or `-1`. -/
  sockId : ℤ := -1
  /-- The index of the connection itself. -/
  pos : ℤ := -1
  /-- Clients are spread over the generic connections only. -/
  type : ConnectionType := .generic
  deriving DecidableEq, Repr

/-- The counters of a `DiaServerConnection`. -/
structure Statistic where
  numberOfClients : UInt32 := 0
  totalNumberOfClients : UInt32 := 0
  requestSentToServer : UInt32 := 0
  requestReceivedFromServer : UInt32 := 0
  requestSentToClient : UInt32 := 0
  requestReceivedFromClient : UInt32 := 0
  requestDiscardFromClient : UInt32 := 0
  requestDiscardFromServer : UInt32 := 0
  answerSentToServer : UInt32 := 0
  answerReceivedFromServer : UInt32 := 0
  answerSentToClient : UInt32 := 0
  answerReceivedFromClient : UInt32 := 0
  answerDiscardFromClient : UInt32 := 0
  answerDiscardFromServer : UInt32 := 0
  resultCodeSuccess : UInt32 := 0
  resultCodeBusy : UInt32 := 0
  resultCodeUnableToComply : UInt32 := 0
  resultCodeOther : UInt32 := 0
  requestSent : UInt32 := 0
  deriving DecidableEq, Repr

/-! ## Threads, sessions and transactions -/

/-- `clientThread`, with the values of `InitialClientThread`. -/
structure ClientThread where
  /-- The descriptors the thread waits for. -/
  fds : Finset ℤ := ∅
  /-- The bound on descriptors that is given to `select`. -/
  maxFd : ℤ := -1
  /-- The client slots the thread serves. -/
  conectionClients : List ℤ := []
  /-- How many threads run with this record as their argument. -/
  running : ℕ := 0

/-- `SessionStatus`. -/
inductive SessionStatus
  | pending
  | established
  deriving DecidableEq, Repr

/-- `Session`. -/
structure Session where
  /-- Always established. -/
  status : SessionStatus
  /-- The client slot that registered the name. -/
  client : ℤ
  /-- The server connection of that client. -/
  diaServerConnection : ℤ
  /-- Ghost: the accepted connection that registered the name. -/
  registrar : ℕ
  deriving DecidableEq, Repr

/-- `TransactionStatus`. -/
inductive TransactionStatus
  | notUsed
  | used
  deriving DecidableEq, Repr

/-- `Transaction`, with the values of `initialTransaction`. -/
structure Transaction where
  /-- Whether the slot is taken. -/
  status : TransactionStatus := .notUsed
  /-- The end-to-end identifier of the request. -/
  end2end : UInt32 := UInt32.ofInt (-1)
  /-- The hop-by-hop identifier of the request. -/
  hopByHop : UInt32 := UInt32.ofInt (-1)
  /-- The client slot the request came from or goes to. -/
  client : ℤ := -1
  /-- The server connection a request to a client came from. -/
  answerToDiaServerConnection : ℤ := -1
  /-- When the request was sent, in seconds; zero if this is not measured. -/
  requestTime : ℕ := 0
  /-- Ghost: the request that the slot was last handed to. -/
  taker : Option ℕ := none
  deriving DecidableEq, Repr

/-! ## Configuration -/

/-- `MAX_CLIENTS_THREADS`. -/
def maxClientsThreads : ℕ := 200

/-- What of `CER_DATA` the modelled functions use, with the bounds that the command line is
checked against. -/
structure CerData where
  numberOfClients : ℕ := 1000
  numberOfConnections : ℕ := 1
  numberOfTransactions : ℕ := 1000000
  maxSizeMessageQueue : ℕ := 25000
  ismPort : ℕ := 0
  clientsSharingThreads : Bool := true
  maxNumberClientThreads : ℕ := 5
  e2eSeed : ℕ := 0
  diaErrCountersReportRunning : Bool := false
  latencyReportRunning : Bool := false
  /-- There is a transaction record. -/
  transactions_pos : 0 < numberOfTransactions := by decide
  /-- At most `MAX_TRANS_SIZE` transaction records. -/
  transactions_le : numberOfTransactions ≤ 67108863 := by decide
  /-- There is a server connection. -/
  connections_pos : 0 < numberOfConnections := by decide
  /-- The number of connections is an `int`. -/
  connections_lt : numberOfConnections < 2147483648 := by decide
  /-- There is a client slot. -/
  clients_pos : 0 < numberOfClients := by decide
  /-- There is a client thread. -/
  threads_pos : 0 < maxNumberClientThreads := by decide
  /-- At most `MAX_CLIENTS_THREADS` of them. -/
  threads_le : maxNumberClientThreads ≤ maxClientsThreads := by decide

namespace CerData

/-- The configuration without options. -/
def initial : CerData := {}

/-- Four clients and four transactions. -/
def fourSlots : CerData := { numberOfClients := 4, numberOfTransactions := 4 }

/-- Two transactions. -/
def twoTransactions : CerData := { numberOfTransactions := 2 }

/-- Two server connections. -/
def twoConnections : CerData := { numberOfConnections := 2 }

/-- Four clients and four transactions, with a connection for ISM and one for ESM. -/
def ismAndEsm : CerData :=
  { numberOfClients := 4, numberOfTransactions := 4, numberOfConnections := 2, ismPort := 3868 }

/-- Two client threads for eight clients. -/
def twoThreads : CerData :=
  { numberOfClients := 8, numberOfTransactions := 4, maxNumberClientThreads := 2 }

end CerData

/-! ## The state -/

/-- What the kernel knows about an open descriptor. -/
inductive Peer
  /-- The accepted client connection with this number. -/
  | client (conn : ℕ)
  /-- The server connection with this index. -/
  | server (pos : ℕ)
  deriving DecidableEq, Repr

/-- Ghost: a request that was written completely and is not answered yet. -/
structure Sent where
  /-- The descriptor it was written to. -/
  sock : ℤ
  /-- Whether that connection is still open. -/
  live : Bool
  /-- The request. -/
  message : Message
  deriving DecidableEq, Repr

/-- Ghost: an index that was used on one of the tables. -/
inductive Access
  | transaction (i : ℤ)
  | client (i : ℤ)
  | connection (i : ℤ)
  deriving DecidableEq, Repr

/-- `DiaProxyStatus`, as far as it is seen while clients are served. -/
inductive DiaProxyStatus
  | standby
  | processing
  | cleanning
  deriving DecidableEq, Repr

/-- Where the signal thread is in a clean-up. -/
inductive CleanStage
  /-- At the session map. -/
  | sessions
  /-- At a transaction slot. -/
  | transactions (index : ℕ)
  /-- Behind the queue of a descriptor, or before the first. -/
  | queues (last : Option ℤ)
  /-- At a server connection. -/
  | connections (i : ℕ)
  deriving DecidableEq, Repr

/-- What the proxy thread and the signal thread keep while they look after inactivity. -/
structure Supervision where
  /-- `diaProxyState`. -/
  diaProxyState : DiaProxyStatus := .standby
  /-- `sigReason` is `MAX__INACTIVE__REACHED`, and the signal thread has been told. -/
  maxInactive : Bool := false
  /-- The connection whose clients the proxy thread adds next. -/
  index : ℕ := 0
  /-- `activeTTCNConnections`. -/
  activeTtcnConnections : UInt32 := 0
  /-- Where the signal thread is, while it cleans up. -/
  stage : Option CleanStage := none
  /-- Ghost: the number of clean-ups that were begun. -/
  cleanUps : ℕ := 0
  deriving DecidableEq, Repr

/-- The shared data of the proxy. -/
structure Proxy where
  cerData : CerData
  vTransaction : List Transaction
  vClient : List ClientConnection
  vConnections : List DiaServerConnection
  /-- The counters of `v_connections[i]`, kept beside the table. -/
  statistic : ℤ → Statistic
  vClientThread : List ClientThread
  mSession : List UInt8 → Option Session
  mPendingToSend : QueueMap ℤ Message
  nextTransaction : ℕ
  nextClient : ℕ
  nextConnection : ℕ
  nextClientThread : ℤ
  numberClientThreads : ℕ
  /-- Kernel: the open descriptors of the connections. -/
  descriptors : ℤ → Option Peer
  /-- Kernel: the bytes accepted by `send`, each with the serial number of its message. -/
  wire : ℤ → List (ℕ × UInt8)
  /-- Ghost: the number of connections accepted so far. -/
  accepted : ℕ
  /-- Ghost: the number of requests that were given a transaction slot so far. -/
  requests : ℕ
  /-- Ghost: the requests written completely and not answered yet. -/
  sent : List Sent
  /-- Ghost: every message ever queued, with its descriptor, newest first. -/
  queued : List (ℤ × Message)
  /-- Ghost: the client requests received, with the connection they were counted on. -/
  received : List (ℤ × ℕ)
  /-- Ghost: the client requests counted as sent or discarded, with that connection. -/
  counted : List (ℤ × ℕ)
  /-- Ghost: the indices used on the tables, newest first. -/
  accesses : List Access
  /-- What the proxy thread and the signal thread keep. -/
  supervision : Supervision

/-! ## Reading and writing the tables -/

namespace Proxy

variable (s : Proxy)

/-- `v_transaction[i]`; outside the table an initial record is read. -/
def transaction (i : ℤ) : Transaction := Table.read s.vTransaction {} i

/-- `v_client[i]`; outside the table an initial record is read. -/
def client (i : ℤ) : ClientConnection := Table.read s.vClient {} i

/-- `v_connections[i]`; outside the table an initial record is read. -/
def connection (i : ℤ) : DiaServerConnection := Table.read s.vConnections {} i

/-- `v_clientThread[i]`; outside the table an initial record is read. -/
def clientThread (i : ℤ) : ClientThread := Table.read s.vClientThread {} i

/-- Note that an index was used on a table. -/
def uses (a : Access) : Proxy := { s with accesses := a :: s.accesses }

/-- Change `v_transaction[i]`. -/
def setTransaction (i : ℤ) (f : Transaction → Transaction) : Proxy :=
  { s with
    vTransaction := Table.modify s.vTransaction i f
    accesses := .transaction i :: s.accesses }

/-- Change `v_client[i]`. -/
def setClient (i : ℤ) (f : ClientConnection → ClientConnection) : Proxy :=
  { s with
    vClient := Table.modify s.vClient i f
    accesses := .client i :: s.accesses }

/-- Change `v_connections[i]`. -/
def setConnection (i : ℤ) (f : DiaServerConnection → DiaServerConnection) : Proxy :=
  { s with
    vConnections := Table.modify s.vConnections i f
    accesses := .connection i :: s.accesses }

/-- Change `v_clientThread[i]`. -/
def setClientThread (i : ℤ) (f : ClientThread → ClientThread) : Proxy :=
  { s with vClientThread := Table.modify s.vClientThread i f }

/-- Change the counters of `v_connections[i]`. -/
def count (i : ℤ) (f : Statistic → Statistic) : Proxy :=
  { s with
    statistic := fun j => if j = i then f (s.statistic j) else s.statistic j
    accesses := .connection i :: s.accesses }

/-- The index is inside the table it was used on. -/
def InRange : Access → Prop
  | .transaction i => Table.InRange s.vTransaction i
  | .client i => Table.InRange s.vClient i
  | .connection i => Table.InRange s.vConnections i

end Proxy

/-- The state that `main` sets up: empty tables of the configured sizes and no connection. -/
def Proxy.init (cerData : CerData) : Proxy where
  cerData := cerData
  vTransaction := List.replicate cerData.numberOfTransactions {}
  vClient := List.replicate cerData.numberOfClients {}
  vConnections := (List.range cerData.numberOfConnections).map fun i =>
    { pos := i, type := if cerData.ismPort ≠ 0 ∧ i = 0 then .specific else .generic }
  statistic := fun _ => {}
  vClientThread := List.replicate maxClientsThreads {}
  mSession := fun _ => none
  mPendingToSend := ∅
  nextTransaction := 0
  nextClient := 0
  nextConnection := 0
  nextClientThread := -1
  numberClientThreads := 0
  descriptors := fun _ => none
  wire := fun _ => []
  accepted := 0
  requests := 0
  sent := []
  queued := []
  received := []
  counted := []
  accesses := []
  supervision := {}

end DiaProxy

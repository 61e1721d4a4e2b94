import StTools.Lib.LabelledSystem
import Mathlib.Data.List.Infix
import Mathlib.Logic.Function.Basic

/-!
# The proxy of the TTCN command line

Several clients share one session with the command line of TTCN.  Each client has a thread, which queues a
command and waits for the response; the dispatcher takes the commands from the queue one after the other,
sends each to the command line and takes the next text from the buffer of the reader; the reader puts into
its buffer what it has received as soon as the prompt is in it.

Nothing ties a text in the buffer to the command it answers.  `private_of_along` says that this is no harm
when the command line writes only its answers, each with the prompt at its end and nowhere before: then every
client sees its own commands answered, as in a session of its own, in whatever order the threads make their
steps.  `abandoned_iff` says who is left behind when the session ends.
-/

namespace TtcnProxy

open LabelledSystem

/-- A text. -/
abbrev Text := List Char

/-- `DEFAULT_TTCN_CLI_PROMPT`. -/
def cliPrompt : Text := ['T', 'T', 'C', 'N', '>', ' ']

/-- The reader waits for the prompt on a new line. -/
def linePrompt : Text := ['\r', '\n'] ++ cliPrompt

/-- The command that ends the session of a client. -/
def quitCommand : Text := ['q', 'u', 'i', 't', '\r', '\n']

/-- Where the thread of a client is. -/
inductive ClientPc
  /-- It waits for a command. -/
  | selecting
  /-- It has queued a command and waits for the response. -/
  | waiting
  /-- It has ended, or is about to. -/
  | ended
  deriving DecidableEq

/-- A client and its thread. -/
structure Client where
  /-- Where the thread is. -/
  pc : ClientPc
  /-- The queue of the responses, the last one first; `None` is a response too. -/
  responses : List (Option Text)
  /-- The commands that the client has sent. -/
  issued : List Text
  /-- What it was sent. -/
  received : List Text

/-- Where the dispatcher is. -/
inductive DispatcherPc (ι : Type*)
  /-- It tests whether to go on. -/
  | testing
  /-- It waits for a request. -/
  | getting
  /-- In `run_command`: it has sent a command and has a part of the response. -/
  | running (command : Text) (client : ι) (response : Text)
  /-- It has ended. -/
  | ended
  /-- To send the command of this client has raised an exception, which has ended the thread. -/
  | died (client : ι)

/-- The proxy. -/
structure Proxy (ι : Type*) where
  /-- The clients. -/
  clients : ι → Client
  /-- The requests. -/
  requests : List (Text × ι)
  /-- Where the dispatcher is. -/
  dispatcher : DispatcherPc ι
  /-- The server has not been shut down.  The dispatcher and the reader have such a flag too; the three are
  cleared together. -/
  active : Bool
  /-- The reader is in its loop. -/
  reading : Bool
  /-- What the reader has received since the last prompt. -/
  response : Text
  /-- The buffer of the reader; `None` is put there when the session ends. -/
  buffer : List (Option Text)
  /-- The commands that were sent to the command line. -/
  sent : List Text
  /-- All that was received from there. -/
  written : Text

/-- What the reader gets. -/
inductive Received
  /-- Some text. -/
  | data (text : Text)
  /-- The connection is closed. -/
  | closed
  /-- An exception.  The reader goes on with `None` for the data, and takes its length. -/
  | failed
  deriving DecidableEq

/-- What can happen. -/
inductive Event (ι : Type*)
  /-- A client sends a command. -/
  | command (i : ι) (text : Text)
  /-- A client quits or its connection ends, or the server ends its thread. -/
  | quit (i : ι)
  /-- The thread of a client gets its response, and whether the client can be sent it. -/
  | get (i : ι) (ok : Bool)
  /-- The dispatcher tests whether to go on. -/
  | test
  /-- It has waited for a request long enough. -/
  | empty
  /-- It takes a request. -/
  | take
  /-- It takes a request, and the command cannot be sent. -/
  | fail
  /-- It takes a text from the buffer of the reader. -/
  | answer
  /-- The reader receives something. -/
  | recv (r : Received)
  /-- The server is shut down by its user. -/
  | shutdown

namespace Proxy

variable {ι : Type*} [DecidableEq ι]

/-- The proxy with another state of a client. -/
def setClient (s : Proxy ι) (i : ι) (c : Client) : Proxy ι :=
  { s with clients := Function.update s.clients i c }

/-- `send_response`. -/
def respond (s : Proxy ι) (i : ι) (r : Option Text) : Proxy ι :=
  s.setClient i { s.clients i with responses := r :: (s.clients i).responses }

omit [DecidableEq ι] in
/-- `shutdown` of the server: it shuts down the reader, unless that was done. -/
def shutdown (s : Proxy ι) : Proxy ι :=
  { s with active := false, buffer := if s.active then s.buffer ++ [none] else s.buffer }

/-- The reader puts the response into its buffer when the prompt is there. -/
def publish (s : Proxy ι) : Proxy ι :=
  if linePrompt <:+: s.response then
    { s with buffer := s.buffer ++ [some s.response], response := [] }
  else s

/-- The end of a pass of the reader: when the session is over, its thread ends. -/
def endPass (s : Proxy ι) : Proxy ι :=
  if s.active then s else { s with reading := false, buffer := s.buffer ++ [none] }

/-- A pass of the reader. -/
def readerPass (s : Proxy ι) : Received → Proxy ι
  | .data text => { s with response := s.response ++ text, written := s.written ++ text }.publish.endPass
  | .closed => { s with active := false, buffer := s.buffer ++ [none] }.publish.endPass
  -- the length of `None` is another exception
  | .failed => { s with reading := false }

/-- The thread of a client gets its response. -/
def clientGet (s : Proxy ι) (i : ι) (ok : Bool) : List (Option Text) → Option (Proxy ι)
  | [] => none
  | some t :: rest =>
    if ok then
      some (s.setClient i { s.clients i with
        pc := .selecting, responses := rest, received := (s.clients i).received ++ [t] })
    else some (s.setClient i { s.clients i with pc := .ended, responses := rest })
  | none :: rest => some (s.setClient i { s.clients i with pc := .ended, responses := rest })

/-- The dispatcher takes a request, and sends the command unless the session is over. -/
def take (s : Proxy ι) : List (Text × ι) → Option (Proxy ι)
  | [] => none
  | (c, i) :: rest =>
    if s.active then
      some { s with requests := rest, dispatcher := .running c i [], sent := s.sent ++ [c] }
    else some ({ s with requests := rest, dispatcher := .testing }.respond i none)

/-- The dispatcher takes a request, and to send the command raises an exception that nobody catches. -/
def fail (s : Proxy ι) : List (Text × ι) → Option (Proxy ι)
  | [] => none
  | (_, i) :: rest => if s.active then some { s with requests := rest, dispatcher := .died i } else none

/-- A text from the buffer of the reader, with the part of the response that the dispatcher has.  When the
prompt is there, the response is complete. -/
def answer (s : Proxy ι) (c : Text) (i : ι) (response : Text) : List (Option Text) → Option (Proxy ι)
  | [] => none
  | none :: rest => some ({ s with buffer := rest, dispatcher := .testing }.shutdown.respond i none)
  | some t :: rest =>
    if cliPrompt <:+: response ++ t then
      some ({ s with buffer := rest, dispatcher := .testing }.respond i (some (response ++ t)))
    else some { s with buffer := rest, dispatcher := .running c i (response ++ t) }

/-- One step. -/
def step (s : Proxy ι) : Event ι → Option (Proxy ι)
  | .command i c =>
    if (s.clients i).pc = .selecting ∧ c ≠ [] ∧ c ≠ quitCommand then
      some { s.setClient i { s.clients i with
        pc := .waiting, issued := (s.clients i).issued ++ [c] } with requests := s.requests ++ [(c, i)] }
    else none
  | .quit i =>
    if (s.clients i).pc = .selecting then some (s.setClient i { s.clients i with pc := .ended })
    else none
  | .get i ok =>
    if (s.clients i).pc = .waiting then s.clientGet i ok (s.clients i).responses else none
  | .test =>
    match s.dispatcher with
    | .testing => some { s with dispatcher := if s.active then .getting else .ended }
    | _ => none
  | .empty =>
    match s.dispatcher with
    | .getting => if s.requests = [] then some { s with dispatcher := .testing } else none
    | _ => none
  | .take =>
    match s.dispatcher with
    | .getting => s.take s.requests
    | _ => none
  | .fail =>
    match s.dispatcher with
    | .getting => s.fail s.requests
    | _ => none
  | .answer =>
    match s.dispatcher with
    | .running c i response => s.answer c i response s.buffer
    | _ => none
  | .recv r =>
    if s.reading ∧ r ≠ .data [] then some (s.readerPass r) else none
  | .shutdown => some s.shutdown

/-- The proxy when the session is open and nobody has sent a command. -/
def start : Proxy ι where
  clients _ := { pc := .selecting, responses := [], issued := [], received := [] }
  requests := []
  dispatcher := .testing
  active := true
  reading := true
  response := []
  buffer := []
  sent := []
  written := []

/-! ## What should hold -/

/-- A client sees its own commands answered, in their order, and before it sends the next one it has the
answers to all. -/
structure PrivateFor (reply : Text → Text) (c : Client) : Prop where
  /-- It was sent the answers to its first commands. -/
  received : c.received <+: c.issued.map reply
  /-- And to all, unless it waits or has ended. -/
  complete : c.pc = .selecting → c.received = c.issued.map reply

/-- Every client has the command line for itself. -/
def Private (reply : Text → Text) (s : Proxy ι) : Prop := ∀ i, PrivateFor reply (s.clients i)

/-- The command line has written only its answers to the commands it was sent. -/
def Answers (reply : Text → Text) (s : Proxy ι) : Event ι → Prop
  | .recv (.data text) => s.written ++ text <+: s.sent.flatMap reply
  | _ => True

instance decidableAnswers (reply : Text → Text) (s : Proxy ι) :
    (e : Event ι) → Decidable (s.Answers reply e)
  | .recv (.data text) => inferInstanceAs (Decidable (s.written ++ text <+: s.sent.flatMap reply))
  | .recv .closed => isTrue trivial
  | .recv .failed => isTrue trivial
  | .command _ _ => isTrue trivial
  | .quit _ => isTrue trivial
  | .get _ _ => isTrue trivial
  | .test => isTrue trivial
  | .empty => isTrue trivial
  | .take => isTrue trivial
  | .fail => isTrue trivial
  | .answer => isTrue trivial
  | .shutdown => isTrue trivial

/-- The prompt stands at the end of the answer, and nowhere before. -/
def Prompted (answer : Text) : Prop := ∀ t, t <+: answer → (linePrompt <:+: t ↔ t = answer)

/-! ## Where the commands are -/

end Proxy

variable {ι : Type*} [DecidableEq ι]

/-- How many requests of a client are in the queue. -/
def queued (requests : List (Text × ι)) (i : ι) : ℕ := requests.countP fun r => r.2 = i

/-- Whether the command that is running, or could not be sent, is of the client. -/
def DispatcherPc.runs (i : ι) : DispatcherPc ι → ℕ
  | running _ j _ => if j = i then 1 else 0
  | died j => if j = i then 1 else 0
  | _ => 0

lemma queued_append (requests : List (Text × ι)) (c : Text) (i j : ι) :
    queued (requests ++ [(c, i)]) j = queued requests j + if i = j then 1 else 0 := by
  rw [queued, List.countP_append, List.countP_singleton]
  simp only [decide_eq_true_eq, queued]

lemma queued_cons (requests : List (Text × ι)) (c : Text) (i j : ι) :
    queued ((c, i) :: requests) j = queued requests j + if i = j then 1 else 0 := by
  rw [queued, List.countP_cons]
  simp only [decide_eq_true_eq, queued]

namespace Proxy

variable {s s' : Proxy ι} {reply : Text → Text}

/-- How many commands of the client are in the queue, running, lost with the dispatcher, or answered without
the client having the answer. -/
def outstanding (s : Proxy ι) (i : ι) : ℕ :=
  queued s.requests i + s.dispatcher.runs i + (s.clients i).responses.length

/-- A client that waits has one command on its way, and nobody else has. -/
def Placed (s : Proxy ι) : Prop :=
  ∀ i, s.outstanding i = if (s.clients i).pc = .waiting then 1 else 0

lemma clients_setClient_self {i : ι} {c : Client} : (s.setClient i c).clients i = c :=
  Function.update_self ..

lemma clients_setClient_of_ne {i j : ι} {c : Client} (h : j ≠ i) :
    (s.setClient i c).clients j = s.clients j :=
  Function.update_of_ne h ..

lemma clients_respond_self {i : ι} {r : Option Text} : (s.respond i r).clients i =
    { s.clients i with responses := r :: (s.clients i).responses } :=
  clients_setClient_self

lemma clients_respond_of_ne {i j : ι} {r : Option Text} (h : j ≠ i) :
    (s.respond i r).clients j = s.clients j :=
  clients_setClient_of_ne h

/-- A response does not change where a client is. -/
lemma pc_respond (i j : ι) (r : Option Text) :
    ((s.respond i r).clients j).pc = (s.clients j).pc := by
  by_cases hj : j = i
  · rw [hj, clients_respond_self]
  · rw [clients_respond_of_ne hj]

/-- A response is on its way to its client. -/
lemma outstanding_respond (i j : ι) (r : Option Text) :
    (s.respond i r).outstanding j = s.outstanding j + if i = j then 1 else 0 := by
  by_cases hj : j = i
  · rw [hj, outstanding, clients_respond_self, if_pos rfl]
    rfl
  · rw [outstanding, clients_respond_of_ne hj, if_neg (Ne.symm hj)]
    rfl

omit [DecidableEq ι] in
/-- The reader has nothing to do with this. -/
lemma readerPass_eq (r : Received) :
    (s.readerPass r).clients = s.clients ∧ (s.readerPass r).requests = s.requests ∧
      (s.readerPass r).dispatcher = s.dispatcher ∧ (s.readerPass r).sent = s.sent := by
  cases r with
  | data text =>
    rw [readerPass, endPass, publish]
    split_ifs <;> exact ⟨rfl, rfl, rfl, rfl⟩
  | closed =>
    rw [readerPass, endPass, publish]
    split_ifs <;> exact ⟨rfl, rfl, rfl, rfl⟩
  | failed => exact ⟨rfl, rfl, rfl, rfl⟩

/-- A client goes on; what is on its way to it stays as it is, or is what it says. -/
lemma Placed.setClient {i : ι} {c : Client} (h : s.Placed)
    (hself : queued s.requests i + s.dispatcher.runs i + c.responses.length =
      if c.pc = .waiting then 1 else 0) : (s.setClient i c).Placed := by
  intro j
  by_cases hj : j = i
  · rw [hj, outstanding, clients_setClient_self]
    exact hself
  · rw [outstanding, clients_setClient_of_ne hj]
    exact h j

/-- A command that was on its way to the dispatcher is answered. -/
lemma Placed.respond {u : Proxy ι} {i : ι} {r : Option Text} (h : s.Placed)
    (hclients : u.clients = s.clients)
    (hout : ∀ j, s.outstanding j = u.outstanding j + if i = j then 1 else 0) :
    (u.respond i r).Placed := by
  intro j
  rw [outstanding_respond, pc_respond, hclients, ← hout]
  exact h j

/-- **Step lemma.**  No command is lost on its way or answered twice. -/
lemma Placed.step {e : Event ι} (h : s.Placed) (hstep : s.step e = some s') : s'.Placed := by
  cases e with
  | command i c =>
    rw [Proxy.step] at hstep
    split_ifs at hstep with hsel
    cases hstep
    have hi := h i
    rw [hsel.1, if_neg (by decide), outstanding] at hi
    intro j
    dsimp only [outstanding]
    rw [queued_append]
    by_cases hj : j = i
    · rw [hj, clients_setClient_self, if_pos rfl, if_pos rfl]
      dsimp only [Proxy.setClient]
      omega
    · rw [clients_setClient_of_ne hj, if_neg (Ne.symm hj)]
      exact h j
  | quit i =>
    rw [Proxy.step] at hstep
    split_ifs at hstep with hsel
    cases hstep
    have hi := h i
    rw [hsel, if_neg (by decide)] at hi
    exact h.setClient hi
  | get i ok =>
    rw [Proxy.step] at hstep
    split_ifs at hstep with hwait
    have hi := h i
    rw [hwait, if_pos rfl, outstanding] at hi
    unfold clientGet at hstep
    split at hstep
    · cases hstep
    · rename_i t rest hrest
      rw [hrest, List.length_cons] at hi
      split_ifs at hstep <;> cases hstep <;> exact h.setClient (Nat.succ.inj hi)
    · rename_i rest hrest
      rw [hrest, List.length_cons] at hi
      cases hstep
      exact h.setClient (Nat.succ.inj hi)
  | test =>
    rw [Proxy.step] at hstep
    split at hstep
    · rename_i htest
      cases hstep
      intro i
      have hi := h i
      rw [outstanding, htest] at hi
      cases hactive : s.active <;> exact hi
    · cases hstep
  | empty =>
    rw [Proxy.step] at hstep
    split at hstep
    · rename_i hget
      split_ifs at hstep
      cases hstep
      intro i
      have hi := h i
      rw [outstanding, hget] at hi
      exact hi
    · cases hstep
  | take =>
    rw [Proxy.step] at hstep
    split at hstep
    · rename_i hget
      unfold take at hstep
      split at hstep
      · cases hstep
      · rename_i c i rest hreq
        have hout : ∀ j, s.outstanding j = queued rest j + (s.clients j).responses.length +
            if i = j then 1 else 0 := by
          intro j
          have hruns : (DispatcherPc.getting : DispatcherPc ι).runs j = 0 := rfl
          rw [outstanding, hget, hreq, queued_cons, hruns]
          omega
        split_ifs at hstep with hactive <;> cases hstep
        · intro j
          have hj := h j
          rw [hout] at hj
          dsimp only [outstanding, DispatcherPc.runs]
          omega
        · exact h.respond (u := { s with requests := rest, dispatcher := .testing }) rfl hout
    · cases hstep
  | fail =>
    rw [Proxy.step] at hstep
    split at hstep
    · rename_i hget
      unfold fail at hstep
      split at hstep
      · cases hstep
      · rename_i c i rest hreq
        split_ifs at hstep
        cases hstep
        intro j
        have hj := h j
        have hruns : (DispatcherPc.getting : DispatcherPc ι).runs j = 0 := rfl
        rw [outstanding, hget, hreq, queued_cons, hruns] at hj
        dsimp only [outstanding, DispatcherPc.runs]
        omega
    · cases hstep
  | answer =>
    rw [Proxy.step] at hstep
    split at hstep
    · rename_i c i response hrun
      have hout : ∀ j, s.outstanding j = queued s.requests j + (s.clients j).responses.length +
          if i = j then 1 else 0 := by
        intro j
        rw [outstanding, hrun, DispatcherPc.runs]
        omega
      unfold Proxy.answer at hstep
      split at hstep
      · cases hstep
      · rename_i rest hrest
        cases hstep
        exact h.respond (u := shutdown { s with buffer := rest, dispatcher := .testing }) rfl hout
      · rename_i t rest hrest
        split_ifs at hstep <;> cases hstep
        · exact h.respond (u := { s with buffer := rest, dispatcher := .testing }) rfl hout
        · intro j
          have hj := h j
          rw [outstanding, hrun] at hj
          exact hj
    · cases hstep
  | recv r =>
    rw [Proxy.step] at hstep
    split_ifs at hstep
    cases hstep
    intro i
    obtain ⟨hclients, hrequests, hdispatcher, -⟩ := readerPass_eq (s := s) r
    rw [outstanding, hclients, hrequests, hdispatcher]
    exact h i
  | shutdown =>
    cases hstep
    exact h

/-! ## What is answered -/

end Proxy

/-- The client was sent the answers to all its commands but the last one, which is `c`. -/
def Client.Expects (reply : Text → Text) (cl : Client) (c : Text) : Prop :=
  ∃ before, cl.issued = before ++ [c] ∧ cl.received = before.map reply

omit [DecidableEq ι] in
/-- A request of a client without requests. -/
lemma snd_ne_of_queued [DecidableEq ι] {requests : List (Text × ι)} {i : ι}
    (h : queued requests i = 0) {r : Text × ι} (hr : r ∈ requests) : r.2 ≠ i := by
  intro hri
  exact List.countP_eq_zero.mp h r hr (decide_eq_true hri)

namespace Proxy

variable {s s' : Proxy ι} {reply : Text → Text}

/-- How far the answer to a command has come that is running. -/
inductive Pending (reply : Text → Text) (s : Proxy ι) (c : Text) : Prop
  /-- The reader has a part of it. -/
  | unanswered (before : List Text) (hactive : s.active = true) (hbuffer : s.buffer = [])
      (hsent : s.sent = before ++ [c]) (hwritten : s.written = before.flatMap reply ++ s.response)
      (hresponse : s.response <+: reply c) (hne : s.response ≠ reply c)
  /-- It is in the buffer. -/
  | answered (hactive : s.active = true) (hbuffer : s.buffer = [some (reply c)])
      (hresponse : s.response = []) (hwritten : s.written = s.sent.flatMap reply)
  /-- The session is over, and the dispatcher will take `None` or the answer. -/
  | ending (hactive : s.active = false) (r : Option Text) (rest : List (Option Text))
      (hbuffer : s.buffer = r :: rest) (hr : r = none ∨ r = some (reply c))

/-- While the session is open, what was written was an answer, and was taken unless its command is still
running. -/
def Session (reply : Text → Text) (s : Proxy ι) : Prop :=
  match s.dispatcher with
  | .running c _ response => response = [] ∧ s.Pending reply c
  | .ended => True
  | .died _ => True
  | _ => s.active = true → s.buffer = [] ∧ s.response = [] ∧ s.written = s.sent.flatMap reply

omit [DecidableEq ι] in
/-- Only these fields matter. -/
lemma Session.of_eq (h : s.Session reply) (hdispatcher : s'.dispatcher = s.dispatcher)
    (hactive : s'.active = s.active) (hbuffer : s'.buffer = s.buffer)
    (hresponse : s'.response = s.response) (hsent : s'.sent = s.sent)
    (hwritten : s'.written = s.written) : s'.Session reply := by
  unfold Session at h ⊢
  rw [hdispatcher]
  split at h
  · obtain ⟨hnil, hpending⟩ := h
    refine ⟨hnil, ?_⟩
    cases hpending with
    | unanswered before h₁ h₂ h₃ h₄ h₅ h₆ =>
      exact .unanswered before (hactive.trans h₁) (hbuffer.trans h₂) (hsent.trans h₃)
        (by rw [hwritten, hresponse, h₄]) (hresponse ▸ h₅) (hresponse ▸ h₆)
    | answered h₁ h₂ h₃ h₄ =>
      exact .answered (hactive.trans h₁) (hbuffer.trans h₂) (hresponse.trans h₃)
        (by rw [hwritten, hsent, h₄])
    | ending h₁ r rest h₂ h₃ => exact .ending (hactive.trans h₁) r rest (hbuffer.trans h₂) h₃
  · trivial
  · trivial
  · rw [hactive, hbuffer, hresponse, hwritten, hsent]
    exact h

/-- The invariant. -/
structure Right (reply : Text → Text) (s : Proxy ι) : Prop where
  /-- Every command is in one place. -/
  placed : s.Placed
  /-- Whoever has a request in the queue waits for its answer. -/
  requests : ∀ r ∈ s.requests, (s.clients r.2).Expects reply r.1
  /-- So does the client whose command is running. -/
  running : ∀ c i response, s.dispatcher = .running c i response → (s.clients i).Expects reply c
  /-- A response is the answer that the client waits for. -/
  responses : ∀ i t, some t ∈ (s.clients i).responses →
    ∃ c, (s.clients i).Expects reply c ∧ t = reply c
  /-- A client that waits has the answers to its other commands. -/
  waiting : ∀ i, (s.clients i).pc = .waiting → ∃ c, (s.clients i).Expects reply c
  /-- A client that does not wait is served. -/
  resting : ∀ i, (s.clients i).pc ≠ .waiting → PrivateFor reply (s.clients i)
  /-- The command line. -/
  session : s.Session reply

/-- The invariant says that every client is served. -/
lemma Right.private (h : s.Right reply) : s.Private reply := by
  intro i
  by_cases hpc : (s.clients i).pc = .waiting
  · obtain ⟨c, before, hissued, hreceived⟩ := h.waiting i hpc
    constructor
    · rw [hissued, hreceived, List.map_append]
      exact List.prefix_append ..
    · intro hsel
      rw [hpc] at hsel
      cases hsel
  · exact h.resting i hpc

/-- A client goes on that has nothing on its way. -/
lemma Right.setClient {i : ι} {c : Client} (h : s.Right reply) (hqueued : queued s.requests i = 0)
    (hruns : s.dispatcher.runs i = 0) (hresponses : c.responses = []) (hpc : c.pc ≠ .waiting)
    (hprivate : PrivateFor reply c) : (s.setClient i c).Right reply where
  placed := h.placed.setClient (by rw [hqueued, hruns, hresponses, if_neg hpc]; rfl)
  requests r hr := by
    rw [clients_setClient_of_ne (snd_ne_of_queued hqueued hr)]
    exact h.requests r hr
  running d j response hrun := by
    have hj : j ≠ i := by
      rintro rfl
      have hd : s.dispatcher = .running d j response := hrun
      rw [hd, DispatcherPc.runs, if_pos rfl] at hruns
      cases hruns
    rw [clients_setClient_of_ne hj]
    exact h.running d j response hrun
  responses j t ht := by
    by_cases hj : j = i
    · rw [hj, clients_setClient_self, hresponses] at ht
      cases ht
    · rw [clients_setClient_of_ne hj] at ht ⊢
      exact h.responses j t ht
  waiting j hj := by
    by_cases hji : j = i
    · rw [hji, clients_setClient_self] at hj
      exact absurd hj hpc
    · rw [clients_setClient_of_ne hji] at hj ⊢
      exact h.waiting j hj
  resting j hj := by
    by_cases hji : j = i
    · rw [hji, clients_setClient_self]
      exact hprivate
    · rw [clients_setClient_of_ne hji] at hj ⊢
      exact h.resting j hj
  session := h.session.of_eq rfl rfl rfl rfl rfl rfl

/-- The dispatcher responds to a client. -/
lemma Right.respond {u : Proxy ι} {i : ι} {r : Option Text} (h : s.Right reply)
    (hplaced : (u.respond i r).Placed) (hclients : u.clients = s.clients)
    (hrequests : ∀ q ∈ u.requests, q ∈ s.requests) (hdispatcher : u.dispatcher = .testing)
    (hr : ∀ t, r = some t → ∃ c, (s.clients i).Expects reply c ∧ t = reply c)
    (hsession : u.Session reply) : (u.respond i r).Right reply := by
  have hexpects : ∀ j c, (s.clients j).Expects reply c → ((u.respond i r).clients j).Expects reply c := by
    intro j c hc
    by_cases hj : j = i
    · rw [hj, clients_respond_self, hclients, ← hj]
      exact hc
    · rw [clients_respond_of_ne hj, hclients]
      exact hc
  constructor
  · exact hplaced
  · exact fun q hq => hexpects _ _ (h.requests q (hrequests q hq))
  · intro c j response hrun
    have htesting : (u.respond i r).dispatcher = .testing := hdispatcher
    rw [htesting] at hrun
    cases hrun
  · intro j t ht
    by_cases hj : j = i
    · subst hj
      rw [clients_respond_self, hclients] at ht
      rcases List.mem_cons.mp ht with ht | ht
      · obtain ⟨c, hc, htc⟩ := hr t ht.symm
        exact ⟨c, hexpects j c hc, htc⟩
      · obtain ⟨c, hc, htc⟩ := h.responses j t ht
        exact ⟨c, hexpects j c hc, htc⟩
    · rw [clients_respond_of_ne hj, hclients] at ht
      obtain ⟨c, hc, htc⟩ := h.responses j t ht
      exact ⟨c, hexpects j c hc, htc⟩
  · intro j hj
    rw [pc_respond, hclients] at hj
    obtain ⟨c, hc⟩ := h.waiting j hj
    exact ⟨c, hexpects j c hc⟩
  · intro j hj
    rw [pc_respond, hclients] at hj
    have hprivate := h.resting j hj
    by_cases hji : j = i
    · rw [hji, clients_respond_self, hclients, ← hji]
      exact ⟨hprivate.received, hprivate.complete⟩
    · rw [clients_respond_of_ne hji, hclients]
      exact hprivate
  · exact hsession.of_eq rfl rfl rfl rfl rfl rfl

omit [DecidableEq ι] in
/-- The session ends, or has ended, and something more is put into the buffer. -/
lemma Session.ending {extra : List (Option Text)} (h : s.Session reply)
    (hdispatcher : s'.dispatcher = s.dispatcher) (hactive : s'.active = false)
    (hbuffer : s'.buffer = s.buffer ++ extra)
    (hextra : s.active = true → ∃ rest, extra = none :: rest) : s'.Session reply := by
  unfold Session at h ⊢
  rw [hdispatcher]
  split at h
  · obtain ⟨hnil, hpending⟩ := h
    refine ⟨hnil, ?_⟩
    cases hpending with
    | unanswered before h₁ h₂ h₃ h₄ h₅ h₆ =>
      obtain ⟨rest, rfl⟩ := hextra h₁
      exact .ending hactive none rest (by rw [hbuffer, h₂, List.nil_append]) (Or.inl rfl)
    | answered h₁ h₂ h₃ h₄ =>
      exact .ending hactive (some (reply _)) extra (by rw [hbuffer, h₂, List.singleton_append])
        (Or.inr rfl)
    | ending h₁ r rest h₂ h₃ =>
      exact .ending hactive r (rest ++ extra) (by rw [hbuffer, h₂, List.cons_append]) h₃
  · trivial
  · trivial
  · rw [hactive]
    exact fun h => by cases h

omit [DecidableEq ι] in
/-- The connection to the command line is closed. -/
lemma buffer_closed (s : Proxy ι) : ∃ rest, (s.readerPass .closed).buffer = s.buffer ++ none :: rest ∧
    (s.readerPass .closed).active = false := by
  rw [readerPass, publish]
  split_ifs
  · exact ⟨[some s.response, none], by simp [endPass], rfl⟩
  · exact ⟨[none], by simp [endPass], rfl⟩

omit [DecidableEq ι] in
/-- After the end of the session the reader may still put something into its buffer. -/
lemma buffer_data {t : Text} (hactive : s.active = false) :
    ∃ extra, (s.readerPass (.data t)).buffer = s.buffer ++ extra ∧
      (s.readerPass (.data t)).active = false := by
  rw [readerPass, publish]
  split_ifs
  · exact ⟨[some (s.response ++ t), none], by simp [endPass, hactive], by simp [endPass, hactive]⟩
  · exact ⟨[none], by simp [endPass, hactive], by simp [endPass, hactive]⟩

omit [DecidableEq ι] in
/-- The reader receives something that the command line may write. -/
lemma Session.data {text : Text} (h : s.Session reply) (hprompted : ∀ c, Prompted (reply c))
    (htext : text ≠ []) (hanswers : s.written ++ text <+: s.sent.flatMap reply) :
    (s.readerPass (.data text)).Session reply := by
  cases hactive : s.active with
  | false =>
    obtain ⟨extra, hbuffer, hover⟩ := buffer_data (t := text) hactive
    refine h.ending (readerPass_eq _).2.2.1 hover hbuffer fun htrue => ?_
    rw [hactive] at htrue
    cases htrue
  | true =>
    have hfinished : s.written ≠ s.sent.flatMap reply := by
      intro hw
      have hlen : (s.written ++ text).length ≤ s.written.length := hw ▸ hanswers.length_le
      rw [List.length_append] at hlen
      exact htext (List.length_eq_zero_iff.mp (by omega))
    unfold Session at h ⊢
    rw [(readerPass_eq (s := s) (.data text)).2.2.1]
    split at h
    · rename_i c i response hrun
      obtain ⟨hnil, hpending⟩ := h
      refine ⟨hnil, ?_⟩
      cases hpending with
      | unanswered before h₁ h₂ h₃ h₄ h₅ h₆ =>
        have hpart : s.response ++ text <+: reply c := by
          rw [h₃, List.flatMap_append, h₄, List.append_assoc, List.flatMap_singleton] at hanswers
          exact (List.prefix_append_right_inj _).mp hanswers
        have hwritten : s.written ++ text = before.flatMap reply ++ (s.response ++ text) := by
          rw [h₄, List.append_assoc]
        rw [readerPass, publish]
        split_ifs with hprompt
        · have hall : s.response ++ text = reply c := (hprompted c _ hpart).mp hprompt
          rw [endPass, if_pos h₁]
          refine .answered h₁ ?_ rfl ?_
          · show s.buffer ++ [some (s.response ++ text)] = [some (reply c)]
            rw [h₂, hall, List.nil_append]
          · show s.written ++ text = s.sent.flatMap reply
            rw [hwritten, hall, h₃, List.flatMap_append, List.flatMap_singleton]
        · rw [endPass, if_pos h₁]
          exact .unanswered before h₁ h₂ h₃ hwritten hpart
            fun hall => hprompt ((hprompted c _ hpart).mpr hall)
      | answered h₁ h₂ h₃ h₄ => exact absurd h₄ hfinished
      | ending h₁ r rest h₂ h₃ =>
        rw [hactive] at h₁
        cases h₁
    · trivial
    · trivial
    · exact absurd (h hactive).2.2 hfinished

/-- The reader makes a pass. -/
lemma Right.readerPass {r : Received} (h : s.Right reply) (hplaced : (s.readerPass r).Placed)
    (hsession : (s.readerPass r).Session reply) : (s.readerPass r).Right reply := by
  obtain ⟨hclients, hrequests, hdispatcher, -⟩ := readerPass_eq (s := s) r
  constructor
  · exact hplaced
  · rw [hclients, hrequests]
    exact h.requests
  · rw [hclients, hdispatcher]
    exact h.running
  · rw [hclients]
    exact h.responses
  · rw [hclients]
    exact h.waiting
  · rw [hclients]
    exact h.resting
  · exact hsession

/-- The dispatcher takes a request. -/
lemma Right.take (h : s.Right reply) (hprompted : ∀ c, Prompted (reply c)) (hplaced : s'.Placed)
    (hget : s.dispatcher = .getting) (hstep : s.take s.requests = some s') : s'.Right reply := by
  have hsession := h.session
  rw [Session, hget] at hsession
  unfold Proxy.take at hstep
  split at hstep
  · cases hstep
  · rename_i c i rest hreq
    have hmem : ∀ q ∈ rest, q ∈ s.requests := fun q hq => hreq ▸ List.mem_cons_of_mem _ hq
    have hexpects : (s.clients i).Expects reply c :=
      h.requests (c, i) (hreq ▸ List.mem_cons_self)
    split_ifs at hstep with hactive <;> cases hstep
    · obtain ⟨hbuffer, hresponse, hwritten⟩ := hsession hactive
      constructor
      · exact hplaced
      · exact fun q hq => h.requests q (hmem q hq)
      · intro d j response hrun
        cases hrun
        exact hexpects
      · exact h.responses
      · exact h.waiting
      · exact h.resting
      · refine ⟨rfl, .unanswered s.sent hactive hbuffer rfl ?_ ?_ ?_⟩
        · rw [hresponse, List.append_nil]
          exact hwritten
        · rw [hresponse]
          exact List.nil_prefix
        · rw [hresponse]
          -- an empty answer would not have the prompt at its end
          intro hnil
          have hprompt := (hprompted c [] List.nil_prefix).mpr hnil
          exact absurd hprompt (by decide)
    · refine h.respond hplaced rfl hmem rfl (fun t ht => by cases ht) ?_
      exact fun htrue => absurd htrue hactive

/-- The dispatcher takes a text from the buffer of the reader: it is the answer. -/
lemma Right.answer {c response : Text} {i : ι} (h : s.Right reply)
    (hprompted : ∀ c, Prompted (reply c)) (hplaced : s'.Placed)
    (hrun : s.dispatcher = .running c i response)
    (hstep : s.answer c i response s.buffer = some s') : s'.Right reply := by
  have hsession := h.session
  rw [Session, hrun] at hsession
  obtain ⟨rfl, hpending⟩ := hsession
  have hexpects : (s.clients i).Expects reply c := h.running c i [] hrun
  have hfull : cliPrompt <:+: reply c := by
    have hline : linePrompt <:+: reply c := (hprompted c _ (List.prefix_refl _)).mpr rfl
    exact (List.suffix_append ['\r', '\n'] cliPrompt).isInfix.trans hline
  unfold Proxy.answer at hstep
  split at hstep
  · cases hstep
  · rename_i rest hrest
    cases hstep
    refine h.respond hplaced rfl (fun q hq => hq) rfl (fun t ht => by cases ht) ?_
    exact fun htrue => by cases htrue
  · rename_i t rest hrest
    have ht : t = reply c ∧
        (s.active = true → rest = [] ∧ s.response = [] ∧ s.written = s.sent.flatMap reply) := by
      cases hpending with
      | unanswered before h₁ h₂ h₃ h₄ h₅ h₆ =>
        rw [h₂] at hrest
        cases hrest
      | answered h₁ h₂ h₃ h₄ =>
        rw [h₂] at hrest
        cases hrest
        exact ⟨rfl, fun _ => ⟨rfl, h₃, h₄⟩⟩
      | ending h₁ r rest' h₂ h₃ =>
        rw [h₂] at hrest
        cases hrest
        refine ⟨Option.some.inj (h₃.resolve_left (by simp)), fun htrue => ?_⟩
        rw [h₁] at htrue
        cases htrue
    obtain ⟨rfl, hopen⟩ := ht
    rw [List.nil_append, if_pos hfull] at hstep
    cases hstep
    refine h.respond hplaced rfl (fun q hq => hq) rfl (fun t ht => ?_) hopen
    cases ht
    exact ⟨c, hexpects, rfl⟩

/-- The dispatcher goes on without a command. -/
lemma Right.setDispatcher {pc : DispatcherPc ι} (h : s.Right reply)
    (hplaced : { s with dispatcher := pc }.Placed)
    (hpc : ∀ c i response, pc ≠ .running c i response)
    (hsession : { s with dispatcher := pc }.Session reply) :
    { s with dispatcher := pc }.Right reply where
  placed := hplaced
  requests := h.requests
  running c i response hrun := absurd hrun (hpc c i response)
  responses := h.responses
  waiting := h.waiting
  resting := h.resting
  session := hsession

/-- The thread of a client gets its response. -/
lemma Right.clientGet {i : ι} {ok : Bool} (h : s.Right reply)
    (hwait : (s.clients i).pc = .waiting)
    (hstep : s.clientGet i ok (s.clients i).responses = some s') : s'.Right reply := by
  have hplaced := h.placed i
  rw [hwait, if_pos rfl, outstanding] at hplaced
  have hprivate : PrivateFor reply (s.clients i) := h.private i
  unfold Proxy.clientGet at hstep
  split at hstep
  · cases hstep
  · rename_i t rest hresponses
    rw [hresponses, List.length_cons] at hplaced
    have hrest : rest = [] := List.length_eq_zero_iff.mp (by omega)
    obtain ⟨c, ⟨before, hissued, hreceived⟩, rfl⟩ := h.responses i t (hresponses ▸ List.mem_cons_self)
    split_ifs at hstep <;> cases hstep
    · have hall : (s.clients i).received ++ [reply c] = (s.clients i).issued.map reply := by
        rw [hissued, hreceived, List.map_append, List.map_singleton]
      exact h.setClient (by omega) (by omega) hrest (by simp)
        ⟨hall ▸ List.prefix_refl _, fun _ => hall⟩
    · exact h.setClient (by omega) (by omega) hrest (by simp)
        ⟨hprivate.received, fun hsel => by cases hsel⟩
  · rename_i rest hresponses
    rw [hresponses, List.length_cons] at hplaced
    have hrest : rest = [] := List.length_eq_zero_iff.mp (by omega)
    cases hstep
    exact h.setClient (by omega) (by omega) hrest (by simp)
      ⟨hprivate.received, fun hsel => by cases hsel⟩

/-- A client sends a command. -/
lemma Right.command {i : ι} {c : Text} (h : s.Right reply) (hsel : (s.clients i).pc = .selecting)
    (hstep : s.step (.command i c) = some s') : s'.Right reply := by
  have hplaced : s'.Placed := h.placed.step hstep
  have hi := h.placed i
  rw [hsel, if_neg (by decide), outstanding] at hi
  have hnone : ∀ r ∈ s.requests, r.2 ≠ i := fun r hr => snd_ne_of_queued (by omega) hr
  have hcomplete : (s.clients i).received = (s.clients i).issued.map reply :=
    (h.private i).complete hsel
  rw [Proxy.step] at hstep
  split_ifs at hstep
  cases hstep
  constructor
  · exact hplaced
  · intro r hr
    dsimp only
    rcases List.mem_append.mp hr with hr | hr
    · rw [clients_setClient_of_ne (hnone r hr)]
      exact h.requests r hr
    · rw [List.mem_singleton] at hr
      subst hr
      rw [clients_setClient_self]
      exact ⟨(s.clients i).issued, rfl, hcomplete⟩
  · intro d j response hrun
    have hj : j ≠ i := by
      rintro rfl
      have hd : s.dispatcher = .running d j response := hrun
      rw [hd, DispatcherPc.runs, if_pos rfl] at hi
      omega
    dsimp only
    rw [clients_setClient_of_ne hj]
    exact h.running d j response hrun
  · intro j t ht
    dsimp only at ht ⊢
    by_cases hj : j = i
    · have hnil : (s.clients i).responses = [] := List.length_eq_zero_iff.mp (by omega)
      rw [hj, clients_setClient_self, hnil] at ht
      cases ht
    · rw [clients_setClient_of_ne hj] at ht ⊢
      exact h.responses j t ht
  · intro j hj
    dsimp only at hj ⊢
    by_cases hji : j = i
    · rw [hji, clients_setClient_self]
      exact ⟨c, (s.clients i).issued, rfl, hcomplete⟩
    · rw [clients_setClient_of_ne hji] at hj ⊢
      exact h.waiting j hj
  · intro j hj
    dsimp only at hj ⊢
    by_cases hji : j = i
    · rw [hji, clients_setClient_self] at hj
      exact absurd rfl hj
    · rw [clients_setClient_of_ne hji] at hj ⊢
      exact h.resting j hj
  · exact h.session.of_eq rfl rfl rfl rfl rfl rfl

/-- The server is shut down. -/
lemma Right.shutdown (h : s.Right reply) : s.shutdown.Right reply where
  placed := h.placed
  requests := h.requests
  running := h.running
  responses := h.responses
  waiting := h.waiting
  resting := h.resting
  session := by
    cases hactive : s.active with
    | true =>
      have hbuffer : s.shutdown.buffer = s.buffer ++ [none] := by rw [Proxy.shutdown, if_pos hactive]
      exact h.session.ending rfl rfl hbuffer fun _ => ⟨[], rfl⟩
    | false =>
      refine h.session.of_eq rfl hactive.symm ?_ rfl rfl rfl
      rw [Proxy.shutdown, if_neg (by simp [hactive])]

/-- **Step lemma.**  Every client is served, as long as the command line writes only its answers. -/
lemma Right.step {e : Event ι} (h : s.Right reply) (hprompted : ∀ c, Prompted (reply c))
    (hanswers : s.Answers reply e) (hstep : s.step e = some s') : s'.Right reply := by
  have hplaced : s'.Placed := h.placed.step hstep
  cases e with
  | command i c =>
    have hsel : (s.clients i).pc = .selecting := by
      by_contra hsel
      rw [Proxy.step, if_neg fun h => hsel h.1] at hstep
      cases hstep
    exact h.command hsel hstep
  | quit i =>
    rw [Proxy.step] at hstep
    split_ifs at hstep with hsel
    cases hstep
    have hi := h.placed i
    rw [hsel, if_neg (by decide), outstanding] at hi
    have hnil : (s.clients i).responses = [] := List.length_eq_zero_iff.mp (by omega)
    exact h.setClient (by omega) (by omega) hnil (by simp)
      ⟨(h.private i).received, fun hsel => by cases hsel⟩
  | get i ok =>
    rw [Proxy.step] at hstep
    split_ifs at hstep with hwait
    exact h.clientGet hwait hstep
  | test =>
    rw [Proxy.step] at hstep
    split at hstep
    · rename_i htest
      have hsession := h.session
      rw [Session, htest] at hsession
      cases hstep
      by_cases hactive : s.active = true
      · rw [if_pos hactive] at hplaced ⊢
        exact h.setDispatcher hplaced (by simp) hsession
      · rw [if_neg hactive] at hplaced ⊢
        exact h.setDispatcher hplaced (by simp) trivial
    · cases hstep
  | empty =>
    rw [Proxy.step] at hstep
    split at hstep
    · rename_i hget
      split_ifs at hstep
      cases hstep
      have hsession := h.session
      rw [Session, hget] at hsession
      exact h.setDispatcher hplaced (by simp) hsession
    · cases hstep
  | take =>
    rw [Proxy.step] at hstep
    split at hstep
    · exact h.take hprompted hplaced ‹_› hstep
    · cases hstep
  | fail =>
    rw [Proxy.step] at hstep
    split at hstep
    · unfold Proxy.fail at hstep
      split at hstep
      · cases hstep
      · rename_i c i rest hreq
        split_ifs at hstep
        cases hstep
        have hmem : ∀ q ∈ rest, q ∈ s.requests := fun q hq => hreq ▸ List.mem_cons_of_mem _ hq
        constructor
        · exact hplaced
        · exact fun q hq => h.requests q (hmem q hq)
        · intro d j response hrun
          cases hrun
        · exact h.responses
        · exact h.waiting
        · exact h.resting
        · trivial
    · cases hstep
  | answer =>
    rw [Proxy.step] at hstep
    split at hstep
    · exact h.answer hprompted hplaced ‹_› hstep
    · cases hstep
  | recv r =>
    rw [Proxy.step] at hstep
    split_ifs at hstep with hr
    cases hstep
    refine h.readerPass hplaced ?_
    cases r with
    | data text =>
      exact h.session.data hprompted (fun ht => hr.2 (by rw [ht])) hanswers
    | closed =>
      obtain ⟨rest, hbuffer, hover⟩ := buffer_closed s
      exact h.session.ending (readerPass_eq _).2.2.1 hover hbuffer fun _ => ⟨rest, rfl⟩
    | failed => exact h.session.of_eq rfl rfl rfl rfl rfl rfl
  | shutdown =>
    cases hstep
    exact h.shutdown

/-- The invariant holds in the beginning. -/
lemma right_start : (start : Proxy ι).Right reply where
  placed _ := rfl
  requests _ hr := by cases hr
  running _ _ _ hrun := by cases hrun
  responses _ _ ht := by cases ht
  waiting _ hpc := by cases hpc
  resting _ _ := ⟨List.prefix_refl _, fun _ => rfl⟩
  session _ := ⟨rfl, rfl, rfl⟩

/-- **A session for each client.**  Let the command line write nothing but its answers to the commands it is
sent, each with the prompt at its end and nowhere before, in pieces of any size.  Then in every order of the
steps of the threads every client is sent the answers to its own commands, in their order and once each, and
whenever it may send the next command it has the answers to all. -/
theorem private_of_along (reply : Text → Text) (hprompted : ∀ c, Prompted (reply c))
    {es : List (Event ι)} (hanswers : Along step (Answers reply) start es) :
    Throughout step (Private reply) (start : Proxy ι) es :=
  throughout_of_along (I := Right reply)
    (fun _ _ _ h hanswers hstep => h.step hprompted hanswers hstep) (fun _ h => h.private) right_start
    hanswers

/-- The command line answers everything with `OK`. -/
def ok : Text := ['O', 'K'] ++ linePrompt

/-- Two clients whose commands cross. -/
def crossing : List (Event Bool) :=
  [.command true ['a'], .test, .command false ['b'], .take, .recv (.data ['O']),
    .recv (.data (['K'] ++ linePrompt)), .answer, .test, .take, .get true true,
    .recv (.data ok), .answer, .get false true]

lemma prompted_ok : Prompted ok := by
  have hall : ∀ t ∈ ok.inits, (linePrompt <:+: t ↔ t = ok) := by decide
  exact fun t ht => hall t ((List.mem_inits _ _).mpr ht)

/-- Both have their answers. -/
theorem crossing_private : Throughout step (Private fun _ => ok) (start : Proxy Bool) crossing :=
  private_of_along (fun _ => ok) (fun _ => prompted_ok) (by decide)

/-! ## Who is left behind -/

omit [DecidableEq ι] in
/-- The thread of the dispatcher is not there any more. -/
def IsOver (s : Proxy ι) : Prop := s.dispatcher = .ended ∨ ∃ i, s.dispatcher = .died i

/-- Then none of its steps can happen. -/
lemma IsOver.step_eq_none (h : s.IsOver) : s.step .test = none ∧ s.step .empty = none ∧
    s.step .take = none ∧ s.step .fail = none ∧ s.step .answer = none := by
  rcases h with hover | ⟨j, hover⟩ <;> simp only [Proxy.step, hover, and_self]

/-- The dispatcher is not there any more, and a client waits that nobody will respond to. -/
structure Abandoned (s : Proxy ι) (i : ι) : Prop where
  /-- The dispatcher. -/
  isOver : s.IsOver
  /-- The client waits. -/
  waiting : (s.clients i).pc = .waiting
  /-- There is no response. -/
  responses : (s.clients i).responses = []

/-- **Step lemma.**  It will wait for ever. -/
lemma Abandoned.step {e : Event ι} {i : ι} (h : s.Abandoned i) (hstep : s.step e = some s') :
    s'.Abandoned i := by
  have hother : ∀ j c, j ≠ i → (s.setClient j c).Abandoned i := by
    intro j c hj
    refine ⟨h.isOver, ?_, ?_⟩
    · rw [clients_setClient_of_ne (Ne.symm hj)]
      exact h.waiting
    · rw [clients_setClient_of_ne (Ne.symm hj)]
      exact h.responses
  have hselecting : ∀ j, (s.clients j).pc = .selecting → j ≠ i := by
    rintro j hj rfl
    rw [h.waiting] at hj
    cases hj
  cases e with
  | command j c =>
    rw [Proxy.step] at hstep
    split_ifs at hstep with hsel
    cases hstep
    have hset := hother j { s.clients j with
      pc := .waiting, issued := (s.clients j).issued ++ [c] } (hselecting j hsel.1)
    exact ⟨hset.isOver, hset.waiting, hset.responses⟩
  | quit j =>
    rw [Proxy.step] at hstep
    split_ifs at hstep with hsel
    cases hstep
    exact hother j _ (hselecting j hsel)
  | get j ok =>
    rw [Proxy.step] at hstep
    split_ifs at hstep
    have hj : (s.clients j).responses ≠ [] → j ≠ i := by
      rintro hne rfl
      exact hne h.responses
    unfold Proxy.clientGet at hstep
    split at hstep
    · cases hstep
    · rename_i hresponses
      split_ifs at hstep <;> cases hstep <;> exact hother j _ (hj (by simp [hresponses]))
    · rename_i hresponses
      cases hstep
      exact hother j _ (hj (by simp [hresponses]))
  | recv r =>
    rw [Proxy.step] at hstep
    split_ifs at hstep
    cases hstep
    obtain ⟨hclients, -, hdispatcher, -⟩ := readerPass_eq (s := s) r
    refine ⟨?_, by rw [hclients]; exact h.waiting, by rw [hclients]; exact h.responses⟩
    rw [IsOver, hdispatcher]
    exact h.isOver
  | shutdown =>
    cases hstep
    exact ⟨h.isOver, h.waiting, h.responses⟩
  | test =>
    rw [h.isOver.step_eq_none.1] at hstep
    cases hstep
  | empty =>
    rw [h.isOver.step_eq_none.2.1] at hstep
    cases hstep
  | take =>
    rw [h.isOver.step_eq_none.2.2.1] at hstep
    cases hstep
  | fail =>
    rw [h.isOver.step_eq_none.2.2.2.1] at hstep
    cases hstep
  | answer =>
    rw [h.isOver.step_eq_none.2.2.2.2] at hstep
    cases hstep

/-- No command is lost before the dispatcher ends. -/
lemma placed_of_exec {es : List (Event ι)} (h : exec step start es = some s) : s.Placed :=
  exec_of_step (I := Placed) (fun _ _ _ h hstep => h.step hstep) (fun _ => rfl) h

/-- A request of a client that is in the queue. -/
lemma queued_pos_iff {requests : List (Text × ι)} {i : ι} :
    0 < queued requests i ↔ ∃ c, (c, i) ∈ requests := by
  rw [queued, List.countP_pos_iff]
  constructor
  · rintro ⟨⟨c, j⟩, hmem, hj⟩
    rw [← of_decide_eq_true hj]
    exact ⟨c, hmem⟩
  · rintro ⟨c, hmem⟩
    exact ⟨(c, i), hmem, decide_eq_true rfl⟩

/-- Without the dispatcher a command is not running, but it may have been lost. -/
lemma IsOver.runs_pos_iff (h : s.IsOver) {i : ι} : 0 < s.dispatcher.runs i ↔ s.dispatcher = .died i := by
  rcases h with hover | ⟨j, hover⟩
  · rw [hover]
    exact iff_of_false (lt_irrefl 0) fun hdied => by cases hdied
  · rw [hover, DispatcherPc.runs, DispatcherPc.died.injEq]
    split_ifs with hj
    · exact iff_of_true Nat.one_pos hj
    · exact iff_of_false (lt_irrefl 0) hj

/-- **Who is left behind.**  When the dispatcher is not there any more, a client that waits for a response
waits for ever, whatever happens, exactly when its command is still in the queue or was the one that could not
be sent: `get` in its thread has no timeout, and nobody empties the queue. -/
theorem abandoned_iff {es : List (Event ι)} (hexec : exec step start es = some s) (hover : s.IsOver) {i : ι}
    (hwait : (s.clients i).pc = .waiting) :
    (∀ es' s', exec step s es' = some s' → (s'.clients i).pc = .waiting) ↔
      (∃ c, (c, i) ∈ s.requests) ∨ s.dispatcher = .died i := by
  have hplaced := placed_of_exec hexec i
  rw [hwait, if_pos rfl, outstanding] at hplaced
  rw [← queued_pos_iff, ← hover.runs_pos_iff]
  constructor
  · intro hall
    by_contra hnot
    obtain ⟨r, rest, hresponses⟩ : ∃ r rest, (s.clients i).responses = r :: rest :=
      List.exists_cons_of_length_pos (by omega)
    have hget : ∃ s', s.step (.get i false) = some s' ∧ (s'.clients i).pc = .ended := by
      rw [step, if_pos hwait, hresponses]
      cases r with
      | none => exact ⟨_, rfl, by rw [clients_setClient_self]⟩
      | some t => exact ⟨_, rfl, by rw [clients_setClient_self]⟩
    obtain ⟨s', hstep, hpc⟩ := hget
    have hstill := hall [.get i false] s' (exec_cons_eq_some.mpr ⟨s', hstep, rfl⟩)
    rw [hpc] at hstill
    cases hstill
  · intro hqueued es' s' hexec'
    have hnil : (s.clients i).responses = [] := List.length_eq_zero_iff.mp (by omega)
    have hlast : s'.Abandoned i :=
      exec_of_step (I := fun s => s.Abandoned i) (fun _ _ _ h hstep => h.step hstep)
        ⟨hover, hwait, hnil⟩ hexec'
    exact hlast.waiting

/-- The command line closes the connection while two commands are on their way. -/
def closing : List (Event Bool) :=
  [.command true ['a'], .test, .command false ['b'], .take, .recv .closed, .answer, .test]

/-- The second client is left behind. -/
theorem closing_abandoned : ∃ s, exec step (start : Proxy Bool) closing = some s ∧
    ∀ es' s', exec step s es' = some s' → (s'.clients false).pc = .waiting :=
  ⟨_, rfl, (abandoned_iff (i := false) (show exec step start closing = _ from rfl) (Or.inl rfl) rfl).mpr
    (Or.inl ⟨['b'], List.mem_singleton_self _⟩)⟩

end Proxy

end TtcnProxy

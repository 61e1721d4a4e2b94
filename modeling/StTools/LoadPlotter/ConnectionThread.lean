import Mathlib.Data.Int.Notation
import Mathlib.Data.Nat.Notation
import Mathlib.Tactic.Common

/-!
# The thread of a load plotter connection

`_ConnectionThread_CBA`, with `resetConnectionAndExit_CBA` that ends it.  The status of the connection is
shared: the thread reads and writes it mostly without the mutex, one statement at a time, so every
access is a step of its own.

Files, remote commands and external programs are there as far as the thread decides by them.
-/

namespace LoadPlotter

/-- `ConnectionStatus`. -/
inductive ConnectionStatus
  | notUsed
  | offline
  | starting
  | toBeConnected
  | online
  | toBeClosed
  | faulty
  deriving Repr, DecidableEq

/-- The values in the order of the enumeration. -/
def ConnectionStatus.toNat : ConnectionStatus → ℕ
  | notUsed => 0
  | offline => 1
  | starting => 2
  | toBeConnected => 3
  | online => 4
  | toBeClosed => 5
  | faulty => 6

/-- `ToolStatus`. -/
inductive ToolStatus
  | starting
  | toBeConfigured
  | ready
  | toBeReset
  | haveToExit
  deriving Repr, DecidableEq

/-- What the threads use of a `Connection`. -/
structure Connection where
  /-- The name. -/
  name : List Char
  /-- The processors to measure. -/
  procFilter : List (List Char)
  /-- The socket. -/
  sock : ℤ
  /-- The status. -/
  status : ConnectionStatus
  deriving Repr, DecidableEq

/-- Where a thread is. -/
inductive Pc
  /-- It was created, and has not begun. -/
  | created
  /-- It looks for processors. -/
  | getPL
  /-- It has them. -/
  | gotPL
  /-- At the top of the loop. -/
  | loop
  /-- At the switch, with the status that it has seen. -/
  | switch (seen : ConnectionStatus)
  /-- It is connected, and is going to say so. -/
  | setOnline
  /-- The connection is lost. -/
  | setToBeConnected
  /-- Something failed. -/
  | setFaulty
  /-- The status is none that it knows. -/
  | setToBeReset
  /-- In `resetConnectionAndExit_CBA`, before the first test of the status. -/
  | reset
  /-- Before the second test. -/
  | checkFaulty
  /-- After that, when the connection is `FAULTY`. -/
  | leaveFaulty
  /-- Before the third test. -/
  | checkOnline
  /-- After that. -/
  | setOffline
  /-- While the plots are made. -/
  | setNotUsed
  deriving Repr, DecidableEq

/-- A thread with its local variables. -/
structure Thread where
  /-- Where it is. -/
  pc : Pc
  /-- `ptrShCnct` is not null. -/
  ssh : Bool
  /-- `connected_at_least_once`. -/
  connectedAtLeastOnce : Bool
  deriving Repr, DecidableEq

/-- A new thread. -/
def Thread.new : Thread := ⟨.created, false, false⟩

/-- How a connection is set up. -/
inductive ConnectResult
  /-- There is no connection. -/
  | refused
  /-- The file of the plot loop cannot be opened, or a command cannot be sent. -/
  | failed
  /-- Another file or the plotting program fails, at the first time. -/
  | faulty
  /-- The commands are sent. -/
  | ok
  deriving Repr, DecidableEq

/-- What a step of a thread gets from outside. -/
inductive Input
  /-- Nothing. -/
  | none
  /-- What `CBA_get_PL` has listed, if it could be executed. -/
  | processors (found : Option (List (List Char)))
  /-- How the connection is set up, and its socket. -/
  | connected (result : ConnectResult) (sock : ℤ)
  /-- What `recvLine` says: whether the connection is lost. -/
  | received (lost : Bool)
  deriving Repr, DecidableEq

/-- What a step of a thread leads to: the thread is no more when it has ended. -/
structure Outcome where
  /-- The connection. -/
  con : Connection
  /-- `dataTool.status`. -/
  tool : ToolStatus
  /-- The thread. -/
  thread : Option Thread
  deriving Repr, DecidableEq

/-- A step of a thread.  There is none where the program does not go on, as when `ptrShCnct` is null. -/
def Thread.step (tool : ToolStatus) (c : Connection) (t : Thread) : Input → Option Outcome
  | .none =>
    match t.pc with
    | .created => some ⟨{ c with status := .starting }, tool, some { t with pc := .getPL }⟩
    | .gotPL => some ⟨{ c with status := .toBeConnected }, tool, some { t with pc := .loop }⟩
    | .loop =>
      some ⟨c, tool,
        some { t with pc := if tool = .haveToExit then .reset else .switch c.status }⟩
    | .switch .toBeClosed => some ⟨c, tool, some { t with pc := .reset }⟩
    | .switch .faulty => some ⟨c, tool, some { t with pc := .reset }⟩
    | .switch .notUsed => some ⟨c, tool, some { t with pc := .setToBeReset }⟩
    | .switch .offline => some ⟨c, tool, some { t with pc := .setToBeReset }⟩
    | .switch .starting => some ⟨c, tool, some { t with pc := .setToBeReset }⟩
    | .setOnline =>
      some ⟨{ c with status := .online }, tool,
        some { t with pc := .loop, connectedAtLeastOnce := true }⟩
    | .setToBeConnected =>
      some ⟨{ c with status := .toBeConnected }, tool, some { t with pc := .loop }⟩
    | .setFaulty => some ⟨{ c with status := .faulty }, tool, some { t with pc := .reset }⟩
    | .setToBeReset => some ⟨c, .toBeReset, some { t with pc := .loop }⟩
    | .reset =>
      if c.status.toNat < ConnectionStatus.toBeConnected.toNat then
        -- With a signal, after which the tool has to exit.
        some ⟨c, tool, none⟩
      else
        some ⟨c, tool, some { t with pc := .checkFaulty }⟩
    | .checkFaulty =>
      if c.status = .faulty then
        if t.ssh then some ⟨c, tool, some { t with pc := .leaveFaulty }⟩ else none
      else
        some ⟨c, tool, some { t with pc := .checkOnline }⟩
    | .leaveFaulty => some ⟨c, tool, none⟩
    | .checkOnline =>
      if ConnectionStatus.online.toNat ≤ c.status.toNat ∧ t.ssh = false then none
      else some ⟨c, tool, some { t with pc := .setOffline }⟩
    | .setOffline =>
      some ⟨{ c with status := .offline, sock := -1 }, tool, some { t with pc := .setNotUsed }⟩
    | .setNotUsed => some ⟨{ c with status := .notUsed }, tool, none⟩
    | _ => none
  | .processors found =>
    if t.pc = .getPL then
      if c.procFilter = [] then
        if (found.getD []) = [] then some ⟨c, tool, some { t with pc := .reset }⟩
        else some ⟨{ c with procFilter := found.getD [] }, tool, some { t with pc := .gotPL }⟩
      else some ⟨c, tool, some { t with pc := .gotPL }⟩
    else none
  | .connected result sock =>
    if t.pc = .switch .toBeConnected then
      match result with
      | .refused =>
        some ⟨c, tool,
          some { t with pc := if t.connectedAtLeastOnce then .loop else .reset, ssh := true }⟩
      | .failed => some ⟨{ c with sock := sock }, tool, some { t with pc := .reset, ssh := true }⟩
      | .faulty =>
        if t.connectedAtLeastOnce then none
        else some ⟨{ c with sock := sock }, tool, some { t with pc := .setFaulty, ssh := true }⟩
      | .ok => some ⟨{ c with sock := sock }, tool, some { t with pc := .setOnline, ssh := true }⟩
    else none
  | .received lost =>
    if t.pc = .switch .online then
      if c.sock = -1 then some ⟨c, tool, some { t with pc := .reset }⟩
      else some ⟨c, tool, some { t with pc := if lost then .setToBeConnected else .loop }⟩
    else none

/-! ## Places and statuses -/

/-- A step as far as the place and the status go: `Moves pc status pc' status'`, where `pc'` is `none`
when the thread ends. -/
inductive Moves : Pc → ConnectionStatus → Option Pc → ConnectionStatus → Prop
  | start (s) : Moves .created s (some .getPL) .starting
  | noProcessors (s) : Moves .getPL s (some .reset) s
  | processors (s) : Moves .getPL s (some .gotPL) s
  | started (s) : Moves .gotPL s (some .loop) .toBeConnected
  | exit (s) : Moves .loop s (some .reset) s
  | look (s) : Moves .loop s (some (.switch s)) s
  | refused (s) : Moves (.switch .toBeConnected) s (some .loop) s
  | failed (s) : Moves (.switch .toBeConnected) s (some .reset) s
  | faulty (s) : Moves (.switch .toBeConnected) s (some .setFaulty) s
  | connected (s) : Moves (.switch .toBeConnected) s (some .setOnline) s
  | received (s) : Moves (.switch .online) s (some .loop) s
  | badSocket (s) : Moves (.switch .online) s (some .reset) s
  | lost (s) : Moves (.switch .online) s (some .setToBeConnected) s
  | close (s) : Moves (.switch .toBeClosed) s (some .reset) s
  | closeFaulty (s) : Moves (.switch .faulty) s (some .reset) s
  | wrong {seen} (s) (h : seen = .notUsed ∨ seen = .offline ∨ seen = .starting) :
    Moves (.switch seen) s (some .setToBeReset) s
  | setOnline (s) : Moves .setOnline s (some .loop) .online
  | setToBeConnected (s) : Moves .setToBeConnected s (some .loop) .toBeConnected
  | setFaulty (s) : Moves .setFaulty s (some .reset) .faulty
  | setToBeReset (s) : Moves .setToBeReset s (some .loop) s
  | early {s} (h : s.toNat < ConnectionStatus.toBeConnected.toNat) : Moves .reset s none s
  | late {s} (h : ConnectionStatus.toBeConnected.toNat ≤ s.toNat) :
    Moves .reset s (some .checkFaulty) s
  | isFaulty : Moves .checkFaulty .faulty (some .leaveFaulty) .faulty
  | isNotFaulty {s} (h : s ≠ .faulty) : Moves .checkFaulty s (some .checkOnline) s
  | leaveFaulty (s) : Moves .leaveFaulty s none s
  | closed (s) : Moves .checkOnline s (some .setOffline) s
  | setOffline (s) : Moves .setOffline s (some .setNotUsed) .offline
  | setNotUsed (s) : Moves .setNotUsed s none .notUsed

/-- The steps of a thread are such moves. -/
lemma Thread.moves_of_step {tool : ToolStatus} {c : Connection} {t : Thread} {i : Input} {o : Outcome}
    (hstep : t.step tool c i = some o) :
    Moves t.pc c.status (o.thread.map Thread.pc) o.con.status := by
  obtain ⟨pc, ssh, once⟩ := t
  cases i with
  | none =>
    cases pc with
    | created =>
      obtain rfl := Option.some.inj hstep
      exact .start _
    | gotPL =>
      obtain rfl := Option.some.inj hstep
      exact .started _
    | loop =>
      obtain rfl := Option.some.inj hstep
      by_cases hexit : tool = .haveToExit
      · simpa [hexit] using Moves.exit c.status
      · simpa [hexit] using Moves.look c.status
    | switch seen =>
      cases seen with
      | notUsed =>
        obtain rfl := Option.some.inj hstep
        exact .wrong _ (.inl rfl)
      | offline =>
        obtain rfl := Option.some.inj hstep
        exact .wrong _ (.inr (.inl rfl))
      | starting =>
        obtain rfl := Option.some.inj hstep
        exact .wrong _ (.inr (.inr rfl))
      | toBeClosed =>
        obtain rfl := Option.some.inj hstep
        exact .close _
      | faulty =>
        obtain rfl := Option.some.inj hstep
        exact .closeFaulty _
      | toBeConnected | online => cases hstep
    | setOnline =>
      obtain rfl := Option.some.inj hstep
      exact .setOnline _
    | setToBeConnected =>
      obtain rfl := Option.some.inj hstep
      exact .setToBeConnected _
    | setFaulty =>
      obtain rfl := Option.some.inj hstep
      exact .setFaulty _
    | setToBeReset =>
      obtain rfl := Option.some.inj hstep
      exact .setToBeReset _
    | reset =>
      simp only [step] at hstep
      split at hstep <;> obtain rfl := Option.some.inj hstep
      · exact .early ‹_›
      · exact .late (Nat.not_lt.mp ‹_›)
    | checkFaulty =>
      simp only [step] at hstep
      split at hstep
      · rename_i hfaulty
        obtain ⟨-, heq⟩ := Option.ite_none_right_eq_some.mp hstep
        obtain rfl := Option.some.inj heq
        simpa [hfaulty] using Moves.isFaulty
      · obtain rfl := Option.some.inj hstep
        exact .isNotFaulty ‹_›
    | leaveFaulty =>
      obtain rfl := Option.some.inj hstep
      exact .leaveFaulty _
    | checkOnline =>
      obtain ⟨-, heq⟩ := Option.ite_none_left_eq_some.mp hstep
      obtain rfl := Option.some.inj heq
      exact .closed _
    | setOffline =>
      obtain rfl := Option.some.inj hstep
      exact .setOffline _
    | setNotUsed =>
      obtain rfl := Option.some.inj hstep
      exact .setNotUsed _
    | getPL => cases hstep
  | processors found =>
    obtain ⟨hpc, heq⟩ := Option.ite_none_right_eq_some.mp hstep
    obtain rfl : pc = .getPL := hpc
    split_ifs at heq <;> obtain rfl := Option.some.inj heq
    · exact .noProcessors _
    · exact .processors _
    · exact .processors _
  | connected result sock =>
    obtain ⟨hpc, heq⟩ := Option.ite_none_right_eq_some.mp hstep
    obtain rfl : pc = .switch .toBeConnected := hpc
    cases result with
    | refused =>
      obtain rfl := Option.some.inj heq
      cases once
      · exact .failed _
      · exact .refused _
    | failed =>
      obtain rfl := Option.some.inj heq
      exact .failed _
    | faulty =>
      obtain ⟨-, heq⟩ := Option.ite_none_left_eq_some.mp heq
      obtain rfl := Option.some.inj heq
      exact .faulty _
    | ok =>
      obtain rfl := Option.some.inj heq
      exact .connected _
  | received lost =>
    obtain ⟨hpc, heq⟩ := Option.ite_none_right_eq_some.mp hstep
    obtain rfl : pc = .switch .online := hpc
    split at heq <;> obtain rfl := Option.some.inj heq
    · exact .badSocket _
    · cases lost
      · exact .received _
      · exact .lost _

/-- Threads do not change the name. -/
lemma Thread.name_of_step {tool : ToolStatus} {c : Connection} {t : Thread} {i : Input} {o : Outcome}
    (hstep : t.step tool c i = some o) : o.con.name = c.name := by
  unfold step at hstep
  grind

/-- The thread is in `resetConnectionAndExit_CBA`. -/
def Pc.Closing : Pc → Prop
  | .reset => True
  | .checkFaulty => True
  | .leaveFaulty => True
  | .checkOnline => True
  | .setOffline => True
  | .setNotUsed => True
  | _ => False

open ConnectionStatus in
/-- The values that the status has where the thread is, when it is alone. -/
def Pc.statuses : Pc → List ConnectionStatus
  | .created => [offline, toBeClosed]
  | .getPL => [starting, toBeClosed]
  | .gotPL => [starting, toBeClosed]
  | .switch .notUsed => []
  | .switch .offline => []
  | .switch .starting => []
  | .switch .faulty => []
  | .setToBeReset => []
  | .reset => [starting, toBeConnected, online, toBeClosed, faulty]
  | .checkFaulty => [toBeConnected, online, toBeClosed, faulty]
  | .leaveFaulty => [toBeClosed, faulty]
  | .setNotUsed => [offline, toBeClosed]
  | _ => [toBeConnected, online, toBeClosed]

/-- The next step is in order: it does not write over `TO_BE_CLOSED`, and the thread does not end
with a status other than `NOT_USED` and `FAULTY`. -/
def Pc.Orderly (status : ConnectionStatus) : Pc → Prop
  | .created => status ≠ .toBeClosed
  | .gotPL => status ≠ .toBeClosed
  | .setOnline => status ≠ .toBeClosed
  | .setToBeConnected => status ≠ .toBeClosed
  | .reset => ConnectionStatus.toBeConnected.toNat ≤ status.toNat
  | .leaveFaulty => status = .faulty
  | _ => True

/-- A connection may be marked to be closed wherever its thread is. -/
lemma Pc.toBeClosed_mem_statuses {pc : Pc} {status : ConnectionStatus} (h : status ∈ pc.statuses) :
    .toBeClosed ∈ pc.statuses := by
  cases pc
  case switch seen => cases seen <;> simp_all [Pc.statuses]
  all_goals simp_all [Pc.statuses]

/-- Where the thread of a connection is that is `OFFLINE`. -/
lemma Pc.offline_mem_statuses {pc : Pc} (h : .offline ∈ pc.statuses) :
    pc = .created ∨ pc = .setNotUsed := by
  cases pc
  case switch seen => cases seen <;> simp [Pc.statuses] at h
  all_goals simp [Pc.statuses] at h ⊢

/-- No thread is there when a connection is `NOT_USED`. -/
lemma Pc.notUsed_notMem_statuses (pc : Pc) : .notUsed ∉ pc.statuses := by
  cases pc
  case switch seen => cases seen <;> simp [Pc.statuses]
  all_goals simp [Pc.statuses]

namespace Moves

variable {pc pc' : Pc} {s s' : ConnectionStatus}

/-- The status stays one of those of the place. -/
lemma mem_statuses (h : Moves pc s (some pc') s') (hs : s ∈ pc.statuses) : s' ∈ pc'.statuses := by
  cases h with
  | look => cases s <;> simp_all [Pc.statuses]
  | late h => cases s <;> simp_all [Pc.statuses, ConnectionStatus.toNat]
  | isNotFaulty h => cases s <;> simp_all [Pc.statuses]
  | wrong _ hseen => obtain rfl | rfl | rfl := hseen <;> cases hs
  | noProcessors => exact (by decide : Pc.getPL.statuses ⊆ Pc.reset.statuses) hs
  | exit | failed | badSocket | close => exact (by decide : Pc.loop.statuses ⊆ Pc.reset.statuses) hs
  | _ => simp_all [Pc.statuses]

/-- A thread that ends in order leaves `NOT_USED` or `FAULTY`. -/
lemma ended (h : Moves pc s none s') (hs : pc.Orderly s) : s' = .notUsed ∨ s' = .faulty := by
  cases h with
  | early h => exact absurd h (Nat.not_lt.mpr hs)
  | leaveFaulty => exact .inr hs
  | setNotUsed => exact .inl rfl

/-- A connection that is closed stays so, as long as its thread is there. -/
lemma closed_of_orderly (h : Moves pc s (some pc') s') (hs : pc.Orderly s)
    (hclosed : s = .toBeClosed ∨ pc.Closing) : s' = .toBeClosed ∨ pc'.Closing := by
  cases h <;> simp_all [Pc.Orderly, Pc.Closing]

/-- A thread does not mark its connection. -/
lemma toBeClosed_of_toBeClosed {r : Option Pc} (h : Moves pc s r .toBeClosed) : s = .toBeClosed := by
  cases h <;> rfl

/-- What a step that is not in order does. -/
lemma not_orderly {r : Option Pc} (h : Moves pc s r s') (hs : s ∈ pc.statuses)
    (hnot : ¬ pc.Orderly s) :
    (r = none ∧ ¬ (s' = .notUsed ∨ s' = .faulty)) ∨
      (s = .toBeClosed ∧ s' ≠ .toBeClosed ∧ ∃ pc', r = some pc' ∧ ¬ pc'.Closing) := by
  cases h with
  | early h => cases s <;> simp_all [Pc.statuses, ConnectionStatus.toNat]
  | late h => exact absurd h hnot
  | leaveFaulty => simp_all [Pc.statuses, Pc.Orderly]
  | start | started | setOnline | setToBeConnected => simp_all [Pc.Orderly, Pc.Closing]
  | _ => exact absurd trivial hnot

end Moves

end LoadPlotter

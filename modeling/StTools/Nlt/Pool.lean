import StTools.Lib.LabelledSystem
import StTools.Lib.Ownership
import Mathlib.Data.List.FinRange

/-!
# The connection records of the network layer translator

The listeners share `v_connections`.  A listener with an incoming client takes the first record that is not
`used`, enters the accepted connection and the address of its back end, and creates a connection thread; the
thread connects to the address that it finds in the record.  `initializeConnection` gives a record back: it
clears `used` first and the other fields after it, without the mutex.

The mark alone protects the records (`exclusive_throughout`).  Their contents are another matter: a thread
that has cleared `used` goes on and erases the address and `be_connection`, and by then the record may be
in use again.  `served_iff` says that nothing else can take a connection to a wrong back end or take its
connection away.  `attended_iff` is about `connectionResetAndExit` in a listener: it is called when a client
could not be accepted, and the thread that it ends is the listener.
-/

namespace Nlt

open LabelledSystem

/-- An element of `v_connections`. -/
structure Record (β : Type*) where
  /-- `used`. -/
  used : Bool
  /-- The settings of the back end, `be_ip` and so on; `none` after `initializeConnection`. -/
  backEnd : Option β
  /-- `be_connection` is not `NULL`. -/
  beConnection : Bool
  deriving DecidableEq

/-- Where a connection thread is. -/
inductive ThreadPc (β : Type*)
  /-- It was created. -/
  | created
  /-- It has made `be_connection`. -/
  | opened
  /-- It is connected to a back end, and relays. -/
  | relaying (backEnd : β)
  /-- In `connectionResetAndExit`, before `used = false`. -/
  | releasing
  /-- In `initializeConnection`, after `used = false`. -/
  | clearing
  /-- It has exited. -/
  | exited
  deriving DecidableEq

/-- A connection thread. -/
structure ConThread (β : Type*) (n : ℕ) where
  /-- Its record. -/
  con : Fin n
  /-- The back end of the listener that created it. -/
  backEnd : β
  /-- Where it is. -/
  pc : ThreadPc β
  deriving DecidableEq

/-- Where a listener is in its loop. -/
inductive ListenerPc (n : ℕ)
  /-- At the top. -/
  | waiting
  /-- `get_free_connection` has returned a record. -/
  | taken (i : Fin n)
  /-- The client is accepted. -/
  | accepted (i : Fin n)
  /-- The settings of the back end are in the record. -/
  | filled (i : Fin n)
  /-- The client was not accepted: in `connectionResetAndExit`, before `used = false`. -/
  | releasing (i : Fin n)
  /-- And after it. -/
  | clearing (i : Fin n)
  /-- The thread has exited. -/
  | gone
  deriving DecidableEq

/-- The program with `n` records and `m` listeners. -/
structure Pool (β : Type*) (n m : ℕ) where
  /-- `v_connections`. -/
  records : Fin n → Record β
  /-- The listeners. -/
  listeners : Fin m → ListenerPc n
  /-- The connection threads, in the order of their creation. -/
  threads : List (ConThread β n)
  /-- `toolData.status` is `HAVE_TO_EXIT`. -/
  exiting : Bool
  /-- A thread has sent `SIGUSR1`, which stops the tool. -/
  failed : Bool

/-- What `accept_client` gives. -/
inductive Accepted
  /-- A connection. -/
  | client
  /-- A connection with a socket above 1023. -/
  | tooHigh
  /-- `NULL`. -/
  | null
  deriving DecidableEq

/-- The next step of a listener. -/
inductive ListenerEvent
  /-- It finds that the tool has to exit. -/
  | leave
  /-- A client comes in, and it looks for a record. -/
  | poll
  /-- `accept_client`. -/
  | accept (result : Accepted)
  /-- It fills in the record. -/
  | fill
  /-- `pthread_create`, and whether it succeeds. -/
  | create (ok : Bool)
  /-- `used = false`. -/
  | release
  /-- The rest of `initializeConnection`. -/
  | clear

/-- The next step of a connection thread. -/
inductive ThreadEvent
  /-- It makes `be_connection`, and whether it can be prepared. -/
  | openSocket (ok : Bool)
  /-- `client_connect`, and whether it succeeds. -/
  | connect (ok : Bool)
  /-- The loop ends. -/
  | finish
  /-- `used = false`. -/
  | release
  /-- The rest of `initializeConnection`. -/
  | clear

/-- What can happen. -/
inductive PoolEvent (m : ℕ)
  /-- The signal thread stops the tool. -/
  | exit
  /-- A step of a listener. -/
  | listener (l : Fin m) (e : ListenerEvent)
  /-- A step of a connection thread. -/
  | thread (k : ℕ) (e : ThreadEvent)

namespace Pool

variable {β : Type*} {n m : ℕ}

/-- The program with another value for a record. -/
def setRecord (s : Pool β n m) (i : Fin n) (r : Record β) : Pool β n m :=
  { s with records := Function.update s.records i r }

/-- The program with a listener at another place. -/
def setListener (s : Pool β n m) (l : Fin m) (pc : ListenerPc n) : Pool β n m :=
  { s with listeners := Function.update s.listeners l pc }

/-- The program with a connection thread at another place. -/
def setThread (s : Pool β n m) (k : ℕ) (t : ConThread β n) (pc : ThreadPc β) : Pool β n m :=
  { s with threads := s.threads.set k { t with pc := pc } }

/-- The program with a new connection thread. -/
def createThread (s : Pool β n m) (t : ConThread β n) : Pool β n m :=
  { s with threads := s.threads ++ [t] }

/-- `pthread_kill (SignalThreadID, SIGUSR1)`. -/
def fail (s : Pool β n m) : Pool β n m := { s with failed := true }

/-- The record that `get_free_connection` finds. -/
def freeConnection (s : Pool β n m) : Option (Fin n) :=
  (List.finRange n).find? fun i => !(s.records i).used

/-- A step of a listener.  A step that is not the next one cannot happen. -/
def listenerStep (backEnd : Fin m → β) (s : Pool β n m) (l : Fin m) :
    ListenerPc n → ListenerEvent → Option (Pool β n m)
  | .waiting, .leave => if s.exiting then some (s.setListener l .gone) else none
  | .waiting, .poll =>
    match s.freeConnection with
    | none => some (s.fail.setListener l .gone)
    | some i => some ((s.setRecord i { s.records i with used := true }).setListener l (.taken i))
  | .taken i, .accept .client => some (s.setListener l (.accepted i))
  | .taken _, .accept .tooHigh => some (s.fail.setListener l .gone)
  | .taken i, .accept .null => some (s.setListener l (.releasing i))
  | .accepted i, .fill =>
    some ((s.setRecord i { s.records i with backEnd := some (backEnd l) }).setListener l (.filled i))
  | .filled i, .create true =>
    some ((s.createThread { con := i, backEnd := backEnd l, pc := .created }).setListener l .waiting)
  | .filled _, .create false => some (s.fail.setListener l .gone)
  | .releasing i, .release =>
    some ((s.setRecord i { s.records i with used := false }).setListener l (.clearing i))
  | .clearing i, .clear =>
    some ((s.setRecord i { s.records i with backEnd := none, beConnection := false }).setListener l
      .gone)
  | _, _ => none

/-- A step of a connection thread.  The address of the back end is read from the record; without an address
there is no network interface to it. -/
def threadStep (s : Pool β n m) (k : ℕ) (t : ConThread β n) :
    ThreadPc β → ThreadEvent → Option (Pool β n m)
  | .created, .openSocket ok =>
    let s' := s.setRecord t.con { s.records t.con with beConnection := true }
    some (if ok then s'.setThread k t .opened else s'.fail.setThread k t .releasing)
  | .opened, .connect ok =>
    match (s.records t.con).beConnection, (s.records t.con).backEnd with
    -- a call through a null pointer
    | false, _ => none
    | true, none => some (s.fail.setThread k t .releasing)
    | true, some b =>
      some (if ok then s.setThread k t (.relaying b) else s.fail.setThread k t .releasing)
  | .relaying _, .finish => some (s.setThread k t .releasing)
  | .releasing, .release =>
    some ((s.setRecord t.con { s.records t.con with used := false }).setThread k t .clearing)
  | .clearing, .clear =>
    some ((s.setRecord t.con { s.records t.con with backEnd := none, beConnection := false }).setThread
      k t .exited)
  | _, _ => none

/-- One step. -/
def step (backEnd : Fin m → β) (s : Pool β n m) : PoolEvent m → Option (Pool β n m)
  | .exit => some { s with exiting := true }
  | .listener l e => s.listenerStep backEnd l (s.listeners l) e
  | .thread k e => s.threads[k]?.bind fun t => s.threadStep k t t.pc e

/-- The program when its listeners are at the top of their loops. -/
def start : Pool β n m where
  records _ := { used := false, backEnd := none, beConnection := false }
  listeners _ := .waiting
  threads := []
  exiting := false
  failed := false

/-! ## Who has a record -/

end Pool

/-- The record that a listener has. -/
def ListenerPc.held {n : ℕ} : ListenerPc n → Option (Fin n)
  | taken i => some i
  | accepted i => some i
  | filled i => some i
  | releasing i => some i
  | _ => none

/-- The record that a connection thread has. -/
def ConThread.held {β : Type*} {n : ℕ} (t : ConThread β n) : Option (Fin n) :=
  match t.pc with
  | .clearing => none
  | .exited => none
  | _ => some t.con

/-- A thread that may have a record. -/
inductive Agent (m : ℕ)
  /-- A listener. -/
  | listener (l : Fin m)
  /-- A connection thread. -/
  | thread (k : ℕ)
  deriving DecidableEq

namespace Pool

variable {β : Type*} {n m : ℕ} {s s' : Pool β n m}

/-- The record that a thread has. -/
def held (s : Pool β n m) : Agent m → Option (Fin n)
  | .listener l => (s.listeners l).held
  | .thread k => s.threads[k]?.bind ConThread.held

/-- The marks of the records, and who has them. -/
def ownership (s : Pool β n m) : Ownership (Agent m) (Fin n) where
  used i := (s.records i).used
  held := s.held

/-- A record belongs to one thread at most, and to none when it is free. -/
def Exclusive (s : Pool β n m) : Prop := s.ownership.Exclusive

lemma records_setRecord_self {i : Fin n} {r : Record β} : (s.setRecord i r).records i = r :=
  Function.update_self ..

lemma records_setRecord_of_ne {i j : Fin n} {r : Record β} (h : j ≠ i) :
    (s.setRecord i r).records j = s.records j :=
  Function.update_of_ne h ..

lemma held_setListener (l : Fin m) (pc : ListenerPc n) :
    (s.setListener l pc).held = Function.update s.held (.listener l) pc.held := by
  funext a
  cases a with
  | listener l' =>
    by_cases hl : l' = l
    · rw [hl, Function.update_self]
      exact congrArg ListenerPc.held (Function.update_self ..)
    · have hne : Agent.listener l' ≠ .listener l := fun h => hl (Agent.listener.inj h)
      rw [Function.update_of_ne hne]
      exact congrArg ListenerPc.held (Function.update_of_ne hl ..)
  | thread k => rw [Function.update_of_ne (by simp)]; rfl

/-- A thread that goes on has what its new place says. -/
lemma held_setThread {k : ℕ} {t : ConThread β n} (hk : s.threads[k]? = some t) (pc : ThreadPc β) :
    (s.setThread k t pc).held =
      Function.update s.held (.thread k) ({ t with pc := pc } : ConThread β n).held := by
  funext a
  cases a with
  | listener l => rw [Function.update_of_ne (by simp)]; rfl
  | thread j =>
    by_cases hj : j = k
    · subst hj
      obtain ⟨hlt, -⟩ := List.getElem?_eq_some_iff.mp hk
      rw [Function.update_self, held, setThread, List.getElem?_set_self hlt, Option.bind_some]
    · have hne : (Agent.thread j : Agent m) ≠ .thread k := fun h => hj (Agent.thread.inj h)
      rw [Function.update_of_ne hne, held, setThread, List.getElem?_set_ne (Ne.symm hj), held]

lemma held_createThread (t : ConThread β n) :
    (s.createThread t).held = Function.update s.held (.thread s.threads.length) t.held := by
  funext a
  cases a with
  | listener l => rw [Function.update_of_ne (by simp)]; rfl
  | thread j =>
    by_cases hj : j = s.threads.length
    · rw [hj, Function.update_self, held, createThread, List.getElem?_concat_length,
        Option.bind_some]
    · have hne : (Agent.thread j : Agent m) ≠ .thread s.threads.length :=
        fun h => hj (Agent.thread.inj h)
      rw [Function.update_of_ne hne, held, createThread, held]
      rcases Nat.lt_or_gt_of_ne hj with hlt | hgt
      · rw [List.getElem?_append_left hlt]
      · have hlen : (s.threads ++ [t]).length ≤ j := by
          rw [List.length_append]
          exact hgt
        rw [List.getElem?_eq_none hlen, List.getElem?_eq_none (Nat.le_of_lt hgt)]

/-- The marks after a record was changed. -/
lemma used_setRecord (i : Fin n) (r : Record β) :
    (s.setRecord i r).ownership.used = Function.update s.ownership.used i r.used := by
  funext j
  by_cases hj : j = i
  · rw [hj, Function.update_self]
    exact congrArg Record.used (Function.update_self ..)
  · rw [Function.update_of_ne hj]
    exact congrArg Record.used (Function.update_of_ne hj ..)

/-- A change of a record that keeps its mark keeps the marks. -/
lemma used_setRecord_of_eq {i : Fin n} {r : Record β} (hr : r.used = (s.records i).used) :
    (s.setRecord i r).ownership.used = s.ownership.used := by
  rw [used_setRecord, hr]
  exact Function.update_eq_self i _

/-- A record that `get_free_connection` finds is not marked. -/
lemma used_of_freeConnection {i : Fin n} (h : s.freeConnection = some i) :
    (s.records i).used = false := by
  simpa using List.find?_some h

/-! ### What a step does to the owners -/

/-- A listener that goes on with what it has, or leaves. -/
lemma change_keep_listener {u : Pool β n m} {l : Fin m} {pc : ListenerPc n} (hs : u.held = s.held)
    (hused : u.ownership.used = s.ownership.used)
    (hpc : ∀ i, pc.held = some i → (s.listeners l).held = some i) :
    s.ownership.Change (u.setListener l pc).ownership := by
  refine .keep hused fun a i ha => ?_
  have hheld : (u.setListener l pc).held a = some i := ha
  rw [held_setListener, hs] at hheld
  by_cases hal : a = .listener l
  · subst hal
    rw [Function.update_self] at hheld
    exact hpc i hheld
  · rwa [Function.update_of_ne hal] at hheld

/-- A connection thread that goes on with what it has, or leaves. -/
lemma change_keep_thread {u : Pool β n m} {k : ℕ} {t : ConThread β n} {pc : ThreadPc β}
    (hk : s.threads[k]? = some t) (hthreads : u.threads = s.threads) (hs : u.held = s.held)
    (hused : u.ownership.used = s.ownership.used)
    (hpc : ∀ i, ({ t with pc := pc } : ConThread β n).held = some i → t.held = some i) :
    s.ownership.Change (u.setThread k t pc).ownership := by
  refine .keep hused fun a i ha => ?_
  have hheld : (u.setThread k t pc).held a = some i := ha
  rw [held_setThread (hthreads ▸ hk), hs] at hheld
  by_cases hak : a = .thread k
  · subst hak
    rw [Function.update_self] at hheld
    have hold : s.held (.thread k) = t.held := by rw [held, hk, Option.bind_some]
    exact hold.trans (hpc i hheld)
  · rwa [Function.update_of_ne hak] at hheld

/-- A thread gives its record back. -/
lemma change_release {a : Agent m} {i : Fin n} {r : Record β} (hhas : s.held a = some i)
    (hr : r.used = false) (hused : s'.ownership.used = (s.setRecord i r).ownership.used)
    (hheld : s'.held = Function.update s.held a none) : s.ownership.Change s'.ownership := by
  refine .release a i hhas ?_ hheld
  rw [hused, used_setRecord, hr]

/-- A step of a listener is one of the changes that keep the records apart. -/
lemma change_listenerStep (backEnd : Fin m → β) {l : Fin m} {e : ListenerEvent}
    (h : s.listenerStep backEnd l (s.listeners l) e = some s') :
    s.ownership.Change s'.ownership := by
  have hheld : s.held (.listener l) = (s.listeners l).held := rfl
  generalize hpc : s.listeners l = pc at h hheld
  unfold listenerStep at h
  split at h
  · split_ifs at h
    cases h
    exact change_keep_listener rfl rfl fun i hi => by cases hi
  · split at h <;> cases h
    · exact change_keep_listener (u := s.fail) rfl rfl fun i hi => by cases hi
    · rename_i i hfree
      exact .acquire (.listener l) i (used_of_freeConnection hfree)
        (used_setRecord i { s.records i with used := true }) (held_setListener l (.taken i))
  · cases h
    exact change_keep_listener rfl rfl fun i hi => by rwa [hpc]
  · cases h
    exact change_keep_listener (u := s.fail) rfl rfl fun i hi => by cases hi
  · cases h
    exact change_keep_listener rfl rfl fun i hi => by rwa [hpc]
  · cases h
    exact change_keep_listener rfl (used_setRecord_of_eq rfl) fun i hi => by rwa [hpc]
  · rename_i i
    cases h
    refine .transfer (.listener l) (.thread s.threads.length) i hheld rfl ?_
    have hne : Agent.thread s.threads.length ≠ .listener l := fun h => by cases h
    rw [Function.update_comm hne.symm]
    refine (held_setListener l .waiting).trans ?_
    rw [held_createThread]
    rfl
  · cases h
    exact change_keep_listener (u := s.fail) rfl rfl fun i hi => by cases hi
  · rename_i i
    cases h
    exact change_release hheld rfl rfl (held_setListener l (.clearing i))
  · cases h
    exact change_keep_listener rfl (used_setRecord_of_eq rfl) fun i hi => by cases hi
  · cases h

/-- So is a step of a connection thread. -/
lemma change_threadStep {k : ℕ} {t : ConThread β n} {e : ThreadEvent}
    (hk : s.threads[k]? = some t) (h : s.threadStep k t t.pc e = some s') :
    s.ownership.Change s'.ownership := by
  have hheld : s.held (.thread k) = t.held := by rw [held, hk, Option.bind_some]
  obtain ⟨con, b, pc⟩ := t
  dsimp only at h
  unfold threadStep at h
  split at h
  · split_ifs at h <;> cases h
    · exact change_keep_thread hk rfl rfl (used_setRecord_of_eq rfl) fun i hi => hi
    · exact change_keep_thread (u := (s.setRecord con _).fail) hk rfl rfl
        (used_setRecord_of_eq rfl) fun i hi => hi
  · split at h
    · cases h
    · cases h
      exact change_keep_thread (u := s.fail) hk rfl rfl rfl fun i hi => hi
    · split_ifs at h <;> cases h
      · exact change_keep_thread hk rfl rfl rfl fun i hi => hi
      · exact change_keep_thread (u := s.fail) hk rfl rfl rfl fun i hi => hi
  · cases h
    exact change_keep_thread hk rfl rfl rfl fun i hi => hi
  · cases h
    exact change_release hheld rfl rfl (held_setThread hk .clearing)
  · cases h
    exact change_keep_thread hk rfl rfl (used_setRecord_of_eq rfl) fun i hi => by cases hi
  · cases h

/-- **Step lemma.**  After every step a record belongs to one thread at most. -/
lemma Exclusive.step {backEnd : Fin m → β} {e : PoolEvent m} (h : s.Exclusive)
    (hstep : s.step backEnd e = some s') : s'.Exclusive := by
  cases e with
  | exit =>
    cases hstep
    exact h
  | listener l e => exact Ownership.Exclusive.change h (change_listenerStep backEnd hstep)
  | thread k e =>
    obtain ⟨t, hk, hstep⟩ := Option.bind_eq_some_iff.mp hstep
    exact Ownership.Exclusive.change h (change_threadStep hk hstep)

/-- When the listeners start, nobody has a record. -/
lemma exclusive_start : (start : Pool β n m).Exclusive where
  used a i ha := by cases a <;> cases ha
  unique a b i ha _ := by cases a <;> cases ha

end Pool

/-! ## What is in the record -/

/-- The thread needs the contents of its record. -/
def ThreadPc.InService {β : Type*} : ThreadPc β → Prop
  | created => True
  | opened => True
  | relaying _ => True
  | _ => False

/-- The record has what a thread needs that is to connect to a back end, or it is connected there. -/
def ThreadPc.Serves {β : Type*} (r : Record β) (backEnd : β) : ThreadPc β → Prop
  | created => r.backEnd = some backEnd
  | opened => r.backEnd = some backEnd ∧ r.beConnection = true
  | relaying b => b = backEnd ∧ r.beConnection = true
  | _ => True

/-- The parts of a record that threads need are as before. -/
def Record.Same {β : Type*} (r r' : Record β) : Prop :=
  r'.backEnd = r.backEnd ∧ r'.beConnection = r.beConnection

namespace Pool

variable {β : Type*} {n m : ℕ} {s s' : Pool β n m} {backEnd : Fin m → β}

/-- A thread needs the contents of a record. -/
def InUse (s : Pool β n m) (i : Fin n) : Agent m → Prop
  | .listener l => s.listeners l = .filled i
  | .thread k => ∃ t, s.threads[k]? = some t ∧ t.con = i ∧ t.pc.InService

/-- What a thread needs is in its record: the client of a listener is connected to the back end of that
listener. -/
def ServedBy (backEnd : Fin m → β) (s : Pool β n m) : Agent m → Prop
  | .listener l => ∀ i, s.listeners l = .filled i → (s.records i).backEnd = some (backEnd l)
  | .thread k => ∀ t, s.threads[k]? = some t → t.pc.Serves (s.records t.con) t.backEnd

/-- Every client is served. -/
def Served (backEnd : Fin m → β) (s : Pool β n m) : Prop := ∀ a, s.ServedBy backEnd a

/-- A record is not erased while it is needed. -/
def Harmless (s : Pool β n m) : PoolEvent m → Prop
  | .listener l .clear => ∀ i, s.listeners l = .clearing i → ∀ a, ¬ s.InUse i a
  | .thread k .clear => ∀ t, s.threads[k]? = some t → ∀ a, ¬ s.InUse t.con a
  | _ => True

/-- What a thread needs is in the record that it has. -/
lemma InUse.held {i : Fin n} {a : Agent m} (h : s.InUse i a) : s.held a = some i := by
  cases a with
  | listener l =>
    have hpc : s.listeners l = .filled i := h
    rw [Pool.held, hpc]
    rfl
  | thread k =>
    obtain ⟨⟨con, b, pc⟩, hk, rfl, hpc⟩ := h
    rw [Pool.held, hk, Option.bind_some]
    cases pc with
    | created => rfl
    | opened => rfl
    | relaying c => rfl
    | releasing => exact hpc.elim
    | clearing => exact hpc.elim
    | exited => exact hpc.elim

/-- A thread is served as before when the record that it needs is as before. -/
lemma ServedBy.of_same {a : Agent m} (h : s.ServedBy backEnd a)
    (hlisteners : ∀ l, a = .listener l → s'.listeners l = s.listeners l)
    (hthreads : ∀ k, a = .thread k → s'.threads[k]? = s.threads[k]?)
    (hrec : ∀ i, s.InUse i a → (s.records i).Same (s'.records i)) : s'.ServedBy backEnd a := by
  cases a with
  | listener l =>
    intro i hi
    rw [hlisteners l rfl] at hi
    rw [(hrec i hi).1]
    exact h i hi
  | thread k =>
    intro t ht
    rw [hthreads k rfl] at ht
    have hold : t.pc.Serves (s.records t.con) t.backEnd := h t ht
    have hsame : t.pc.InService → (s.records t.con).Same (s'.records t.con) :=
      fun hpc => hrec t.con ⟨t, ht, rfl, hpc⟩
    obtain ⟨con, b, pc⟩ := t
    cases pc with
    | created => exact (hsame trivial).1.trans hold
    | opened => exact ⟨(hsame trivial).1.trans hold.1, (hsame trivial).2.trans hold.2⟩
    | relaying c => exact ⟨hold.1, (hsame trivial).2.trans hold.2⟩
    | releasing => trivial
    | clearing => trivial
    | exited => trivial

/-- After a step of a listener everybody is served, if the listener is and the records that the others need
are as before. -/
lemma Served.setListener {u : Pool β n m} {l : Fin m} {pc : ListenerPc n}
    (h : s.Served backEnd) (hlisteners : u.listeners = s.listeners)
    (hthreads : u.threads = s.threads)
    (hrec : ∀ a, a ≠ .listener l → ∀ i, s.InUse i a → (s.records i).Same (u.records i))
    (hpc : ∀ i, pc = .filled i → (u.records i).backEnd = some (backEnd l)) :
    (u.setListener l pc).Served backEnd := by
  intro a
  by_cases ha : a = .listener l
  · subst ha
    intro i hi
    have hl : (u.setListener l pc).listeners l = pc := Function.update_self ..
    exact hpc i (hl.symm.trans hi)
  · refine (h a).of_same (fun l' hl' => ?_) (fun k _ => ?_) (hrec a ha)
    · subst hl'
      have hne : l' ≠ l := fun hl => ha (congrArg Agent.listener hl)
      rw [← hlisteners]
      exact Function.update_of_ne hne ..
    · rw [← hthreads]
      rfl

/-- So it is after a step of a connection thread. -/
lemma Served.setThread {u : Pool β n m} {k : ℕ} {t : ConThread β n} {pc : ThreadPc β}
    (h : s.Served backEnd) (hlisteners : u.listeners = s.listeners)
    (hthreads : u.threads = s.threads) (hk : s.threads[k]? = some t)
    (hrec : ∀ a, a ≠ .thread k → ∀ i, s.InUse i a → (s.records i).Same (u.records i))
    (hpc : pc.Serves (u.records t.con) t.backEnd) : (u.setThread k t pc).Served backEnd := by
  intro a
  by_cases ha : a = .thread k
  · subst ha
    intro t' ht'
    obtain ⟨hlt, -⟩ := List.getElem?_eq_some_iff.mp hk
    rw [Pool.setThread, hthreads, List.getElem?_set_self hlt] at ht'
    cases ht'
    exact hpc
  · refine (h a).of_same (fun l _ => ?_) (fun j hj => ?_) (hrec a ha)
    · rw [← hlisteners]
      rfl
    · subst hj
      have hne : k ≠ j := fun hkj => ha (congrArg Agent.thread hkj.symm)
      rw [Pool.setThread, hthreads]
      exact List.getElem?_set_ne hne

/-- Nobody who does not need a record notices that it changes. -/
lemma same_setRecord {P : Agent m → Prop} {i : Fin n} {r : Record β}
    (hno : ∀ a, P a → ¬ s.InUse i a) :
    ∀ a, P a → ∀ j, s.InUse j a → (s.records j).Same ((s.setRecord i r).records j) := by
  intro a ha j hj
  have hne : j ≠ i := by
    rintro rfl
    exact hno a ha hj
  rw [records_setRecord_of_ne hne]
  exact ⟨rfl, rfl⟩

/-- Nobody notices that only the mark of a record changes. -/
lemma same_setRecord_used (i : Fin n) (used : Bool) (j : Fin n) :
    (s.records j).Same ((s.setRecord i { s.records i with used := used }).records j) := by
  by_cases hj : j = i
  · rw [hj, records_setRecord_self]
    exact ⟨rfl, rfl⟩
  · rw [records_setRecord_of_ne hj]
    exact ⟨rfl, rfl⟩

/-- The record of a thread is not needed by another one. -/
lemma Exclusive.not_inUse (h : s.Exclusive) {a : Agent m} {i : Fin n} (ha : s.held a = some i) :
    ∀ b, b ≠ a → ¬ s.InUse i b :=
  fun _ hb huse => Ownership.Exclusive.held_ne_of_ne h ha hb huse.held

/-- A new thread is served when its record has what it needs. -/
lemma Served.createThread (h : s.Served backEnd) {t : ConThread β n}
    (ht : t.pc.Serves (s.records t.con) t.backEnd) : (s.createThread t).Served backEnd := by
  intro a
  cases a with
  | listener l => exact h (.listener l)
  | thread k =>
    intro t' ht'
    rcases Nat.lt_trichotomy k s.threads.length with hlt | rfl | hgt
    · rw [Pool.createThread, List.getElem?_append_left hlt] at ht'
      exact h (.thread k) t' ht'
    · rw [Pool.createThread, List.getElem?_concat_length] at ht'
      cases ht'
      exact ht
    · have hlen : (s.threads ++ [t]).length ≤ k := by
        rw [List.length_append]
        exact hgt
      rw [Pool.createThread, List.getElem?_eq_none hlen] at ht'
      cases ht'

/-- A harmless step of a listener. -/
lemma Served.listenerStep {l : Fin m} {e : ListenerEvent} (h : s.Served backEnd)
    (hex : s.Exclusive) (hharm : s.Harmless (.listener l e))
    (hstep : s.listenerStep backEnd l (s.listeners l) e = some s') : s'.Served backEnd := by
  have hheld : s.held (.listener l) = (s.listeners l).held := rfl
  have hclear : e = .clear → ∀ i, s.listeners l = .clearing i → ∀ a, ¬ s.InUse i a := by
    rintro rfl
    exact hharm
  have hkeep : ∀ a, a ≠ .listener l → ∀ i, s.InUse i a → (s.records i).Same (s.records i) :=
    fun _ _ _ _ => ⟨rfl, rfl⟩
  generalize hpc : s.listeners l = pc at hstep hheld hclear
  unfold Pool.listenerStep at hstep
  split at hstep
  · split_ifs at hstep
    cases hstep
    exact h.setListener rfl rfl hkeep fun i hi => by cases hi
  · split at hstep <;> cases hstep
    · exact h.setListener (u := s.fail) rfl rfl hkeep fun i hi => by cases hi
    · exact h.setListener rfl rfl (fun _ _ j _ => same_setRecord_used _ _ j)
        fun i hi => by cases hi
  · cases hstep
    exact h.setListener rfl rfl hkeep fun i hi => by cases hi
  · cases hstep
    exact h.setListener (u := s.fail) rfl rfl hkeep fun i hi => by cases hi
  · cases hstep
    exact h.setListener rfl rfl hkeep fun i hi => by cases hi
  · rename_i i
    cases hstep
    refine h.setListener rfl rfl (same_setRecord (hex.not_inUse hheld)) fun j hj => ?_
    cases hj
    rw [records_setRecord_self]
  · rename_i i
    cases hstep
    have hcreated : (s.createThread ⟨i, backEnd l, .created⟩).Served backEnd :=
      h.createThread (h (.listener l) i hpc)
    exact hcreated.setListener rfl rfl (fun _ _ _ _ => ⟨rfl, rfl⟩) fun i hi => by cases hi
  · cases hstep
    exact h.setListener (u := s.fail) rfl rfl hkeep fun i hi => by cases hi
  · cases hstep
    exact h.setListener rfl rfl (fun _ _ j _ => same_setRecord_used _ _ j)
      fun i hi => by cases hi
  · rename_i i
    cases hstep
    exact h.setListener rfl rfl (same_setRecord fun a _ => hclear rfl i rfl a)
      fun i hi => by cases hi
  · cases hstep

/-- A harmless step of a connection thread. -/
lemma Served.threadStep {k : ℕ} {t : ConThread β n} {e : ThreadEvent} (h : s.Served backEnd)
    (hex : s.Exclusive) (hk : s.threads[k]? = some t) (hharm : s.Harmless (.thread k e))
    (hstep : s.threadStep k t t.pc e = some s') : s'.Served backEnd := by
  have hheld : s.held (.thread k) = t.held := by rw [held, hk, Option.bind_some]
  have hclear : e = .clear → ∀ a, ¬ s.InUse t.con a := by
    rintro rfl
    exact hharm t hk
  have hserves : t.pc.Serves (s.records t.con) t.backEnd := h (.thread k) t hk
  have hkeep : ∀ a, a ≠ .thread k → ∀ i, s.InUse i a → (s.records i).Same (s.records i) :=
    fun _ _ _ _ => ⟨rfl, rfl⟩
  obtain ⟨con, b, pc⟩ := t
  dsimp only at hstep hserves hclear
  unfold Pool.threadStep at hstep
  split at hstep
  · have hopen : ∀ a, a ≠ .thread k → ¬ s.InUse con a := hex.not_inUse hheld
    split_ifs at hstep <;> cases hstep
    · refine h.setThread rfl rfl hk (same_setRecord hopen) ?_
      show ThreadPc.Serves
        ((s.setRecord con { s.records con with beConnection := true }).records con) b .opened
      rw [records_setRecord_self]
      exact ⟨hserves, rfl⟩
    · exact h.setThread (u := (s.setRecord con _).fail) rfl rfl hk (same_setRecord hopen) trivial
  · obtain ⟨hbackEnd, hconnection⟩ := hserves
    split at hstep
    · cases hstep
    · cases hstep
      exact h.setThread (u := s.fail) rfl rfl hk hkeep trivial
    · rename_i c hc
      split_ifs at hstep <;> cases hstep
      · refine h.setThread rfl rfl hk hkeep ⟨?_, hconnection⟩
        exact Option.some.inj (hc.symm.trans hbackEnd)
      · exact h.setThread (u := s.fail) rfl rfl hk hkeep trivial
  · cases hstep
    exact h.setThread rfl rfl hk hkeep trivial
  · cases hstep
    exact h.setThread rfl rfl hk (fun _ _ j _ => same_setRecord_used _ _ j) trivial
  · cases hstep
    exact h.setThread rfl rfl hk (same_setRecord fun a _ => hclear rfl a) trivial
  · cases hstep

/-- **Step lemma.**  A step that erases no record that is needed leaves every client served. -/
lemma Served.step {e : PoolEvent m} (h : s.Served backEnd) (hex : s.Exclusive)
    (hharm : s.Harmless e) (hstep : s.step backEnd e = some s') : s'.Served backEnd := by
  cases e with
  | exit =>
    cases hstep
    exact fun a => (h a).of_same (fun _ _ => rfl) (fun _ _ => rfl) fun _ _ => ⟨rfl, rfl⟩
  | listener l e => exact h.listenerStep hex hharm hstep
  | thread k e =>
    obtain ⟨t, hk, hstep⟩ := Option.bind_eq_some_iff.mp hstep
    exact h.threadStep hex hk hharm hstep

/-- When the listeners start, there is nobody to be served. -/
lemma served_start : (start : Pool β n m).Served backEnd := by
  intro a
  cases a with
  | listener l => exact fun i hi => by cases hi
  | thread k => exact fun t ht => by cases ht

/-- Erasing a record that is needed leaves somebody without it. -/
lemma not_served_of_erased {i : Fin n} {r : Record β} {a : Agent m} (huse : s.InUse i a)
    (hr : r.backEnd = none ∧ r.beConnection = false) (hrec : s'.records i = r)
    (hlisteners : ∀ l, a = .listener l → s'.listeners l = s.listeners l)
    (hthreads : ∀ k, a = .thread k → s'.threads[k]? = s.threads[k]?) : ¬ s'.Served backEnd := by
  intro h
  have ha := h a
  cases a with
  | listener l =>
    have hbackEnd := ha i ((hlisteners l rfl).trans huse)
    rw [hrec, hr.1] at hbackEnd
    cases hbackEnd
  | thread k =>
    obtain ⟨⟨con, b, pc⟩, hk, rfl, hpc⟩ := huse
    have hserves := ha _ ((hthreads k rfl).trans hk)
    dsimp only at hserves
    rw [hrec] at hserves
    cases pc with
    | created => exact absurd (hr.1.symm.trans hserves) (by simp)
    | opened => exact absurd (hr.1.symm.trans hserves.1) (by simp)
    | relaying c => exact absurd (hr.2.symm.trans hserves.2) (by simp)
    | releasing => exact hpc
    | clearing => exact hpc
    | exited => exact hpc

/-- A step that erases a record that is needed. -/
lemma not_served_of_not_harmless {e : PoolEvent m} (hharm : ¬ s.Harmless e)
    (hstep : s.step backEnd e = some s') : ¬ s'.Served backEnd := by
  cases e with
  | exit => exact absurd trivial hharm
  | listener l e =>
    cases e with
    | clear =>
      simp only [Harmless, not_forall, not_not] at hharm
      obtain ⟨i, hpc, a, huse⟩ := hharm
      have hne : a ≠ .listener l := by
        rintro rfl
        have hfilled : s.listeners l = .filled i := huse
        rw [hpc] at hfilled
        cases hfilled
      rw [step, hpc] at hstep
      cases hstep
      refine not_served_of_erased huse ⟨rfl, rfl⟩ records_setRecord_self (fun l' hl' => ?_)
        fun k _ => rfl
      subst hl'
      exact Function.update_of_ne (fun hl => hne (congrArg Agent.listener hl)) ..
    | _ => exact absurd trivial hharm
  | thread k e =>
    cases e with
    | clear =>
      simp only [Harmless, not_forall, not_not] at hharm
      obtain ⟨t, hk, a, huse⟩ := hharm
      obtain ⟨con, b, pc⟩ := t
      rw [step, hk, Option.bind_some] at hstep
      cases pc with
      | clearing =>
        have hne : a ≠ .thread k := by
          rintro rfl
          obtain ⟨t, hk', -, hpc⟩ := huse
          rw [hk] at hk'
          cases hk'
          exact hpc
        cases hstep
        refine not_served_of_erased huse ⟨rfl, rfl⟩ records_setRecord_self (fun l _ => rfl)
          fun j hj => ?_
        subst hj
        exact List.getElem?_set_ne fun hkj => hne (congrArg Agent.thread hkj.symm)
      | _ => cases hstep
    | _ => exact absurd trivial hharm

/-! ## Whether the listeners go on -/

end Pool

/-- The listener is in its loop. -/
def ListenerPc.InLoop {n : ℕ} : ListenerPc n → Prop
  | waiting => True
  | taken _ => True
  | accepted _ => True
  | filled _ => True
  | _ => False

namespace Pool

variable {β : Type*} {n m : ℕ} {s s' : Pool β n m} {backEnd : Fin m → β}

/-- The tool is about to stop. -/
def Stopping (s : Pool β n m) : Prop := s.failed = true ∨ s.exiting = true

/-- Unless the tool is about to stop, every listener is in its loop. -/
def Attended (s : Pool β n m) : Prop := ∀ l, (s.listeners l).InLoop ∨ s.Stopping

/-- Clients are accepted, unless the tool is about to stop. -/
def Accepts (s : Pool β n m) : PoolEvent m → Prop
  | .listener _ (.accept .null) => s.Stopping
  | _ => True

/-- A listener that stays in its loop, or leaves it when the tool is about to stop. -/
lemma Attended.setListener {u : Pool β n m} {l : Fin m} {pc : ListenerPc n} (h : s.Attended)
    (hlisteners : u.listeners = s.listeners) (hstop : s.Stopping → u.Stopping)
    (hpc : pc.InLoop ∨ u.Stopping) : (u.setListener l pc).Attended := by
  intro l'
  by_cases hl : l' = l
  · have hself : (u.setListener l pc).listeners l' = pc := by
      rw [hl]
      exact Function.update_self ..
    rw [hself]
    exact hpc
  · have hother : (u.setListener l pc).listeners l' = s.listeners l' := by
      rw [← hlisteners]
      exact Function.update_of_ne hl ..
    rw [hother]
    exact (h l').imp id hstop

/-- A step of a listener that is in its loop. -/
lemma Attended.listenerStep {l : Fin m} {e : ListenerEvent} (h : s.Attended)
    (hacc : s.Accepts (.listener l e))
    (hstep : s.listenerStep backEnd l (s.listeners l) e = some s') : s'.Attended := by
  have hl := h l
  have hfail : s.Stopping → s.fail.Stopping := fun _ => Or.inl rfl
  generalize hpc : s.listeners l = pc at hstep hl
  unfold Pool.listenerStep at hstep
  split at hstep
  · split_ifs at hstep with hexit
    cases hstep
    exact h.setListener rfl id (Or.inr (Or.inr hexit))
  · split at hstep <;> cases hstep
    · exact h.setListener (u := s.fail) rfl hfail (Or.inr (Or.inl rfl))
    · exact h.setListener rfl id (Or.inl trivial)
  · cases hstep
    exact h.setListener rfl id (Or.inl trivial)
  · cases hstep
    exact h.setListener (u := s.fail) rfl hfail (Or.inr (Or.inl rfl))
  · cases hstep
    exact h.setListener rfl id (Or.inr hacc)
  · cases hstep
    exact h.setListener rfl id (Or.inl trivial)
  · cases hstep
    exact h.setListener rfl id (Or.inl trivial)
  · cases hstep
    exact h.setListener (u := s.fail) rfl hfail (Or.inr (Or.inl rfl))
  · cases hstep
    exact h.setListener rfl id (Or.inr (hl.resolve_left id))
  · cases hstep
    exact h.setListener rfl id (Or.inr (hl.resolve_left id))
  · cases hstep

/-- Connection threads leave the listeners alone, and may stop the tool. -/
lemma listeners_threadStep {k : ℕ} {t : ConThread β n} {pc : ThreadPc β} {e : ThreadEvent}
    (h : s.threadStep k t pc e = some s') :
    s'.listeners = s.listeners ∧ (s.Stopping → s'.Stopping) := by
  have hfail : s.Stopping → s.fail.Stopping := fun _ => Or.inl rfl
  unfold Pool.threadStep at h
  split at h
  · split_ifs at h <;> cases h
    · exact ⟨rfl, id⟩
    · exact ⟨rfl, hfail⟩
  · split at h
    · cases h
    · cases h
      exact ⟨rfl, hfail⟩
    · split_ifs at h <;> cases h
      · exact ⟨rfl, id⟩
      · exact ⟨rfl, hfail⟩
  · cases h
    exact ⟨rfl, id⟩
  · cases h
    exact ⟨rfl, id⟩
  · cases h
    exact ⟨rfl, id⟩
  · cases h

/-- **Step lemma.**  A step in which no client fails to be accepted. -/
lemma Attended.step {e : PoolEvent m} (h : s.Attended) (hacc : s.Accepts e)
    (hstep : s.step backEnd e = some s') : s'.Attended := by
  cases e with
  | exit =>
    cases hstep
    exact fun l => Or.inr (Or.inr rfl)
  | listener l e => exact h.listenerStep hacc hstep
  | thread k e =>
    obtain ⟨t, -, hstep⟩ := Option.bind_eq_some_iff.mp hstep
    obtain ⟨hlisteners, hstop⟩ := listeners_threadStep hstep
    intro l
    rw [hlisteners]
    exact (h l).imp id hstop

/-- The listeners start in their loops. -/
lemma attended_start : (start : Pool β n m).Attended := fun _ => Or.inl trivial

/-- A client that fails to be accepted takes the listener along. -/
lemma not_attended_of_not_accepts {e : PoolEvent m} (hacc : ¬ s.Accepts e)
    (hstep : s.step backEnd e = some s') : ¬ s'.Attended := by
  cases e with
  | exit => exact absurd trivial hacc
  | thread k e => exact absurd trivial hacc
  | listener l e =>
    cases e with
    | accept result =>
      cases result with
      | null =>
        generalize hpc : s.listeners l = pc at *
        rw [step, hpc] at hstep
        cases pc with
        | taken i =>
          cases hstep
          intro h
          have hl := h l
          have hself : (s.setListener l (.releasing i)).listeners l = .releasing i :=
            Function.update_self ..
          rw [hself] at hl
          exact hacc (hl.resolve_left id)
        | _ => cases hstep
      | client => exact absurd trivial hacc
      | tooHigh => exact absurd trivial hacc
    | _ => exact absurd trivial hacc

/-! ## Runs -/

/-- **The records are kept apart.**  In every order of the steps of the listeners and the connection threads a
record belongs to one thread at most, and to none when `get_free_connection` may return it. -/
theorem exclusive_throughout (backEnd : Fin m → β) (es : List (PoolEvent m)) :
    Throughout (step backEnd) Exclusive (start : Pool β n m) es :=
  throughout_of_along (I := Exclusive) (C := fun _ _ => True) (fun _ _ _ h _ hstep => h.step hstep)
    (fun _ h => h) exclusive_start (along_of_forall fun _ _ _ => trivial)

/-- **Every client is served.**  Throughout a run the address in the record of a connection is the one of the
listener that accepted it, until the thread has connected there, and it has its connection until it gives
the record back, exactly when no thread erases a record that another one needs: that is, when no record is
handed out between the two halves of `initializeConnection` and filled in before the second. -/
theorem served_iff (backEnd : Fin m → β) (es : List (PoolEvent m)) :
    Throughout (step backEnd) (Served backEnd) (start : Pool β n m) es ↔
      Along (step backEnd) Harmless (start : Pool β n m) es :=
  throughout_iff_along (I := fun s : Pool β n m => s.Exclusive ∧ s.Served backEnd)
    (fun _ _ _ h hharm hstep => ⟨h.1.step hstep, h.2.step h.1 hharm hstep⟩) (fun _ h => h.2)
    (fun _ _ _ _ hharm hstep => not_served_of_not_harmless hharm hstep)
    ⟨exclusive_start, served_start⟩

/-- Two listeners and one record.  The client of the second listener is given the record of the first one's
client, and when that thread goes on, the address is gone. -/
example :
    (exec (step fun l : Fin 2 => l) (start : Pool (Fin 2) 1 2)
      [.listener 0 .poll, .listener 0 (.accept .client), .listener 0 .fill, .listener 0 (.create true),
        .thread 0 (.openSocket true), .thread 0 (.connect true), .thread 0 .finish, .thread 0 .release,
        .listener 1 .poll, .listener 1 (.accept .client), .listener 1 .fill, .thread 0 .clear]).map
      (fun s => (s.records 0, s.listeners 1)) = some (⟨true, none, false⟩, .filled 0) := by
  decide

/-- **The listeners go on.**  Throughout a run every listener is in its loop, unless the tool is about to
stop, exactly when no client fails to be accepted before that: the listener does not survive it. -/
theorem attended_iff (backEnd : Fin m → β) (es : List (PoolEvent m)) :
    Throughout (step backEnd) Attended (start : Pool β n m) es ↔
      Along (step backEnd) Accepts (start : Pool β n m) es :=
  throughout_iff_along (I := fun s : Pool β n m => s.Attended) (fun _ _ _ h hacc hstep => h.step hacc hstep)
    (fun _ h => h) (fun _ _ _ _ hacc hstep => not_attended_of_not_accepts hacc hstep)
    attended_start

end Pool

end Nlt

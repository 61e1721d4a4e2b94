import Mathlib.Data.List.FinRange
import StTools.Lib.LabelledSystem
import StTools.LoadPlotter.ConnectionThread
import StTools.Lib.NamedInstances

/-!
# The connections of the load plotter

The control thread starts a thread for every connection that is `OFFLINE`.  A connection is `OFFLINE`
when it was added, and again while it is being closed: `resetConnectionAndExit_CBA` sets `OFFLINE`, makes
the plots, and then sets `NOT_USED`.  A remote command marks the connection of a given name with
`TO_BE_CLOSED` whatever its thread is doing.

A run interleaves the control thread, the thread of the remote commands and those of the connections.
`safe_throughout_iff` says in which runs every connection has one thread and is closed once.
-/

namespace LoadPlotter

/-- An element of `v_connections`, with the threads that run on it. -/
structure Slot where
  /-- The connection. -/
  con : Connection
  /-- The threads. -/
  threads : List Thread
  /-- Ghost: it was added, and no thread was started for it since. -/
  pending : Bool
  /-- Ghost: it was marked with `TO_BE_CLOSED`. -/
  marked : Bool
  deriving DecidableEq

/-- The connection after a step of the thread `k`. -/
def Slot.after (slot : Slot) (k : ℕ) (o : Outcome) : Slot :=
  match o.thread with
  | some t => { slot with con := o.con, threads := slot.threads.set k t }
  | none => { slot with con := o.con, threads := slot.threads.eraseIdx k, marked := false }

/-- Where the control thread is. -/
inductive Control (n : ℕ)
  | asleep
  /-- At the place `i` of `v_connections`. -/
  | scan (i : ℕ)
  /-- It has seen that the connection is `OFFLINE`. -/
  | creating (i : Fin n)
  | created (i : Fin n)
  | exited
  deriving DecidableEq

/-- Where the thread of the remote commands is. -/
inductive Remote (n : ℕ)
  | waiting
  /-- `findConnection` is at the place `i`. -/
  | searching (i : ℕ)
  /-- `addConnection` fills the connection that `findConnection` has returned. -/
  | filling (c : Fin n)
  /-- `checkConnectionData` is at the place `i`. -/
  | checking (c : Fin n) (i : ℕ)
  /-- It has found another connection with the name. -/
  | marking (c i : Fin n)
  | checked (c : Fin n)
  deriving DecidableEq

/-- The program. -/
structure Plotter (n : ℕ) where
  /-- `v_connections`. -/
  slots : Fin n → Slot
  /-- `dataTool.status`. -/
  tool : ToolStatus
  /-- The control thread. -/
  control : Control n
  /-- The remote thread. -/
  remote : Remote n

/-- What `pthread_create` returns. -/
inductive CreateResult
  | ok
  /-- An error, and errors are logged. -/
  | failed
  | failedUnlogged
  deriving DecidableEq

/-- What can happen. -/
inductive Event (n : ℕ)
  /-- The tool is told to exit. -/
  | shutdown
  /-- A step of the thread `k` on a connection. -/
  | thread (i : Fin n) (k : ℕ) (input : Input)
  /-- A step of the control thread; what `pthread_create` returns, if it is called. -/
  | control (result : CreateResult)
  /-- The command to add a connection. -/
  | addConnection
  /-- A parameter of it: the name. -/
  | setName (name : List Char)
  /-- A processor. -/
  | addProcessor (name : List Char)
  /-- A parameter that is not known. -/
  | badParameter
  /-- A step of the rest of the command; whether the other parameters are right. -/
  | remote (ok : Bool)
  deriving DecidableEq

namespace Plotter

variable {n : ℕ}

/-- The program with another value for one connection. -/
def setSlot (s : Plotter n) (i : Fin n) (slot : Slot) : Plotter n :=
  { s with slots := Function.update s.slots i slot }

lemma slots_setSlot_self (s : Plotter n) (i : Fin n) (slot : Slot) : (s.setSlot i slot).slots i = slot :=
  Function.update_self ..

/-- `initConnection`, which leaves the threads as they are. -/
def initConnection (slot : Slot) : Slot := { slot with con := ⟨[], [], -1, .notUsed⟩ }

/-- A step of the control thread. -/
def controlStep (s : Plotter n) (result : CreateResult) : Option (Plotter n) :=
  match s.control with
  | .asleep =>
    match s.tool with
    | .toBeReset => some s
    | .haveToExit => some { s with control := .exited }
    | _ => some { s with control := .scan 0 }
  | .scan i =>
    if h : i < n then
      if (s.slots ⟨i, h⟩).con.status ≠ .offline then some { s with control := .scan (i + 1) }
      else some { s with control := .creating ⟨i, h⟩ }
    else some { s with control := .asleep }
  | .creating i =>
    match result with
    | .ok =>
      some { s.setSlot i { s.slots i with
          threads := (s.slots i).threads ++ [Thread.new], pending := false } with
        control := .created i }
    | .failed => some { s with tool := .haveToExit, control := .created i }
    | .failedUnlogged => some { s with control := .created i }
  | .created i => some { s with tool := .ready, control := .scan (i + 1) }
  | .exited => none

/-- A step of a thread. -/
def threadStep (s : Plotter n) (i : Fin n) (k : ℕ) (input : Input) : Option (Plotter n) := do
  let t ← (s.slots i).threads[k]?
  let o ← t.step s.tool (s.slots i).con input
  return { s.setSlot i ((s.slots i).after k o) with tool := o.tool }

/-- A step of `findConnection`, of `checkConnectionData` or of `addConnection` with their results.  When
there is no connection that is `NOT_USED`, the program exits. -/
def remoteStep (s : Plotter n) (ok : Bool) : Option (Plotter n) :=
  match s.remote with
  | .searching i =>
    if h : i < n then
      if (s.slots ⟨i, h⟩).con.status = .notUsed then some { s with remote := .filling ⟨i, h⟩ }
      else some { s with remote := .searching (i + 1) }
    else none
  | .filling c =>
    if (s.slots c).con.name = [] then some { s.setSlot c (initConnection (s.slots c)) with remote := .waiting }
    else some { s with remote := .checking c 0 }
  | .checking c i =>
    if h : i < n then
      if (s.slots ⟨i, h⟩).con.status ≠ .notUsed ∧ (⟨i, h⟩ : Fin n) ≠ c ∧
          (s.slots ⟨i, h⟩).con.name = (s.slots c).con.name then
        some { s with remote := .marking c ⟨i, h⟩ }
      else some { s with remote := .checking c (i + 1) }
    else some { s with remote := .checked c }
  | .marking c i =>
    some { s.setSlot i { s.slots i with
        con := { (s.slots i).con with status := .toBeClosed }, marked := true } with
      remote := .checked c }
  | .checked c =>
    if ok then
      some { s.setSlot c { s.slots c with
          con := { (s.slots c).con with status := .offline }, pending := true } with
        remote := .waiting }
    else some { s.setSlot c (initConnection (s.slots c)) with remote := .waiting }
  | .waiting => none

/-- One step. -/
def step (s : Plotter n) : Event n → Option (Plotter n)
  | .shutdown => some { s with tool := .haveToExit }
  | .thread i k input => s.threadStep i k input
  | .control result => s.controlStep result
  | .addConnection =>
    match s.remote with
    | .waiting => some { s with remote := .searching 0 }
    | _ => none
  | .setName name =>
    match s.remote with
    | .filling c =>
      some (s.setSlot c { s.slots c with con := { (s.slots c).con with name := name } })
    | _ => none
  | .addProcessor name =>
    match s.remote with
    | .filling c =>
      some (s.setSlot c { s.slots c with
        con := { (s.slots c).con with procFilter := (s.slots c).con.procFilter ++ [name] } })
    | _ => none
  | .badParameter =>
    match s.remote with
    | .filling _ => some { s with remote := .waiting }
    | _ => none
  | .remote ok => s.remoteStep ok

/-- A connection of the configuration file. -/
structure Entry where
  /-- The name. -/
  name : List Char
  /-- The processors. -/
  procFilter : List (List Char)
  /-- Another connection with its name follows. -/
  replaced : Bool

/-- The connection for an entry of the configuration file, or without one. -/
def initSlot : Option Entry → Slot
  | none => ⟨⟨[], [], -1, .notUsed⟩, [], false, false⟩
  | some e =>
    ⟨⟨e.name, e.procFilter, -1, if e.replaced then .toBeClosed else .offline⟩, [], true, e.replaced⟩

/-- The program when the control thread begins. -/
def init (file : Fin n → Option Entry) : Plotter n where
  slots i := initSlot (file i)
  tool := .toBeConfigured
  control := .asleep
  remote := .waiting

/-! ## What should hold -/

/-- Every connection has one thread and is closed once. -/
structure Safe (s : Plotter n) : Prop where
  /-- At most one thread runs. -/
  one : ∀ i, (s.slots i).threads.length ≤ 1
  /-- The control thread starts one only where there is none, be it closing the connection or not. -/
  starts : ∀ i, s.control = .creating i → (s.slots i).threads = []
  /-- A connection that is to be closed is not set back to another status until its thread closes it. -/
  closing : ∀ i, (s.slots i).marked →
    (s.slots i).con.status = .toBeClosed ∨ ∃ t ∈ (s.slots i).threads, t.pc.Closing
  /-- After the end of its thread, and before it is added again, it is `NOT_USED` or `FAULTY`. -/
  ended : ∀ i, (s.slots i).threads = [] → (s.slots i).pending = false →
    (s.slots i).con.status = .notUsed ∨ (s.slots i).con.status = .faulty
  /-- `findConnection` has returned a connection without a thread. -/
  found : ∀ c, s.remote = .filling c → (s.slots c).threads = []

/-- The step is in order. -/
def Orderly (s : Plotter n) : Event n → Prop
  | .thread i k _ => ∀ t, (s.slots i).threads[k]? = some t → t.pc.Orderly (s.slots i).con.status
  | .control _ =>
    ∀ (i : Fin n), s.control = .scan i → (s.slots i).con.status = .offline →
      ∀ t ∈ (s.slots i).threads, t.pc ≠ .created ∧ t.pc ≠ .setNotUsed
  | .remote _ =>
    ∀ c i, s.remote = .marking c i → (s.slots i).pending = true ∨ (s.slots i).threads ≠ []
  | _ => True

end Plotter

/-! ## The invariant -/

/-- The state of a connection fits what its thread does. -/
structure Slot.Fits (slot : Slot) : Prop where
  /-- At most one thread runs. -/
  one : slot.threads.length ≤ 1
  /-- The status is one of those of the place of the thread. -/
  status : ∀ t ∈ slot.threads, slot.pending = false ∧ slot.con.status ∈ t.pc.statuses
  /-- A connection that waits for its thread. -/
  waits : slot.pending = true → slot.con.status = .offline ∨ slot.con.status = .toBeClosed
  /-- A connection without a thread. -/
  ended : slot.threads = [] → slot.pending = false →
    slot.con.status = .notUsed ∨ slot.con.status = .faulty
  /-- What is `TO_BE_CLOSED` was marked. -/
  marked : slot.con.status = .toBeClosed → slot.marked = true
  /-- What was marked is closed. -/
  closing : slot.marked = true →
    slot.con.status = .toBeClosed ∨ ∃ t ∈ slot.threads, t.pc.Closing

namespace Slot

variable {slot : Slot} {t : Thread} {k : ℕ}

/-- A connection without a thread that does not wait for one. -/
lemma fits_of_notUsed (hthreads : slot.threads = []) (hpending : slot.pending = false)
    (hmarked : slot.marked = false) (hstatus : slot.con.status = .notUsed) : slot.Fits where
  one := by simp [hthreads]
  status := by simp [hthreads]
  waits := by simp [hpending]
  ended _ _ := .inl hstatus
  marked := by simp [hstatus]
  closing := by simp [hmarked]

lemma fits_initSlot (e : Option Plotter.Entry) : (Plotter.initSlot e).Fits := by
  cases e with
  | none => exact fits_of_notUsed rfl rfl rfl rfl
  | some e =>
    obtain ⟨name, procFilter, replaced⟩ := e
    cases replaced <;> constructor <;> simp [Plotter.initSlot]

/-- The thread that steps is the only one. -/
lemma Fits.eq_singleton (h : slot.Fits) (ht : slot.threads[k]? = some t) :
    slot.threads = [t] ∧ k = 0 := by
  obtain ⟨hk, ht⟩ := List.getElem?_eq_some_iff.mp ht
  have hlen := h.one
  obtain rfl : k = 0 := by omega
  obtain ⟨t', ht'⟩ := List.length_eq_one_iff.mp (by omega : slot.threads.length = 1)
  simp only [ht', List.getElem_cons_zero] at ht
  exact ⟨ht ▸ ht', rfl⟩

/-- A connection that is `NOT_USED` has no thread, and none is started for it. -/
lemma Fits.of_notUsed (h : slot.Fits) (hstatus : slot.con.status = .notUsed) :
    slot.pending = false ∧ slot.threads = [] ∧ slot.marked = false := by
  have hthreads : slot.threads = [] := by
    refine List.eq_nil_iff_forall_not_mem.mpr fun t ht => ?_
    have hmem := (h.status t ht).2
    rw [hstatus] at hmem
    exact t.pc.notUsed_notMem_statuses hmem
  refine ⟨?_, hthreads, ?_⟩
  · by_contra hpending
    have hwaits := h.waits (by simpa using hpending)
    simp [hstatus] at hwaits
  · by_contra hmarked
    have hclosing := h.closing (by simpa using hmarked)
    simp [hstatus, hthreads] at hclosing

/-- A connection that is `NOT_USED` gets the defaults. -/
lemma Fits.initConnection (h : slot.Fits) (hstatus : slot.con.status = .notUsed) :
    (Plotter.initConnection slot).Fits := by
  obtain ⟨hpending, hthreads, hmarked⟩ := h.of_notUsed hstatus
  exact fits_of_notUsed hthreads hpending hmarked rfl

/-- A step in order of the thread of a connection. -/
lemma Fits.after (h : slot.Fits) (ht : slot.threads = [t]) {o : Outcome}
    (hmoves : Moves t.pc slot.con.status (o.thread.map Thread.pc) o.con.status)
    (horder : t.pc.Orderly slot.con.status) : (slot.after 0 o).Fits := by
  obtain ⟨hpending, hstatus⟩ := h.status t (by simp [ht])
  unfold Slot.after
  cases hthread : o.thread with
  | some t' =>
    rw [hthread] at hmoves
    exact
      { one := h.one.trans_eq' (by simp)
        status := fun u hu => by
          obtain rfl : u = t' := by simpa [ht] using hu
          exact ⟨hpending, hmoves.mem_statuses hstatus⟩
        waits := fun hwaits => absurd (hpending.symm.trans hwaits) (by decide)
        ended := fun hthreads => absurd hthreads (by simp [ht])
        marked := fun hclosed => by
          dsimp only at hclosed
          rw [hclosed] at hmoves
          exact h.marked hmoves.toBeClosed_of_toBeClosed
        closing := fun hmarked => by
          have hclosing := h.closing hmarked
          simp only [ht, List.set_cons_zero, List.mem_singleton, exists_eq_left] at hclosing ⊢
          exact hmoves.closed_of_orderly horder hclosing }
  | none =>
    rw [hthread] at hmoves
    have hended := hmoves.ended horder
    exact
      { one := by simp [ht]
        status := by simp [ht]
        waits := fun hwaits => absurd (hpending.symm.trans hwaits) (by decide)
        ended := fun _ _ => hended
        marked := fun hclosed => by
          dsimp only at hclosed
          simp [hclosed] at hended
        closing := fun hmarked => absurd hmarked (by simp) }

/-- A step that is not in order leaves a connection that has ended with a wrong status, or one that is to
be closed and is not. -/
lemma Fits.after_of_not_orderly (h : slot.Fits) (ht : slot.threads = [t]) {o : Outcome}
    (hmoves : Moves t.pc slot.con.status (o.thread.map Thread.pc) o.con.status)
    (hplace : ¬ t.pc.Orderly slot.con.status) :
    ((slot.after 0 o).threads = [] ∧ (slot.after 0 o).pending = false ∧
        ¬ ((slot.after 0 o).con.status = .notUsed ∨ (slot.after 0 o).con.status = .faulty)) ∨
      ((slot.after 0 o).marked = true ∧ ¬ ((slot.after 0 o).con.status = .toBeClosed ∨
        ∃ u ∈ (slot.after 0 o).threads, u.pc.Closing)) := by
  obtain ⟨hpending, hstatus⟩ := h.status t (by simp [ht])
  obtain ⟨hnone, hleft⟩ | ⟨hclosed, hopen, pc, hpc, hnot⟩ := hmoves.not_orderly hstatus hplace
  · -- The thread ends too early.
    rw [Slot.after, Option.map_eq_none_iff.mp hnone]
    exact .inl ⟨by simp [ht], hpending, hleft⟩
  · -- It writes over `TO_BE_CLOSED`.
    obtain ⟨t', hthread, rfl⟩ := Option.map_eq_some_iff.mp hpc
    rw [Slot.after, hthread]
    refine .inr ⟨h.marked hclosed, ?_⟩
    simp only [ht, List.set_cons_zero, List.mem_singleton, exists_eq_left]
    exact not_or.mpr ⟨hopen, hnot⟩

/-- A connection that waits for its thread has none. -/
lemma Fits.threads_of_pending (h : slot.Fits) (hpending : slot.pending = true) : slot.threads = [] := by
  refine List.eq_nil_iff_forall_not_mem.mpr fun t ht => ?_
  exact absurd ((h.status t ht).1.symm.trans hpending) (by decide)

/-- A thread is started for a connection that waits for it. -/
lemma Fits.start (h : slot.Fits) (hpending : slot.pending = true) :
    ({ slot with threads := slot.threads ++ [Thread.new], pending := false } : Slot).Fits := by
  have hthreads := h.threads_of_pending hpending
  have hwaits := h.waits hpending
  exact
    { one := by simp [hthreads]
      status := by
        intro t ht
        obtain rfl : t = Thread.new := by simpa [hthreads] using ht
        exact ⟨rfl, by simpa [Thread.new, Pc.statuses] using hwaits⟩
      waits := by simp
      ended := by simp
      marked := h.marked
      closing := fun hmarked => by
        have hclosing := h.closing hmarked
        simp only [hthreads, List.not_mem_nil, false_and, exists_false, or_false] at hclosing
        exact .inl hclosing }

/-- A connection is added. -/
lemma Fits.add (h : slot.Fits) (hstatus : slot.con.status = .notUsed) :
    ({ slot with con := { slot.con with status := .offline }, pending := true } : Slot).Fits := by
  obtain ⟨-, hthreads, hmarked⟩ := h.of_notUsed hstatus
  constructor <;> simp [hthreads, hmarked]

/-- A connection that is marked while it waits or has a thread. -/
lemma Fits.mark (h : slot.Fits) (hthere : slot.pending = true ∨ slot.threads ≠ []) :
    ({ slot with con := { slot.con with status := .toBeClosed }, marked := true } : Slot).Fits where
  one := h.one
  status t ht := ⟨(h.status t ht).1, Pc.toBeClosed_mem_statuses (h.status t ht).2⟩
  waits _ := .inr rfl
  ended hthreads hpending := by
    obtain hwaits | hne := hthere
    · exact absurd (hpending.symm.trans hwaits) (by decide)
    · exact absurd hthreads hne
  marked _ := rfl
  closing _ := .inl rfl

end Slot

/-- The remote thread has the connection. -/
def Remote.Holds {n : ℕ} (c : Fin n) : Remote n → Prop
  | .filling d => d = c
  | .checking d _ => d = c
  | .marking d _ => d = c
  | .checked d => d = c
  | _ => False

namespace Plotter

variable {n : ℕ} {s s' : Plotter n}

/-- The invariant of the runs in order. -/
structure Inv (s : Plotter n) : Prop where
  /-- The connections. -/
  fits : ∀ i, (s.slots i).Fits
  /-- The control thread starts what waits for it. -/
  creating : ∀ i, s.control = .creating i → (s.slots i).pending = true
  /-- What the remote thread fills is used by no other. -/
  held : ∀ c, s.remote.Holds c → (s.slots c).con.status = .notUsed
  /-- It does not mark this one. -/
  marking : ∀ c i, s.remote = .marking c i → i ≠ c

/-- The invariant gives the property. -/
lemma Inv.safe (h : s.Inv) : s.Safe where
  one i := (h.fits i).one
  starts i hi := (h.fits i).threads_of_pending (h.creating i hi)
  closing i := (h.fits i).closing
  ended i := (h.fits i).ended
  found c hc := ((h.fits c).of_notUsed (h.held c (by rw [hc]; rfl))).2.1

lemma inv_init (file : Fin n → Option Entry) : (init file).Inv where
  fits i := Slot.fits_initSlot (file i)
  creating := by simp [init]
  held := by simp [init, Remote.Holds]
  marking := by simp [init]

/-- Another value for a connection. -/
lemma Inv.setSlot (h : s.Inv) {i : Fin n} {slot : Slot} (hfits : slot.Fits)
    (hcreating : s.control = .creating i → slot.pending = true)
    (hheld : s.remote.Holds i → slot.con.status = .notUsed) : (s.setSlot i slot).Inv where
  fits j := by
    by_cases hj : j = i
    · subst hj
      simpa [Plotter.setSlot] using hfits
    · simpa [Plotter.setSlot, Function.update_of_ne hj] using h.fits j
  creating j hj := by
    by_cases hji : j = i
    · subst hji
      simpa [Plotter.setSlot] using hcreating hj
    · simpa [Plotter.setSlot, Function.update_of_ne hji] using h.creating j hj
  held c hc := by
    by_cases hci : c = i
    · subst hci
      simpa [Plotter.setSlot] using hheld hc
    · simpa [Plotter.setSlot, Function.update_of_ne hci] using h.held c hc
  marking := h.marking

/-- A step of the control thread. -/
lemma Inv.controlStep (h : s.Inv) {result : CreateResult} (horder : s.Orderly (.control result))
    (hstep : s.controlStep result = some s') : s'.Inv := by
  unfold Plotter.controlStep at hstep
  split at hstep
  · -- It wakes up.
    split at hstep
    · exact Option.some.inj hstep ▸ h
    all_goals
      obtain rfl := Option.some.inj hstep
      exact ⟨h.fits, by simp, h.held, h.marking⟩
  · rename_i i hscan
    split at hstep
    · rename_i hi
      split at hstep
      · obtain rfl := Option.some.inj hstep
        exact ⟨h.fits, by simp, h.held, h.marking⟩
      · -- The connection is `OFFLINE`: no thread that runs on it is in order.
        rename_i hoffline
        obtain rfl := Option.some.inj hstep
        refine ⟨h.fits, fun j hj => ?_, h.held, h.marking⟩
        obtain rfl : (⟨i, hi⟩ : Fin n) = j := Control.creating.inj hj
        have hoffline := not_not.mp hoffline
        have hfits := h.fits ⟨i, hi⟩
        have hthreads : (s.slots ⟨i, hi⟩).threads = [] := by
          refine List.eq_nil_iff_forall_not_mem.mpr fun t ht => ?_
          obtain ⟨hcreated, hnotUsed⟩ := horder ⟨i, hi⟩ hscan hoffline t ht
          have hmem := (hfits.status t ht).2
          rw [hoffline] at hmem
          exact (Pc.offline_mem_statuses hmem).elim hcreated hnotUsed
        by_contra hpending
        have hended := hfits.ended hthreads (by simpa using hpending)
        simp [hoffline] at hended
    · obtain rfl := Option.some.inj hstep
      exact ⟨h.fits, by simp, h.held, h.marking⟩
  · rename_i i hcreating
    have hpending := h.creating i hcreating
    split at hstep
    · obtain rfl := Option.some.inj hstep
      have hnext : Inv { s with control := .created i } := ⟨h.fits, by simp, h.held, h.marking⟩
      refine hnext.setSlot ((h.fits i).start hpending) (by simp) fun hheld => ?_
      exact h.held i hheld
    all_goals
      obtain rfl := Option.some.inj hstep
      exact ⟨h.fits, by simp, h.held, h.marking⟩
  · obtain rfl := Option.some.inj hstep
    exact ⟨h.fits, by simp, h.held, h.marking⟩
  · cases hstep

/-- A step of a connection thread. -/
lemma Inv.threadStep (h : s.Inv) {i : Fin n} {k : ℕ} {input : Input}
    (horder : s.Orderly (.thread i k input)) (hstep : s.threadStep i k input = some s') : s'.Inv := by
  unfold Plotter.threadStep at hstep
  obtain ⟨t, ht, hstep⟩ := Option.bind_eq_some_iff.mp hstep
  obtain ⟨o, ho, hstep⟩ := Option.bind_eq_some_iff.mp hstep
  obtain rfl := Option.some.inj hstep
  have hplace := horder t ht
  obtain ⟨hthreads, rfl⟩ := (h.fits i).eq_singleton ht
  have hmem : t ∈ (s.slots i).threads := by simp [hthreads]
  have hnext : Inv { s with tool := o.tool } := ⟨h.fits, h.creating, h.held, h.marking⟩
  have hfits := (h.fits i).after hthreads (Thread.moves_of_step ho) hplace
  refine hnext.setSlot hfits (fun hcreating => ?_) fun hheld => ?_
  · simp [(h.fits i).threads_of_pending (h.creating i hcreating)] at hmem
  · simp [((h.fits i).of_notUsed (h.held i hheld)).2.1] at hmem

/-- A step of the remote thread. -/
lemma Inv.remoteStep (h : s.Inv) {ok : Bool} (horder : s.Orderly (.remote ok))
    (hstep : s.remoteStep ok = some s') : s'.Inv := by
  -- What the remote thread fills is not being started.
  have hinit : ∀ {c}, s.remote.Holds c → ∀ {r : Remote n}, r = .waiting →
      Inv ({ s with remote := r }.setSlot c (initConnection (s.slots c))) := by
    rintro c hc r rfl
    have hnext : Inv { s with remote := .waiting } :=
      ⟨h.fits, h.creating, by simp [Remote.Holds], by simp⟩
    refine hnext.setSlot ((h.fits c).initConnection (h.held c hc)) (fun hcreating => ?_)
      (by simp [Remote.Holds])
    have hpending := ((h.fits c).of_notUsed (h.held c hc)).1
    exact absurd (hpending.symm.trans (h.creating c hcreating)) (by decide)
  unfold Plotter.remoteStep at hstep
  split at hstep
  · split at hstep
    · split at hstep
      · rename_i hnotUsed
        obtain rfl := Option.some.inj hstep
        refine ⟨h.fits, h.creating, ?_, by simp⟩
        rintro c rfl
        exact hnotUsed
      · obtain rfl := Option.some.inj hstep
        exact ⟨h.fits, h.creating, by simp [Remote.Holds], by simp⟩
    · cases hstep
  · rename_i c hremote
    have hc : s.remote.Holds c := by rw [hremote]; rfl
    split at hstep
    · obtain rfl := Option.some.inj hstep
      exact hinit hc rfl
    · obtain rfl := Option.some.inj hstep
      refine ⟨h.fits, h.creating, ?_, by simp⟩
      rintro d rfl
      exact h.held c hc
  · rename_i c i hremote
    have hc : s.remote.Holds c := by rw [hremote]; rfl
    split at hstep
    · split at hstep
      · rename_i hother
        obtain rfl := Option.some.inj hstep
        refine ⟨h.fits, h.creating, ?_, ?_⟩
        · rintro d rfl
          exact h.held c hc
        · intro d j hmarking
          obtain ⟨rfl, rfl⟩ := Remote.marking.inj hmarking
          exact hother.2.1
      · obtain rfl := Option.some.inj hstep
        refine ⟨h.fits, h.creating, ?_, by simp⟩
        rintro d rfl
        exact h.held c hc
    · obtain rfl := Option.some.inj hstep
      refine ⟨h.fits, h.creating, ?_, by simp⟩
      rintro d rfl
      exact h.held c hc
  · -- It marks a connection that is there.
    rename_i c i hremote
    have hc : s.remote.Holds c := by rw [hremote]; rfl
    obtain rfl := Option.some.inj hstep
    have hnext : Inv { s with remote := .checked c } := by
      refine ⟨h.fits, h.creating, ?_, by simp⟩
      rintro d rfl
      exact h.held c hc
    refine hnext.setSlot ((h.fits i).mark (horder c i hremote)) (h.creating i) ?_
    rintro rfl
    exact absurd rfl (h.marking c c hremote)
  · rename_i c hremote
    have hc : s.remote.Holds c := by rw [hremote]; rfl
    split at hstep
    · obtain rfl := Option.some.inj hstep
      have hnext : Inv { s with remote := .waiting } :=
        ⟨h.fits, h.creating, by simp [Remote.Holds], by simp⟩
      exact hnext.setSlot ((h.fits c).add (h.held c hc)) (by simp) (by simp [Remote.Holds])
    · obtain rfl := Option.some.inj hstep
      exact hinit hc rfl
  · cases hstep

/-- **One step** in order. -/
lemma Inv.step (h : s.Inv) {e : Event n} (horder : s.Orderly e)
    (hstep : Plotter.step s e = some s') : s'.Inv := by
  cases e with
  | shutdown =>
    obtain rfl := Option.some.inj hstep
    exact ⟨h.fits, h.creating, h.held, h.marking⟩
  | thread i k input => exact h.threadStep horder hstep
  | control result => exact h.controlStep horder hstep
  | addConnection =>
    simp only [Plotter.step] at hstep
    split at hstep
    · obtain rfl := Option.some.inj hstep
      exact ⟨h.fits, h.creating, by simp [Remote.Holds], by simp⟩
    · cases hstep
  | setName name =>
    simp only [Plotter.step] at hstep
    split at hstep
    · rename_i c hremote
      obtain rfl := Option.some.inj hstep
      exact h.setSlot ⟨(h.fits c).one, (h.fits c).status, (h.fits c).waits, (h.fits c).ended,
        (h.fits c).marked, (h.fits c).closing⟩ (h.creating c) (h.held c)
    · cases hstep
  | addProcessor name =>
    simp only [Plotter.step] at hstep
    split at hstep
    · rename_i c hremote
      obtain rfl := Option.some.inj hstep
      exact h.setSlot ⟨(h.fits c).one, (h.fits c).status, (h.fits c).waits, (h.fits c).ended,
        (h.fits c).marked, (h.fits c).closing⟩ (h.creating c) (h.held c)
    · cases hstep
  | badParameter =>
    simp only [Plotter.step] at hstep
    split at hstep
    · obtain rfl := Option.some.inj hstep
      exact ⟨h.fits, h.creating, by simp [Remote.Holds], by simp⟩
    · cases hstep
  | remote ok => exact h.remoteStep horder hstep

/-- A step that is not in order leads to a state that should not be. -/
lemma Inv.not_safe (h : s.Inv) {e : Event n} (horder : ¬ s.Orderly e)
    (hstep : Plotter.step s e = some s') : ¬ s'.Safe := by
  intro hsafe
  cases e with
  | thread i k input =>
    unfold Orderly at horder
    push Not at horder
    obtain ⟨t, ht, hplace⟩ := horder
    obtain ⟨u, hu, hstep⟩ := Option.bind_eq_some_iff.mp hstep
    obtain rfl := Option.some.inj (ht.symm.trans hu)
    obtain ⟨o, ho, hstep⟩ := Option.bind_eq_some_iff.mp hstep
    obtain rfl := Option.some.inj hstep
    obtain ⟨hthreads, rfl⟩ := (h.fits i).eq_singleton ht
    have hslot := slots_setSlot_self s i ((s.slots i).after 0 o)
    have hended := hsafe.ended i
    have hclosing := hsafe.closing i
    dsimp only at hended hclosing
    rw [hslot] at hended hclosing
    obtain ⟨hnil, hpending, hleft⟩ | ⟨hmarked, hopen⟩ :=
      (h.fits i).after_of_not_orderly hthreads (Thread.moves_of_step ho) hplace
    · exact hleft (hended hnil hpending)
    · exact hopen (hclosing hmarked)
  | control result =>
    unfold Orderly at horder
    push Not at horder
    obtain ⟨i, hscan, hoffline, t, ht, -⟩ := horder
    simp only [Plotter.step, Plotter.controlStep, hscan, i.isLt, dif_pos, Fin.eta, hoffline,
      ne_eq, not_true_eq_false, if_false] at hstep
    obtain rfl := Option.some.inj hstep
    have hnil : (s.slots i).threads = [] := hsafe.starts i rfl
    simp [hnil] at ht
  | remote ok =>
    unfold Orderly at horder
    push Not at horder
    obtain ⟨c, i, hmarking, hpending, hthreads⟩ := horder
    simp only [Plotter.step, Plotter.remoteStep, hmarking] at hstep
    obtain rfl := Option.some.inj hstep
    have hended := hsafe.ended i
    dsimp only at hended
    rw [slots_setSlot_self] at hended
    obtain hleft | hleft := hended hthreads (by simpa using hpending)
    · cases hleft
    · cases hleft
  | shutdown | addConnection | setName | addProcessor | badParameter => exact horder trivial

/-- **The connections of the load plotter.**  Every connection has one thread and is closed once
throughout a run exactly when all its steps are in order. -/
theorem safe_throughout_iff (file : Fin n → Option Entry) (es : List (Event n)) :
    LabelledSystem.Throughout step Safe (init file) es ↔
      LabelledSystem.Along step Orderly (init file) es := by
  refine LabelledSystem.throughout_iff_along (I := Inv) ?_ (fun s => Inv.safe) ?_ (inv_init file)
  · intro s e s' h horder hstep
    exact h.step horder hstep
  · intro s e s' h horder hstep
    exact h.not_safe horder hstep

/-- One connection, with a processor that the user has given. -/
def oneEntry : Fin 1 → Option Entry := fun _ => some ⟨['n'], [['p']], false⟩

attribute [local instance] NamedInstances.neZero_one

/-- The thread of the connection cannot connect and ends; the control thread wakes up while it makes the
plots. -/
def startedWhileClosed : List (Event 1) :=
  [.control .ok, .control .ok, .control .ok, .control .ok, .control .ok,
    .thread 0 0 .none, .thread 0 0 (.processors none), .thread 0 0 .none, .thread 0 0 .none,
    .thread 0 0 (.connected .refused 3), .thread 0 0 .none, .thread 0 0 .none, .thread 0 0 .none,
    .thread 0 0 .none, .control .ok, .control .ok, .control .ok]

/-- Then the connection has a second thread, and the first one sets it to `NOT_USED`. -/
theorem startedWhileClosed_not_safe :
    ((LabelledSystem.exec step (init oneEntry) startedWhileClosed).map fun s =>
        (s.slots 0).threads.map Thread.pc) = some [.setNotUsed, .created] ∧
      ((LabelledSystem.exec step (init oneEntry) (startedWhileClosed ++ [.thread 0 0 .none])).map
        fun s => ((s.slots 0).threads.map Thread.pc, (s.slots 0).con.status)) =
          some ([.created], .notUsed) ∧
      ¬ LabelledSystem.Throughout step Safe (init oneEntry) startedWhileClosed := by
  refine ⟨rfl, rfl, fun h => ?_⟩
  obtain ⟨s, hs⟩ : ∃ s, LabelledSystem.exec step (init oneEntry) startedWhileClosed = some s := ⟨_, rfl⟩
  have hone := (h.last hs).one 0
  obtain rfl := Option.some.inj hs
  exact absurd hone (by decide)

end Plotter

end LoadPlotter

import StTools.ConKeeper.CloseRequest

/-!
# Resets of the connection keeper

A reset is a status of the application that the threads react to: connection threads end, the control
thread sets every listener to `LISTENER_TO_BE_CONFIGURED`, whatever it was, and when there are no
connections left it sets the application to `CONKEEPER_TO_BE_CONFIGURED`.  A listener thread that runs goes
on and waits for its configuration.  The heartbeat thread ends when it sees the reset, and nobody starts it
again.

`recoverable_of_along` says that a reset does not go wrong in another way: the two things to avoid are
that the heartbeat thread looks at the status during a reset, and that a listener without a thread is reset.
-/

namespace ConKeeper

/-! ## The listeners -/

/-- `ListenerStatus`. -/
inductive ListenerStatus
  | off
  | starting
  | toBeConfigured
  | on
  | faulty
  | toBeStarted
  | toBeClosed
  | notUsed
  deriving Repr, DecidableEq

/-- `Listener`. -/
structure Listener where
  /-- The type of its connections. -/
  type : ConnectionType
  /-- The port. -/
  port : ℤ
  /-- The address of the server in the first zone. -/
  primaryIpHost : List Char
  /-- And in the second. -/
  secondaryIpHost : List Char
  /-- The status. -/
  status : ListenerStatus
  /-- `threadID` is not zero. -/
  threadID : Bool
  deriving Repr, DecidableEq

/-- Where a listener thread is. -/
inductive ListenPc
  /-- It was created, and has not begun. -/
  | created
  /-- It is going to say that it is starting. -/
  | starting
  /-- It opens its socket. -/
  | opening
  /-- At the top of the loop. -/
  | loop
  /-- At the switch, with the status and the address that it has seen. -/
  | switch (status : ListenerStatus) (myIpHost : List Char)
  /-- In `resetAndExit_Listener`. -/
  | closing
  deriving Repr, DecidableEq

/-- The address of a listener that is not to be used. -/
def notUsedHost : List Char := ['0', '.', '0', '.', '0', '.', '0']

/-- A step of a listener thread: the listener, and the place if the thread goes on.  What it does may
fail: opening the socket, and the creation of threads for an accepted connection. -/
def ListenPc.step (app : ApplicationData) (l : Listener) (ok : Bool) :
    ListenPc → Listener × Option ListenPc
  | .created => if app.status = .haveToExit then (l, none) else (l, some .starting)
  | .starting => ({ l with status := .starting }, some .opening)
  | .opening => if ok then (l, some .loop) else (l, some .closing)
  | .loop =>
    if app.status = .haveToExit then (l, some .closing)
    else (l, some (.switch l.status l.primaryIpHost))
  | .switch .starting myIpHost =>
    ({ l with status := if myIpHost = [] then .toBeConfigured else .on }, some .loop)
  | .switch .toBeConfigured myIpHost =>
    ({ l with
      status := if myIpHost = notUsedHost then .notUsed else if myIpHost = [] then l.status else .on },
      some .loop)
  | .switch .toBeClosed _ => (l, some .closing)
  | .switch .on _ => if ok then (l, some .loop) else (l, some .closing)
  | .switch _ _ => (l, some .loop)
  | .closing =>
    ({ l with
      status := if app.status = .haveToExit then .off else .toBeStarted
      threadID := false }, none)

/-- A listener with the threads that run on it. -/
structure ListenerSlot where
  /-- The listener. -/
  listener : Listener
  /-- The threads. -/
  threads : List ListenPc
  deriving Repr, DecidableEq

/-- A listener that is to be configured has a thread, which waits for that. -/
def ListenerSlot.Attended (slot : ListenerSlot) : Prop :=
  slot.listener.status = .toBeConfigured → slot.threads ≠ []

/-- The command `setdesthost`. -/
structure DestHost where
  /-- The type of the listeners; no listener has the type of `ALL`. -/
  type : ConnectionType
  /-- The port. -/
  port : ℤ
  /-- The address is that of a listener that is not to be used. -/
  notUsed : Bool
  /-- The address of the first server. -/
  primaryIp : List Char
  /-- That of the second, or empty. -/
  secondaryIp : List Char
  deriving Repr, DecidableEq

/-- The listener is one that the command configures. -/
def DestHost.Matches (d : DestHost) (l : Listener) : Prop :=
  l.type = d.type ∧ l.status = .toBeConfigured

instance (d : DestHost) (l : Listener) : Decidable (d.Matches l) := inferInstanceAs (Decidable (_ ∧ _))

/-- The listener with its configuration. -/
def DestHost.configure (d : DestHost) (l : Listener) : Listener :=
  { l with
    port := d.port
    status := if l.port = d.port then l.status else .toBeClosed
    primaryIpHost := d.primaryIp
    secondaryIpHost := if d.secondaryIp = [] then l.secondaryIpHost else d.secondaryIp }

/-- What `setdesthost` does to the listeners; the first one only, when it is not to be used. -/
def DestHost.apply (d : DestHost) : List ListenerSlot → List ListenerSlot
  | [] => []
  | slot :: slots =>
    if d.Matches slot.listener then
      if d.notUsed then { slot with listener := { slot.listener with status := .notUsed } } :: slots
      else { slot with listener := d.configure slot.listener } :: d.apply slots
    else slot :: d.apply slots

/-- The listeners after the command are those of before, and none has become one to be configured. -/
lemma DestHost.mem_apply {d : DestHost} {slots : List ListenerSlot} {slot : ListenerSlot}
    (h : slot ∈ d.apply slots) : ∃ old ∈ slots, slot.threads = old.threads ∧
      (slot.listener.status = .toBeConfigured → old.listener.status = .toBeConfigured) := by
  induction slots with
  | nil => cases h
  | cons first rest ih =>
    have htail : slot ∈ d.apply rest → ∃ old ∈ first :: rest, slot.threads = old.threads ∧
        (slot.listener.status = .toBeConfigured → old.listener.status = .toBeConfigured) := by
      intro hrest
      obtain ⟨old, hold, hthreads, hstatus⟩ := ih hrest
      exact ⟨old, List.mem_cons_of_mem first hold, hthreads, hstatus⟩
    unfold DestHost.apply at h
    split_ifs at h with hmatches hnotUsed
    · obtain rfl | hrest := List.mem_cons.mp h
      · exact ⟨first, List.mem_cons_self, rfl, fun _ => hmatches.2⟩
      · exact ⟨slot, List.mem_cons_of_mem first hrest, rfl, id⟩
    · obtain rfl | hrest := List.mem_cons.mp h
      · exact ⟨first, List.mem_cons_self, rfl, fun _ => hmatches.2⟩
      · exact htail hrest
    · obtain rfl | hrest := List.mem_cons.mp h
      · exact ⟨slot, List.mem_cons_self, rfl, id⟩
      · exact htail hrest

/-- A thread that ends leaves its listener as one to be started, unless the application exits. -/
lemma ListenPc.step_ends {app : ApplicationData} {l : Listener} {ok : Bool} {pc : ListenPc}
    (hends : (pc.step app l ok).2 = none) (hexit : app.status ≠ .haveToExit) :
    (pc.step app l ok).1.status = .toBeStarted := by
  cases pc with
  | created => simp [ListenPc.step, hexit] at hends
  | starting => cases hends
  | opening => cases ok <;> cases hends
  | loop => simp [ListenPc.step, hexit] at hends
  | switch status myIpHost => cases status <;> cases ok <;> cases hends
  | closing => simp [ListenPc.step, hexit]

/-! ## The other threads -/

/-- Where the heartbeat thread is. -/
inductive HeartbeatPc
  /-- At the top of the loop. -/
  | loop
  /-- Before the test of the redundancy. -/
  | test
  /-- Before the switch over the active zone. -/
  | switch
  /-- It connects to a server, when it has seen this zone. -/
  | connect (zone : ActiveZone)
  /-- The server answers. -/
  | answered (zone : ActiveZone)
  /-- It has exited. -/
  | exited
  deriving Repr, DecidableEq

/-- The heartbeat thread. -/
structure Heartbeat where
  /-- Where it is. -/
  pc : HeartbeatPc
  /-- `TryToconnecTo`. -/
  tryToConnectTo : ActiveZone
  deriving Repr, DecidableEq

/-- What `checkConnection` gives. -/
inductive CheckResult
  | ok
  | notOk
  /-- There is no socket, and the thread exits with a signal. -/
  | fails
  deriving Repr, DecidableEq

/-- The zone that is checked, when the thread has seen a zone. -/
def Heartbeat.checked (h : Heartbeat) : ActiveZone → ActiveZone
  | .unknown => h.tryToConnectTo
  | .primary => .secondary
  | .secondary => .primary

/-- A step of the heartbeat thread. -/
def Heartbeat.step (app : ApplicationData) (h : Heartbeat) (result : CheckResult) :
    Option (ApplicationData × Heartbeat) :=
  match h.pc with
  | .loop => if app.ends then some (app, { h with pc := .exited }) else some (app, { h with pc := .test })
  | .test =>
    if app.redundancy then some (app, { h with pc := .switch })
    else some ({ app with activeZone := .unknown }, { h with pc := .loop })
  | .switch => some (app, { h with pc := .connect app.activeZone })
  | .connect zone =>
    match result with
    | .ok => some (app, { h with pc := .answered zone })
    | .notOk =>
      some (app,
        { pc := .loop
          tryToConnectTo :=
            if zone = .unknown then
              if h.tryToConnectTo = .primary then .secondary else .primary
            else h.tryToConnectTo })
    | .fails => some (app, { h with pc := .exited })
  | .answered zone => some ({ app with activeZone := h.checked zone }, { h with pc := .loop })
  | .exited => none

/-- A step of the heartbeat thread leaves the status of the application; the thread exits when it sees a
status that ends it, or when its socket fails. -/
lemma Heartbeat.step_cases {app : ApplicationData} {h : Heartbeat} {result : CheckResult}
    {next : ApplicationData × Heartbeat} (hstep : h.step app result = some next) :
    next.1.status = app.status ∧
      (next.2.pc = .exited →
        (h.pc = .loop ∧ app.ends) ∨ ∃ zone, h.pc = .connect zone ∧ result = .fails) := by
  unfold Heartbeat.step at hstep
  cases hpc : h.pc with
  | loop =>
    simp only [hpc] at hstep
    split_ifs at hstep with hends <;> obtain rfl := Option.some.inj hstep
    · exact ⟨rfl, fun _ => .inl ⟨rfl, hends⟩⟩
    · exact ⟨rfl, nofun⟩
  | test =>
    simp only [hpc] at hstep
    split_ifs at hstep <;> obtain rfl := Option.some.inj hstep <;> exact ⟨rfl, nofun⟩
  | switch =>
    simp only [hpc] at hstep
    obtain rfl := Option.some.inj hstep
    exact ⟨rfl, nofun⟩
  | connect zone =>
    simp only [hpc] at hstep
    cases result with
    | ok => obtain rfl := Option.some.inj hstep; exact ⟨rfl, nofun⟩
    | notOk => obtain rfl := Option.some.inj hstep; exact ⟨rfl, nofun⟩
    | fails => obtain rfl := Option.some.inj hstep; exact ⟨rfl, fun _ => .inr ⟨zone, rfl, rfl⟩⟩
  | answered zone =>
    simp only [hpc] at hstep
    obtain rfl := Option.some.inj hstep
    exact ⟨rfl, nofun⟩
  | exited => simp [hpc] at hstep

/-- Where the control thread is. -/
inductive ControlPc
  | asleep
  /-- It has seen that the application is starting, to be configured or to be reset. -/
  | look (status : ConKeeperStatus)
  /-- In a pass of `CONKEEPER_STARTING`, with a copy of the listeners. -/
  | starting (copy : List Listener) (i : ℕ) (pending : Bool)
  /-- Of `CONKEEPER_TO_BE_CONFIGURED`. -/
  | configuring (copy : List Listener) (i : ℕ) (pending : Bool)
  /-- Of `CONKEEPER_TO_BE_RESET`. -/
  | resetting (copy : List Listener) (i : ℕ)
  /-- It has reset the listeners, and looks for connections. -/
  | closing
  | exited
  deriving Repr, DecidableEq

/-- Where the remote thread is, in `getStatus`. -/
inductive StatusPc
  | waiting
  /-- At the listener `i`. -/
  | checking (i : ℕ)
  deriving Repr, DecidableEq

/-- The program. -/
structure Keeper where
  /-- `v_listeners`. -/
  listeners : List ListenerSlot
  /-- The data of the application. -/
  app : ApplicationData
  /-- The heartbeat thread. -/
  heartbeat : Heartbeat
  /-- The control thread. -/
  control : ControlPc
  /-- The remote thread. -/
  remote : StatusPc
  /-- Ghost: there was a reset. -/
  reset : Bool
  deriving DecidableEq

/-- What can happen. -/
inductive Keeper.Event
  /-- The application is to be reset, by a command or by a connection thread. -/
  | reset
  /-- It is to exit. -/
  | exit
  /-- The command `getStatus`, when the application is to be reset. -/
  | getStatus
  /-- A step of it. -/
  | remote
  /-- The command `setdesthost`. -/
  | setDestHost (d : DestHost)
  /-- The command `add`, with the address of the host, or without one. -/
  | add (type : ConnectionType) (port : ℤ) (host : List Char)
  /-- A step of a listener thread. -/
  | listener (i k : ℕ) (ok : Bool)
  /-- A step of the heartbeat thread. -/
  | heartbeat (result : CheckResult)
  /-- A step of the control thread: whether it can create a thread, or whether no connection is left. -/
  | control (ok : Bool)
  deriving DecidableEq

namespace Keeper

/-- A listener thread is created. -/
def createThread (s : Keeper) (i : ℕ) : List ListenerSlot :=
  match s.listeners[i]? with
  | some slot =>
    s.listeners.set i
      ⟨{ slot.listener with threadID := true }, slot.threads ++ [.created]⟩
  | none => s.listeners

/-- A listener is reset. -/
def resetListener (s : Keeper) (i : ℕ) : List ListenerSlot :=
  match s.listeners[i]? with
  | some slot =>
    s.listeners.set i
      { slot with
        listener := { slot.listener with
          primaryIpHost := [], secondaryIpHost := [], status := .toBeConfigured } }
  | none => s.listeners

/-- The status at the end of a pass of `CONKEEPER_TO_BE_CONFIGURED`. -/
def statusAfterPass (app : ApplicationData) (pending : Bool) : ConKeeperStatus :=
  if pending = false ∧
      ((app.redundancy = true ∧ app.activeZone ≠ .unknown) ∨
        (app.redundancy = false ∧ app.activeZone = .unknown)) then .ready
  else app.status

lemma statusAfterPass_cases (app : ApplicationData) (pending : Bool) :
    statusAfterPass app pending = .ready ∨ statusAfterPass app pending = app.status := by
  unfold statusAfterPass
  split_ifs
  · exact .inl rfl
  · exact .inr rfl

/-- A step of the control thread.  The passes in `CONKEEPER_READY` are about connections only. -/
def controlStep (s : Keeper) (ok : Bool) : Option Keeper :=
  match s.control with
  | .asleep =>
    match s.app.status with
    | .ready => some s
    | .haveToExit => some { s with control := .exited }
    | status => some { s with control := .look status }
  | .look .starting =>
    some { s with control := .starting (s.listeners.map ListenerSlot.listener) 0 false }
  | .look .toBeConfigured =>
    some { s with control := .configuring (s.listeners.map ListenerSlot.listener) 0 false }
  | .look .toBeReset =>
    some { s with control := .resetting (s.listeners.map ListenerSlot.listener) 0 }
  | .look _ => none
  | .starting copy i pending =>
    match copy[i]? with
    | some l =>
      if l.status = .toBeStarted then
        some { s with
          listeners := if ok then s.createThread i else s.listeners
          control := .starting copy (i + 1) true }
      else some { s with control := .starting copy (i + 1) pending }
    | none =>
      if pending then some { s with control := .asleep }
      else some { s with app := { s.app with status := .toBeConfigured }, control := .asleep }
  | .configuring copy i pending =>
    match copy[i]? with
    | some l =>
      some { s with
        listeners :=
          if l.status = .toBeStarted ∧ l.threadID = false ∧ ok = true then s.createThread i
          else s.listeners
        control :=
          .configuring copy (i + 1) (pending || (l.status ≠ .on && l.status ≠ .notUsed)) }
    | none =>
      some { s with
        app := { s.app with status := statusAfterPass s.app pending }
        control := .asleep }
  | .resetting copy i =>
    match copy[i]? with
    | some l =>
      if l.status = .toBeConfigured then some { s with control := .resetting copy (i + 1) }
      else some { s with listeners := s.resetListener i, control := .resetting copy (i + 1) }
    | none => some { s with control := .closing }
  | .closing =>
    if ok then
      some { s with
        app := ⟨.toBeConfigured, .unknown, false⟩
        control := .asleep }
    else some { s with control := .asleep }
  | .exited => none

/-- A step of `getStatus`. -/
def remoteStep (s : Keeper) : Option Keeper :=
  match s.remote with
  | .waiting => none
  | .checking i =>
    match s.listeners[i]? with
    | some slot =>
      if slot.listener.status = .toBeConfigured then some { s with remote := .checking (i + 1) }
      else some { s with remote := .waiting }
    | none =>
      some { s with app := { s.app with status := .toBeConfigured }, remote := .waiting }

/-- A listener that is added by a command. -/
def added (type : ConnectionType) (port : ℤ) (host : List Char) : ListenerSlot :=
  ⟨⟨type, port, host, [], if host = [] then .toBeConfigured else .toBeStarted, false⟩, []⟩

/-- A step of a listener thread. -/
def listenerStep (s : Keeper) (i k : ℕ) (ok : Bool) : Option Keeper := do
  let slot ← s.listeners[i]?
  let pc ← slot.threads[k]?
  let next := pc.step s.app slot.listener ok
  return { s with listeners := s.listeners.set i ⟨next.1, nextThreads slot.threads k next.2⟩ }

/-- One step. -/
def step (s : Keeper) : Event → Option Keeper
  | .reset => some { s with app := { s.app with status := .toBeReset }, reset := true }
  | .exit => some { s with app := { s.app with status := .haveToExit } }
  | .getStatus =>
    if s.remote = .waiting ∧ s.app.status = .toBeReset then some { s with remote := .checking 0 }
    else none
  | .remote => s.remoteStep
  | .setDestHost d =>
    some { s with
      listeners := d.apply s.listeners
      app := { s.app with
        redundancy := s.app.redundancy ||
          (d.type = .diameter && !d.notUsed && d.secondaryIp ≠ [] &&
            s.listeners.any fun slot => d.Matches slot.listener) } }
  | .add type port host => some { s with listeners := s.listeners ++ [added type port host] }
  | .listener i k ok => s.listenerStep i k ok
  | .heartbeat result =>
    (s.heartbeat.step s.app result).map fun next => { s with app := next.1, heartbeat := next.2 }
  | .control ok => s.controlStep ok

/-- The listeners of the program: for `LOAD`, `LDAP` and `DIAMETER` connections. -/
def init (loadPort ldapPort diaPort : ℕ) : Keeper where
  listeners := [(.load, loadPort), (.ldap, ldapPort), (.diameter, diaPort)].map fun p =>
    ⟨⟨p.1, p.2, [], [], .toBeStarted, false⟩, []⟩
  app := ⟨.starting, .unknown, false⟩
  heartbeat := ⟨.loop, .primary⟩
  control := .asleep
  remote := .waiting
  reset := false

/-! ## What should hold -/

/-- Nothing is lost: the heartbeat thread runs, and every listener that is to be configured has a thread. -/
def Whole (s : Keeper) : Prop := s.heartbeat.pc ≠ .exited ∧ ∀ slot ∈ s.listeners, slot.Attended

/-- After a reset, the application is whole when it is to be configured and when it is ready. -/
def Recoverable (s : Keeper) : Prop :=
  s.reset = true → s.app.status = .toBeConfigured ∨ s.app.status = .ready → s.Whole

/-- The application does not exit, or none of its threads has ended for that yet. -/
def Lives (s : Keeper) : Prop := s.app.status = .haveToExit → s.Whole

/-- The step is in order: the heartbeat thread does not look during a reset, and no socket fails in it; a
listener that is reset or added to be configured has a thread; and an application that exits is not
given another status. -/
def Orderly (s : Keeper) : Event → Prop
  | .reset => s.Lives
  | .remote => ∀ i, s.remote = .checking i → s.listeners.length ≤ i → s.Lives
  | .add _ _ host => host ≠ []
  | .heartbeat result => s.app.status ≠ .haveToExit →
      (s.heartbeat.pc = .loop → s.app.status ≠ .toBeReset) ∧
        ∀ zone, s.heartbeat.pc = .connect zone → result ≠ .fails
  | .control ok =>
    match s.control with
    | .starting copy i false => copy.length ≤ i → s.Lives
    | .configuring copy i pending =>
      copy.length ≤ i → statusAfterPass s.app pending = .ready → s.Lives
    | .resetting copy i => ∀ l slot, copy[i]? = some l → s.listeners[i]? = some slot →
        l.status ≠ .toBeConfigured → slot.threads ≠ []
    | .closing => ok = true → s.Lives
    | _ => True
  | _ => True

/-! ## The invariant -/

/-- The application exits, or nothing is lost. -/
def Inv (s : Keeper) : Prop := s.app.status = .haveToExit ∨ s.Whole

variable {s s' : Keeper}

/-- An application that is still given another status is whole. -/
lemma Inv.whole (h : s.Inv) (hlives : s.Lives) : s.Whole := h.elim hlives id

lemma Inv.recoverable (h : s.Inv) : s.Recoverable := by
  intro _ hstatus
  obtain hexit | hwhole := h
  · simp [hexit] at hstatus
  · exact hwhole

lemma inv_init (loadPort ldapPort diaPort : ℕ) : (init loadPort ldapPort diaPort).Inv := by
  refine .inr ⟨by simp [init], fun slot hslot hstatus => ?_⟩
  obtain ⟨p, -, rfl⟩ := List.mem_map.mp hslot
  cases hstatus

/-- The listeners are those of before, with one of them replaced by another that has a thread if it is
to be configured. -/
lemma attended_set {slots : List ListenerSlot} {i : ℕ} {slot : ListenerSlot}
    (hslots : ∀ other ∈ slots, other.Attended) (hslot : slot.Attended) :
    ∀ other ∈ slots.set i slot, other.Attended := by
  intro other hother
  obtain hother | rfl := List.mem_or_eq_of_mem_set hother
  · exact hslots other hother
  · exact hslot

/-- A listener for which a thread is created has one. -/
lemma Whole.createThread (h : s.Whole) (i : ℕ) : ∀ slot ∈ s.createThread i, slot.Attended := by
  unfold Keeper.createThread
  cases hslot : s.listeners[i]? with
  | none => exact h.2
  | some slot => exact attended_set h.2 fun _ => by simp

/-- A listener that has a thread may be reset. -/
lemma Whole.resetListener (h : s.Whole) {i : ℕ}
    (hthreads : ∀ slot, s.listeners[i]? = some slot → slot.threads ≠ []) :
    ∀ slot ∈ s.resetListener i, slot.Attended := by
  unfold Keeper.resetListener
  cases hslot : s.listeners[i]? with
  | none => exact h.2
  | some slot => exact attended_set h.2 fun _ => hthreads slot hslot

/-- A step of a listener thread. -/
lemma Inv.listener (h : s.Inv) {i k : ℕ} {ok : Bool}
    (hstep : s.listenerStep i k ok = some s') : s'.Inv := by
  obtain ⟨slot, hslot, hstep⟩ := Option.bind_eq_some_iff.mp hstep
  obtain ⟨pc, hpc, hstep⟩ := Option.bind_eq_some_iff.mp hstep
  obtain rfl := Option.some.inj hstep
  by_cases hexit : s.app.status = .haveToExit
  · exact .inl hexit
  · have hwhole := h.resolve_left hexit
    refine .inr ⟨hwhole.1, attended_set hwhole.2 fun hstatus => ?_⟩
    cases hnext : (pc.step s.app slot.listener ok).2 with
    | some next => exact nextThreads_ne_nil hpc
    | none => simp [ListenPc.step_ends hnext hexit] at hstatus

/-- A step of the heartbeat thread. -/
lemma Inv.heartbeat (h : s.Inv) {result : CheckResult} (horder : s.Orderly (.heartbeat result))
    (hstep : step s (.heartbeat result) = some s') : s'.Inv := by
  obtain ⟨next, hnext, rfl⟩ := Option.map_eq_some_iff.mp hstep
  obtain ⟨hstatus, hpc⟩ := Heartbeat.step_cases hnext
  by_cases hexit : s.app.status = .haveToExit
  · exact .inl (hstatus.trans hexit)
  · obtain ⟨hloop, hconnect⟩ := horder hexit
    have hwhole := h.resolve_left hexit
    refine .inr ⟨?_, hwhole.2⟩
    intro hexited
    obtain ⟨hpc, hends⟩ | ⟨zone, hpc, hfails⟩ := hpc hexited
    · exact hends.elim hexit (hloop hpc)
    · exact hconnect zone hpc hfails

/-- A step of the control thread. -/
lemma Inv.control (h : s.Inv) {ok : Bool} (horder : s.Orderly (.control ok))
    (hstep : s.controlStep ok = some s') : s'.Inv := by
  unfold controlStep at hstep
  unfold Orderly at horder
  cases hcontrol : s.control with
  | asleep =>
    simp only [hcontrol] at hstep
    split at hstep <;> obtain rfl := Option.some.inj hstep <;> exact h
  | look status =>
    cases status <;> simp only [hcontrol, reduceCtorEq] at hstep <;>
      obtain rfl := Option.some.inj hstep <;> exact h
  | starting copy i pending =>
    cases hl : copy[i]? with
    | some l =>
      simp only [hcontrol, hl] at hstep
      split_ifs at hstep <;> obtain rfl := Option.some.inj hstep
      · exact h.imp_right fun hwhole => ⟨hwhole.1, hwhole.createThread i⟩
      · exact h
      · exact h
    | none =>
      simp only [hcontrol, hl] at hstep horder
      cases pending with
      | true => obtain rfl := Option.some.inj hstep; exact h
      | false =>
        obtain rfl := Option.some.inj hstep
        exact .inr (h.whole (horder (List.getElem?_eq_none_iff.mp hl)))
  | configuring copy i pending =>
    cases hl : copy[i]? with
    | some l =>
      simp only [hcontrol, hl] at hstep
      obtain rfl := Option.some.inj hstep
      refine h.imp_right fun hwhole => ⟨hwhole.1, ?_⟩
      dsimp only
      split_ifs
      · exact hwhole.createThread i
      · exact hwhole.2
    | none =>
      simp only [hcontrol, hl] at hstep horder
      obtain rfl := Option.some.inj hstep
      obtain hready | hsame := statusAfterPass_cases s.app pending
      · exact .inr (h.whole (horder (List.getElem?_eq_none_iff.mp hl) hready))
      · exact h.imp_left hsame.trans
  | resetting copy i =>
    cases hl : copy[i]? with
    | some l =>
      simp only [hcontrol, hl] at hstep horder
      split_ifs at hstep with hstatus <;> obtain rfl := Option.some.inj hstep
      · exact h
      · exact h.imp_right fun hwhole => ⟨hwhole.1, hwhole.resetListener fun slot hslot =>
          horder l slot rfl hslot hstatus⟩
    | none =>
      simp only [hcontrol, hl] at hstep
      obtain rfl := Option.some.inj hstep
      exact h
  | closing =>
    simp only [hcontrol] at hstep horder
    split_ifs at hstep with hok <;> obtain rfl := Option.some.inj hstep
    · exact .inr (h.whole (horder hok))
    · exact h
  | exited => simp [hcontrol] at hstep

/-- A step of `getStatus`. -/
lemma Inv.remote (h : s.Inv) (horder : s.Orderly .remote) (hstep : s.remoteStep = some s') :
    s'.Inv := by
  unfold remoteStep at hstep
  cases hremote : s.remote with
  | waiting => simp [hremote] at hstep
  | checking i =>
    cases hslot : s.listeners[i]? with
    | some slot =>
      simp only [hremote, hslot] at hstep
      split at hstep <;> obtain rfl := Option.some.inj hstep <;> exact h
    | none =>
      simp only [hremote, hslot] at hstep
      obtain rfl := Option.some.inj hstep
      exact .inr (h.whole (horder i hremote (List.getElem?_eq_none_iff.mp hslot)))

/-- A step in order keeps the invariant. -/
lemma Inv.step (h : s.Inv) {e : Event} (horder : s.Orderly e) (hstep : s.step e = some s') :
    s'.Inv := by
  cases e with
  | reset =>
    obtain rfl := Option.some.inj hstep
    exact .inr (h.whole horder)
  | exit =>
    obtain rfl := Option.some.inj hstep
    exact .inl rfl
  | getStatus =>
    simp only [Keeper.step] at hstep
    split_ifs at hstep
    obtain rfl := Option.some.inj hstep
    exact h
  | remote => exact h.remote horder hstep
  | setDestHost d =>
    obtain rfl := Option.some.inj hstep
    refine h.imp_right fun hwhole => ⟨hwhole.1, fun slot hslot hstatus => ?_⟩
    obtain ⟨old, hold, hthreads, hbefore⟩ := DestHost.mem_apply hslot
    rw [hthreads]
    exact hwhole.2 old hold (hbefore hstatus)
  | add type port host =>
    obtain rfl := Option.some.inj hstep
    refine h.imp_right fun hwhole => ⟨hwhole.1, fun slot hslot hstatus => ?_⟩
    obtain hslot | hslot := List.mem_append.mp hslot
    · exact hwhole.2 slot hslot hstatus
    · obtain rfl := List.mem_singleton.mp hslot
      simp [added, show host ≠ [] from horder] at hstatus
  | listener i k ok => exact h.listener hstep
  | heartbeat result => exact h.heartbeat horder hstep
  | control ok => exact h.control horder hstep

/-- **A reset is recoverable** in every run in which the heartbeat thread does not look while it lasts, and
no listener without a thread is reset or added to be configured. -/
theorem recoverable_of_along (loadPort ldapPort diaPort : ℕ) {es : List Event}
    (horder : LabelledSystem.Along Keeper.step Orderly (init loadPort ldapPort diaPort) es) :
    LabelledSystem.Throughout Keeper.step Recoverable (init loadPort ldapPort diaPort) es :=
  LabelledSystem.throughout_of_along (fun _ _ _ h horder hstep => h.step horder hstep)
    (fun _ h => h.recoverable) (inv_init loadPort ldapPort diaPort) horder

/-- The control thread creates the threads of the listeners. -/
def startListeners : List Event := List.replicate 6 (.control true)

/-- The application is to be reset, and the control thread does so; other things happen before it looks. -/
def resetWhile (before : List Event) : List Event :=
  .reset :: (before ++ List.replicate 7 (.control true))

/-- The three listeners have their threads after a reset. -/
theorem resetStarted_recoverable :
    ((LabelledSystem.exec Keeper.step (init 1 2 3) (startListeners ++ resetWhile [])).map fun s =>
        (s.app.status, s.listeners.map fun slot => (slot.listener.status, slot.threads))) =
          some (.toBeConfigured, List.replicate 3 (.toBeConfigured, [.created])) ∧
      LabelledSystem.Throughout Keeper.step Recoverable (init 1 2 3)
        (startListeners ++ resetWhile []) := by
  refine ⟨rfl, recoverable_of_along 1 2 3 ?_⟩
  iterate 2
    refine fun s hs => ⟨trivial, ?_⟩
    obtain rfl := Option.some.inj hs
  refine fun s hs => ⟨fun hlength => absurd hlength (by decide), ?_⟩
  obtain rfl := Option.some.inj hs
  iterate 3
    refine fun s hs => ⟨trivial, ?_⟩
    obtain rfl := Option.some.inj hs
  refine fun s hs => ⟨fun hexit => (by cases hexit), ?_⟩
  obtain rfl := Option.some.inj hs
  iterate 2
    refine fun s hs => ⟨trivial, ?_⟩
    obtain rfl := Option.some.inj hs
  iterate 3
    refine fun s hs => ⟨fun l slot _ hslot _ => ?_, ?_⟩
    · obtain rfl := Option.some.inj hslot
      exact List.cons_ne_nil _ _
    obtain rfl := Option.some.inj hs
  refine fun s hs => ⟨fun l _ hl => (by cases hl), ?_⟩
  obtain rfl := Option.some.inj hs
  exact fun s hs => ⟨fun _ hexit => (by cases hexit), trivial⟩

/-- The heartbeat thread looks during the reset and exits; and when the listeners have no threads at the
reset, they never have. -/
theorem resetSeen_not_recoverable :
    (((LabelledSystem.exec Keeper.step (init 1 2 3) (startListeners ++ resetWhile [.heartbeat .ok])).map
        fun s => (s.app.status, s.heartbeat.pc)) = some (.toBeConfigured, .exited) ∧
      ¬ LabelledSystem.Throughout Keeper.step Recoverable (init 1 2 3)
        (startListeners ++ resetWhile [.heartbeat .ok])) ∧
      ¬ LabelledSystem.Throughout Keeper.step Recoverable (init 1 2 3) (resetWhile []) := by
  refine ⟨⟨rfl, fun h => ?_⟩, fun h => ?_⟩
  · obtain ⟨s, hs⟩ : ∃ s, LabelledSystem.exec Keeper.step (init 1 2 3)
      (startListeners ++ resetWhile [.heartbeat .ok]) = some s := ⟨_, rfl⟩
    have hwhole := h.last hs
    obtain rfl := Option.some.inj hs
    exact (hwhole rfl (.inl rfl)).1 rfl
  · obtain ⟨s, hs⟩ : ∃ s, LabelledSystem.exec Keeper.step (init 1 2 3) (resetWhile []) = some s :=
      ⟨_, rfl⟩
    have hwhole := h.last hs
    obtain rfl := Option.some.inj hs
    exact (hwhole rfl (.inl rfl)).2 _ List.mem_cons_self rfl rfl

end Keeper

end ConKeeper

import StTools.DiaProxy.ListenerThread
import StTools.Lib.LabelledSystem
import Mathlib.Algebra.Ring.Parity
import Mathlib.Data.Finset.Lattice.Lemmas
import Mathlib.Data.List.Induction

/-!
# The descriptors a client thread waits for

A client thread keeps the descriptors of its clients in `fds`, with `maxFd` above all of them for
`select`.  A new client raises `maxFd` when its descriptor is not below it.  When a client is closed
the set is built again, and there `maxFd` is raised only by a descriptor *above* it.  So a
descriptor that is exactly `maxFd` is skipped, and the thread does not wait for that client.

The main theorem says which closings do this: those after which the largest descriptor is at the
end of an odd number of steps of one.
-/

namespace DiaProxy

namespace Proxy

/-- The descriptors of the clients of a thread, in the order of the clients. -/
def descriptorsOf (s : Proxy) (thread : ℕ) : List ℤ :=
  (s.clientThread thread).conectionClients.map fun i => (s.client i).sock

end Proxy

/-- `select(maxFd, ...)` on `fds` waits for every client of the thread and for nothing else. -/
structure WatchesClients (s : Proxy) (thread : ℕ) : Prop where
  /-- The set is that of the descriptors of the clients. -/
  fds_eq : (s.clientThread thread).fds = (s.descriptorsOf thread).toFinset
  /-- The bound is above each of them. -/
  lt_maxFd : ∀ sock ∈ s.descriptorsOf thread, sock < (s.clientThread thread).maxFd

/-! ## The bound that the loop leaves -/

/-- The bound after the loop of `closeClient` has put a list of descriptors into the set. -/
def rebuiltMax (socks : List ℤ) : ℤ :=
  socks.foldl (fun maxFd sock => if sock > maxFd then sock + 1 else maxFd) 0

/-- How many of the descriptors `sock - 1`, `sock - 2`, ... come one after the other in a list. -/
def stepsDown : List ℤ → ℤ → ℕ
  | [], _ => 0
  | x :: l, sock => if x = sock - 1 then stepsDown l x + 1 else stepsDown l sock

/-- The number of steps of one that lead up to a descriptor in the list of those before it.  The
loop starts as if `-1` had come first. -/
def stepsBefore (before : List ℤ) (sock : ℤ) : ℕ := stepsDown (before.reverse ++ [-1]) sock

/-- The largest descriptor is at the end of an even number of steps. -/
def LargestCounts (socks : List ℤ) : Prop :=
  ∀ sock ∈ socks.max?, Even (stepsBefore (socks.takeWhile (· ≠ sock)) sock)

instance (socks : List ℤ) : Decidable (LargestCounts socks) :=
  inferInstanceAs (Decidable (∀ sock ∈ socks.max?, _))

/-- The loop takes one more descriptor. -/
lemma rebuiltMax_append_singleton (socks : List ℤ) (sock : ℤ) :
    rebuiltMax (socks ++ [sock]) =
      if sock > rebuiltMax socks then sock + 1 else rebuiltMax socks := by
  rw [rebuiltMax, List.foldl_append]
  rfl

/-- One more descriptor comes before. -/
lemma stepsBefore_append_singleton (before : List ℤ) (x sock : ℤ) :
    stepsBefore (before ++ [x]) sock =
      if x = sock - 1 then stepsBefore before x + 1 else stepsBefore before sock := by
  rw [stepsBefore, List.reverse_append]
  rfl

/-- After descriptors below `sock` the bound is at most `sock`, and it is `sock` after an odd number
of steps. -/
theorem rebuiltMax_eq_iff {before : List ℤ} {sock : ℤ} (hnodup : before.Nodup)
    (hpos : ∀ x ∈ before, 0 ≤ x) (hlt : ∀ x ∈ before, x < sock) (hsock : 0 ≤ sock) :
    rebuiltMax before ≤ sock ∧ (rebuiltMax before = sock ↔ Odd (stepsBefore before sock)) := by
  induction before using List.reverseRecOn generalizing sock with
  | nil =>
    refine ⟨hsock, ?_⟩
    by_cases hzero : sock = 0
    · subst hzero
      exact iff_of_true rfl ⟨0, rfl⟩
    · have hsteps : stepsBefore [] sock = 0 := by
        rw [stepsBefore, List.reverse_nil, List.nil_append, stepsDown, if_neg (by omega)]
        rfl
      rw [hsteps]
      exact iff_of_false (fun h => hzero h.symm) (by decide)
  | append_singleton before x ih =>
    have hx : x ∈ before ++ [x] := by simp
    have hmem : ∀ y ∈ before, y ∈ before ++ [x] := fun y hy => List.mem_append_left _ hy
    have hbefore := (List.nodup_append.mp hnodup).1
    have hne : ∀ y ∈ before, y ≠ x := fun y hy =>
      (List.nodup_append.mp hnodup).2.2 y hy x (List.mem_singleton_self x)
    have hxpos := hpos x hx
    have hxlt := hlt x hx
    rw [rebuiltMax_append_singleton, stepsBefore_append_singleton]
    by_cases hstep : x = sock - 1
    · -- The descriptor just below: it is skipped or counted, and `sock` the other way round.
      have hbelow : ∀ y ∈ before, y < x := fun y hy => by
        have := hlt y (hmem y hy)
        have := hne y hy
        omega
      obtain ⟨hle, heq⟩ := ih hbefore (fun y hy => hpos y (hmem y hy)) hbelow hxpos
      rw [if_pos hstep, Nat.odd_add_one, ← heq]
      split <;> constructor <;> omega
    · -- Any other descriptor leaves the bound below `sock`, or as it was.
      obtain ⟨hle, heq⟩ := ih hbefore (fun y hy => hpos y (hmem y hy))
        (fun y hy => hlt y (hmem y hy)) hsock
      rw [if_neg hstep, ← heq]
      split <;> constructor <;> omega

/-- Descriptors below the bound do not change it. -/
lemma foldl_rebuilt_of_le {maxFd : ℤ} {socks : List ℤ} (h : ∀ x ∈ socks, x ≤ maxFd) :
    socks.foldl (fun maxFd sock => if sock > maxFd then sock + 1 else maxFd) maxFd = maxFd := by
  induction socks with
  | nil => rfl
  | cons x socks ih =>
    rw [List.foldl_cons, if_neg (not_lt.mpr (h x List.mem_cons_self))]
    exact ih fun y hy => h y (List.mem_cons_of_mem x hy)

/-- **What the loop leaves**: the bound is above every descriptor exactly when the largest one is at
the end of an even number of steps. -/
theorem lt_rebuiltMax_iff {socks : List ℤ} (hnodup : socks.Nodup) (hpos : ∀ x ∈ socks, 0 ≤ x) :
    (∀ x ∈ socks, x < rebuiltMax socks) ↔ LargestCounts socks := by
  unfold LargestCounts
  cases hmax : socks.max? with
  | none =>
    rw [List.max?_eq_none_iff] at hmax
    subst hmax
    simp
  | some sock =>
    obtain ⟨hmem, hle⟩ := List.max?_eq_some_iff.mp hmax
    obtain ⟨before, after, rfl⟩ := List.append_of_mem hmem
    obtain ⟨hbefore, hafter, hne⟩ := List.nodup_append.mp hnodup
    have hlt : ∀ x ∈ before, x < sock := fun x hx =>
      lt_of_le_of_ne (hle x (List.mem_append_left _ hx)) (hne x hx sock List.mem_cons_self)
    have htake : (before ++ sock :: after).takeWhile (· ≠ sock) = before := by
      rw [List.takeWhile_append_of_pos fun x hx => decide_eq_true (hlt x hx).ne,
        List.takeWhile_cons_of_neg (by simp), List.append_nil]
    obtain ⟨hbound, hodd⟩ := rebuiltMax_eq_iff hbefore
      (fun x hx => hpos x (List.mem_append_left _ hx)) hlt (hpos sock hmem)
    -- The bound after the largest descriptor stays until the end.
    have hrest : rebuiltMax (before ++ sock :: after) = rebuiltMax (before ++ [sock]) := by
      rw [rebuiltMax, ← List.singleton_append, ← List.append_assoc, List.foldl_append]
      refine foldl_rebuilt_of_le fun x hx => ?_
      have hxle := hle x (List.mem_append_right _ (List.mem_cons_of_mem sock hx))
      change x ≤ rebuiltMax (before ++ [sock])
      rw [rebuiltMax_append_singleton]
      split <;> omega
    have hcount : (∀ x ∈ before ++ sock :: after, x < rebuiltMax (before ++ [sock])) ↔
        rebuiltMax before ≠ sock := by
      rw [rebuiltMax_append_singleton]
      constructor
      · intro h
        have hsock := h sock hmem
        split at hsock <;> omega
      · intro h x hx
        have hxle := hle x hx
        rw [if_pos (lt_of_le_of_ne hbound h)]
        omega
    simp only [Option.mem_def, Option.some.injEq, forall_eq', htake]
    rw [hrest, hcount, ne_eq, hodd, Nat.not_odd_iff_even]

/-! ## What a closing leaves -/

namespace Proxy

/-- The loop at the end of `closeClient` puts the descriptors of the clients into the set. -/
lemma rebuildFds_clientThread {s : Proxy} {thread : ℕ}
    (h : Table.InRange s.vClientThread thread) :
    (s.rebuildFds thread).clientThread thread =
      { s.clientThread thread with
        fds := (s.clientThread thread).fds ∪ (s.descriptorsOf thread).toFinset
        maxFd := (s.descriptorsOf thread).foldl
          (fun maxFd sock => if sock > maxFd then sock + 1 else maxFd)
          (s.clientThread thread).maxFd } := by
  unfold rebuildFds descriptorsOf
  generalize (s.clientThread thread).conectionClients = clients
  induction clients generalizing s with
  | nil =>
    rw [List.map_nil, List.toFinset_nil, Finset.union_empty]
    rfl
  | cons index clients ih =>
    let join (t : ClientThread) : ClientThread :=
      { t with
        fds := insert (s.client index).sock t.fds
        maxFd := if (s.client index).sock > t.maxFd then (s.client index).sock + 1 else t.maxFd }
    have hrange : Table.InRange (Table.modify s.vClientThread thread join) thread :=
      Table.inRange_modify.mpr h
    have hself : ((s.uses (.client index)).setClientThread thread join).clientThread thread =
        join (s.clientThread thread) := Table.read_modify_self _ h
    refine (ih (s := (s.uses (.client index)).setClientThread thread join) hrange).trans ?_
    rw [hself, List.map_cons, List.foldl_cons, List.toFinset_cons, Finset.union_insert,
      ← Finset.insert_union]
    rfl

/-- A client that is closed leaves the slots of the other clients as they are. -/
lemma client_closeClient_of_ne (s : Proxy) (thread : ℕ) {nr : ℕ} {i : ℤ} (h : (nr : ℤ) ≠ i) :
    (s.closeClient thread nr).client i = s.client i := by
  obtain ⟨threads, ⟨_, _, _, _, heq⟩, -, -⟩ := s.closeClient_eq thread nr
  rw [heq]
  exact Table.read_modify_of_ne _ h

/-- The slot of a client that is closed is reset. -/
lemma client_closeClient_self {s : Proxy} (thread : ℕ) {nr : ℕ}
    (h : Table.InRange s.vClient nr) :
    (s.closeClient thread nr).client nr = closedClient (s.client nr) := by
  obtain ⟨threads, ⟨_, _, _, _, heq⟩, -, -⟩ := s.closeClient_eq thread nr
  rw [heq]
  exact Table.read_modify_self _ h

/-- Closing a client keeps the sizes of the tables. -/
lemma length_closeClient (s : Proxy) (thread nr : ℕ) :
    (s.closeClient thread nr).vClient.length = s.vClient.length ∧
      (s.closeClient thread nr).vClientThread.length = s.vClientThread.length := by
  obtain ⟨threads, ⟨_, _, _, _, heq⟩, hlength, -⟩ := s.closeClient_eq thread nr
  rw [heq]
  exact ⟨Table.length_modify s.vClient nr closedClient, hlength⟩

/-- The client that is closed leaves its thread. -/
lemma conectionClients_closeClient (s : Proxy) (thread nr : ℕ) :
    ((s.closeClient thread nr).clientThread thread).conectionClients =
      (s.clientThread thread).conectionClients.erase (s.client nr).pos := by
  obtain ⟨threads, ⟨_, _, _, _, heq⟩, -, hthreads⟩ := s.closeClient_eq thread nr
  rw [heq]
  exact (hthreads thread).2.trans (if_pos rfl)

/-- **What `closeClient` leaves for `select`**: the descriptors of the clients that are left, and
the bound of the loop over them. -/
theorem closeClient_fds {s : Proxy} {thread : ℕ} (nr : ℕ)
    (h : Table.InRange s.vClientThread thread) :
    ((s.closeClient thread nr).clientThread thread).fds =
        ((s.closeClient thread nr).descriptorsOf thread).toFinset ∧
      ((s.closeClient thread nr).clientThread thread).maxFd =
        rebuiltMax ((s.closeClient thread nr).descriptorsOf thread) := by
  obtain ⟨t, heq⟩ : ∃ t : Proxy,
    s.closeClient thread nr = (t.leaveThread thread nr).rebuildFds thread := ⟨_, rfl⟩
  obtain ⟨accesses, threads, hkept, hlength, hsame⟩ := (t.leaveThread thread nr).rebuildFds_eq thread
  have hrange : Table.InRange t.vClientThread thread := by
    have hsize := (s.length_closeClient thread nr).2
    rw [heq, hlength] at hsize
    simp only [leaveThread, setClient, setClientThread, Table.length_modify] at hsize
    exact ⟨h.1, hsize ▸ h.2⟩
  have hdescriptors : (s.closeClient thread nr).descriptorsOf thread =
      (t.leaveThread thread nr).descriptorsOf thread := by
    unfold descriptorsOf
    rw [heq, (hsame thread).2, hkept]
    rfl
  have hleft : (t.leaveThread thread nr).clientThread thread =
      { t.clientThread thread with
        conectionClients := (t.clientThread thread).conectionClients.erase (t.client nr).pos
        fds := ∅
        maxFd := 0 } := Table.read_modify_self _ hrange
  have hrange' : Table.InRange (t.leaveThread thread nr).vClientThread thread := by
    simpa only [leaveThread, setClient, setClientThread, Table.inRange_modify] using hrange
  rw [hdescriptors, heq, rebuildFds_clientThread hrange', hleft]
  exact ⟨Finset.empty_union _, rfl⟩

/-! ## What an addition leaves -/

/-- The additions to the other threads have moved the cursor. -/
def moveCursor (s : Proxy) (next : ℤ) : Proxy := { s with nextClientThread := next }

/-- A free slot is filled for a descriptor and added to the client thread that follows the
cursor. -/
def addClient (s : Proxy) (nr : ℕ) (sock : ℤ) (conFound : ℕ) (next : ℤ) : Proxy :=
  (((s.moveCursor next).storeClient nr sock conFound).addConnectionToClientThread nr).1

/-- **What an addition leaves**: the slot of the client is filled, and its thread has it. -/
theorem addClient_eq {s : Proxy} {nr : ℕ} (sock : ℤ) (conFound : ℕ) {next : ℤ} {thread : ℕ}
    (hnr : nr < s.vClient.length)
    (h : (s.moveCursor next).chooseClientThread = some (thread : ℤ)) :
    (s.addClient nr sock conFound next).vClient =
        Table.modify s.vClient nr (s.acceptedClient nr sock conFound) ∧
      (s.addClient nr sock conFound next).vClientThread =
        Table.modify s.vClientThread thread fun t =>
          { t with
            conectionClients := t.conectionClients ++ [(nr : ℤ)]
            fds := insert sock t.fds
            maxFd := if sock ≥ t.maxFd then sock + 1 else t.maxFd } := by
  have hsock : (((s.moveCursor next).storeClient nr sock conFound).client nr).sock = sock :=
    storeClient_sock (s.moveCursor next) sock conFound hnr
  have hstored : ((s.moveCursor next).storeClient nr sock conFound).chooseClientThread =
    some (thread : ℤ) := h
  unfold addClient
  rw [addConnectionToClientThread_eq hstored, joinThread_eq hsock]
  unfold setClient setClientThread storeClient setClient moveCursor
  refine ⟨?_, rfl⟩
  simp only [Table.modify_modify]
  rfl

end Proxy

/-! ## Additions and closings on one thread -/

/-- What happens to a client thread. -/
inductive SelectEvent
  /-- The listener gives it a client on a descriptor. -/
  | add (nr : ℕ) (sock : ℤ) (conFound : ℕ) (next : ℤ)
  /-- It closes a client, which may have been closed already. -/
  | close (nr : ℕ)

/-- One operation on a client thread.  The slot of a new client is not one that the thread serves,
and its descriptor is not that of a client of the thread. -/
def selectStep (thread : ℕ) (s : Proxy) : SelectEvent → Option Proxy
  | .add nr sock conFound next =>
    if nr < s.vClient.length ∧ (nr : ℤ) ∉ (s.clientThread thread).conectionClients ∧
        0 ≤ sock ∧ sock ∉ s.descriptorsOf thread ∧
        (s.moveCursor next).chooseClientThread = some (thread : ℤ) then
      some (s.addClient nr sock conFound next)
    else none
  | .close nr =>
    if nr < s.vClient.length ∧ thread < s.vClientThread.length then some (s.closeClient thread nr)
    else none

/-- The descriptors of the clients that a closing leaves. -/
def remaining (s : Proxy) (thread nr : ℕ) : List ℤ :=
  ((s.clientThread thread).conectionClients.erase nr).map fun i => (s.client i).sock

/-- When a client is closed, the largest descriptor that is left is at the end of an even number of
steps. -/
def ClosesAllowed (thread : ℕ) (s : Proxy) : SelectEvent → Prop
  | .add _ _ _ _ => True
  | .close nr => LargestCounts (remaining s thread nr)

instance (thread : ℕ) (s : Proxy) (e : SelectEvent) : Decidable (ClosesAllowed thread s e) :=
  match e with
  | .add _ _ _ _ => inferInstanceAs (Decidable True)
  | .close nr => inferInstanceAs (Decidable (LargestCounts (remaining s thread nr)))

/-- The clients of a thread have slots of their own, which know where they are. -/
structure ServesOwnSlots (s : Proxy) (thread : ℕ) : Prop where
  /-- No slot is served twice. -/
  nodup : (s.clientThread thread).conectionClients.Nodup
  /-- The clients are entries of the table. -/
  inRange : ∀ i ∈ (s.clientThread thread).conectionClients, Table.InRange s.vClient i
  /-- Each has its own number. -/
  pos_eq : ∀ i ∈ (s.clientThread thread).conectionClients, (s.client i).pos = i
  /-- Each is online. -/
  online : ∀ i ∈ (s.clientThread thread).conectionClients, (s.client i).status = .online

/-- The invariant of the additions and closings. -/
structure SelectInv (thread : ℕ) (s : Proxy) : Prop where
  /-- The size of the thread table. -/
  length_eq : s.vClientThread.length = maxClientsThreads
  /-- A slot knows its number, or none. -/
  pos : ∀ i, (s.client i).pos = -1 ∨ (s.client i).pos = i
  /-- The clients have slots of their own. -/
  slots : ServesOwnSlots s thread
  /-- Their descriptors differ. -/
  distinct : (s.descriptorsOf thread).Nodup
  /-- They are descriptors. -/
  nonneg : ∀ sock ∈ s.descriptorsOf thread, 0 ≤ sock
  /-- The thread waits for them. -/
  watches : WatchesClients s thread

/-- The clients have descriptors. -/
lemma SelectInv.sock_ne {thread : ℕ} {s : Proxy} (h : SelectInv thread s) :
    ∀ i ∈ (s.clientThread thread).conectionClients, (s.client i).sock ≠ -1 := by
  intro i hi hsock
  have hpos : 0 ≤ (s.client i).sock := h.nonneg _ (List.mem_map.mpr ⟨i, hi, rfl⟩)
  omega

/-- The thread that is chosen is in the table. -/
lemma inRange_of_choose {s : Proxy} {thread : ℕ} (hlength : s.vClientThread.length = maxClientsThreads)
    (h : s.chooseClientThread = some (thread : ℤ)) : Table.InRange s.vClientThread thread := by
  have hle := s.cerData.threads_le
  refine ⟨Int.natCast_nonneg thread, ?_⟩
  unfold Proxy.chooseClientThread at h
  split at h
  · have hpos := s.cerData.threads_pos
    have hthread := Option.some.inj h
    split at hthread <;> omega
  · split at h
    · have hthread := Option.some.inj h
      omega
    · cases h

/-- An addition keeps the invariant. -/
lemma SelectInv.add {thread : ℕ} {s : Proxy} (h : SelectInv thread s) {nr : ℕ} {sock next : ℤ}
    {conFound : ℕ} (hnr : nr < s.vClient.length)
    (hnew : (nr : ℤ) ∉ (s.clientThread thread).conectionClients) (hsock : 0 ≤ sock)
    (hfresh : sock ∉ s.descriptorsOf thread)
    (hchoose : (s.moveCursor next).chooseClientThread = some (thread : ℤ)) :
    SelectInv thread (s.addClient nr sock conFound next) := by
  have hrange : Table.InRange s.vClientThread thread :=
    inRange_of_choose (s := s.moveCursor next) h.length_eq hchoose
  have hslot : Table.InRange s.vClient nr := ⟨Int.natCast_nonneg nr, Int.ofNat_lt.mpr hnr⟩
  obtain ⟨hclients, hthreads⟩ := Proxy.addClient_eq sock conFound hnr hchoose
  generalize s.addClient nr sock conFound next = s' at hclients hthreads ⊢
  have hself : s'.client nr = s.acceptedClient nr sock conFound (s.client nr) := by
    rw [Proxy.client, hclients, Table.read_modify_self _ hslot]
    rfl
  have hother : ∀ i ∈ (s.clientThread thread).conectionClients, s'.client i = s.client i := by
    intro i hi
    rw [Proxy.client, hclients, Table.read_modify_of_ne]
    · rfl
    · rintro rfl
      exact hnew hi
  have hthread : s'.clientThread thread =
      { s.clientThread thread with
        conectionClients := (s.clientThread thread).conectionClients ++ [(nr : ℤ)]
        fds := insert sock (s.clientThread thread).fds
        maxFd := if sock ≥ (s.clientThread thread).maxFd then sock + 1
          else (s.clientThread thread).maxFd } := by
    rw [Proxy.clientThread, hthreads, Table.read_modify_self _ hrange]
    rfl
  have hdescriptors : s'.descriptorsOf thread = s.descriptorsOf thread ++ [sock] := by
    unfold Proxy.descriptorsOf
    rw [hthread, List.map_append, List.map_singleton, hself]
    exact congrArg (· ++ [sock]) (List.map_congr_left fun i hi => congrArg _ (hother i hi))
  have hmember {p : ℤ → Prop} (hold : ∀ i ∈ (s.clientThread thread).conectionClients, p i)
      (hnr : p nr) : ∀ i ∈ (s'.clientThread thread).conectionClients, p i := by
    rw [hthread]
    intro i hi
    rcases List.mem_append.mp hi with hi | hi
    · exact hold i hi
    · exact List.mem_singleton.mp hi ▸ hnr
  constructor
  · rw [hthreads, Table.length_modify, h.length_eq]
  · intro i
    by_cases hi : (nr : ℤ) = i
    · subst hi
      exact Or.inr (by rw [hself]; rfl)
    · rw [Proxy.client, hclients, Table.read_modify_of_ne _ hi]
      exact h.pos i
  · constructor
    · rw [hthread]
      exact List.nodup_append.mpr ⟨h.slots.nodup, List.nodup_singleton _, fun i hi j hj hij =>
        hnew (by rwa [hij, List.mem_singleton.mp hj] at hi)⟩
    · rw [hclients]
      exact hmember (fun i hi => Table.inRange_modify.mpr (h.slots.inRange i hi))
        (Table.inRange_modify.mpr hslot)
    · exact hmember (fun i hi => hother i hi ▸ h.slots.pos_eq i hi) (by rw [hself]; rfl)
    · exact hmember (fun i hi => hother i hi ▸ h.slots.online i hi) (by rw [hself]; rfl)
  · rw [hdescriptors]
    exact List.nodup_append.mpr ⟨h.distinct, List.nodup_singleton _, fun i hi j hj hij =>
      hfresh (by rwa [hij, List.mem_singleton.mp hj] at hi)⟩
  · rw [hdescriptors]
    exact List.forall_mem_append.mpr ⟨h.nonneg, List.forall_mem_singleton.mpr hsock⟩
  · constructor
    · rw [hthread, hdescriptors, List.toFinset_append, ← h.watches.fds_eq]
      exact (Finset.insert_eq _ _).trans (Finset.union_comm _ _)
    · rw [hthread, hdescriptors]
      refine List.forall_mem_append.mpr
        ⟨fun k hk => ?_, List.forall_mem_singleton.mpr ?_⟩
      · have hlt := h.watches.lt_maxFd k hk
        dsimp only
        split <;> omega
      · dsimp only
        split <;> omega

/-- A client that is closed leaves its thread.  One that was closed before is not served. -/
lemma ServesOwnSlots.conectionClients_closeClient {s : Proxy} {thread nr : ℕ}
    (h : ServesOwnSlots s thread) (hpos : (s.client nr).pos = -1 ∨ (s.client nr).pos = nr) :
    ((s.closeClient thread nr).clientThread thread).conectionClients =
      (s.clientThread thread).conectionClients.erase nr := by
  rw [s.conectionClients_closeClient]
  rcases hpos with hnone | hpos
  · have hnr : (nr : ℤ) ∉ (s.clientThread thread).conectionClients := by
      intro hmem
      have hknown := h.pos_eq nr hmem
      omega
    have hnot : (-1 : ℤ) ∉ (s.clientThread thread).conectionClients := fun hmem =>
      absurd (h.inRange (-1) hmem).1 (by decide)
    rw [hnone, List.erase_of_not_mem hnr, List.erase_of_not_mem hnot]
  · rw [hpos]

/-- The clients that a closing leaves still have slots of their own. -/
lemma ServesOwnSlots.close {s : Proxy} {thread nr : ℕ} (h : ServesOwnSlots s thread)
    (hpos : (s.client nr).pos = -1 ∨ (s.client nr).pos = nr) :
    ServesOwnSlots (s.closeClient thread nr) thread := by
  have hclients := h.conectionClients_closeClient hpos
  have hlength := (s.length_closeClient thread nr).1
  have hmember {p : ClientConnection → ℤ → Prop}
      (hold : ∀ i ∈ (s.clientThread thread).conectionClients, p (s.client i) i) :
      ∀ i ∈ ((s.closeClient thread nr).clientThread thread).conectionClients,
        p ((s.closeClient thread nr).client i) i := by
    rw [hclients]
    intro i hi
    obtain ⟨hne, hi⟩ := h.nodup.mem_erase_iff.mp hi
    rw [s.client_closeClient_of_ne thread (Ne.symm hne)]
    exact hold i hi
  constructor
  · rw [hclients]
    exact h.nodup.erase _
  · exact hmember (p := fun _ i => Table.InRange (s.closeClient thread nr).vClient i)
      fun i hi => ⟨(h.inRange i hi).1, hlength ▸ (h.inRange i hi).2⟩
  · exact hmember (p := fun c i => c.pos = i) h.pos_eq
  · exact hmember (p := fun c _ => c.status = .online) h.online

/-- The descriptors after a closing are those that remain. -/
lemma ServesOwnSlots.descriptorsOf_closeClient {s : Proxy} {thread nr : ℕ}
    (h : ServesOwnSlots s thread) (hpos : (s.client nr).pos = -1 ∨ (s.client nr).pos = nr) :
    (s.closeClient thread nr).descriptorsOf thread = remaining s thread nr := by
  unfold Proxy.descriptorsOf remaining
  rw [h.conectionClients_closeClient hpos]
  refine List.map_congr_left fun i hi => ?_
  have hne : i ≠ nr := (h.nodup.mem_erase_iff.mp hi).1
  rw [s.client_closeClient_of_ne thread hne.symm]

/-- What remains is a part of what there was. -/
lemma remaining_sublist (s : Proxy) (thread nr : ℕ) :
    (remaining s thread nr).Sublist (s.descriptorsOf thread) :=
  (List.erase_sublist).map _

/-- After a closing the thread waits for the clients that are left exactly when the largest
descriptor is counted. -/
lemma SelectInv.watchesClients_close {thread : ℕ} {s : Proxy} (h : SelectInv thread s) {nr : ℕ}
    (hthread : thread < s.vClientThread.length) :
    WatchesClients (s.closeClient thread nr) thread ↔ LargestCounts (remaining s thread nr) := by
  obtain ⟨hfds, hmax⟩ := Proxy.closeClient_fds nr (s := s)
    ⟨Int.natCast_nonneg thread, Int.ofNat_lt.mpr hthread⟩
  have hdescriptors := h.slots.descriptorsOf_closeClient (h.pos nr)
  have hsub := remaining_sublist s thread nr
  rw [← lt_rebuiltMax_iff (hsub.nodup h.distinct) fun x hx => h.nonneg x (hsub.subset hx),
    ← hdescriptors, ← hmax]
  exact ⟨fun hw => hw.lt_maxFd, fun hlt => ⟨hfds, hlt⟩⟩

/-- An allowed closing keeps the invariant. -/
lemma SelectInv.close {thread : ℕ} {s : Proxy} (h : SelectInv thread s) {nr : ℕ}
    (hnr : nr < s.vClient.length) (hthread : thread < s.vClientThread.length)
    (hcounts : LargestCounts (remaining s thread nr)) :
    SelectInv thread (s.closeClient thread nr) := by
  have hdescriptors := h.slots.descriptorsOf_closeClient (h.pos nr)
  have hsub := remaining_sublist s thread nr
  constructor
  · exact (s.length_closeClient thread nr).2.trans h.length_eq
  · intro i
    by_cases hi : (nr : ℤ) = i
    · subst hi
      rw [Proxy.client_closeClient_self thread ⟨Int.natCast_nonneg nr, Int.ofNat_lt.mpr hnr⟩]
      exact Or.inl rfl
    · rw [s.client_closeClient_of_ne thread hi]
      exact h.pos i
  · exact h.slots.close (h.pos nr)
  · rw [hdescriptors]
    exact hsub.nodup h.distinct
  · rw [hdescriptors]
    exact fun x hx => h.nonneg x (hsub.subset hx)
  · exact (h.watchesClients_close hthread).mpr hcounts

/-- Before the first client. -/
lemma selectInv_init (cerData : CerData) (thread : ℕ) : SelectInv thread (Proxy.init cerData) := by
  have hempty : (Proxy.init cerData).clientThread thread = {} := Table.read_replicate _ _ _
  have hclient (i : ℤ) : (Proxy.init cerData).client i = {} := Table.read_replicate _ _ _
  have hclients : ((Proxy.init cerData).clientThread thread).conectionClients = [] := by rw [hempty]
  have hdescriptors : (Proxy.init cerData).descriptorsOf thread = [] := by
    rw [Proxy.descriptorsOf, hclients, List.map_nil]
  constructor
  · exact List.length_replicate
  · exact fun i => Or.inl (by rw [hclient])
  · constructor <;> simp [hclients]
  · simp [hdescriptors]
  · simp [hdescriptors]
  · constructor <;> simp [hdescriptors, hempty]

/-- **When a client thread waits for all its clients.**  In a run of additions and closings on one
thread, `fds` and `maxFd` cover the clients in every state exactly when every closing leaves a list
of descriptors whose largest is at the end of an even number of steps. -/
theorem watchesClients_throughout_iff (cerData : CerData) (thread : ℕ) (es : List SelectEvent) :
    LabelledSystem.Throughout (selectStep thread) (fun s => WatchesClients s thread)
        (Proxy.init cerData) es ↔
      LabelledSystem.Along (selectStep thread) (ClosesAllowed thread) (Proxy.init cerData) es := by
  refine LabelledSystem.throughout_iff_along (I := SelectInv thread) ?_ (fun s h => h.watches) ?_
    (selectInv_init cerData thread)
  · intro s e s' h hallowed hstep
    cases e with
    | add nr sock conFound next =>
      obtain ⟨⟨hnr, hnew, hsock, hfresh, hchoose⟩, heq⟩ := Option.ite_none_right_eq_some.mp hstep
      obtain rfl := Option.some.inj heq
      exact h.add hnr hnew hsock hfresh hchoose
    | close nr =>
      obtain ⟨⟨hnr, hthread⟩, heq⟩ := Option.ite_none_right_eq_some.mp hstep
      obtain rfl := Option.some.inj heq
      exact h.close hnr hthread hallowed
  · intro s e s' h hbreak hstep hwatches
    cases e with
    | add nr sock conFound next => exact hbreak trivial
    | close nr =>
      obtain ⟨⟨-, hthread⟩, heq⟩ := Option.ite_none_right_eq_some.mp hstep
      obtain rfl := Option.some.inj heq
      exact hbreak ((h.watchesClients_close hthread).mp hwatches)

/-- A proxy with four slots for clients and transactions. -/
def fewSlots : CerData := .fourSlots

/-- Three clients come, and the last one goes. -/
def lastCloses (first second third : ℤ) : List SelectEvent :=
  [.add 0 first 0 (-1), .add 1 second 0 (-1), .add 2 third 0 (-1), .close 2]

/-- Descriptors that are not next to each other are counted. -/
example : LabelledSystem.Along (selectStep 0) (ClosesAllowed 0) (Proxy.init fewSlots)
    (lastCloses 5 7 9) := by decide +kernel

/-- The descriptors 5 and 6 are left, but the thread asks for those below 6 only. -/
theorem lastCloses_not_watched :
    ((LabelledSystem.exec (selectStep 0) (Proxy.init fewSlots) (lastCloses 5 6 7)).map fun s =>
        (s.descriptorsOf 0, (s.clientThread 0).maxFd)) = some ([5, 6], 6) ∧
      ¬ LabelledSystem.Throughout (selectStep 0) (fun s => WatchesClients s 0)
        (Proxy.init fewSlots) (lastCloses 5 6 7) := by
  have hrun : ((LabelledSystem.exec (selectStep 0) (Proxy.init fewSlots) (lastCloses 5 6 7)).map
      fun s => (s.descriptorsOf 0, (s.clientThread 0).maxFd)) = some ([5, 6], 6) := by
    decide +kernel
  refine ⟨hrun, fun h => ?_⟩
  obtain ⟨s, hexec, hs⟩ := Option.map_eq_some_iff.mp hrun
  obtain ⟨hdescriptors, hmax⟩ := Prod.mk.inj hs
  have hlt := (h.last hexec).lt_maxFd 6 (by
    rw [hdescriptors]
    decide)
  rw [Nat.cast_zero, hmax] at hlt
  exact absurd hlt (by decide)

end DiaProxy

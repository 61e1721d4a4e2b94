import StTools.RunTitansim.PythonText
import StTools.Lib.LabelledSystem
import StTools.Lib.TextSearch
import StTools.Lib.NamedInstances

/-!
# The thread that talks to the TTCN command line

Other threads put requests on the queue of a `TTCNClient` and wait for one answer each.  The thread
takes the requests one by one, executes them over a telnet connection and puts what they return on the
queue of the requester; when there is no request it keeps the connection alive.

Every step of a request may find that the connection was closed, lose the prompt or raise.  Only an
empty queue is caught around a request, so an exception that leaves it ends the thread without an
answer.  `answersAll_iff` says in which runs every request gets its answer.
-/

namespace HssRtc.Ttcn

open ScenarioDeployGenerator (Text)
open RunTitansim (strip splitlines)
open TextSearch LabelledSystem

attribute [local instance] NamedInstances.lawfulBEq_list

/-! ## Data -/

/-- What may leave a request. -/
inductive Raised
  /-- `result` is read and was never bound. -/
  | unboundLocalError
  /-- A format with more arguments than conversions. -/
  | typeError
  deriving DecidableEq

/-- What a request returns. -/
inductive Answer
  | none
  | bool (b : Bool)
  | text (t : Text)
  deriving DecidableEq

/-- The variables that control a phase. -/
structure PhaseControl where
  mode : Text := "ScGrpMode".toList
  phase : Text := "ScGrpCurrentPhase".toList
  start : Text := "ScGrpStart".toList
  terminate : Text := "ScGrpTerminate".toList
  status : Text := "ScGrpStatus".toList

/-- A request: the call that its action and its arguments stand for. -/
inductive Request
  | getValue (variableName : Text) (led : Bool)
  | setValue (variableName value : Text)
  | startPhase (phaseName : Text)
  | stopPhase
  deriving DecidableEq

/-- What happens when a step of a request uses the connection. -/
inductive Behaviour
  /-- The prompt comes behind this output. -/
  | prompt (stdout : Text)
  /-- `send_line` returns without a prompt. -/
  | lost
  /-- `send_line` raises. -/
  | raises
  /-- Another thread has closed the connection before the step. -/
  | closed
  deriving DecidableEq

/-- A request that was taken from the queue. -/
structure Served where
  request : Request
  /-- The answer on the queue of the requester, if there is one. -/
  answer : Option Answer
  /-- Some step of the request failed. -/
  failed : Bool

/-- The request has an answer, which is `False` or `None` when a step has failed. -/
def Served.Answered (s : Served) : Prop :=
  ∃ a, s.answer = some a ∧ (s.failed = true → a = .none ∨ a = .bool false)

/-- The client. -/
structure TTCNClient where
  /-- The connection is not `None`. -/
  connection : Bool
  running : Bool
  buffer : Text
  phaseControl : PhaseControl
  /-- The lines that were sent. -/
  sent : List Text
  /-- The thread has left its loop. -/
  finished : Bool
  /-- The exception that ended the thread. -/
  raised : Option Raised
  /-- Ghost: some step of the current request failed. -/
  failed : Bool
  /-- Ghost: the requests that were taken. -/
  served : List Served

/-! ## Parsing -/

/-- `__parse_get_buffer__`: the value behind the last `:=` of the first line that has one. -/
def parseGetBuffer (buffer : Text) : Option Text :=
  go ((splitlines buffer).drop 1)
where
  go : List Text → Option Text
    | [] => none
    | line :: lines =>
      if "The variable \"".toList <+: line then none
      else
        match splitOnce ":=".toList.reverse (strip line).reverse with
        | some (value, _) => some (strip value.reverse)
        | none => go lines

/-- `__parse_set_buffer__`. -/
def parseSetBuffer (buffer : Text) : Bool :=
  go ((splitlines buffer).drop 1)
where
  go : List Text → Bool
    | [] => false
    | line :: lines =>
      if "The variable \"".toList <+: line then false
      else if "Usage:".toList <+: line then false
      else if "Cannot set variable ".toList <+: line then false
      else if "Set content OK.".toList <+: line then true
      else go lines

/-- The value of a led: what stands outside the brackets. -/
def ledStatus (value : Text) : Text :=
  match splitOnce ['['] value, splitOnce [']'] value.reverse with
  | some (front, _), some (back, _) => strip (front ++ back.reverse)
  | _, _ => value

namespace TTCNClient

/-! ## Requests -/

/-- `close`. -/
def close (c : TTCNClient) : TTCNClient := { c with connection := false, running := false }

/-- The client when a step begins. -/
def meet (c : TTCNClient) (b : Behaviour) : TTCNClient := if b = .closed then c.close else c

/-- A step has failed. -/
def fail (c : TTCNClient) : TTCNClient := { c with failed := true }

/-- What `get_value` makes of the output. -/
def valueOf (stdout : Text) (led : Bool) : Answer :=
  match parseGetBuffer stdout with
  | none => .none
  | some value => .text (if led ∧ value ≠ [] then ledStatus value else value)

/-- `get_value`. -/
def getValue (b : Behaviour) (variableName : Text) (led : Bool) (c : TTCNClient) : Answer × TTCNClient :=
  let c := c.meet b
  if c.connection = false then (.none, { c with running := false }.fail)
  else
    let c := { c with sent := c.sent ++ ["get $read_".toList ++ variableName ++ ['$']] }
    match b with
    | .prompt stdout =>
      let value := valueOf stdout led
      (value, { c with buffer := stdout, failed := c.failed || value = .none })
    | _ => (.none, c.close.fail)

/-- `set_value`; behind the handler of an exception `result` is not bound. -/
def setValue (b : Behaviour) (variableName value : Text) (c : TTCNClient) :
    Except Raised Answer × TTCNClient :=
  let c := c.meet b
  if c.connection = false then (.ok .none, { c with running := false }.fail)
  else
    let c := { c with sent := c.sent ++ ["set $write_".toList ++ variableName ++ "$:=".toList ++ value] }
    match b with
    | .prompt stdout =>
      let ok := parseSetBuffer stdout
      (.ok (.bool ok), { c with buffer := stdout, failed := c.failed || !ok })
    | .raises => (.error .unboundLocalError, c.close.fail)
    | _ => (.ok (.bool false), c.close.fail)

/-- Set variables one after the other, and return `False` at the first that cannot be set. -/
def setAll : List (Behaviour × Text × Text) → TTCNClient → Except Raised Answer × TTCNClient
  | [], c => (.ok (.bool true), c)
  | (b, variableName, value) :: steps, c =>
    match setValue b variableName value c with
    | (.ok (.bool true), c) => setAll steps c
    | (.ok _, c) => (.ok (.bool false), c)
    | (.error e, c) => (.error e, c)

/-- The phases that can be started. -/
def phases : List Text := ["preexec".toList, "loadgen".toList, "postexec".toList]

/-- `start_phase`; the warning about a wrong phase has three arguments for two conversions. -/
def startPhase (b : ℕ → Behaviour) (phaseName : Text) (c : TTCNClient) : Except Raised Answer × TTCNClient :=
  if phaseName ∉ phases then (.error .typeError, c.fail)
  else
    setAll [(b 0, c.phaseControl.mode, "MANUAL".toList), (b 1, c.phaseControl.phase, phaseName),
      (b 2, c.phaseControl.start, "true".toList)] c

/-- `stop_phase`. -/
def stopPhase (b : ℕ → Behaviour) (c : TTCNClient) : Except Raised Answer × TTCNClient :=
  setAll [(b 0, c.phaseControl.terminate, "true".toList)] c

/-- `run_command`; the `i`th step of the request meets the `i`th behaviour. -/
def runCommand (r : Request) (b : ℕ → Behaviour) (c : TTCNClient) : Except Raised Answer × TTCNClient :=
  match r with
  | .getValue variableName led =>
    let result := getValue (b 0) variableName led c
    (.ok result.1, result.2)
  | .setValue variableName value => setValue (b 0) variableName value c
  | .startPhase phaseName => startPhase b phaseName c
  | .stopPhase => stopPhase b c

/-! ## The loop -/

/-- One round of the loop. -/
inductive Round
  /-- `activate_force_exit` was called. -/
  | forceExit
  /-- The owner is not running any more. -/
  | ownerStopped
  /-- The queue stays empty; the last action may be more than ten seconds ago. -/
  | empty (elapsed : Bool) (b : Behaviour)
  | request (r : Request) (b : ℕ → Behaviour)

/-- `keepalive`. -/
def keepalive (elapsed : Bool) (b : Behaviour) (c : TTCNClient) : TTCNClient :=
  let c := c.meet b
  if c.connection = false then { c with running := false }
  else if elapsed then
    let c := { c with sent := c.sent ++ [[]] }
    if b = .raises then c.close else c
  else c

/-- The request is executed, and its answer is put on the queue. -/
def serve (r : Request) (b : ℕ → Behaviour) (c : TTCNClient) : TTCNClient :=
  let (result, c) := runCommand r b { c with failed := false }
  match result with
  | .ok answer => { c with served := c.served ++ [⟨r, some answer, c.failed⟩] }
  | .error e => { c with served := c.served ++ [⟨r, none, true⟩], raised := some e }

/-- `online`, for a thread that has not left its loop. -/
def online (c : TTCNClient) : Bool := c.running && c.connection && !c.finished && c.raised.isNone

/-- One round of `run`. -/
def step (c : TTCNClient) (round : Round) : Option TTCNClient :=
  if c.online then
    some (match round with
      | .forceExit => { c with finished := true }
      | .ownerStopped => { c.close with finished := true }
      | .empty elapsed b => c.keepalive elapsed b
      | .request r b => c.serve r b)
  else none

/-- The client behind `connect`. -/
def start (phaseControl : PhaseControl) (connected : Bool) : TTCNClient where
  connection := connected
  running := connected
  buffer := []
  phaseControl := phaseControl
  sent := []
  finished := false
  raised := none
  failed := false
  served := []

/-! ## When an exception leaves a request -/

/-- One of the steps raises, and all steps before it succeed. -/
def Raises : List Behaviour → Prop
  | [] => False
  | .raises :: _ => True
  | .prompt stdout :: bs => parseSetBuffer stdout = true ∧ Raises bs
  | _ :: _ => False

instance decidableRaises : DecidablePred Raises
  | [] => inferInstanceAs (Decidable False)
  | .raises :: _ => inferInstanceAs (Decidable True)
  | .prompt stdout :: bs =>
    have := decidableRaises bs
    inferInstanceAs (Decidable (parseSetBuffer stdout = true ∧ Raises bs))
  | .lost :: _ => inferInstanceAs (Decidable False)
  | .closed :: _ => inferInstanceAs (Decidable False)

/-- The round has no request that an exception leaves: no phase of another name is started, and no
step of a request that sets variables raises. -/
def Round.Answerable : Round → Prop
  | .request (.setValue _ _) b => ¬ Raises [b 0]
  | .request (.startPhase phaseName) b => phaseName ∈ phases ∧ ¬ Raises [b 0, b 1, b 2]
  | .request .stopPhase b => ¬ Raises [b 0]
  | _ => True

instance (round : Round) : Decidable round.Answerable := by
  unfold Round.Answerable
  split <;> infer_instance

/-- No exception has ended the thread, and every request that was taken has its answer. -/
structure AnswersAll (c : TTCNClient) : Prop where
  raised : c.raised = none
  served : ∀ s ∈ c.served, s.Answered

/-! ## One request -/

variable {c : TTCNClient} {b : Behaviour} {bs : ℕ → Behaviour} {variableName value : Text} {r : Request}

/-- What a request leaves to the loop. -/
def SameRecord (c c' : TTCNClient) : Prop := c'.served = c.served ∧ c'.raised = c.raised

lemma SameRecord.trans {c c' c'' : TTCNClient} (h : SameRecord c c') (h' : SameRecord c' c'') :
    SameRecord c c'' := ⟨h'.1.trans h.1, h'.2.trans h.2⟩

lemma getValue_sameRecord (b : Behaviour) (variableName : Text) (led : Bool) (c : TTCNClient) :
    SameRecord c (getValue b variableName led c).2 := by
  cases b <;> cases h : c.connection <;> simp [SameRecord, getValue, meet, close, fail, h]

lemma setValue_sameRecord (b : Behaviour) (variableName value : Text) (c : TTCNClient) :
    SameRecord c (setValue b variableName value c).2 := by
  cases b <;> cases h : c.connection <;> simp [SameRecord, setValue, meet, close, fail, h]

/-- A request for a value has failed only when it returns `None`. -/
lemma getValue_failed (hf : c.failed = false) (led : Bool)
    (h : (getValue b variableName led c).2.failed = true) : (getValue b variableName led c).1 = .none := by
  cases b <;> cases hc : c.connection <;> simp_all [getValue, meet, close, fail]

/-- A step that finds a prompt. -/
lemma setValue_prompt (hc : c.connection = true) (stdout variableName value : Text) :
    ∃ c', setValue (.prompt stdout) variableName value c = (.ok (.bool (parseSetBuffer stdout)), c') ∧
      c'.connection = true ∧ c'.failed = (c.failed || !parseSetBuffer stdout) := by
  simp [setValue, meet, hc]

/-- A step that raises. -/
lemma setValue_raises (hc : c.connection = true) (variableName value : Text) :
    ∃ c', setValue .raises variableName value c = (.error .unboundLocalError, c') := by
  simp [setValue, meet, hc]

/-- A step that finds no prompt or no connection. -/
lemma setValue_fails (hb : b = .lost ∨ b = .closed) (variableName value : Text) :
    ∃ a c', setValue b variableName value c = (.ok a, c') ∧ (a = .none ∨ a = .bool false) := by
  rcases hb with rfl | rfl <;> cases hc : c.connection <;> simp [setValue, meet, close, hc]

section Steps

variable {c' : TTCNClient} {a : Answer} {e : Raised} {steps : List (Behaviour × Text × Text)}

/-- The steps behind one that raises are left out. -/
lemma setAll_cons_error (h : setValue b variableName value c = (.error e, c')) :
    setAll ((b, variableName, value) :: steps) c = (.error e, c') := by
  rw [setAll, h]

/-- The steps behind one that fails are left out. -/
lemma setAll_cons_fails (h : setValue b variableName value c = (.ok a, c')) (ha : a = .none ∨ a = .bool false) :
    setAll ((b, variableName, value) :: steps) c = (.ok (.bool false), c') := by
  rw [setAll, h]
  rcases ha with rfl | rfl <;> rfl

/-- The steps behind one that succeeds. -/
lemma setAll_cons_succeeds (h : setValue b variableName value c = (.ok (.bool true), c')) :
    setAll ((b, variableName, value) :: steps) c = setAll steps c' := by
  rw [setAll, h]

end Steps

/-- What a list of steps comes to, by induction on the steps: as long as they succeed, the connection
is open and nothing has failed. -/
lemma setAll_spec (steps : List (Behaviour × Text × Text)) (hc : c.connection = true) (hf : c.failed = false) :
    ((∃ e, (setAll steps c).1 = .error e) ↔ Raises (steps.map Prod.fst)) ∧
      (∀ a, (setAll steps c).1 = .ok a → (setAll steps c).2.failed = true → a = .bool false) ∧
      SameRecord c (setAll steps c).2 := by
  induction steps generalizing c with
  | nil =>
    refine ⟨⟨?_, False.elim⟩, fun a _ hfailed => ?_, rfl, rfl⟩
    · rintro ⟨e, he⟩
      cases he
    · rw [setAll, hf] at hfailed
      cases hfailed
  | cons step steps ih =>
    obtain ⟨b, variableName, value⟩ := step
    have hsame := setValue_sameRecord b variableName value c
    cases b with
    | prompt stdout =>
      obtain ⟨c', hset, hc', hf'⟩ := setValue_prompt hc stdout variableName value
      rw [hset] at hsame
      cases hok : parseSetBuffer stdout with
      | true =>
        rw [hok] at hset hf'
        obtain ⟨hraises, hanswer, hrecord⟩ := ih hc' (hf'.trans (by rw [hf]; rfl))
        rw [setAll_cons_succeeds hset]
        exact ⟨hraises.trans (iff_and_self.mpr fun _ => hok), hanswer, hsame.trans hrecord⟩
      | false =>
        rw [hok] at hset
        rw [setAll_cons_fails hset (Or.inr rfl)]
        refine ⟨iff_of_false (fun h => nomatch h) ?_, fun a ha _ => (Except.ok.inj ha).symm, hsame⟩
        rintro ⟨htrue, -⟩
        exact absurd (hok.symm.trans htrue) Bool.false_ne_true
    | raises =>
      obtain ⟨c', hset⟩ := setValue_raises hc variableName value
      rw [hset] at hsame
      rw [setAll_cons_error hset]
      exact ⟨iff_of_true ⟨_, rfl⟩ trivial, fun a ha => (nomatch ha), hsame⟩
    | lost =>
      obtain ⟨a, c', hset, ha⟩ := setValue_fails (b := .lost) (c := c) (Or.inl rfl) variableName value
      rw [hset] at hsame
      rw [setAll_cons_fails hset ha]
      exact ⟨iff_of_false (fun h => nomatch h) id, fun a ha _ => (Except.ok.inj ha).symm, hsame⟩
    | closed =>
      obtain ⟨a, c', hset, ha⟩ := setValue_fails (b := .closed) (c := c) (Or.inr rfl) variableName value
      rw [hset] at hsame
      rw [setAll_cons_fails hset ha]
      exact ⟨iff_of_false (fun h => nomatch h) id, fun a ha _ => (Except.ok.inj ha).symm, hsame⟩

/-- What one call of `set_value` comes to. -/
lemma setValue_spec (b : Behaviour) (variableName value : Text) (hc : c.connection = true) (hf : c.failed = false) :
    ((∃ e, (setValue b variableName value c).1 = .error e) ↔ Raises [b]) ∧
      ∀ a, (setValue b variableName value c).1 = .ok a → (setValue b variableName value c).2.failed = true →
        a = .none ∨ a = .bool false := by
  cases b with
  | prompt stdout =>
    obtain ⟨c', hset, -, hf'⟩ := setValue_prompt hc stdout variableName value
    rw [hset]
    refine ⟨iff_of_false (fun h => nomatch h) fun h => h.2, fun a ha hfailed => Or.inr ?_⟩
    rw [← Except.ok.inj ha]
    rw [hf', hf, Bool.false_or, Bool.not_eq_true'] at hfailed
    rw [hfailed]
  | raises =>
    obtain ⟨c', hset⟩ := setValue_raises hc variableName value
    rw [hset]
    exact ⟨iff_of_true ⟨_, rfl⟩ trivial, fun a ha => (nomatch ha)⟩
  | lost =>
    obtain ⟨a, c', hset, ha⟩ := setValue_fails (b := .lost) (c := c) (Or.inl rfl) variableName value
    rw [hset]
    exact ⟨iff_of_false (fun h => nomatch h) id, fun a' ha' _ => Except.ok.inj ha' ▸ ha⟩
  | closed =>
    obtain ⟨a, c', hset, ha⟩ := setValue_fails (b := .closed) (c := c) (Or.inr rfl) variableName value
    rw [hset]
    exact ⟨iff_of_false (fun h => nomatch h) id, fun a' ha' _ => Except.ok.inj ha' ▸ ha⟩

/-- **What a request comes to**: an exception leaves it exactly when it is not answerable, and a failed
one returns `False` or `None`. -/
lemma runCommand_spec (r : Request) (bs : ℕ → Behaviour) (hc : c.connection = true) (hf : c.failed = false) :
    ((∃ e, (runCommand r bs c).1 = .error e) ↔ ¬ (Round.request r bs).Answerable) ∧
      (∀ a, (runCommand r bs c).1 = .ok a → (runCommand r bs c).2.failed = true → a = .none ∨ a = .bool false) ∧
      SameRecord c (runCommand r bs c).2 := by
  cases r with
  | getValue variableName led =>
    refine ⟨iff_of_false (fun h => nomatch h) fun h => h trivial, fun a ha hfailed => Or.inl ?_,
      getValue_sameRecord _ _ _ _⟩
    exact (Except.ok.inj ha).symm.trans (getValue_failed hf led hfailed)
  | setValue variableName value =>
    obtain ⟨hraises, hanswer⟩ := setValue_spec (bs 0) variableName value hc hf
    exact ⟨hraises.trans not_not.symm, hanswer, setValue_sameRecord _ _ _ _⟩
  | startPhase phaseName =>
    rw [runCommand, startPhase]
    by_cases hphase : phaseName ∈ phases
    · obtain ⟨hraises, hanswer, hrecord⟩ := setAll_spec
        [(bs 0, c.phaseControl.mode, "MANUAL".toList), (bs 1, c.phaseControl.phase, phaseName),
          (bs 2, c.phaseControl.start, "true".toList)] hc hf
      rw [if_neg (not_not.mpr hphase)]
      refine ⟨hraises.trans ?_, fun a ha hfailed => Or.inr (hanswer a ha hfailed), hrecord⟩
      rw [Round.Answerable, not_and, not_not]
      exact ⟨fun h _ => h, fun h => h hphase⟩
    · rw [if_pos hphase]
      exact ⟨iff_of_true ⟨_, rfl⟩ fun h => hphase h.1, fun a ha => (nomatch ha), rfl, rfl⟩
  | stopPhase =>
    obtain ⟨hraises, hanswer, hrecord⟩ := setAll_spec
      [(bs 0, c.phaseControl.terminate, "true".toList)] hc hf
    exact ⟨hraises.trans not_not.symm, fun a ha hfailed => Or.inr (hanswer a ha hfailed), hrecord⟩

/-! ## Runs -/

/-- A round that is not a request leaves the record. -/
lemma keepalive_sameRecord (elapsed : Bool) (b : Behaviour) (c : TTCNClient) :
    SameRecord c (c.keepalive elapsed b) := by
  cases b <;> cases elapsed <;> cases h : c.connection <;> simp [SameRecord, keepalive, meet, close, h]

/-- The answers stay what they are when the record does. -/
lemma AnswersAll.of_sameRecord {c' : TTCNClient} (h : AnswersAll c) (hsame : SameRecord c c') : AnswersAll c' :=
  ⟨hsame.2.trans h.raised, fun s hs => h.served s (hsame.1 ▸ hs)⟩

/-- A request is taken from the queue. -/
lemma answersAll_serve_iff (h : AnswersAll c) (hc : c.connection = true) :
    AnswersAll (c.serve r bs) ↔ (Round.request r bs).Answerable := by
  obtain ⟨hraises, hanswer, hsame⟩ := runCommand_spec (c := { c with failed := false }) r bs hc rfl
  rw [serve]
  revert hraises hanswer hsame
  generalize runCommand r bs { c with failed := false } = result
  obtain ⟨o, c'⟩ := result
  intro hraises hanswer hsame
  cases o with
  | error e =>
    refine iff_of_false (fun hall => ?_) (hraises.mp ⟨e, rfl⟩)
    cases hall.raised
  | ok a =>
    refine iff_of_true ⟨hsame.2.trans h.raised, fun s hs => ?_⟩ ?_
    · rcases List.mem_append.mp hs with hs | hs
      · exact h.served s (hsame.1 ▸ hs)
      · rw [List.mem_singleton.mp hs]
        exact ⟨a, rfl, hanswer a rfl⟩
    · by_contra hno
      obtain ⟨e, he⟩ := hraises.mpr hno
      cases he

/-- One round. -/
lemma answersAll_step_iff {c' : TTCNClient} {round : Round} (h : AnswersAll c) (hstep : step c round = some c') :
    AnswersAll c' ↔ round.Answerable := by
  obtain ⟨honline, hround⟩ := Option.ite_none_right_eq_some.mp hstep
  obtain rfl := Option.some.inj hround
  have hc : c.connection = true := by
    simp only [online, Bool.and_eq_true] at honline
    exact honline.1.1.2
  cases round with
  | forceExit => exact iff_of_true (h.of_sameRecord ⟨rfl, rfl⟩) trivial
  | ownerStopped => exact iff_of_true (h.of_sameRecord ⟨rfl, rfl⟩) trivial
  | empty elapsed b => exact iff_of_true (h.of_sameRecord (keepalive_sameRecord elapsed b c)) trivial
  | request r bs => exact answersAll_serve_iff h hc

/-- **When every request is answered**: in every state of a run no exception has ended the thread and
every request that was taken has its answer, exactly if every request of the run is answerable. -/
theorem answersAll_iff (phaseControl : PhaseControl) (connected : Bool) (rounds : List Round) :
    Throughout step AnswersAll (start phaseControl connected) rounds ↔
      Along step (fun _ round => round.Answerable) (start phaseControl connected) rounds := by
  refine throughout_iff_along (I := AnswersAll) (fun c round c' hI hC hstep => ?_) (fun _ h => h)
    (fun c round c' hI hC hstep => ?_) ⟨rfl, fun s hs => absurd hs List.not_mem_nil⟩
  · exact (answersAll_step_iff hI hstep).mpr hC
  · exact fun h => hC ((answersAll_step_iff hI hstep).mp h)

/-- A phase that cannot be started. -/
def wrongPhase : Round := .request (.startPhase "warmup".toList) fun _ => .prompt []

/-- The run with this request, and the one with a step that raises. -/
theorem not_answersAll_wrongPhase :
    ¬ Throughout step AnswersAll (start {} true) [wrongPhase] ∧
      ¬ Throughout step AnswersAll (start {} true) [.request .stopPhase fun _ => .raises] := by
  have hraised : ∀ (round : Round) (c' : TTCNClient), step (start {} true) round = some c' →
      c'.raised ≠ none → ¬ Throughout step AnswersAll (start {} true) [round] :=
    fun round c' hstep hne h => hne (h.2 c' hstep).raised
  exact ⟨hraised _ _ rfl (by decide), hraised _ _ rfl (by decide)⟩

end TTCNClient

end HssRtc.Ttcn

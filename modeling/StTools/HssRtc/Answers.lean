import StTools.Lib.LabelledSystem
import Mathlib.Data.List.Basic
import Mathlib.Logic.Function.Basic
import Mathlib.Tactic.Common

/-!
# Commands and their answers

Three components ask others to execute a command: the CPS scheduler and the execution phase ask the
monitor of a BAT, and the remote control asks an action handler on behalf of a client.  Each puts the
command, together with its own queue of answers, into the queue of the other thread, and then takes
the next answer from its queue, within a time limit.  The scheduler asks from two threads: one
displays the current CPS, and the main thread sets the targets.

Nothing in an answer says which command it belongs to, the threads of a component share the queue,
and it is not emptied after the time limit.  The main theorem gives the exact condition under which
the answers are not confused.
-/

namespace HssRtc

/-! ## The components that ask -/

/-- The components that issue commands. -/
inductive Client
  | scheduler
  | execution
  | remoteControl
  deriving DecidableEq

/-- What a component makes of an answer, or of the end of the time limit. -/
inductive Result (V : Type*)
  /-- The answer is returned. -/
  | value (v : V)
  | false
  | none
  /-- The answer is sent back to the client of the remote control. -/
  | datagram (v : V)
  /-- Nothing is sent back. -/
  | noDatagram

/-- The result of `run_ttcn_cli_command` and of `read_udp_cmd`. -/
def Client.result {V : Type*} : Client → Option V → Result V
  | .scheduler, some v | .execution, some v => .value v
  | .remoteControl, some v => .datagram v
  | .scheduler, none => .false
  | .execution, none => .none
  | .remoteControl, none => .noDatagram

/-- An answer, with the number of the command that it was produced for as a ghost. -/
structure Answer (V : Type*) where
  value : V
  command : ℕ

/-- What was returned for a command. -/
structure Return (V : Type*) where
  command : ℕ
  result : Result V
  /-- Ghost: the number of the command whose answer was returned. -/
  answers : Option ℕ

/-- A component with its queue of answers, the threads `T` of the component, and the threads `S` that
it asks. -/
structure Exchange (T S V : Type*) where
  client : Client
  /-- The number of the next command. -/
  next : ℕ
  /-- The commands that the threads of the component wait for. -/
  waiting : T → Option ℕ
  /-- The commands that were not answered, with the thread that was asked, in the order of issue. -/
  requests : List (S × ℕ)
  /-- The queue of answers. -/
  answers : List (Answer V)
  /-- Ghost: what was returned, the last first. -/
  returned : List (Return V)

namespace Exchange

variable {T S V : Type*} [DecidableEq T] [DecidableEq S]

/-- No command was issued. -/
def init (client : Client) : Exchange T S V where
  client := client
  next := 0
  waiting := fun _ => none
  requests := []
  answers := []
  returned := []

/-- What happens. -/
inductive Event (T S V : Type*)
  /-- A thread of the component puts a command into the queue of another thread. -/
  | issue (caller : T) (server : S)
  /-- A thread of the component takes the next answer. -/
  | take (caller : T)
  /-- The time limit of a thread is over, and the queue is empty. -/
  | timeout (caller : T)
  /-- A thread answers the first command of its queue, after any time. -/
  | serve (server : S) (value : V)

/-- The command `n` of a thread is over. -/
def complete (s : Exchange T S V) (caller : T) (n : ℕ) (answer : Option (Answer V)) :
    Exchange T S V :=
  { s with
    waiting := Function.update s.waiting caller none
    returned := ⟨n, s.client.result (answer.map Answer.value), answer.map Answer.command⟩ ::
      s.returned }

/-- One step. -/
def step (s : Exchange T S V) : Event T S V → Option (Exchange T S V)
  | .issue caller server =>
    match s.waiting caller with
    | none => some
      { s with
        next := s.next + 1
        waiting := Function.update s.waiting caller (some s.next)
        requests := s.requests ++ [(server, s.next)] }
    | some _ => none
  | .take caller =>
    match s.waiting caller, s.answers with
    | some n, answer :: answers =>
      some ({ s with answers := answers }.complete caller n (some answer))
    | _, _ => none
  | .timeout caller =>
    match s.waiting caller, s.answers with
    | some n, [] => some (s.complete caller n none)
    | _, _ => none
  | .serve server value =>
    match s.requests.find? fun r => r.1 = server with
    | some r => some
      { s with
        requests := s.requests.erase r
        answers := s.answers ++ [⟨value, r.2⟩] }
    | none => none

/-! ## What should hold -/

/-- Every command got its own answer, or none, and the answer that can be taken now is that of any
command that waits. -/
structure OwnAnswers (s : Exchange T S V) : Prop where
  returned : ∀ r ∈ s.returned, ∀ n ∈ r.answers, n = r.command
  available : ∀ caller, ∀ n ∈ s.waiting caller, ∀ answer ∈ s.answers.head?, answer.command = n

/-- No other answer gets in the way: the queue is empty when a command is issued, and the answer that
is put into the empty queue is not that of another command than the one that a thread waits for. -/
def OwnTurn (s : Exchange T S V) : Event T S V → Prop
  | .issue _ _ => s.answers = []
  | .serve server _ => s.answers = [] → ∀ caller, ∀ n ∈ s.waiting caller,
    ∀ r ∈ s.requests.find? fun r => r.1 = server, r.2 = n
  | _ => True

/-- The numbers of the commands that are not over are old, and no two threads wait for one command. -/
structure Numbered (s : Exchange T S V) : Prop where
  waiting : ∀ caller, ∀ n ∈ s.waiting caller, n < s.next
  distinct : ∀ caller caller' n, n ∈ s.waiting caller → n ∈ s.waiting caller' → caller = caller'
  requests : ∀ r ∈ s.requests, r.2 < s.next
  answers : ∀ answer ∈ s.answers, answer.command < s.next

/-! ## One step -/

variable {s s' : Exchange T S V}

/-- What a step does: one case for each event. -/
lemma step_cases {e : Event T S V} (hstep : step s e = some s') :
    (∃ caller server, e = .issue caller server ∧ s.waiting caller = none ∧
      s' = { s with
        next := s.next + 1
        waiting := Function.update s.waiting caller (some s.next)
        requests := s.requests ++ [(server, s.next)] }) ∨
    (∃ caller n answer answers, e = .take caller ∧ s.waiting caller = some n ∧
      s.answers = answer :: answers ∧
      s' = { s with answers := answers }.complete caller n (some answer)) ∨
    (∃ caller n, e = .timeout caller ∧ s.waiting caller = some n ∧ s.answers = [] ∧
      s' = s.complete caller n none) ∨
    ∃ server value r, e = .serve server value ∧ (s.requests.find? fun r => r.1 = server) = some r ∧
      s' = { s with
        requests := s.requests.erase r
        answers := s.answers ++ [⟨value, r.2⟩] } := by
  rcases e with ⟨caller, server⟩ | caller | caller | ⟨server, value⟩
  · simp only [step] at hstep
    split at hstep
    · rename_i hidle
      exact Or.inl ⟨caller, server, rfl, hidle, (Option.some.inj hstep).symm⟩
    · cases hstep
  · simp only [step] at hstep
    split at hstep
    · rename_i n answer answers hwaiting hanswers
      exact Or.inr (Or.inl
        ⟨caller, n, answer, answers, rfl, hwaiting, hanswers, (Option.some.inj hstep).symm⟩)
    · cases hstep
  · simp only [step] at hstep
    split at hstep
    · rename_i n hwaiting hanswers
      exact Or.inr (Or.inr (Or.inl
        ⟨caller, n, rfl, hwaiting, hanswers, (Option.some.inj hstep).symm⟩))
    · cases hstep
  · simp only [step] at hstep
    split at hstep
    · rename_i r hr
      exact Or.inr (Or.inr (Or.inr ⟨server, value, r, rfl, hr, (Option.some.inj hstep).symm⟩))
    · cases hstep

omit [DecidableEq S] in
/-- What a thread waits for after another thread's command is over was waited for before. -/
lemma mem_waiting_of_complete {caller caller' : T} {n m : ℕ} {answer : Option (Answer V)}
    (hm : m ∈ (s.complete caller n answer).waiting caller') :
    caller' ≠ caller ∧ m ∈ s.waiting caller' := by
  change m ∈ Function.update s.waiting caller none caller' at hm
  obtain rfl | hne := eq_or_ne caller' caller
  · rw [Function.update_self] at hm
    cases hm
  · rw [Function.update_of_ne hne] at hm
    exact ⟨hne, hm⟩

omit [DecidableEq S] in
/-- A thread that waits after a command is issued issued it, or waited before. -/
lemma mem_update_waiting {caller caller' : T} {n m : ℕ}
    (hm : m ∈ Function.update s.waiting caller (some n) caller') :
    caller' = caller ∧ m = n ∨ caller' ≠ caller ∧ m ∈ s.waiting caller' := by
  obtain rfl | hne := eq_or_ne caller' caller
  · rw [Function.update_self] at hm
    exact Or.inl ⟨rfl, (Option.some.inj hm).symm⟩
  · rw [Function.update_of_ne hne] at hm
    exact Or.inr ⟨hne, hm⟩

/-- The numbers stay old and apart. -/
lemma Numbered.step {e : Event T S V} (h : s.Numbered) (hstep : step s e = some s') :
    s'.Numbered := by
  obtain ⟨caller, server, -, -, rfl⟩ | ⟨caller, n, answer, answers, -, -, hanswers, rfl⟩ |
    ⟨caller, n, -, -, -, rfl⟩ | ⟨server, value, r, -, hr, rfl⟩ := step_cases hstep
  · refine ⟨fun c m hm => ?_, fun c c' m hc hc' => ?_, fun r hr => ?_,
      fun answer hanswer => Nat.lt_succ_of_lt (h.answers answer hanswer)⟩
    · obtain ⟨-, rfl⟩ | ⟨-, hm⟩ := mem_update_waiting hm
      · exact Nat.lt_succ_self s.next
      · exact Nat.lt_succ_of_lt (h.waiting c m hm)
    · -- the new number is greater than that of any command another thread waits for
      obtain ⟨hcaller, hnew⟩ | ⟨-, hold⟩ := mem_update_waiting hc <;>
        obtain ⟨hcaller', hnew'⟩ | ⟨-, hold'⟩ := mem_update_waiting hc'
      · exact hcaller.trans hcaller'.symm
      · exact absurd (hnew ▸ h.waiting c' m hold') (Nat.lt_irrefl s.next)
      · exact absurd (hnew' ▸ h.waiting c m hold) (Nat.lt_irrefl s.next)
      · exact h.distinct c c' m hold hold'
    · obtain hr | hr := List.mem_append.mp hr
      · exact Nat.lt_succ_of_lt (h.requests r hr)
      · rw [List.mem_singleton.mp hr]
        exact Nat.lt_succ_self s.next
  · exact ⟨fun c m hm => h.waiting c m (mem_waiting_of_complete hm).2,
      fun c c' m hc hc' => h.distinct c c' m (mem_waiting_of_complete hc).2
        (mem_waiting_of_complete hc').2,
      h.requests, fun a ha => h.answers a (hanswers ▸ List.mem_cons_of_mem answer ha)⟩
  · exact ⟨fun c m hm => h.waiting c m (mem_waiting_of_complete hm).2,
      fun c c' m hc hc' => h.distinct c c' m (mem_waiting_of_complete hc).2
        (mem_waiting_of_complete hc').2, h.requests, h.answers⟩
  · refine ⟨h.waiting, h.distinct, fun r' hr' => h.requests r' (List.mem_of_mem_erase hr'),
      fun answer hanswer => ?_⟩
    obtain hanswer | hanswer := List.mem_append.mp hanswer
    · exact h.answers answer hanswer
    · rw [List.mem_singleton.mp hanswer]
      exact h.requests r (List.mem_of_find?_eq_some hr)

omit [DecidableEq T] [DecidableEq S] in
/-- While an answer can be taken and is the right one, only one thread waits. -/
lemma OwnAnswers.eq_of_waiting (h : s.OwnAnswers) (hnumbered : s.Numbered) {caller caller' : T}
    {n m : ℕ} (hn : n ∈ s.waiting caller) (hm : m ∈ s.waiting caller') (hanswers : s.answers ≠ []) :
    caller' = caller := by
  obtain ⟨answer, answers, hanswers⟩ := List.exists_cons_of_ne_nil hanswers
  have hfirst : answer ∈ s.answers.head? := by rw [hanswers]; rfl
  have hnm : n = m := (h.available caller n hn answer hfirst).symm.trans
    (h.available caller' m hm answer hfirst)
  exact hnumbered.distinct caller' caller m hm (hnm ▸ hn)

/-- A step in which no other answer gets in the way confuses no answers. -/
lemma OwnAnswers.step {e : Event T S V} (h : s.OwnAnswers) (hnumbered : s.Numbered)
    (hturn : s.OwnTurn e) (hstep : step s e = some s') : s'.OwnAnswers := by
  obtain ⟨caller, server, rfl, -, rfl⟩ |
    ⟨caller, n, answer, answers, rfl, hwaiting, hanswers, rfl⟩ | ⟨caller, n, rfl, -, hanswers, rfl⟩ |
    ⟨server, value, r, rfl, hr, rfl⟩ := step_cases hstep
  · refine ⟨h.returned, fun c m _ answer hanswer => ?_⟩
    rw [show s.answers = [] from hturn] at hanswer
    cases hanswer
  · refine ⟨fun r hr => ?_, fun c m hm => ?_⟩
    · obtain rfl | hr := List.mem_cons.mp hr
      · rintro _ ⟨⟩
        exact h.available caller n hwaiting answer (by rw [hanswers]; rfl)
      · exact h.returned r hr
    · -- the thread that took the answer was the only one that waited
      obtain ⟨hne, hm⟩ := mem_waiting_of_complete hm
      refine absurd (h.eq_of_waiting hnumbered hwaiting hm ?_) hne
      rw [hanswers]
      exact List.cons_ne_nil answer answers
  · refine ⟨fun r hr => ?_, fun c m _ answer hanswer => ?_⟩
    · obtain rfl | hr := List.mem_cons.mp hr
      · intro n hn
        cases hn
      · exact h.returned r hr
    · rw [show (s.complete caller n none).answers = [] from hanswers] at hanswer
      cases hanswer
  · refine ⟨h.returned, fun c n hn answer hanswer => ?_⟩
    rcases hanswers : s.answers with _ | ⟨first, rest⟩
    · rw [hanswers] at hanswer
      obtain rfl := Option.some.inj hanswer
      exact hturn hanswers c n hn r hr
    · rw [hanswers] at hanswer
      obtain rfl := Option.some.inj hanswer
      exact h.available c n hn first (by rw [hanswers]; rfl)

/-- Another answer that gets in the way is the next that a command takes. -/
lemma not_ownAnswers_of_not_ownTurn {e : Event T S V} (hnumbered : s.Numbered)
    (hturn : ¬ s.OwnTurn e) (hstep : step s e = some s') : ¬ s'.OwnAnswers := by
  intro h
  obtain ⟨caller, server, rfl, -, rfl⟩ | ⟨caller, n, answer, answers, rfl, -, -, -⟩ |
    ⟨caller, n, rfl, -, -, -⟩ | ⟨server, value, r, rfl, hr, rfl⟩ := step_cases hstep
  · obtain ⟨first, rest, hanswers⟩ := List.exists_cons_of_ne_nil hturn
    have hown : first.command = s.next :=
      h.available caller s.next (Function.update_self caller (some s.next) s.waiting) first
        (congrArg List.head? hanswers)
    have hold : first.command < s.next := hnumbered.answers first (hanswers ▸ List.mem_cons_self)
    omega
  · exact hturn trivial
  · exact hturn trivial
  · simp only [OwnTurn, not_forall] at hturn
    obtain ⟨hempty, caller, n, hn, r', hr', hne⟩ := hturn
    obtain rfl := Option.some.inj (hr.symm.trans hr')
    refine hne (h.available caller n hn ⟨value, r.2⟩ ?_)
    dsimp only
    rw [hempty]
    rfl

/-- **No answer is confused** in exactly the runs in which no other answer gets in the way: the answer
that is returned for a command, or sent back, is its own, and so is the one that it could take. -/
theorem ownAnswers_throughout_iff (client : Client) (es : List (Event T S V)) :
    LabelledSystem.Throughout step OwnAnswers (init client) es ↔
      LabelledSystem.Along step OwnTurn (init client) es := by
  refine LabelledSystem.throughout_iff_along
    (I := fun s : Exchange T S V => s.OwnAnswers ∧ s.Numbered) ?_ (fun _ h => h.1) ?_ ?_
  · intro s e s' h hturn hstep
    exact ⟨h.1.step h.2 hturn hstep, h.2.step hstep⟩
  · intro s e s' h hturn hstep
    exact not_ownAnswers_of_not_ownTurn h.2 hturn hstep
  · refine ⟨⟨?_, ?_⟩, ?_, ?_, ?_, ?_⟩ <;> simp [init]

/-- Two threads wait for the answers of two monitors, and each takes that of the other. -/
example :
    (LabelledSystem.exec step (init .scheduler : Exchange ℕ ℕ String)
      [.issue 0 0, .issue 1 1, .serve 1 "set", .take 0, .serve 0 "25.0", .take 1]).map
        (fun s => s.returned.map fun r => (r.command, r.answers)) =
      some [(1, some 0), (0, some 1)] :=
  rfl

/-- The answer to the first command comes after its time limit. -/
def lateAnswer : List (Event ℕ ℕ String) :=
  [.issue 0 0, .timeout 0, .serve 0 "running", .issue 0 0, .take 0]

/-- In this run the second command returns the answer to the first. -/
theorem lateAnswer_confused :
    ∃ s, LabelledSystem.exec step (init .execution : Exchange ℕ ℕ String) lateAnswer = some s ∧
      s.returned = [⟨1, .value "running", some 0⟩, ⟨0, .none, none⟩] ∧
      ¬ LabelledSystem.Throughout step OwnAnswers (init .execution : Exchange ℕ ℕ String)
        lateAnswer := by
  refine ⟨_, rfl, rfl, fun h => ?_⟩
  have hown := (h.last rfl).returned _ List.mem_cons_self 0 rfl
  cases hown

end Exchange

end HssRtc

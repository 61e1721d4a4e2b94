import StTools.BuildHandler.Database
import StTools.RunTitansim.PythonText
import StTools.Lib.NamedInstances

/-!
# The TCP side of the gateway

A client of the RTC gateway sends JSON messages, a line each.  A message names a trigger and a build;
the configuration says which actions a trigger stands for, and the dispatcher calls them.  A message
may request an answer.

`handle` reads the lines of one connection.  An exception that it does not catch ends the thread of
the connection, and so does an empty line, which is taken for the end of the stream.
`servesAll_iff` says exactly for which lines every request is handled and answered.
-/

namespace RtcGateway

open BuildHandler (Text Json)
open RunTitansim (strip)

attribute [local instance] NamedInstances.lawfulBEq_list

/-! ## The surroundings -/

/-- A text of ASCII characters.  Others cannot be written to the connection. -/
def Ascii (t : Text) : Prop := ∀ c ∈ t, c.toNat < 128

instance (t : Text) : Decidable (Ascii t) := List.decidableBAll _ _

/-- The names under which the constructor installs its methods as actions. -/
def installedActions : List Text :=
  ["build_info_add".toList, "build_info_update".toList, "release_info_purge".toList,
    "project_info_purge".toList, "check_priority_list".toList, "set_test_to_faulty".toList,
    "priority_add".toList, "priority_del".toList, "priority_increase".toList,
    "baseline_add".toList]

/-- What the handler of a connection finds: functions of the standard library, and the globals of
the module. -/
structure Gateway where
  /-- `json.loads`; `none` if it raises. -/
  loads : Text → Option Json
  /-- `str` of a number. -/
  numText : ℚ → Text
  numText_ascii : ∀ x, Ascii (numText x)
  /-- `DISPACHER.actions.keys()`, in the order of the dictionary. -/
  actions : List Text
  actions_perm : actions.Perm installedActions
  /-- `TRIGGER_TRANSLATOR`. -/
  triggerTranslator : Dict Text (List Text)
  /-- `FORWARD_TO`. -/
  forwardTo : List Text

/-- What comes of calling an action. -/
inductive Outcome where
  | done
  /-- An exception, with its text if one can be made. -/
  | raised (message : Option Text)

/-! ## Messages -/

/-- A decoded message. -/
structure Request where
  trigger : Json
  build : Json
  args : Json
  requestAnswer : Json

/-- The exceptions of `decode`. -/
inductive DecodeError where
  | invalidTcpMessage
  | typeError

namespace Gateway

variable (g : Gateway)

/-- Decode a message. -/
def decode (message : Text) : Except DecodeError Request :=
  match g.loads message with
  | none => .error .invalidTcpMessage
  | some (.obj m) =>
    match m.lookup "op".toList, m.lookup "build".toList with
    | some trigger, some build => .ok
      { trigger := trigger
        build := build
        args := (m.lookup "args".toList).getD (.arr [])
        requestAnswer := (m.lookup "request_answer".toList).getD (.bool false) }
    | _, _ => .error .invalidTcpMessage
  -- The key of something else than an object is not a `KeyError`.
  | some _ => .error .typeError

/-- `TRIGGER_TRANSLATOR.get(trigger, [])`; a list or a dictionary is no key. -/
def actionsOf : Json → Option (List Text)
  | .arr _ => none
  | .obj _ => none
  | .str trigger => some ((g.triggerTranslator.get? trigger).getD [])
  | _ => some []

/-- A trigger as a text.  A list or a dictionary never gets there. -/
def triggerText : Json → Text
  | .str trigger => trigger
  | .null => "None".toList
  | .bool b => if b then "True".toList else "False".toList
  | .num x => g.numText x
  | .arr _ => []
  | .obj _ => []

/-! ## Answers -/

/-- The answer to a trigger without actions. -/
def noActionsText (trigger : Json) : Text :=
  "WARNING. No actions for the received trigger \"".toList ++ g.triggerText trigger ++ "\"".toList

/-- The answer to a trigger with an action that is not installed. -/
def notAllowedText (action : Text) : Text :=
  "FAILED. Configured action ".toList ++ action ++ " not in allowed values: ".toList ++
    List.intercalate [' '] g.actions

/-- The answer when all actions have been executed. -/
def executedText (actions : List Text) : Text :=
  "OK. The following actions have been executed ".toList ++ List.intercalate [' '] actions

/-- The answer when an action has failed. -/
def failedText (action message : Text) : Text :=
  "FAILED. Error handling action ".toList ++ action ++ ": ".toList ++ message

/-- The actions that are called, up to the first that fails. -/
def callActions : (ℕ → Outcome) → List Text → List (Text × Outcome)
  | _, [] => []
  | perform, action :: actions =>
    match perform 0 with
    | .done => (action, .done) :: callActions (fun n => perform (n + 1)) actions
    | .raised message => [(action, .raised message)]

/-- The answer after the actions have been called. -/
def answerText (actions : List Text) (calls : List (Text × Outcome)) : Option Text :=
  match calls.getLast? with
  | some (action, .raised message) => message.map (failedText action)
  | _ => some (executedText actions)

/-! ## The lines of a connection -/

/-- What one line led to. -/
structure Handled where
  message : Text
  /-- The answers that were written. -/
  answers : List Text := []
  /-- The actions that were called. -/
  calls : List (Text × Outcome) := []
  /-- The message was offered to the hosts of `FORWARD_TO`. -/
  forwarded : Bool := false
  /-- An exception was not caught. -/
  raised : Bool := false

/-- Write an answer if it was requested. -/
def Handled.write (h : Handled) (requestAnswer : Json) (answer : Text) : Handled :=
  if requestAnswer.truthy then
    if Ascii answer then { h with answers := h.answers ++ [answer] }
    else { h with raised := true }
  else h

/-- Serve a request; `perform` says what comes of the actions. -/
def serve (perform : ℕ → Outcome) (h : Handled) (r : Request) : Handled :=
  match g.actionsOf r.trigger with
  | none => { h with raised := true }
  | some [] => h.write r.requestAnswer (g.noActionsText r.trigger)
  | some actions =>
    match actions.find? fun action => action ∉ g.actions with
    | some action => h.write r.requestAnswer (g.notAllowedText action)
    | none =>
      let calls := callActions perform actions
      match answerText actions calls with
      | none => { h with calls := calls, raised := true }
      | some answer => { h with calls := calls }.write r.requestAnswer answer

/-- Handle a message. -/
def handleMessage (perform : ℕ → Outcome) (message : Text) : Handled :=
  match g.decode message with
  | .error .invalidTcpMessage => { message := message }
  | .error .typeError => { message := message, raised := true }
  | .ok r => g.serve perform { message := message, forwarded := g.forwardTo ≠ [] } r

/-- Handle the lines of a connection. -/
def handle : (ℕ → ℕ → Outcome) → List Text → List Handled
  | _, [] => []
  | perform, line :: lines =>
    let message := strip line
    -- An empty line is taken for the end of the stream.
    if message = [] then []
    else
      let h := g.handleMessage (perform 0) message
      if h.raised then [h] else h :: handle (fun i => perform (i + 1)) lines

/-! ## What is expected -/

/-- Every line up to the end of the stream is handled, and every request for an answer is answered
once: with `OK` only if all actions of the trigger were executed. -/
structure ServesAll (perform : ℕ → ℕ → Outcome) (lines : List Text) : Prop where
  all : (g.handle perform lines).map Handled.message = (lines.map strip).filter (· ≠ [])
  survives : ∀ h ∈ g.handle perform lines, h.raised = false
  answers : ∀ h ∈ g.handle perform lines, ∀ r, g.decode h.message = .ok r →
    r.requestAnswer.truthy = true → ∃ answer, h.answers = [answer] ∧
      ("OK".toList <+: answer → ∃ actions, g.actionsOf r.trigger = some actions ∧
        actions ≠ [] ∧ h.calls = actions.map (·, .done))

/-- An action fails, and its exception has no text, or has one that cannot be written though an answer
is requested. -/
def FailsBadly (perform : ℕ → Outcome) (actions : List Text) (requested : Prop) : Prop :=
  ∃ n message, n < actions.length ∧ (∀ k < n, perform k = .done) ∧
    perform n = .raised message ∧ (requested ∧ (∃ t ∈ message, ¬ Ascii t) ∨ message = none)

/-- The request cannot be served: its trigger is no key of a dictionary, or a text that cannot be
written would go into the requested answer: the trigger that has no actions, the first action that is
not installed, or the text of an exception. -/
def RequestBreaks (perform : ℕ → Outcome) (r : Request) : Prop :=
  match g.actionsOf r.trigger with
  | none => True
  | some [] => r.requestAnswer.truthy = true ∧ ¬ Ascii (g.triggerText r.trigger)
  | some actions =>
    match actions.find? fun action => action ∉ g.actions with
    | some action => r.requestAnswer.truthy = true ∧ ¬ Ascii action
    | none => FailsBadly perform actions (r.requestAnswer.truthy = true)

/-- The message ends the thread: it is JSON but no object, or it is a request that cannot be served. -/
def Breaks (perform : ℕ → Outcome) (message : Text) : Prop :=
  match g.decode message with
  | .error .invalidTcpMessage => False
  | .error .typeError => True
  | .ok r => g.RequestBreaks perform r

/-! ## One message -/

section Message

variable {g} {perform : ℕ → Outcome} {h : Handled} {r : Request} {actions : List Text}
  {answer requestAnswer : Text}

lemma ascii_append {a b : Text} : Ascii (a ++ b) ↔ Ascii a ∧ Ascii b := List.forall_mem_append

lemma ascii_intercalate {l : List Text} (hl : ∀ a ∈ l, Ascii a) :
    Ascii (List.intercalate [' '] l) := by
  induction l with
  | nil => exact fun c hc => nomatch hc
  | cons a l ih =>
    cases l with
    | nil =>
      rw [List.intercalate_singleton]
      exact hl a List.mem_cons_self
    | cons b l =>
      rw [List.intercalate_cons_cons]
      refine ascii_append.mpr ⟨ascii_append.mpr ⟨hl a List.mem_cons_self, by decide⟩, ?_⟩
      exact ih fun x hx => hl x (List.mem_cons_of_mem a hx)

/-- The characters of a literal. -/
lemma Ascii.literal {l : List Char} (h : Ascii l) : Ascii (String.ofList l).toList := by
  rwa [String.toList_ofList]

/-- A text between texts that can be written. -/
lemma ascii_between {a b c : Text} (ha : Ascii a) (hc : Ascii c) :
    Ascii (a ++ b ++ c) ↔ Ascii b := by
  rw [ascii_append, ascii_append]
  exact ⟨fun h => h.1.2, fun h => ⟨⟨ha, h⟩, hc⟩⟩

/-- The names of the installed actions can be written. -/
lemma ascii_actions (g : Gateway) : ∀ a ∈ g.actions, Ascii a := by
  have hinstalled : ∀ a ∈ installedActions, Ascii a := by decide
  exact fun a ha => hinstalled a (g.actions_perm.mem_iff.mp ha)

/-- Which answers can be written. -/
lemma ascii_noActionsText (trigger : Json) :
    Ascii (g.noActionsText trigger) ↔ Ascii (g.triggerText trigger) :=
  ascii_between (Ascii.literal (by decide)) (Ascii.literal (by decide))

lemma ascii_notAllowedText (action : Text) : Ascii (g.notAllowedText action) ↔ Ascii action := by
  have h : ∀ a b c d : Text, Ascii a → Ascii c → Ascii d → (Ascii (a ++ b ++ c ++ d) ↔ Ascii b) := by
    intro a b c d ha hc hd
    rw [List.append_assoc (a ++ b)]
    exact ascii_between ha (ascii_append.mpr ⟨hc, hd⟩)
  exact h _ _ _ _ (Ascii.literal (by decide)) (Ascii.literal (by decide))
    (ascii_intercalate g.ascii_actions)

lemma ascii_executedText (hactions : ∀ a ∈ actions, Ascii a) : Ascii (executedText actions) :=
  ascii_append.mpr ⟨Ascii.literal (by decide), ascii_intercalate hactions⟩

lemma ascii_failedText {action message : Text} (haction : Ascii action) :
    Ascii (failedText action message) ↔ Ascii message := by
  have h : ∀ a b c d : Text, Ascii a → Ascii b → Ascii c → (Ascii (a ++ b ++ c ++ d) ↔ Ascii d) := by
    intro a b c d ha hb hc
    rw [ascii_append, ascii_append, ascii_append]
    exact ⟨fun h => h.2, fun h => ⟨⟨⟨ha, hb⟩, hc⟩, h⟩⟩
  exact h _ _ _ _ (Ascii.literal (by decide)) haction (Ascii.literal (by decide))

/-- Only one kind of answer starts with `OK`. -/
lemma not_ok_prefix {c : Char} {l : List Char} {b : Text} (hc : 'O' ≠ c) :
    ¬ "OK".toList <+: (String.ofList (c :: l)).toList ++ b := by
  rw [String.toList_ofList, String.toList_ofList, List.cons_append]
  exact fun h => hc (List.cons_prefix_cons.mp h).1

lemma not_ok_append {a b c : Text} (h : ∀ d, ¬ "OK".toList <+: a ++ d) :
    ¬ "OK".toList <+: a ++ b ++ c := by
  rw [List.append_assoc]
  exact h _

lemma not_ok_noActionsText (trigger : Json) : ¬ "OK".toList <+: g.noActionsText trigger :=
  not_ok_append fun _ => not_ok_prefix (by decide)

lemma not_ok_notAllowedText (action : Text) : ¬ "OK".toList <+: g.notAllowedText action :=
  not_ok_append fun _ => not_ok_append fun _ => not_ok_prefix (by decide)

lemma not_ok_failedText (action message : Text) : ¬ "OK".toList <+: failedText action message :=
  not_ok_append fun _ => not_ok_append fun _ => not_ok_prefix (by decide)

/-- Writing an answer raises exactly when it is requested and cannot be written. -/
lemma raised_write {requestAnswer : Json} (hraised : h.raised = false) :
    (h.write requestAnswer answer).raised = true ↔
      requestAnswer.truthy = true ∧ ¬ Ascii answer := by
  rw [Handled.write]
  split_ifs with hrequested hascii
  · simp [hraised, hascii]
  · simp [hrequested, hascii]
  · simp [hraised, hrequested]

/-- An answer that is requested and does not raise is written. -/
lemma answers_write {requestAnswer : Json} (hrequested : requestAnswer.truthy = true)
    (hraised : (h.write requestAnswer answer).raised = false) :
    (h.write requestAnswer answer).answers = h.answers ++ [answer] ∧
      (h.write requestAnswer answer).calls = h.calls := by
  rw [Handled.write, if_pos hrequested] at hraised ⊢
  split_ifs at hraised ⊢ with hascii
  · exact ⟨rfl, rfl⟩

lemma message_write {requestAnswer : Json} :
    (h.write requestAnswer answer).message = h.message := by
  rw [Handled.write]
  split_ifs <;> rfl

/-- All actions are executed, or one of them fails. -/
lemma callActions_cases (perform : ℕ → Outcome) (actions : List Text) :
    ((∀ n < actions.length, perform n = .done) ∧
      callActions perform actions = actions.map (·, .done)) ∨
    ∃ n action message, actions[n]? = some action ∧ (∀ k < n, perform k = .done) ∧
      perform n = .raised message ∧
      (callActions perform actions).getLast? = some (action, .raised message) := by
  induction actions generalizing perform with
  | nil => exact .inl ⟨fun n hn => absurd hn (Nat.not_lt_zero n), rfl⟩
  | cons a actions ih =>
    cases hfirst : perform 0 with
    | raised message =>
      refine .inr ⟨0, a, message, rfl, fun k hk => absurd hk (Nat.not_lt_zero k), hfirst, ?_⟩
      rw [callActions, hfirst]
      rfl
    | done =>
      have hcalls : callActions perform (a :: actions) =
          (a, .done) :: callActions (fun n => perform (n + 1)) actions := by
        rw [callActions, hfirst]
      rcases ih (fun n => perform (n + 1)) with ⟨hall, heq⟩ |
        ⟨n, action, message, hn, hbefore, hraised, hlast⟩
      · refine .inl ⟨fun n hn => ?_, ?_⟩
        · cases n with
          | zero => exact hfirst
          | succ n => exact hall n (Nat.lt_of_succ_lt_succ hn)
        · rw [hcalls, heq, List.map_cons]
      · refine .inr ⟨n + 1, action, message, hn, fun k hk => ?_, hraised, ?_⟩
        · cases k with
          | zero => exact hfirst
          | succ k => exact hbefore k (Nat.lt_of_succ_lt_succ hk)
        · rw [hcalls, List.getLast?_cons, hlast]
          rfl

/-- The answer after all actions were executed, or after one of them failed. -/
lemma answerText_callActions (perform : ℕ → Outcome) (actions : List Text) :
    ((∀ n < actions.length, perform n = .done) ∧
      callActions perform actions = actions.map (·, .done) ∧
      answerText actions (callActions perform actions) = some (executedText actions)) ∨
    ∃ n action message, actions[n]? = some action ∧ (∀ k < n, perform k = .done) ∧
      perform n = .raised message ∧
      answerText actions (callActions perform actions) = message.map (failedText action) := by
  rcases callActions_cases perform actions with ⟨hall, heq⟩ |
    ⟨n, action, message, hn, hbefore, hraised, hlast⟩
  · refine .inl ⟨hall, heq, ?_⟩
    rw [heq, answerText, List.getLast?_map]
    cases actions.getLast? with
    | none => rfl
    | some a => rfl
  · refine .inr ⟨n, action, message, hn, hbefore, hraised, ?_⟩
    rw [answerText, hlast]

/-- Whether a failure ends the thread is a matter of the first exception. -/
lemma failsBadly_iff {n : ℕ} {message : Option Text} {requested : Prop} (hn : n < actions.length)
    (hbefore : ∀ k < n, perform k = .done) (hraised : perform n = .raised message) :
    FailsBadly perform actions requested ↔
      requested ∧ (∃ t ∈ message, ¬ Ascii t) ∨ message = none := by
  constructor
  · rintro ⟨n', message', -, hbefore', hraised', hbad⟩
    rcases lt_trichotomy n n' with hlt | rfl | hlt
    · exact nomatch hraised.symm.trans (hbefore' n hlt)
    · cases hraised.symm.trans hraised'
      exact hbad
    · exact nomatch hraised'.symm.trans (hbefore n' hlt)
  · exact fun hbad => ⟨n, message, hn, hbefore, hraised, hbad⟩

/-- The actions of a request that are called are those of the dispatcher. -/
lemma ascii_allowed (hallowed : actions.find? (fun action => action ∉ g.actions) = none) :
    ∀ a ∈ actions, Ascii a := fun a ha =>
  g.ascii_actions a (by simpa using List.find?_eq_none.mp hallowed a ha)

/-- A request for actions is served by calling some of them and writing an answer, unless no answer
can be made.  The request breaks exactly when there is none or it cannot be written, and an answer
that starts with `OK` says that all actions were executed. -/
lemma serve_eq (perform : ℕ → Outcome) (h : Handled)
    (hactions : g.actionsOf r.trigger = some actions) :
    ∃ calls answer, g.serve perform h r =
        (match answer with
        | none => { h with calls := calls, raised := true }
        | some a => { h with calls := calls }.write r.requestAnswer a) ∧
      (g.RequestBreaks perform r ↔
        r.requestAnswer.truthy = true ∧ (∃ a ∈ answer, ¬ Ascii a) ∨ answer = none) ∧
      ∀ a ∈ answer, "OK".toList <+: a → actions ≠ [] ∧ calls = actions.map (·, .done) := by
  cases actions with
  | nil =>
    refine ⟨h.calls, some (g.noActionsText r.trigger), ?_, ?_, ?_⟩
    · rw [serve, hactions]
    · rw [RequestBreaks, hactions]
      simp [ascii_noActionsText]
    · intro a ha hok
      rw [← Option.mem_some_iff.mp ha] at hok
      exact absurd hok (not_ok_noActionsText _)
  | cons action₀ rest =>
    cases hfind : (action₀ :: rest).find? fun action => action ∉ g.actions with
    | some action =>
      refine ⟨h.calls, some (g.notAllowedText action), ?_, ?_, ?_⟩
      · simp only [serve, hactions, hfind]
      · simp only [RequestBreaks, hactions, hfind]
        simp [ascii_notAllowedText]
      · intro a ha hok
        rw [← Option.mem_some_iff.mp ha] at hok
        exact absurd hok (not_ok_notAllowedText _)
    | none =>
      have hascii := ascii_allowed hfind
      have hserve : ∀ answer, answerText (action₀ :: rest) (callActions perform (action₀ :: rest)) =
          answer → g.serve perform h r =
          (match answer with
          | none => { h with calls := callActions perform (action₀ :: rest), raised := true }
          | some a => { h with calls := callActions perform (action₀ :: rest) }.write
              r.requestAnswer a) := by
        rintro answer rfl
        simp only [serve, hactions, hfind]
      refine ⟨callActions perform (action₀ :: rest), _, hserve _ rfl, ?_, ?_⟩
      · simp only [RequestBreaks, hactions, hfind]
        rcases answerText_callActions perform (action₀ :: rest) with ⟨hall, -, hanswer⟩ |
          ⟨n, action, message, hn, hbefore, hraised, hanswer⟩
        · rw [hanswer]
          constructor
          · rintro ⟨n, message, hn, -, hraised, -⟩
            exact nomatch hraised.symm.trans (hall n hn)
          · rintro (⟨-, a, ⟨⟩, hnot⟩ | hnone)
            · exact absurd (ascii_executedText hascii) hnot
            · exact nomatch hnone
        · obtain ⟨hlt, -⟩ := List.getElem?_eq_some_iff.mp hn
          rw [failsBadly_iff hlt hbefore hraised, hanswer]
          cases message with
          | none => simp
          | some t => simp [ascii_failedText (hascii action (List.mem_of_getElem? hn))]
      · intro a ha hok
        refine ⟨List.cons_ne_nil _ _, ?_⟩
        rcases answerText_callActions perform (action₀ :: rest) with ⟨-, heq, -⟩ |
          ⟨n, action, message, -, -, -, hanswer⟩
        · exact heq
        · rw [hanswer] at ha
          obtain ⟨t, -, rfl⟩ := Option.map_eq_some_iff.mp ha
          exact absurd hok (not_ok_failedText _ _)

/-- A request that cannot be served ends the thread, and no other does. -/
lemma raised_serve (perform : ℕ → Outcome) (r : Request) (hraised : h.raised = false) :
    (g.serve perform h r).raised = true ↔ g.RequestBreaks perform r := by
  cases hactions : g.actionsOf r.trigger with
  | none => simp [serve, RequestBreaks, hactions]
  | some actions =>
    obtain ⟨calls, answer, hserve, hbreaks, -⟩ := serve_eq perform h hactions
    rw [hserve, hbreaks]
    cases answer with
    | none => simp
    | some a =>
      rw [raised_write (h := { h with calls := calls }) hraised]
      simp

/-- A request for an answer that is served gets one. -/
lemma answers_serve (hanswers : h.answers = []) (hrequested : r.requestAnswer.truthy = true)
    (hserved : (g.serve perform h r).raised = false) :
    ∃ answer, (g.serve perform h r).answers = [answer] ∧
      ("OK".toList <+: answer → ∃ actions, g.actionsOf r.trigger = some actions ∧
        actions ≠ [] ∧ (g.serve perform h r).calls = actions.map (·, .done)) := by
  cases hactions : g.actionsOf r.trigger with
  | none => simp [serve, hactions] at hserved
  | some actions =>
    obtain ⟨calls, answer, hserve, -, hok⟩ := serve_eq perform h hactions
    rw [hserve] at hserved ⊢
    cases answer with
    | none => exact nomatch hserved
    | some a =>
      obtain ⟨hwritten, hcalls⟩ := answers_write hrequested hserved
      refine ⟨a, ?_, fun ha => ⟨actions, rfl, ?_⟩⟩
      · rw [hwritten, hanswers]
        rfl
      · rw [hcalls]
        exact hok a rfl ha

lemma message_serve (perform : ℕ → Outcome) (h : Handled) (r : Request) :
    (g.serve perform h r).message = h.message := by
  cases hactions : g.actionsOf r.trigger with
  | none => simp [serve, hactions]
  | some actions =>
    obtain ⟨calls, answer, hserve, -, -⟩ := serve_eq perform h hactions
    rw [hserve]
    cases answer with
    | none => rfl
    | some a => exact message_write

variable {message : Text}

lemma message_handleMessage (perform : ℕ → Outcome) (message : Text) :
    (g.handleMessage perform message).message = message := by
  rw [handleMessage]
  split
  · rfl
  · rfl
  · exact message_serve _ _ _

lemma raised_handleMessage (perform : ℕ → Outcome) (message : Text) :
    (g.handleMessage perform message).raised = true ↔ g.Breaks perform message := by
  rw [handleMessage, Breaks]
  split
  · simp
  · simp
  · exact raised_serve perform _ rfl

lemma answers_handleMessage (hdecode : g.decode message = .ok r)
    (hrequested : r.requestAnswer.truthy = true)
    (hserved : (g.handleMessage perform message).raised = false) :
    ∃ answer, (g.handleMessage perform message).answers = [answer] ∧
      ("OK".toList <+: answer → ∃ actions, g.actionsOf r.trigger = some actions ∧
        actions ≠ [] ∧ (g.handleMessage perform message).calls = actions.map (·, .done)) := by
  have heq : g.handleMessage perform message =
      g.serve perform { message := message, forwarded := g.forwardTo ≠ [] } r := by
    rw [handleMessage, hdecode]
  rw [heq] at hserved ⊢
  exact answers_serve rfl hrequested hserved

end Message

/-! ## The whole connection -/

variable {g} {perform : ℕ → ℕ → Outcome} {line : Text} {lines : List Text}

/-- Behind an empty line nothing is handled. -/
lemma servesAll_blank (hline : strip line = []) :
    g.ServesAll perform (line :: lines) ↔ ∀ b ∈ lines, strip b = [] := by
  have hhandle : g.handle perform (line :: lines) = [] := by
    rw [handle, if_pos hline]
  have hfilter : ((line :: lines).map strip).filter (· ≠ []) = [] ↔ ∀ b ∈ lines, strip b = [] := by
    simp [hline]
  constructor
  · intro h
    rw [← hfilter, ← h.all, hhandle]
    rfl
  · intro h
    refine ⟨?_, ?_, ?_⟩
    · rw [hhandle, hfilter.mpr h]
      rfl
    · rw [hhandle]
      exact fun h hh => nomatch hh
    · rw [hhandle]
      exact fun h hh => nomatch hh

/-- A message that breaks ends the connection; after another one it goes on. -/
lemma servesAll_message (hline : strip line ≠ []) :
    g.ServesAll perform (line :: lines) ↔ ¬ g.Breaks (perform 0) (strip line) ∧
      g.ServesAll (fun i => perform (i + 1)) lines := by
  have hfilter : ((line :: lines).map strip).filter (· ≠ []) =
      strip line :: (lines.map strip).filter (· ≠ []) := by
    simp [hline]
  cases hraised : (g.handleMessage (perform 0) (strip line)).raised with
  | true =>
    have hhandle : g.handle perform (line :: lines) =
        [g.handleMessage (perform 0) (strip line)] := by
      simp only [handle, if_neg hline, hraised, if_true]
    refine ⟨fun h => ?_, fun h => absurd ((raised_handleMessage _ _).mp hraised) h.1⟩
    have := h.survives (g.handleMessage (perform 0) (strip line)) (by rw [hhandle]; simp)
    exact nomatch hraised.symm.trans this
  | false =>
    have hhandle : g.handle perform (line :: lines) =
        g.handleMessage (perform 0) (strip line) :: g.handle (fun i => perform (i + 1)) lines := by
      simp only [handle, if_neg hline, hraised, Bool.false_eq_true, if_false]
    have hbreaks : ¬ g.Breaks (perform 0) (strip line) := fun hb =>
      nomatch hraised.symm.trans ((raised_handleMessage _ _).mpr hb)
    constructor
    · rintro ⟨hall, hsurvives, hanswers⟩
      rw [hhandle] at hall hsurvives hanswers
      rw [hfilter, List.map_cons] at hall
      exact ⟨hbreaks, (List.cons.inj hall).2, fun h hh => hsurvives h (List.mem_cons_of_mem _ hh),
        fun h hh => hanswers h (List.mem_cons_of_mem _ hh)⟩
    · rintro ⟨-, hall, hsurvives, hanswers⟩
      refine ⟨?_, ?_, ?_⟩
      · rw [hhandle, hfilter, List.map_cons, message_handleMessage, hall]
      · rw [hhandle]
        exact List.forall_mem_cons.mpr ⟨hraised, hsurvives⟩
      · rw [hhandle]
        refine List.forall_mem_cons.mpr ⟨fun r hdecode hrequested => ?_, hanswers⟩
        rw [message_handleMessage] at hdecode
        exact answers_handleMessage hdecode hrequested hraised

/-- Every request of a connection is handled and answered exactly when its empty lines are the last
ones, and no message breaks. -/
theorem servesAll_iff (g : Gateway) (perform : ℕ → ℕ → Outcome) (lines : List Text) :
    g.ServesAll perform lines ↔
      lines.Pairwise (fun a b => strip a = [] → strip b = []) ∧
      ∀ i message, (lines.map strip)[i]? = some message → message ≠ [] →
        ¬ g.Breaks (perform i) message := by
  induction lines generalizing perform with
  | nil =>
    refine ⟨fun _ => ⟨List.Pairwise.nil, fun i message hi => nomatch hi⟩, fun _ => ⟨rfl, ?_, ?_⟩⟩
    · exact fun h hh => nomatch hh
    · exact fun h hh => nomatch hh
  | cons line lines ih =>
    rw [List.pairwise_cons]
    by_cases hline : strip line = []
    · rw [servesAll_blank hline]
      constructor
      · intro hblank
        refine ⟨⟨fun b hb _ => hblank b hb, ?_⟩, fun i message hi hmessage => ?_⟩
        · exact List.pairwise_of_forall_mem_list fun a _ b hb _ => hblank b hb
        · refine absurd ?_ hmessage
          obtain ⟨b, hb, rfl⟩ := List.mem_map.mp (List.mem_of_getElem? hi)
          rcases List.mem_cons.mp hb with rfl | hb
          · exact hline
          · exact hblank b hb
      · exact fun h b hb => h.1.1 b hb hline
    · rw [servesAll_message hline, ih]
      constructor
      · rintro ⟨hbreaks, hpairwise, hrest⟩
        refine ⟨⟨fun b _ h => absurd h hline, hpairwise⟩, fun i message hi hmessage => ?_⟩
        cases i with
        | zero =>
          cases hi
          exact hbreaks
        | succ i => exact hrest i message hi hmessage
      · rintro ⟨⟨-, hpairwise⟩, hall⟩
        exact ⟨hall 0 _ rfl hline, hpairwise, fun i message hi => hall (i + 1) message hi⟩

/-- A request for an answer. -/
def exampleMessage : Text :=
  "\x7b\"op\": \"new_build\", \"build\": \"HSS-1.28.2.20\", \"request_answer\": true\x7d".toList

/-- A gateway without triggers. -/
def exampleGateway : Gateway where
  loads := fun message =>
    if message = exampleMessage then some (.obj [("op".toList, .str "new_build".toList),
      ("build".toList, .str "HSS-1.28.2.20".toList), ("request_answer".toList, .bool true)])
    else none
  numText := fun _ => []
  numText_ascii := fun _ _ hc => nomatch hc
  actions := installedActions
  actions_perm := List.Perm.refl _
  triggerTranslator := ∅
  forwardTo := []

/-- A request behind an empty line is not answered. -/
theorem emptyLine_fails :
    ¬ exampleGateway.ServesAll (fun _ _ => .done) ["\n".toList, exampleMessage ++ "\n".toList] := by
  intro h
  have hblank := (servesAll_blank (by decide)).mp h _ List.mem_cons_self
  revert hblank
  decide

end Gateway

end RtcGateway

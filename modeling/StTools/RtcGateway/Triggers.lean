import StTools.RtcGateway.TcpHandler
import StTools.Lib.LabelledSystem
import StTools.Lib.NamedInstances

/-!
# The triggers of the gateway

The gateway keeps a table of triggers with the actions that each stands for.  It is read from the
configuration file when the service is built; the command line changes it with `update_trigger`, and
every change is saved.

`lawful_iff` says for which files and which calls the changes are all or nothing and survive a restart.
-/

namespace RtcGateway

open BuildHandler (Text)

attribute [local instance] NamedInstances.lawfulBEq_list

/-! ## The service -/

/-- What the configuration file holds. -/
structure SavedConfig where
  tcpPort : ℕ
  triggerTranslator : Dict Text (List Text)
  /-- A file without this entry is allowed. -/
  forwardTo : Option (List Text)

/-- The globals of the module, and the configuration file. -/
structure Service where
  /-- `TCP_PORT`. -/
  tcpPort : ℕ
  /-- `TRIGGER_TRANSLATOR`. -/
  triggerTranslator : Dict Text (List Text)
  /-- `FORWARD_TO`. -/
  forwardTo : List Text
  file : SavedConfig

namespace Service

/-- Write the configuration file: the triggers and the port. -/
def saveConfig (s : Service) : Service :=
  { s with file := ⟨s.tcpPort, s.triggerTranslator, none⟩ }

/-- Build the handler of a new process, which reads the configuration file or makes one. -/
def init : Option SavedConfig → Service
  | some data =>
    -- `tcp_port` is read into a local of the constructor: the global keeps its first value.
    { tcpPort := 10000
      triggerTranslator := data.triggerTranslator
      forwardTo := data.forwardTo.getD []
      file := data }
  | none =>
    { tcpPort := 10000
      triggerTranslator := ∅
      forwardTo := []
      file := ⟨10000, ∅, none⟩ }

/-! ## Changes of the table -/

/-- A call of `update_trigger`. -/
structure Call where
  operation : Text
  trigger : Text
  actions : List Text

/-- The answer of a call that has been carried out. -/
def executed : Text := "EXECUTED".toList

/-- The answer for an action that is not installed. -/
def notAllowed (keys : List Text) (action : Text) : Text :=
  action ++ " is not in allowed actions: ".toList ++ List.intercalate [' '] keys

/-- The answer for a trigger that is not in the table. -/
def triggerNotValid (s : Service) : Text :=
  "Trigger not valid. Allowed values are: ".toList ++
    List.intercalate " | ".toList s.triggerTranslator.keys

/-- The answer for another operation. -/
def operationNotValid : Text := "Operation not valid. Allowd values are: update | delete".toList

/-- Change the table, and emit answers; `keys` are the actions of the dispatcher. -/
def updateTrigger (keys : List Text) (s : Service) (c : Call) : Service × List Text :=
  if c.operation = "update".toList then
    -- An action that is not installed is reported, and stored all the same.
    ({ s with triggerTranslator := s.triggerTranslator.set c.trigger c.actions }.saveConfig,
      (c.actions.filter (· ∉ keys)).map (notAllowed keys) ++ [executed])
  else if c.operation = "delete".toList then
    if (s.triggerTranslator.get? c.trigger).isSome then
      ({ s with triggerTranslator := s.triggerTranslator.delete c.trigger }.saveConfig, [executed])
    else (s, [s.triggerNotValid])
  else (s, [operationNotValid])

/-- The service takes calls one after another. -/
def step (keys : List Text) (s : Service) (c : Call) : Option Service :=
  some (s.updateTrigger keys c).1

/-! ## What is expected -/

/-- Every action of the table is installed. -/
def Installed (keys : List Text) (s : Service) : Prop :=
  ∀ actions ∈ s.triggerTranslator.values, ∀ a ∈ actions, a ∈ keys

/-- A new handler finds in the file what is in force. -/
def Restored (s : Service) : Prop :=
  (init (some s.file)).tcpPort = s.tcpPort ∧
    (init (some s.file)).triggerTranslator = s.triggerTranslator ∧
    (init (some s.file)).forwardTo = s.forwardTo

/-- A call gets one answer, and changes nothing unless the answer is `EXECUTED`. -/
def AllOrNothing (keys : List Text) (s : Service) (c : Call) : Prop :=
  ∃ answer, (s.updateTrigger keys c).2 = [answer] ∧ (answer ≠ executed →
    (s.updateTrigger keys c).1.triggerTranslator = s.triggerTranslator ∧
      (s.updateTrigger keys c).1.file = s.file)

/-- In every state the table and the file are sound, and every call is all or nothing. -/
def Lawful (keys : List Text) (s : Service) (calls : List Call) : Prop :=
  LabelledSystem.Throughout (step keys) (fun s => s.Installed keys ∧ s.Restored) s calls ∧
    LabelledSystem.Along (step keys) (AllOrNothing keys) s calls

/-- The call saves the configuration when the table is `triggers`. -/
def Call.Saves (c : Call) (triggers : Dict Text (List Text)) : Prop :=
  c.operation = "update".toList ∨ c.operation = "delete".toList ∧ (triggers.get? c.trigger).isSome

/-- The call stores only actions that are installed. -/
def Call.Allowed (keys : List Text) (c : Call) : Prop :=
  c.operation = "update".toList → ∀ a ∈ c.actions, a ∈ keys

/-! ## One call -/

section Step

variable {keys : List Text} {s : Service} {c : Call}

lemma tcpPort_init (file : Option SavedConfig) : (init file).tcpPort = 10000 := by
  cases file <;> rfl

lemma restored_init (file : Option SavedConfig) : (init file).Restored := by
  cases file <;> exact ⟨rfl, rfl, rfl⟩

/-- What has been saved is restored if there are no hosts. -/
lemma restored_saveConfig (h : s.tcpPort = 10000) :
    s.saveConfig.Restored ↔ s.forwardTo = [] :=
  ⟨fun hr => hr.2.2.symm, fun hf => ⟨h.symm, rfl, hf.symm⟩⟩

/-- Whether the actions that are stored are all installed decides about the answers. -/
lemma warnings_eq_nil_iff : (c.actions.filter (· ∉ keys)).map (notAllowed keys) = [] ↔
    ∀ a ∈ c.actions, a ∈ keys := by
  rw [List.map_eq_nil_iff, List.filter_eq_nil_iff]
  simp

/-- A call that saves changes the table and writes it to the file.  It is all or nothing exactly when
it stores only installed actions, and then the table stays so. -/
lemma updateTrigger_of_saves (keys : List Text) (h : c.Saves s.triggerTranslator) :
    ∃ triggers, (s.updateTrigger keys c).1 =
        { s with triggerTranslator := triggers }.saveConfig ∧
      (s.AllOrNothing keys c ↔ c.Allowed keys) ∧
      (s.Installed keys → c.Allowed keys → ∀ actions ∈ triggers.values, ∀ a ∈ actions, a ∈ keys) := by
  rcases h with hop | ⟨hop, hin⟩
  · refine ⟨s.triggerTranslator.set c.trigger c.actions, by rw [updateTrigger, if_pos hop], ?_, ?_⟩
    · rw [AllOrNothing, updateTrigger, if_pos hop, Call.Allowed, forall_prop_of_true hop,
        ← warnings_eq_nil_iff]
      constructor
      · rintro ⟨answer, hone, -⟩
        exact (List.append_eq_singleton_iff.mp hone).elim (fun h => h.1) fun h => nomatch h.2
      · intro hnil
        exact ⟨executed, by rw [hnil]; rfl, fun hne => absurd rfl hne⟩
    · intro hinstalled hallowed actions hactions
      obtain ⟨k, hk⟩ := Dict.mem_values.mp hactions
      rw [Dict.get?_set] at hk
      split_ifs at hk with hkey
      · exact Option.some.inj hk ▸ hallowed hop
      · exact hinstalled actions (Dict.mem_values.mpr ⟨k, hk⟩)
  · have hupdate : c.operation ≠ "update".toList := by
      rw [hop]
      decide
    have heq : s.updateTrigger keys c =
        ({ s with triggerTranslator := s.triggerTranslator.delete c.trigger }.saveConfig,
          [executed]) := by
      rw [updateTrigger, if_neg hupdate, if_pos hop, if_pos hin]
    refine ⟨s.triggerTranslator.delete c.trigger, by rw [heq], ?_, ?_⟩
    · refine ⟨fun _ h => absurd h hupdate, fun _ => ⟨executed, by rw [heq], ?_⟩⟩
      exact fun hne => absurd rfl hne
    · intro hinstalled _ actions hactions
      obtain ⟨k, hk⟩ := Dict.mem_values.mp hactions
      rw [Dict.get?_delete] at hk
      split_ifs at hk
      exact hinstalled actions (Dict.mem_values.mpr ⟨k, hk⟩)

/-- A call that does not save changes nothing and gets one answer. -/
lemma updateTrigger_of_not_saves (keys : List Text) (h : ¬ c.Saves s.triggerTranslator) :
    (s.updateTrigger keys c).1 = s ∧ s.AllOrNothing keys c ∧ c.Allowed keys := by
  have hupdate : c.operation ≠ "update".toList := fun hop => h (.inl hop)
  have heq : ∃ answer, s.updateTrigger keys c = (s, [answer]) := by
    rw [updateTrigger, if_neg hupdate]
    split_ifs with hop hin
    · exact absurd (.inr ⟨hop, hin⟩) h
    · exact ⟨_, rfl⟩
    · exact ⟨_, rfl⟩
  obtain ⟨answer, heq⟩ := heq
  refine ⟨by rw [heq], ⟨answer, by rw [heq], fun _ => ?_⟩, fun hop => absurd hop hupdate⟩
  rw [heq]
  exact ⟨rfl, rfl⟩

end Step

/-! ## All calls -/

variable {keys : List Text} {s : Service} {c : Call} {calls : List Call}

lemma lawful_nil : s.Lawful keys [] ↔ s.Installed keys ∧ s.Restored :=
  ⟨fun h => h.1, fun h => ⟨h, trivial⟩⟩

lemma lawful_cons : s.Lawful keys (c :: calls) ↔ (s.Installed keys ∧ s.Restored) ∧
    s.AllOrNothing keys c ∧ (s.updateTrigger keys c).1.Lawful keys calls := by
  constructor
  · rintro ⟨⟨hs, hthroughout⟩, halong⟩
    obtain ⟨hc, halong⟩ := halong _ rfl
    exact ⟨hs, hc, hthroughout _ rfl, halong⟩
  · rintro ⟨hs, hc, hthroughout, halong⟩
    refine ⟨⟨hs, ?_⟩, ?_⟩
    · rintro t ⟨⟩
      exact hthroughout
    · rintro t ⟨⟩
      exact ⟨hc, halong⟩

/-- The law from a state that the file restores. -/
lemma lawful_iff_of_restored (htcp : s.tcpPort = 10000) (hrestored : s.Restored) :
    s.Lawful keys calls ↔ s.Installed keys ∧ (∀ c ∈ calls, c.Allowed keys) ∧
      (s.forwardTo = [] ∨ ∀ c ∈ calls, ¬ c.Saves s.triggerTranslator) := by
  induction calls generalizing s with
  | nil => simp [lawful_nil, hrestored]
  | cons c calls ih =>
    rw [lawful_cons, List.forall_mem_cons, List.forall_mem_cons]
    by_cases hsaves : c.Saves s.triggerTranslator
    · obtain ⟨triggers, heq, hall, hkeeps⟩ := updateTrigger_of_saves keys hsaves
      have hsaved : { s with triggerTranslator := triggers }.saveConfig.Restored ↔
          s.forwardTo = [] := restored_saveConfig htcp
      rw [heq, hall]
      by_cases hforward : s.forwardTo = []
      · have hrest := ih (s := { s with triggerTranslator := triggers }.saveConfig) htcp
          (hsaved.mpr hforward)
        rw [hrest]
        constructor
        · rintro ⟨⟨hinstalled, -⟩, hc, -, hcalls, -⟩
          exact ⟨hinstalled, ⟨hc, hcalls⟩, .inl hforward⟩
        · rintro ⟨hinstalled, ⟨hc, hcalls⟩, -⟩
          exact ⟨⟨hinstalled, hrestored⟩, hc, hkeeps hinstalled hc, hcalls, .inl hforward⟩
      · constructor
        · rintro ⟨-, -, hlawful⟩
          exact absurd (hsaved.mp hlawful.1.head.2) hforward
        · rintro ⟨-, -, hnil | ⟨hnot, -⟩⟩
          · exact absurd hnil hforward
          · exact absurd hsaves hnot
    · obtain ⟨heq, hall, hallowed⟩ := updateTrigger_of_not_saves keys hsaves
      rw [heq, ih htcp hrestored]
      constructor
      · rintro ⟨-, -, hinstalled, hcalls, hforward⟩
        exact ⟨hinstalled, ⟨hallowed, hcalls⟩, hforward.imp_right fun h => ⟨hsaves, h⟩⟩
      · rintro ⟨hinstalled, ⟨-, hcalls⟩, hforward⟩
        exact ⟨⟨hinstalled, hrestored⟩, hall, hinstalled, hcalls, hforward.imp_right And.right⟩

/-- While the table is sound, the connections of the gateway refuse no configured action. -/
lemma find?_eq_none_of_installed {g : Gateway} {trigger : BuildHandler.Json} {actions : List Text}
    (htable : g.triggerTranslator = s.triggerTranslator) (hinstalled : s.Installed g.actions)
    (hactions : g.actionsOf trigger = some actions) :
    actions.find? (fun action => action ∉ g.actions) = none := by
  have hall : ∀ a ∈ actions, a ∈ g.actions := by
    cases trigger with
    | str t =>
      cases hget : s.triggerTranslator.get? t with
      | none =>
        rw [Gateway.actionsOf, htable, hget] at hactions
        cases hactions
        exact fun a ha => nomatch ha
      | some l =>
        rw [Gateway.actionsOf, htable, hget] at hactions
        cases hactions
        exact hinstalled _ (Dict.mem_values.mpr ⟨t, hget⟩)
    | arr l => exact nomatch hactions
    | obj m => exact nomatch hactions
    | null | bool b | num x =>
      cases hactions
      exact fun a ha => nomatch ha
  exact List.find?_eq_none.mpr fun a ha => by simpa using hall a ha

/-- The law holds for a configuration file and a list of calls exactly when the file has only installed
actions, every update has only installed actions, and there are no hosts to forward to or no call saves
the configuration. -/
theorem lawful_iff (keys : List Text) (file : Option SavedConfig) (calls : List Call) :
    (init file).Lawful keys calls ↔ (init file).Installed keys ∧ (∀ c ∈ calls, c.Allowed keys) ∧
      ((init file).forwardTo = [] ∨
        ∀ c ∈ calls, ¬ c.Saves (init file).triggerTranslator) :=
  lawful_iff_of_restored (tcpPort_init file) (restored_init file)

/-- An action that is not installed is answered twice and stored. -/
theorem unknownAction_fails : ¬ (init none).Lawful installedActions
    [⟨"update".toList, "new_build".toList, ["typo".toList]⟩] := by
  intro h
  obtain ⟨answer, hone, -⟩ := (lawful_cons.mp h).2.1
  have hlength : ((init none).updateTrigger installedActions
      ⟨"update".toList, "new_build".toList, ["typo".toList]⟩).2.length = 1 := by
    rw [hone]
    rfl
  exact absurd hlength (by decide)

end Service

end RtcGateway

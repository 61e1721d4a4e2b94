import StTools.HssRtc.LoadMonitor

/-!
# The end of the load monitor

When the load monitor is shut down, the register of an instability that was raised only just before
is left out of the checks: it comes from the end of the phase.  The code takes the last register for
it.  This module keeps a note of the register that was raised last, and says when the last register
is the right one.
-/

namespace HssRtc

/-- Leave a register out of the checks. -/
def LoadRegister.uncheck (r : LoadRegister) : LoadRegister := { r with check := false }

/-- Leave at most one register out of the checks. -/
def discard (place : Option ℕ) (db : List LoadRegister) : List LoadRegister :=
  match place with
  | none => db
  | some i => db.modify i LoadRegister.uncheck

/-- `failed_registers`: the checked registers of an unstable load.  The place of a register stands
for its time stamp and its reason. -/
def failedRegisters (db : List LoadRegister) : List (LoadRegister × ℕ) :=
  db.zipIdx.filter fun p => p.1.state = .notStable ∧ p.1.check

/-- A register after one was left out. -/
lemma getElem?_discard (place : Option ℕ) (db : List LoadRegister) (i : ℕ) :
    (discard place db)[i]? = if place = some i then db[i]?.map LoadRegister.uncheck else db[i]? := by
  cases place with
  | none => simp [discard]
  | some j =>
    by_cases h : j = i
    · subst h
      simp [discard]
    · simp [discard, h]

/-- A register that is checked changes when it is left out. -/
lemma LoadRegister.uncheck_eq_self {r : LoadRegister} : r.uncheck = r ↔ r.check = false := by
  obtain ⟨state, check⟩ := r
  simp [LoadRegister.uncheck, eq_comm]

/-- It makes no difference which of two places is left out when no checked register is in only one of
them. -/
lemma discard_eq_discard_iff {place place' : Option ℕ} {db : List LoadRegister} :
    discard place db = discard place' db ↔
      ∀ i r, db[i]? = some r → r.check = true → (place = some i ↔ place' = some i) := by
  constructor
  · intro heq i r hr hcheck
    have hi : (discard place db)[i]? = (discard place' db)[i]? := by rw [heq]
    have hne : r.uncheck ≠ r := by
      rw [ne_eq, LoadRegister.uncheck_eq_self, hcheck]
      decide
    rw [getElem?_discard, getElem?_discard, hr, Option.map_some] at hi
    split_ifs at hi with h h' h'
    · exact iff_of_true h h'
    · exact absurd (Option.some.inj hi) hne
    · exact absurd (Option.some.inj hi).symm hne
    · exact iff_of_false h h'
  · intro h
    refine List.ext_getElem? fun i => ?_
    rw [getElem?_discard, getElem?_discard]
    cases hr : db[i]? with
    | none => simp
    | some r =>
      cases hcheck : r.check with
      | true => simp only [h i r hr hcheck]
      | false =>
        have hsame : r.uncheck = r := LoadRegister.uncheck_eq_self.mpr hcheck
        simp [hsame]

/-- The checked registers of an unstable load, after a register was left out. -/
lemma failedRegisters_discard (place : Option ℕ) (db : List LoadRegister) :
    failedRegisters (discard place db) =
      (failedRegisters db).filter fun p => place ≠ some p.2 := by
  have hzip : (discard place db).zipIdx =
      db.zipIdx.map fun p => if place = some p.2 then (p.1.uncheck, p.2) else p := by
    refine List.ext_getElem? fun i => ?_
    rw [List.getElem?_zipIdx, List.getElem?_map, List.getElem?_zipIdx, getElem?_discard]
    cases db[i]? with
    | none => simp
    | some r => by_cases h : place = some i <;> simp [h]
  unfold failedRegisters
  rw [hzip, List.filter_map, List.filter_filter]
  have hfilter : ∀ p : LoadRegister × ℕ,
      ((fun p : LoadRegister × ℕ => decide (p.1.state = .notStable ∧ p.1.check = true)) ∘
        fun p => if place = some p.2 then (p.1.uncheck, p.2) else p) p =
      (decide (place ≠ some p.2) && decide (p.1.state = .notStable ∧ p.1.check = true)) := by
    intro p
    by_cases h : place = some p.2 <;> simp [h, LoadRegister.uncheck]
  rw [List.filter_congr fun p _ => hfilter p]
  refine (List.map_congr_left fun p hp => ?_).trans (List.map_id _)
  have hplace : place ≠ some p.2 := by
    have htest := (List.mem_filter.mp hp).2
    simp only [Bool.and_eq_true, decide_eq_true_eq] at htest
    exact htest.1
  exact if_neg hplace

namespace LoadMonitor

open Procedure

variable {s s' : LoadMonitor} {now : ℚ} {lost : Option ℕ}

/-! ## What shutdown changes -/

/-- The place of the register that `shutdown` leaves out of the checks. -/
def taken (s : LoadMonitor) (now : ℚ) : Option ℕ :=
  if s.running ∧ s.NotStableLately now then some (s.loadDb.length - 1) else none

/-- The last register is left out. -/
lemma uncheckLast_eq_discard (s : LoadMonitor) :
    s.uncheckLast.loadDb = discard (some (s.loadDb.length - 1)) s.loadDb := by
  unfold uncheckLast discard
  rcases List.eq_nil_or_concat s.loadDb with h | ⟨db, r, h⟩
  · simp [h]
  · simp [h, List.modify_eq_take_drop, LoadRegister.uncheck]

/-- A `shutdown` that completes leaves out one register at most. -/
lemma shutdown_loadDb (h : Completes (shutdown now lost) s) :
    (shutdown now lost s).1.loadDb = discard (s.taken now) s.loadDb := by
  have hafter : Keeps loadDb ((Procedure.modify fun s : LoadMonitor =>
      { s with enableMonitoring := false, running := false }).andThen <|
      (onlyIf (fun s => s.loadDb ≠ []) (logEvent lost 2)).andThen <|
        .modify fun s => { s with logfile := false }) :=
    Keeps.andThen (keeps_modify fun _ => rfl) <|
      Keeps.andThen (Keeps.onlyIf (keeps_require _)) <| keeps_modify fun _ => rfl
  unfold shutdown at h ⊢
  rw [hafter.andThen_right s]
  have hfirst := (completes_andThen.mp h).1
  rw [completes_onlyIf] at hfirst
  unfold taken
  by_cases hrunning : s.running = true
  · obtain ⟨hlog, hbody⟩ := completes_andThen.mp (hfirst hrunning)
    rw [logEvent_fst] at hbody
    obtain ⟨hread, hlately⟩ := completes_andThen.mp hbody
    rw [readTransition, require_fst, completes_onlyIf] at hlately
    rw [onlyIf_fst_pos (p := fun s : LoadMonitor => s.running = true) hrunning, andThen_fst hlog,
      logEvent_fst, andThen_fst hread, readTransition, require_fst]
    by_cases hnow : s.NotStableLately now
    · obtain ⟨hlog', htake⟩ := completes_andThen.mp (hlately hnow)
      rw [logEvent_fst] at htake
      rw [onlyIf_fst_pos hnow, if_pos ⟨hrunning, hnow⟩, andThen_fst hlog', logEvent_fst,
        andThen_fst (completes_andThen.mp htake).1, require_fst, modify_fst, uncheckLast_eq_discard]
    · rw [onlyIf_fst_neg hnow, if_neg fun h => hnow h.2]
      rfl
  · rw [onlyIf_fst_neg (p := fun s : LoadMonitor => s.running = true) hrunning, if_neg fun h => hrunning h.1]
    rfl

/-! ## What the other sections change -/

/-- The states of the registers. -/
def states (s : LoadMonitor) : List LoadState := s.loadDb.map LoadRegister.state

/-- What the monitor knows of unstable loads, apart from whether they are checked. -/
def history (s : LoadMonitor) : ℚ × List LoadState := (s.lastNotStableTime, s.states)

/-- The status is that of the last register. -/
lemma loadStatus_eq (s : LoadMonitor) : s.loadStatus = s.states.getLast? :=
  List.getLast?_map.symm

/-- No unstable load is noted. -/
def Quiet (s s' : LoadMonitor) : Prop :=
  s'.lastNotStableTime = s.lastNotStableTime ∧
    ∃ added, s'.states = s.states ++ added ∧ LoadState.notStable ∉ added

/-- What is not changed is quiet. -/
lemma quiet_of_history_eq (h : s'.history = s.history) : Quiet s s' := by
  obtain ⟨htime, hstates⟩ := Prod.mk.inj h
  exact ⟨htime, [], by rw [hstates, List.append_nil], List.not_mem_nil⟩

/-- What keeps the history is quiet. -/
lemma relates_quiet_of_keeps {a : Section} (h : Keeps history a) : Relates Quiet a := fun s =>
  quiet_of_history_eq (h s)

/-- Nothing happens quietly. -/
lemma Quiet.refl (s : LoadMonitor) : Quiet s s := quiet_of_history_eq rfl

/-- One quiet change after another. -/
lemma Quiet.trans {s₁ s₂ s₃ : LoadMonitor} (h : Quiet s₁ s₂) (h' : Quiet s₂ s₃) : Quiet s₁ s₃ := by
  obtain ⟨htime, added, hstates, hadded⟩ := h
  obtain ⟨htime', added', hstates', hadded'⟩ := h'
  refine ⟨htime'.trans htime, added ++ added', ?_, ?_⟩
  · rw [hstates', hstates, List.append_assoc]
  · rw [List.mem_append]
    exact not_or.mpr ⟨hadded, hadded'⟩

/-- Another register is added quietly. -/
lemma relates_addRegister {state : LoadState} (h : state ≠ .notStable) :
    Relates Quiet (addRegister state) := by
  intro s
  refine ⟨rfl, [state], ?_, ?_⟩
  · simp [addRegister, Procedure.modify, states]
  · rw [List.mem_singleton]
    exact h.symm

/-- To write to the log file changes nothing. -/
lemma keeps_logEvent {α : Type*} {g : LoadMonitor → α} (k : ℕ) : Keeps g (logEvent lost k) :=
  keeps_require _

/-- `shutdown` keeps the history. -/
lemma keepsHistory_shutdown : Keeps history (shutdown now lost) := by
  have huncheck : Keeps history (.modify uncheckLast : Section) := by
    refine keeps_modify fun s => ?_
    have hstates : s.uncheckLast.states = s.states := by
      unfold states uncheckLast
      rcases List.eq_nil_or_concat s.loadDb with h | ⟨db, r, h⟩ <;> simp [h]
    exact Prod.ext rfl hstates
  have hfirst : Keeps history ((logEvent lost 0).andThen <| readTransition.andThen <|
      onlyIf (NotStableLately now) <| (logEvent lost 1).andThen <|
        (Procedure.require (fun s => s.loadDb ≠ []) .indexError).andThen <| .modify uncheckLast) :=
    (keeps_logEvent 0).andThen <| (keeps_require _).andThen <| .onlyIf <|
      (keeps_logEvent 1).andThen <| (keeps_require _).andThen huncheck
  exact hfirst.onlyIf.andThen <| Keeps.andThen (keeps_modify fun _ => rfl) <|
    Keeps.andThen (keeps_logEvent 2).onlyIf <| keeps_modify fun _ => rfl

/-- What keeps the history comes before a quiet change. -/
lemma quiet_andThen {a b : Section} (ha : Keeps history a) (hb : Relates Quiet b) :
    Relates Quiet (a.andThen b) :=
  Relates.andThen (fun _ _ _ => Quiet.trans) (relates_quiet_of_keeps ha) hb

/-- `set_new_slot` notes no unstable load. -/
lemma quiet_setNewSlot : Relates Quiet (setNewSlot now lost) := by
  intro s
  cases hslots : s.slots with
  | nil =>
    have hsame : setNewSlot now lost s = shutdown now lost s := by
      unfold setNewSlot
      rw [hslots]
    rw [hsame]
    exact relates_quiet_of_keeps keepsHistory_shutdown s
  | cons slot slots =>
    have hsame : setNewSlot now lost s = loadSlot slot slots now lost s := by
      unfold setNewSlot
      rw [hslots]
    rw [hsame]
    have hload : Relates Quiet (loadSlot slot slots now lost) :=
      quiet_andThen (keeps_modify fun _ => rfl) <| quiet_andThen (keeps_require _) <|
        quiet_andThen (keeps_modify fun _ => rfl) <| quiet_andThen (keeps_require _) <|
        quiet_andThen (keeps_modify fun _ => rfl) <| quiet_andThen (keeps_require _) <|
        quiet_andThen (keeps_logEvent 0) <| relates_addRegister (by decide)
    exact hload s

/-- `update_slot` notes no unstable load. -/
lemma quiet_updateSlot : Relates Quiet (updateSlot now lost) := by
  have hkeep : Relates Quiet (keepSlot lost) :=
    relates_quiet_of_keeps <| Keeps.andThen (keeps_modify fun _ => rfl) <|
      Keeps.andThen (keeps_require _) <| keeps_logEvent 0
  have hnew : Relates Quiet (onlyIf (fun s : LoadMonitor => s.pendingTime < 0)
      (setNewSlot now lost)) := quiet_setNewSlot.onlyIf Quiet.refl
  have hfollow : Relates Quiet (followSlot now lost) :=
    quiet_andThen (keeps_require _) <| .onlyIf Quiet.refl <|
      quiet_andThen (keeps_require _) <| quiet_andThen (keeps_modify fun _ => rfl) <|
        quiet_andThen (keeps_require _) <|
        quiet_andThen (Keeps.onlyIf (keeps_modify fun _ => rfl)) hnew
  have hslot : Relates Quiet ((Procedure.require (fun s : LoadMonitor => s.slot.time.isSome)
      .keyError).andThen <| branch (fun s => s.slot.time = some (-1)) (keepSlot lost)
        (onlyIf (fun s => s.slot.time ≠ some (-2)) (followSlot now lost))) :=
    quiet_andThen (keeps_require _) <| hkeep.branch <| hfollow.onlyIf Quiet.refl
  exact Relates.andThen (fun _ _ _ => Quiet.trans) (hslot.branch quiet_setNewSlot) <|
    relates_quiet_of_keeps <| keeps_modify fun _ => rfl

/-- `reconfigure` keeps the history. -/
lemma keepsHistory_reconfigure (slots : List Slot) : Keeps history (reconfigure slots lost) :=
  Keeps.andThen (keeps_modify fun _ => rfl) (keeps_logEvent 0)

/-- What a check of the load changes. -/
inductive Checked (now : ℚ) (s s' : LoadMonitor) : Prop
  /-- No unstable load is noted. -/
  | quiet (h : Quiet s s')
  /-- A register is added for an unstable load. -/
  | raised (hstatus : s.loadStatus ≠ some .notStable) (htime : s'.lastNotStableTime = now)
      (hstates : s'.states = s.states ++ [.notStable])
  /-- The load is unstable, but the variance that is allowed can not be read. -/
  | interrupted (hstatus : s.loadStatus ≠ some .notStable) (htime : s'.lastNotStableTime = now)
      (hstates : s'.states = s.states)

/-- What a check changes depends on the history alone. -/
lemma Checked.congr {t t' : LoadMonitor} (h : Checked now s s') (ht : t.history = s.history)
    (ht' : t'.history = s'.history) : Checked now t t' := by
  obtain ⟨htime, hstates⟩ := Prod.mk.inj ht
  obtain ⟨htime', hstates'⟩ := Prod.mk.inj ht'
  have hstatus : t.loadStatus = s.loadStatus := by rw [loadStatus_eq, loadStatus_eq, hstates]
  cases h with
  | quiet h => exact .quiet ⟨by rw [htime, htime', h.1], by rw [hstates, hstates']; exact h.2⟩
  | raised hne hnow hadd =>
    exact .raised (hstatus ▸ hne) (htime'.trans hnow) (by rw [hstates, hstates', hadd])
  | interrupted hne hnow hsame =>
    exact .interrupted (hstatus ▸ hne) (htime'.trans hnow) (by rw [hstates, hstates', hsame])

/-- An unstable load that was not known is noted. -/
lemma checked_noteNotStable (hstatus : s.loadStatus ≠ some .notStable) :
    Checked now s (noteNotStable now lost s).1 := by
  unfold noteNotStable
  rw [andThen_fst (completes_modify _), modify_fst]
  by_cases hvariance : s.slot.variance.isSome
  · have hread : Completes readVariance { s with lastNotStableTime := now } :=
      (completes_require _).mpr hvariance
    rw [andThen_fst hread, readVariance, require_fst]
    obtain ⟨htime, hstates⟩ := Prod.mk.inj <| (keeps_logEvent 0).andThen_right (g := history)
      (a := addRegister .notStable) { s with lastNotStableTime := now }
    refine .raised hstatus htime (hstates.trans ?_)
    simp [addRegister, states]
  · have hraises : ¬ Completes readVariance { s with lastNotStableTime := now } := by
      rw [readVariance, completes_require]
      exact hvariance
    rw [andThen_fst_raises hraises, readVariance, require_fst]
    exact .interrupted hstatus rfl rfl

/-- What keeps the history comes before a check. -/
lemma checked_andThen {a b : Section} (ha : Keeps history a) (hb : Relates (Checked now) b) :
    Relates (Checked now) (a.andThen b) := by
  intro s
  by_cases hcompletes : Completes a s
  · rw [andThen_fst hcompletes]
    exact (hb (a s).1).congr (ha s).symm rfl
  · rw [andThen_fst_raises hcompletes]
    exact .quiet (quiet_of_history_eq (ha s))

/-- What `check_load_stability` changes. -/
lemma checked_checkLoadStability : Relates (Checked now) (checkLoadStability now lost) := by
  have hstable : Relates Quiet (onlyIf (fun s : LoadMonitor => s.loadStatus ≠ some .stable)
      ((addRegister .stable).andThen (logEvent lost 0))) :=
    Relates.onlyIf Quiet.refl <| Relates.andThen (fun _ _ _ => Quiet.trans)
      (relates_addRegister (by decide)) (relates_quiet_of_keeps (keeps_logEvent 0))
  have hunstable : Relates (Checked now) (onlyIf
      (fun s : LoadMonitor => s.loadStatus ≠ some .notStable) (noteNotStable now lost)) := by
    intro s
    by_cases hstatus : s.loadStatus ≠ some .notStable
    · rw [onlyIf_fst_pos (p := fun s : LoadMonitor => s.loadStatus ≠ some .notStable) hstatus]
      exact checked_noteNotStable hstatus
    · rw [onlyIf_fst_neg (p := fun s : LoadMonitor => s.loadStatus ≠ some .notStable) hstatus]
      exact .quiet (Quiet.refl s)
  have hreached : Relates (Checked now) (checkReached now lost) :=
    checked_andThen (keeps_require _) <| checked_andThen (keeps_modify fun _ => rfl) <|
      checked_andThen (keeps_require _) <| checked_andThen (Keeps.onlyIf (keeps_require _)) <|
      Relates.branch (fun s => .quiet (hstable s)) hunstable
  have hreaches : Keeps history (onlyIf LoadInRange
      (.modify fun s : LoadMonitor => { s with targetLoadReached := true }) : Section) :=
    Keeps.onlyIf (keeps_modify fun _ => rfl)
  exact hreached.branch <| checked_andThen (keeps_require _) fun s =>
    .quiet (relates_quiet_of_keeps hreaches s)

/-! ## What a step changes -/

/-- A section under the lock changes what it changes without. -/
lemma locked_history (t : MonitorThread) (body : Section) (s : LoadMonitor) :
    (locked t body s).1.history = s.history ∨
      (locked t body s).1.history = (body { s with mutex := s.mutex.acquire t }).1.history := by
  unfold locked
  dsimp only
  split_ifs
  · exact Or.inl rfl
  · split
    · exact Or.inr rfl
    · split <;> exact Or.inr rfl

/-- To count a reading error keeps the history. -/
lemma countReadingError_history (s : LoadMonitor) :
    (s.countReadingError now).history = s.history := by
  unfold countReadingError
  split_ifs
  · exact keepsHistory_shutdown _
  · rfl

/-- What the thread does after a section keeps the history. -/
lemma runSection_history (body : Section) (next : MonitorPc) (s : LoadMonitor) :
    (s.runSection body next now).history = (locked .monitor body s).1.history := by
  unfold runSection
  dsimp only
  split
  · rfl
  · exact countReadingError_history _

/-- A quiet section is quiet under the lock. -/
lemma quiet_locked {t : MonitorThread} {body : Section} (h : Relates Quiet body) (s : LoadMonitor) :
    Quiet s (locked t body s).1 := by
  rcases locked_history t body s with hsame | hbody
  · exact quiet_of_history_eq hsame
  · obtain ⟨htime, hstates⟩ := Prod.mk.inj hbody
    have hquiet := h { s with mutex := s.mutex.acquire t }
    exact ⟨htime.trans hquiet.1, by rw [hstates]; exact hquiet.2⟩

/-- **One step.**  A step that is not a check notes no unstable load. -/
lemma quiet_step {e : Event} (hstep : step s e = some s') (he : ∀ now lost, e ≠ .check now lost) :
    Quiet s s' := by
  cases e with
  | start now lost =>
    obtain ⟨-, heq⟩ := Option.ite_none_right_eq_some.mp hstep
    obtain rfl := Option.some.inj heq
    exact quiet_locked (s := { s with running := true }) quiet_updateSlot
  | loop =>
    obtain ⟨-, heq⟩ := Option.ite_none_right_eq_some.mp hstep
    obtain rfl := Option.some.inj heq
    exact Quiet.refl s
  | read answer now =>
    obtain ⟨-, heq⟩ := Option.ite_none_right_eq_some.mp hstep
    obtain rfl := Option.some.inj heq
    refine quiet_of_history_eq ?_
    unfold readLoad
    split
    · rfl
    · exact countReadingError_history s
  | update now lost =>
    obtain ⟨-, heq⟩ := Option.ite_none_right_eq_some.mp hstep
    obtain rfl := Option.some.inj heq
    exact (quiet_locked quiet_updateSlot s).trans
      (quiet_of_history_eq (runSection_history (updateSlot now lost) .checking s))
  | check now lost => exact absurd rfl (he now lost)
  | reconfigure i slots lost =>
    obtain ⟨-, heq⟩ := Option.ite_none_right_eq_some.mp hstep
    obtain rfl := Option.some.inj heq
    exact quiet_locked (relates_quiet_of_keeps (keepsHistory_reconfigure slots)) s
  | beginShutdown now =>
    obtain rfl := Option.some.inj hstep
    exact quiet_of_history_eq (keepsHistory_shutdown s)
  | endShutdown =>
    obtain ⟨-, heq⟩ := Option.ite_none_right_eq_some.mp hstep
    obtain rfl := Option.some.inj heq
    exact Quiet.refl s
  | enable value =>
    obtain rfl := Option.some.inj hstep
    exact Quiet.refl s

/-- **One check.** -/
lemma checked_step (hstep : step s (.check now lost) = some s') : Checked now s s' := by
  obtain ⟨-, heq⟩ := Option.ite_none_right_eq_some.mp hstep
  obtain rfl := Option.some.inj heq
  have hafter : (s.runSection (checkLoadStability now lost) .looping now).history =
      (locked .monitor (checkLoadStability now lost) s).1.history := runSection_history _ _ s
  rcases locked_history .monitor (checkLoadStability now lost) s with hsame | hbody
  · exact .quiet (quiet_of_history_eq (hafter.trans hsame))
  · exact (checked_checkLoadStability { s with mutex := s.mutex.acquire .monitor }).congr rfl
      (hafter.trans hbody)

end LoadMonitor

/-! ## Runs with a note of the last unstable load -/

/-- A monitor, with a note that the code does not have. -/
structure WatchedMonitor where
  monitor : LoadMonitor
  /-- The place of the NOT STABLE register that was raised last, and when. -/
  latest : Option (ℕ × ℚ)

namespace WatchedMonitor

open LoadMonitor Procedure

variable {w w' : WatchedMonitor} {now : ℚ} {lost : Option ℕ}

/-- The monitor after its creation has no registers. -/
def init (slots : List Slot) : WatchedMonitor := ⟨.init slots, none⟩

/-- A register for an unstable load was added. -/
def RaisedIn (s s' : LoadMonitor) : Prop :=
  s.loadDb.length < s'.loadDb.length ∧ s'.loadStatus = some .notStable

instance (s s' : LoadMonitor) : Decidable (RaisedIn s s') :=
  inferInstanceAs (Decidable (_ ∧ _))

/-- A step of the monitor; a check may raise a register for an unstable load. -/
def step (w : WatchedMonitor) (e : LoadMonitor.Event) : Option WatchedMonitor :=
  (w.monitor.step e).map fun s =>
    match e with
    | .check now _ =>
      ⟨s, if RaisedIn w.monitor s then some (w.monitor.loadDb.length, now) else w.latest⟩
    | _ => ⟨s, w.latest⟩

/-- The place of the NOT STABLE register that was raised within the last `transition` seconds. -/
def recent (w : WatchedMonitor) (now : ℚ) : Option ℕ :=
  (w.latest.filter fun p => now - p.2 < w.monitor.transition).map Prod.fst

/-- `shutdown` discards only an instability that was just raised. -/
structure Discards (w : WatchedMonitor) (now : ℚ) (lost : Option ℕ) : Prop where
  completes : Completes (shutdown now lost) w.monitor
  /-- The check flag of the recent register is cleared, and no other changes. -/
  registers : (shutdown now lost w.monitor).1.loadDb = discard (w.recent now) w.monitor.loadDb
  failed : failedRegisters (shutdown now lost w.monitor).1.loadDb =
    (failedRegisters w.monitor.loadDb).filter fun p => w.recent now ≠ some p.2

/-- `shutdown` can do its work, and the last register is the one that was just raised. -/
structure RecentIsLast (w : WatchedMonitor) (now : ℚ) (lost : Option ℕ) : Prop where
  runs : w.monitor.ShutdownRuns now lost
  /-- Soon after an unstable load, the last register is NOT STABLE if it is checked at all. -/
  last_notStable : w.monitor.running → w.monitor.NotStableLately now →
    ∀ r, w.monitor.loadDb.getLast? = some r → r.check → r.state = .notStable
  /-- A register that was just raised is the last one of a running monitor, if it is checked. -/
  recent_last : ∀ i r, w.recent now = some i → w.monitor.loadDb[i]? = some r → r.check →
    w.monitor.running ∧ i + 1 = w.monitor.loadDb.length

/-- The note is right. -/
structure Tracks (w : WatchedMonitor) : Prop where
  none_raised : w.latest = none → LoadState.notStable ∉ w.monitor.states
  place : ∀ i t, w.latest = some (i, t) → ∃ before after,
    w.monitor.states = before ++ .notStable :: after ∧ before.length = i ∧ .notStable ∉ after
  time : w.monitor.loadStatus = some .notStable →
    w.latest.map Prod.snd = some w.monitor.lastNotStableTime

/-- The monitor is created without registers. -/
lemma tracks_init (slots : List Slot) : Tracks (init slots) where
  none_raised := fun _ => List.not_mem_nil
  place := fun _ _ h => nomatch h
  time := fun h => nomatch h

/-- Registers that are added quietly leave the note right. -/
lemma Tracks.quiet (h : w.Tracks) {s : LoadMonitor} (hquiet : Quiet w.monitor s) :
    Tracks ⟨s, w.latest⟩ := by
  obtain ⟨htime, added, hstates, hadded⟩ := hquiet
  constructor
  · intro hnone
    rw [hstates, List.mem_append]
    exact not_or.mpr ⟨h.none_raised hnone, hadded⟩
  · intro i t hlatest
    obtain ⟨before, after, hold, hlength, hafter⟩ := h.place i t hlatest
    refine ⟨before, after ++ added, ?_, hlength, ?_⟩
    · rw [hstates, hold, List.append_assoc, List.cons_append]
    · rw [List.mem_append]
      exact not_or.mpr ⟨hafter, hadded⟩
  · intro hstatus
    rw [loadStatus_eq, hstates] at hstatus
    rcases List.eq_nil_or_concat added with hnil | ⟨front, last, hlast⟩
    · rw [hnil, List.append_nil, ← loadStatus_eq] at hstatus
      exact (h.time hstatus).trans (congrArg some htime.symm)
    · rw [hlast, List.concat_eq_append, ← List.append_assoc, List.getLast?_concat] at hstatus
      obtain rfl := Option.some.inj hstatus
      exact absurd (by rw [hlast]; simp) hadded

/-- There are as many states as registers. -/
lemma length_states (s : LoadMonitor) : s.states.length = s.loadDb.length := List.length_map _

/-- No register is raised quietly. -/
lemma not_raisedIn_of_quiet {s s' : LoadMonitor} (hquiet : Quiet s s') : ¬ RaisedIn s s' := by
  rintro ⟨hlength, hstatus⟩
  obtain ⟨-, added, hstates, hadded⟩ := hquiet
  rw [loadStatus_eq, hstates] at hstatus
  rw [← length_states, ← length_states, hstates, List.length_append] at hlength
  rcases List.eq_nil_or_concat added with hnil | ⟨front, last, hlast⟩
  · rw [hnil, List.length_nil] at hlength
    exact absurd hlength (lt_irrefl _)
  · rw [hlast, List.concat_eq_append, ← List.append_assoc, List.getLast?_concat] at hstatus
    obtain rfl := Option.some.inj hstatus
    exact hadded (by rw [hlast]; simp)

/-- The note stays right after a check. -/
lemma Tracks.checked (h : w.Tracks) {s : LoadMonitor} (hchecked : Checked now w.monitor s) :
    Tracks ⟨s, if RaisedIn w.monitor s then some (w.monitor.loadDb.length, now) else w.latest⟩ := by
  cases hchecked with
  | quiet hquiet =>
    rw [if_neg (not_raisedIn_of_quiet hquiet)]
    exact h.quiet hquiet
  | raised hstatus htime hstates =>
    have hraised : RaisedIn w.monitor s := by
      constructor
      · rw [← length_states, ← length_states, hstates, List.length_append]
        exact Nat.lt_succ_self _
      · rw [loadStatus_eq, hstates, List.getLast?_concat]
    rw [if_pos hraised]
    refine ⟨fun hnone => (nomatch hnone), fun i t hlatest => ?_, fun _ => congrArg some htime.symm⟩
    obtain ⟨rfl, rfl⟩ := Prod.mk.inj (Option.some.inj hlatest)
    exact ⟨w.monitor.states, [], hstates, length_states _, List.not_mem_nil⟩
  | interrupted hstatus htime hstates =>
    have hraised : ¬ RaisedIn w.monitor s := by
      rintro ⟨hlength, -⟩
      rw [← length_states, ← length_states, hstates] at hlength
      exact lt_irrefl _ hlength
    rw [if_neg hraised]
    refine ⟨fun hnone => ?_, fun i t hlatest => ?_, fun hlast => ?_⟩
    · rw [hstates]
      exact h.none_raised hnone
    · rw [hstates]
      exact h.place i t hlatest
    · rw [loadStatus_eq, hstates, ← loadStatus_eq] at hlast
      exact absurd hlast hstatus

/-- **One step.**  The note stays right. -/
lemma Tracks.step (h : w.Tracks) {e : LoadMonitor.Event} (hstep : w.step e = some w') :
    w'.Tracks := by
  obtain ⟨s, hs, rfl⟩ := Option.map_eq_some_iff.mp hstep
  cases e with
  | check now lost => exact h.checked (checked_step hs)
  | start | loop | read | update | reconfigure | beginShutdown | endShutdown | enable =>
    exact h.quiet (quiet_step hs fun _ _ => by simp)

/-- A register that was just raised is in the note. -/
lemma recent_eq_some {i : ℕ} : w.recent now = some i ↔
    ∃ t, w.latest = some (i, t) ∧ now - t < w.monitor.transition := by
  unfold recent
  rw [Option.map_eq_some_iff]
  constructor
  · rintro ⟨p, hp, rfl⟩
    obtain ⟨hlatest, htest⟩ := Option.filter_eq_some_iff.mp hp
    exact ⟨p.2, hlatest, of_decide_eq_true htest⟩
  · rintro ⟨t, hlatest, htest⟩
    exact ⟨(i, t), Option.filter_eq_some_iff.mpr ⟨hlatest, decide_eq_true htest⟩, rfl⟩

/-- The last register, when it is NOT STABLE, is the one that was raised last. -/
lemma Tracks.latest_of_last (h : w.Tracks) (hstatus : w.monitor.loadStatus = some .notStable) :
    w.latest = some (w.monitor.loadDb.length - 1, w.monitor.lastNotStableTime) := by
  obtain ⟨⟨i, t⟩, hlatest, htime⟩ := Option.map_eq_some_iff.mp (h.time hstatus)
  obtain rfl : t = w.monitor.lastNotStableTime := htime
  obtain ⟨before, after, hstates, rfl, hafter⟩ := h.place i _ hlatest
  rw [loadStatus_eq, hstates] at hstatus
  rcases List.eq_nil_or_concat after with hnil | ⟨front, last, hlast⟩
  · rw [hlatest, ← length_states, hstates, hnil]
    simp
  · rw [hlast, List.concat_eq_append, ← List.cons_append, ← List.append_assoc,
      List.getLast?_concat] at hstatus
    obtain rfl := Option.some.inj hstatus
    exact absurd (by rw [hlast]; simp) hafter

/-- A register that was just raised is NOT STABLE. -/
lemma Tracks.notStable_of_recent (h : w.Tracks) {i : ℕ} (hrecent : w.recent now = some i)
    {r : LoadRegister} (hr : w.monitor.loadDb[i]? = some r) : r.state = .notStable := by
  obtain ⟨t, hlatest, -⟩ := recent_eq_some.mp hrecent
  obtain ⟨before, after, hstates, rfl, -⟩ := h.place i t hlatest
  have hstate : w.monitor.states[before.length]? = some r.state := by
    rw [states, List.getElem?_map, hr, Option.map_some]
  rw [hstates, List.getElem?_append_right le_rfl, Nat.sub_self, List.getElem?_cons_zero] at hstate
  exact (Option.some.inj hstate).symm

/-- **One shutdown.**  It discards only what was just raised exactly when the last register is what
was just raised. -/
lemma Tracks.discards_iff (h : w.Tracks) : w.Discards now lost ↔ w.RecentIsLast now lost := by
  constructor
  · rintro ⟨hcompletes, hregisters, -⟩
    rw [shutdown_loadDb hcompletes, discard_eq_discard_iff] at hregisters
    refine ⟨completes_shutdown.mp hcompletes, fun hrunning hlately r hlast hcheck => ?_,
      fun i r hrecent hr hcheck => ?_⟩
    · have hr : w.monitor.loadDb[w.monitor.loadDb.length - 1]? = some r := by
        rw [← List.getLast?_eq_getElem?, hlast]
      have htaken : w.monitor.taken now = some (w.monitor.loadDb.length - 1) :=
        if_pos ⟨hrunning, hlately⟩
      exact h.notStable_of_recent ((hregisters _ r hr hcheck).mp htaken) hr
    · have htaken := (hregisters i r hr hcheck).mpr hrecent
      obtain ⟨⟨hrunning, -⟩, hi⟩ := Option.ite_none_right_eq_some.mp htaken
      have hi : w.monitor.loadDb.length - 1 = i := Option.some.inj hi
      have hlt : i < w.monitor.loadDb.length := (List.getElem?_eq_some_iff.mp hr).1
      exact ⟨hrunning, by omega⟩
  · intro hlast
    have hcompletes : Completes (shutdown now lost) w.monitor := completes_shutdown.mpr hlast.runs
    have hregisters : (shutdown now lost w.monitor).1.loadDb =
        discard (w.recent now) w.monitor.loadDb := by
      rw [shutdown_loadDb hcompletes, discard_eq_discard_iff]
      intro i r hr hcheck
      constructor
      · intro htaken
        obtain ⟨⟨hrunning, hlately⟩, hi⟩ := Option.ite_none_right_eq_some.mp htaken
        obtain rfl : w.monitor.loadDb.length - 1 = i := Option.some.inj hi
        rw [← List.getLast?_eq_getElem?] at hr
        have hstate : r.state = .notStable := hlast.last_notStable hrunning hlately r hr hcheck
        have hstatus : w.monitor.loadStatus = some .notStable := by
          rw [loadStatus, hr, Option.map_some, hstate]
        exact recent_eq_some.mpr ⟨_, h.latest_of_last hstatus, hlately⟩
      · intro hrecent
        obtain ⟨hrunning, hi⟩ := hlast.recent_last i r hrecent hr hcheck
        obtain rfl : w.monitor.loadDb.length - 1 = i := by omega
        have hstatus : w.monitor.loadStatus = some .notStable := by
          rw [loadStatus, List.getLast?_eq_getElem?, hr, Option.map_some,
            h.notStable_of_recent hrecent hr]
        obtain ⟨t, hlatest, hlately⟩ := recent_eq_some.mp hrecent
        rw [h.latest_of_last hstatus] at hlatest
        obtain ⟨-, rfl⟩ := Prod.mk.inj (Option.some.inj hlatest)
        exact if_pos ⟨hrunning, hlately⟩
    exact ⟨hcompletes, hregisters, by rw [hregisters, failedRegisters_discard]⟩

/-- **Shutdown discards only a just-raised instability, as far as it is the last register.**  In every
state of every run, and also in the middle of a section that has not changed the history yet, whenever
`shutdown` is called: it completes, it leaves out the NOT STABLE register that was raised within the
last `transition` seconds if there is one and changes no other, and the other checked NOT STABLE
registers remain, if and only if it finds what it reads and, among the checked registers, the one that
was just raised is the last. -/
theorem shutdown_discards_iff (slots : List Slot) (es : List LoadMonitor.Event) :
    LabelledSystem.Throughout step (fun w => ∀ s, s.history = w.monitor.history → ∀ now lost,
      Discards ⟨s, w.latest⟩ now lost ↔ RecentIsLast ⟨s, w.latest⟩ now lost) (init slots) es :=
  LabelledSystem.throughout_of_along (I := Tracks) (C := fun _ _ => True)
    (fun _ _ _ h _ hstep => h.step hstep)
    (fun _ h _ hsame _ _ => (h.quiet (quiet_of_history_eq hsame)).discards_iff) (tracks_init slots)
    (LabelledSystem.along_of_forall fun _ _ _ => trivial)

/-- One slot at a load of 50, with a variance that is not exceeded. -/
def calmSlot : Slot :=
  { time := some 1000, targetLoad := some 50, variance := some 1000, transition := some (some 10) }

/-- The load is reached, it is too high once, and it is stable again. -/
def stableAgain : List LoadMonitor.Event :=
  [.start 1 none, .loop, .read (some (some 50)) 2, .update 2 none, .check 2 none,
    .loop, .read (some (some 140)) 3, .update 3 none, .check 3 none,
    .loop, .read (some (some 30)) 4, .update 4 none, .check 4 none]

/-- The register of the stable load is left out, and the unstable load of two seconds ago is still
a failure. -/
theorem stableAgain_not_discards :
    (LabelledSystem.exec step (init [calmSlot]) stableAgain).map (fun w =>
        (w.recent 5, (shutdown 5 none w.monitor).1.loadDb)) =
      some (some 1, [⟨.newSlot, true⟩, ⟨.notStable, true⟩, ⟨.stable, false⟩]) ∧
    ¬ LabelledSystem.Throughout step (fun w => w.Discards 5 none) (init [calmSlot]) stableAgain := by
  have hrun : (LabelledSystem.exec step (init [calmSlot]) stableAgain).map (fun w =>
        (w.recent 5, (shutdown 5 none w.monitor).1.loadDb)) =
      some (some 1, [⟨.newSlot, true⟩, ⟨.notStable, true⟩, ⟨.stable, false⟩]) := by
    decide +kernel
  refine ⟨hrun, fun h => ?_⟩
  obtain ⟨w, hw, hafter⟩ := Option.map_eq_some_iff.mp hrun
  obtain ⟨hrecent, hdb⟩ := Prod.mk.inj hafter
  have hregisters := (h.last hw).registers
  rw [hdb, hrecent] at hregisters
  have hflag : (discard (some 1) w.monitor.loadDb)[1]? = some ⟨.notStable, true⟩ := by
    rw [← hregisters]
    rfl
  rw [getElem?_discard, if_pos rfl] at hflag
  obtain ⟨r, -, hr⟩ := Option.map_eq_some_iff.mp hflag
  have hcheck : false = true := congrArg LoadRegister.check hr
  cases hcheck

end WatchedMonitor

end HssRtc

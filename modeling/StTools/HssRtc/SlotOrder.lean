import StTools.HssRtc.Scheduler
import Mathlib.Data.List.Chain
import Mathlib.Algebra.Order.Ring.Star
import Mathlib.Data.Rat.Star

/-!
# The order of the CPS slots

In a phase the targets of a BAT instance are a first part of its slots, in their order, and each is
kept at least for its time.  This needs that the time of the last target is that of the phase: it is
reset for a BAT instance when `start_phase` is called for it.

The BAT instances of a call should not depend on each other, but the first one that leaves the loop of
`refresh` keeps those behind it waiting.
-/

namespace HssRtc

universe u

variable {B : Type u}

/-! ## What is expected -/

/-- Each slot was replaced after its time, and only if that is not -1. -/
def Held (l : List AppliedSlot) : Prop :=
  l.IsChain fun e e' => e.slot.time ≠ -1 ∧ e.slot.time < e'.now - e.setAt

namespace BatData

/-- What was set in a phase. -/
def appliedIn (d : BatData) (phase : TrafficPhase) : List AppliedSlot :=
  d.applied.filter fun e => e.phase = phase

/-- On its own a BAT instance would start a slot, or its slot is over. -/
def Advances (d : BatData) (phase : TrafficPhase) (v : Visit B) : Prop :=
  match d.slots phase with
  | some (slot :: _) => d.lastTime = 0 ∧ v.accepts = true ∨ d.Expired slot v.now
  | _ => False

instance (d : BatData) (phase : TrafficPhase) (v : Visit B) : Decidable (d.Advances phase v) := by
  unfold Advances
  split <;> infer_instance

/-- The time of the last target is that of the phase: nothing was set in the phase yet, or the last
target was. -/
def Current (d : BatData) (phase : TrafficPhase) : Prop :=
  if d.lastTime = 0 then d.appliedIn phase = [] else ∃ e ∈ d.applied.getLast?, e.phase = phase

instance (d : BatData) (phase : TrafficPhase) : Decidable (d.Current phase) := by
  unfold Current
  infer_instance

end BatData

/-- The calls of the scheduler. -/
inductive Call (B : Type u) where
  /-- `start_phase` for one BAT instance. -/
  | startPhase (phase : TrafficPhase) (v : Visit B)
  | refresh (visits : List (Visit B))

/-- The visits of the call. -/
def Call.visits : Call B → List (Visit B)
  | .startPhase _ v => [v]
  | .refresh visits => visits

namespace Schedule

/-- The targets of each BAT instance in a phase are the first of its slots. -/
def InOrder (config : B → Option (TrafficPhase → Option (List CpsSlot))) (s : Schedule B) : Prop :=
  ∀ b d cfg phase slots, s.data b = some d → config b = some cfg → cfg phase = some slots →
    (d.appliedIn phase).map AppliedSlot.slot <+: slots ∧ Held (d.appliedIn phase)

/-- On its own the BAT instance would advance. -/
def Advances (s : Schedule B) (v : Visit B) : Prop := ∃ d ∈ s.data v.bat, d.Advances s.phase v

instance (s : Schedule B) (v : Visit B) : Decidable (s.Advances v) := by
  unfold Advances
  infer_instance

variable [DecidableEq B]

/-- The scheduler when `refresh` is called. -/
def begin (s : Schedule B) : Call B → Schedule B
  | .startPhase phase v =>
    let s := { s with phase := phase }
    match s.data v.bat with
    | none => s
    | some d => s.setData v.bat { d with lastTime := 0 }
  | .refresh _ => s

/-- A call. -/
def step (s : Schedule B) : Call B → Option (Schedule B)
  | .startPhase phase v => some (s.startPhase phase v)
  | .refresh visits => some (s.refresh visits)

/-- The scheduler after a visit that goes on. -/
def after (s : Schedule B) (v : Visit B) : Schedule B :=
  match s.alone v with
  | none => s
  | some d => s.setData v.bat d

/-- On its own the BAT instance would advance in its visits of the list. -/
def AdvancesAlone (s : Schedule B) (b : B) (visits : List (Visit B)) : Prop :=
  ∃ v ∈ s.reached (visits.filter fun v => v.bat = b), s.Advances v

instance (s : Schedule B) (b : B) (visits : List (Visit B)) : Decidable (s.AdvancesAlone b visits) := by
  unfold AdvancesAlone
  infer_instance

/-- The BAT instance would advance, but it stands behind another one that leaves the loop. -/
def Waits (s : Schedule B) (b : B) : List (Visit B) → Prop
  | [] => False
  | v :: vs => if s.Leaves v then v.bat ≠ b ∧ s.AdvancesAlone b vs else (s.after v).Waits b vs

instance decidableWaits (b : B) : ∀ (s : Schedule B) (visits : List (Visit B)), Decidable (s.Waits b visits)
  | _, [] => isFalse id
  | s, v :: vs =>
    have := decidableWaits b (s.after v) vs
    inferInstanceAs (Decidable (if s.Leaves v then v.bat ≠ b ∧ s.AdvancesAlone b vs
      else (s.after v).Waits b vs))

/-- The call is not behind one that has raised an `ExecutionRunError`, and the time of each BAT
instance that it visits is that of the phase. -/
structure Orderly (s : Schedule B) (c : Call B) : Prop where
  callsOn : s.raised = false
  current : ∀ v ∈ c.visits, ∀ d ∈ (s.begin c).data v.bat, d.Current (s.begin c).phase

instance (s : Schedule B) (c : Call B) : Decidable (s.Orderly c) :=
  decidable_of_iff (s.raised = false ∧
      ∀ v ∈ c.visits, ∀ d ∈ (s.begin c).data v.bat, d.Current (s.begin c).phase)
    ⟨fun h => ⟨h.1, h.2⟩, fun h => ⟨h.1, h.2⟩⟩

/-- No BAT instance that would advance stands behind another one that leaves the loop. -/
def NobodyWaits (s : Schedule B) (c : Call B) : Prop :=
  ∀ b ∈ c.visits.map Visit.bat, ¬ (s.begin c).Waits b c.visits

instance (s : Schedule B) (c : Call B) : Decidable (s.NobodyWaits c) := by
  unfold NobodyWaits
  infer_instance

/-- Every BAT instance ends up as if it were alone in the list. -/
def Independent (s : Schedule B) (c : Call B) : Prop :=
  ∀ b ∈ c.visits.map Visit.bat, ((s.begin c).refresh c.visits).data b =
    ((s.begin c).refresh (c.visits.filter fun v => v.bat = b)).data b

end Schedule

/-! ## One BAT instance -/

namespace BatData

variable {d d' : BatData} {phase : TrafficPhase} {v : Visit B} {slots : List CpsSlot}

/-- How far a BAT instance is: the targets that were set, less the slots that are left. -/
def pace (phase : TrafficPhase) : Option BatData → ℤ
  | none => 0
  | some d => d.applied.length - ((d.slots phase).getD []).length

/-- A visit changes a BAT instance exactly when it advances, and then the pace grows. -/
lemma visit_eq_self_or_pace_lt (phase : TrafficPhase) (v : Visit B) (o : Option BatData) :
    ((¬ ∃ d ∈ o, d.Advances phase v) ∧ (visit phase v o).data o = o) ∨
      (∃ d ∈ o, d.Advances phase v) ∧ pace phase o < pace phase ((visit phase v o).data o) := by
  cases o with
  | none => exact .inl ⟨by simp, rfl⟩
  | some d =>
    have hadvances : (∃ d' ∈ some d, BatData.Advances d' phase v) ↔ d.Advances phase v := by simp
    rw [hadvances, Advances]
    cases hslots : d.slots phase with
    | none => simp [visit_none (o := some d) hslots, Visited.data]
    | some l =>
      rcases visit_cases v hslots with ⟨rfl, heq⟩ | ⟨slot, rest, rfl, ⟨hstart, heq⟩ |
        ⟨hstart, hexpired, heq⟩ | ⟨hexpired, ⟨rfl, heq⟩ | ⟨next, rest', rfl, heq⟩⟩⟩
      · simp [heq, Visited.data]
      · have hnot : ¬ d.Expired slot v.now := fun h => h.1 hstart
        rw [heq, setSlot]
        by_cases haccepts : v.accepts = true
        · rw [if_pos haccepts]
          simp [Visited.data, pace, hstart, haccepts, hslots]
        · rw [if_neg haccepts]
          simp [Visited.data, haccepts, hnot]
      · simp [heq, Visited.data, hstart, hexpired]
      · refine .inr ⟨.inr hexpired, ?_⟩
        rw [heq]
        simp [Visited.data, pace, hslots, pop]
      · refine .inr ⟨.inr hexpired, ?_⟩
        rw [heq, setSlot]
        split_ifs
        all_goals
          simp only [Visited.data, pace, pop, hslots, Option.getD_some, Function.update_self,
            List.length_append, List.length_cons, List.length_nil]
          omega

/-- How far a BAT instance is in its slots for a phase. -/
inductive Progress (phase : TrafficPhase) (slots : List CpsSlot) (d : BatData) : Prop
  /-- No slot was started. -/
  | waiting (happlied : d.appliedIn phase = []) (hslots : d.slots phase = some slots)
  /-- The slot of `e` was started last. -/
  | running (before : List AppliedSlot) (e : AppliedSlot) (rest : List CpsSlot)
      (happlied : d.appliedIn phase = before ++ [e]) (hslots : d.slots phase = some (e.slot :: rest))
      (hall : slots = (d.appliedIn phase).map AppliedSlot.slot ++ rest)
      (hheld : Held (d.appliedIn phase))
  /-- All slots are over. -/
  | exhausted (hslots : d.slots phase = some [])
      (hall : slots = (d.appliedIn phase).map AppliedSlot.slot) (hheld : Held (d.appliedIn phase))

/-- The targets are the first of the slots. -/
lemma Progress.inOrder (h : d.Progress phase slots) :
    (d.appliedIn phase).map AppliedSlot.slot <+: slots ∧ Held (d.appliedIn phase) := by
  cases h with
  | waiting happlied hslots =>
    rw [happlied]
    exact ⟨List.nil_prefix, List.IsChain.nil⟩
  | running before e rest happlied hslots hall hheld => exact ⟨⟨rest, hall.symm⟩, hheld⟩
  | exhausted hslots hall hheld => exact ⟨hall ▸ List.prefix_rfl, hheld⟩

/-- The progress in a phase depends on its targets and its queue. -/
lemma Progress.congr (h : d.Progress phase slots) (happlied : d'.appliedIn phase = d.appliedIn phase)
    (hslots : d'.slots phase = d.slots phase) : d'.Progress phase slots := by
  cases h with
  | waiting happlied' hslots' => exact .waiting (happlied.trans happlied') (hslots.trans hslots')
  | running before e rest happlied' hslots' hall hheld =>
    exact .running before e rest (happlied.trans happlied') (hslots.trans hslots')
      (happlied ▸ hall) (happlied ▸ hheld)
  | exhausted hslots' hall hheld =>
    exact .exhausted (hslots.trans hslots') (happlied ▸ hall) (happlied ▸ hheld)

/-- The time of the last target and the progress in every phase. -/
structure Sound (cfg : TrafficPhase → Option (List CpsSlot)) (d : BatData) : Prop where
  time : d.lastTime ≠ 0 → ∃ e ∈ d.applied.getLast?, d.lastTime = e.setAt
  progress : ∀ phase slots, cfg phase = some slots → d.Progress phase slots

variable {cfg : TrafficPhase → Option (List CpsSlot)}

/-- When the time is that of the phase, the slot that runs was started at that time. -/
lemma Current.last (hcurrent : d.Current phase) (hstart : d.lastTime ≠ 0) :
    ∃ e ∈ d.applied.getLast?, (d.appliedIn phase).getLast? = some e := by
  rw [Current, if_neg hstart] at hcurrent
  obtain ⟨e, he, hphase⟩ := hcurrent
  obtain ⟨before, happlied⟩ := List.getLast?_eq_some_iff.mp he
  refine ⟨e, he, ?_⟩
  rw [appliedIn, happlied, List.filter_append, List.filter_singleton, decide_eq_true hphase, cond_true,
    List.getLast?_concat]

/-- A target that is set in a phase. -/
lemma appliedIn_append (d : BatData) (e : AppliedSlot) (time : ℚ) (target : PyNumber)
    (phase' : TrafficPhase) :
    ({ d with lastTime := time, target := target, applied := d.applied ++ [e] } : BatData).appliedIn
      phase' = d.appliedIn phase' ++ if e.phase = phase' then [e] else [] := by
  simp [appliedIn, List.filter_append, List.filter_singleton]

/-- The queue of another phase is kept. -/
lemma slots_pop_of_ne {phase' : TrafficPhase} {rest : List CpsSlot} (h : phase' ≠ phase) :
    (d.pop phase rest).slots phase' = d.slots phase' := Function.update_of_ne h _ _

/-- A target that is set keeps the rest sound, and its time is that of the phase. -/
lemma Sound.set (h : d.Sound cfg) (v : Visit B) {slot : CpsSlot} {d₀ : BatData}
    (happlied : d₀.applied = d.applied) (hother : ∀ p, p ≠ phase → d₀.slots p = d.slots p)
    (hprogress : ∀ slots, cfg phase = some slots → Progress phase slots { d₀ with
      lastTime := v.later
      target := slot.value
      applied := d₀.applied ++ [⟨phase, slot, v.now, v.later⟩] }) :
    Sound cfg { d₀ with
        lastTime := v.later
        target := slot.value
        applied := d₀.applied ++ [⟨phase, slot, v.now, v.later⟩] } ∧
      Current { d₀ with
        lastTime := v.later
        target := slot.value
        applied := d₀.applied ++ [⟨phase, slot, v.now, v.later⟩] } phase := by
  refine ⟨⟨fun _ => ⟨_, List.getLast?_concat .., rfl⟩, fun p slots hslots => ?_⟩, ?_⟩
  · by_cases hp : p = phase
    · subst hp
      exact hprogress slots hslots
    · refine (h.progress p slots hslots).congr ?_ (hother p hp)
      rw [appliedIn_append, if_neg fun heq => hp heq.symm, List.append_nil, appliedIn, happlied]
      rfl
  · rw [Current, if_neg v.later_pos.ne']
    exact ⟨_, List.getLast?_concat .., rfl⟩

/-- A visit keeps the slots in their order; a target that is refused is not one of them. -/
lemma Sound.visit (h : d.Sound cfg) (hcurrent : d.Current phase) (v : Visit B) :
    BatData.visit phase v (some d) = .left ∨
      (∃ d' pending, BatData.visit phase v (some d) = .done d' pending ∧ d'.Sound cfg ∧
        d'.Current phase) ∨
      ∃ d', BatData.visit phase v (some d) = .raised d' ∧ d'.applied = d.applied := by
  cases hqueue : d.slots phase with
  | none => exact .inl (visit_none (by exact hqueue))
  | some l =>
    right
    rcases visit_cases v hqueue with ⟨rfl, heq⟩ | ⟨slot, rest, rfl, ⟨hstart, heq⟩ |
      ⟨-, -, heq⟩ | ⟨hexpired, ⟨rfl, heq⟩ | ⟨next, rest', rfl, heq⟩⟩⟩
    · exact .inl ⟨d, false, heq, h, hcurrent⟩
    · rw [heq, setSlot]
      split_ifs
      · refine .inl ⟨_, _, rfl, h.set v rfl (fun _ _ => rfl) fun slots hslots => ?_⟩
        rw [Current, if_pos hstart] at hcurrent
        have happlied := appliedIn_append d ⟨phase, slot, v.now, v.later⟩ v.later slot.value phase
        rw [hcurrent, if_pos rfl, List.nil_append] at happlied
        cases h.progress phase slots hslots with
        | waiting _ hslots' =>
          obtain rfl := Option.some.inj (hslots'.symm.trans hqueue)
          exact .running [] _ rest happlied hqueue (by rw [happlied]; rfl)
            (by rw [happlied]; exact List.IsChain.singleton _)
        | running before e rest happlied' _ _ _ =>
          exact absurd (happlied'.symm.trans hcurrent) (by simp)
        | exhausted hslots' _ _ => cases hslots'.symm.trans hqueue
      · exact .inr ⟨d, rfl, rfl⟩
    · exact .inl ⟨d, true, heq, h, hcurrent⟩
    · -- the last slot is over
      refine .inl ⟨_, _, heq, ⟨h.time, fun p slots hslots => ?_⟩, hcurrent⟩
      by_cases hp : p = phase
      · subst hp
        cases h.progress p slots hslots with
        | waiting happlied _ =>
          obtain ⟨e, -, he⟩ := hcurrent.last hexpired.1
          rw [happlied] at he
          cases he
        | running before e rest _ hslots' hall hheld =>
          obtain ⟨-, rfl⟩ := List.cons.inj (Option.some.inj (hslots'.symm.trans hqueue))
          rw [List.append_nil] at hall
          exact .exhausted slots_pop hall hheld
        | exhausted hslots' _ _ => cases hslots'.symm.trans hqueue
      · exact (h.progress p slots hslots).congr rfl (slots_pop_of_ne hp)
    · -- the slot is replaced
      rw [heq, setSlot]
      split_ifs
      · refine .inl ⟨_, _, rfl, h.set v rfl (fun _ hp => slots_pop_of_ne hp) fun slots hslots => ?_⟩
        obtain ⟨e', hlast, he'⟩ := hcurrent.last hexpired.1
        have happlied := appliedIn_append (d.pop phase (next :: rest'))
          ⟨phase, next, v.now, v.later⟩ v.later next.value phase
        rw [if_pos rfl] at happlied
        have hsame : (d.pop phase (next :: rest')).appliedIn phase = d.appliedIn phase := rfl
        rw [hsame] at happlied
        cases h.progress phase slots hslots with
        | waiting happlied' _ =>
          rw [happlied'] at he'
          cases he'
        | exhausted hslots' _ _ => cases hslots'.symm.trans hqueue
        | running before e rest happlied' hslots' hall hheld =>
          obtain ⟨hslot, rfl⟩ := List.cons.inj (Option.some.inj (hslots'.symm.trans hqueue))
          rw [happlied', List.getLast?_concat] at he'
          obtain rfl := Option.some.inj he'
          obtain ⟨e'', he'', htime⟩ := h.time hexpired.1
          obtain rfl : e = e'' := Option.some.inj (hlast.symm.trans he'')
          refine .running _ _ rest' happlied slots_pop ?_ ?_
          · rw [happlied, hall, List.map_append, List.append_assoc]
            rfl
          · rw [happlied]
            refine List.isChain_append.mpr ⟨hheld, List.IsChain.singleton _, ?_⟩
            rintro x hx y ⟨⟩
            rw [happlied', List.getLast?_concat] at hx
            obtain rfl := Option.some.inj hx
            rw [← htime, hslot]
            exact ⟨hexpired.2.1, hexpired.2.2⟩
      · exact .inr ⟨_, rfl, rfl⟩

end BatData

/-! ## One call -/

namespace Schedule

variable {config : B → Option (TrafficPhase → Option (List CpsSlot))} {s s' : Schedule B}
  {b : B} {visits : List (Visit B)} {c : Call B}

/-- Every BAT instance goes through its slots. -/
def Progresses (config : B → Option (TrafficPhase → Option (List CpsSlot))) (s : Schedule B) :
    Prop :=
  ∀ b d, s.data b = some d → ∃ cfg, config b = some cfg ∧ d.Sound cfg

/-- The scheduler before the first phase. -/
lemma progresses_init (phase : TrafficPhase)
    (config : B → Option (TrafficPhase → Option (List CpsSlot))) :
    (init phase config).Progresses config := by
  intro b d hdata
  obtain ⟨cfg, hcfg, rfl⟩ := Option.map_eq_some_iff.mp hdata
  exact ⟨cfg, hcfg, fun hne => absurd rfl hne, fun _ _ hslots => .waiting rfl hslots⟩

lemma Progresses.inOrder (h : s.Progresses config) : s.InOrder config := by
  intro b d cfg phase slots hdata hcfg hslots
  obtain ⟨cfg', hcfg', hsound⟩ := h b d hdata
  obtain rfl := Option.some.inj (hcfg.symm.trans hcfg')
  exact (hsound.progress phase slots hslots).inOrder

variable [DecidableEq B]

/-- The data of a BAT instance that is changed. -/
lemma setData_data_self {d : BatData} : (s.setData b d).data b = some d :=
  Function.update_self _ _ _

/-- A call keeps the slots in order; and it lets every BAT instance go on unless it raises an error. -/
lemma Progresses.refreshLoop (h : s.Progresses config) (notPending : Bool)
    (hcurrent : ∀ v ∈ visits, ∀ d ∈ s.data v.bat, d.Current s.phase) :
    (s.refreshLoop notPending visits).InOrder config ∧
      ((s.refreshLoop notPending visits).raised = false →
        (s.refreshLoop notPending visits).Progresses config) := by
  induction visits generalizing s notPending with
  | nil =>
    rw [Schedule.refreshLoop]
    split_ifs
    · exact ⟨h.inOrder, fun _ => h⟩
    · exact ⟨h.inOrder, fun _ => h⟩
  | cons v vs ih =>
    obtain ⟨hv, hvs⟩ := List.forall_mem_cons.mp hcurrent
    rw [Schedule.refreshLoop]
    cases hdata : s.data v.bat with
    | none => exact ⟨h.inOrder, fun _ => h⟩
    | some d =>
      obtain ⟨cfg, hcfg, hsound⟩ := h v.bat d hdata
      rcases hsound.visit (hv d hdata) v with heq | ⟨d', pending, heq, hsound', hcurrent'⟩ |
        ⟨d', heq, happlied⟩
      · rw [heq]
        exact ⟨h.inOrder, fun _ => h⟩
      · rw [heq]
        refine ih (s := s.setData v.bat d') (fun b d'' hd'' => ?_) _ fun w hw d'' hd'' => ?_
        · by_cases hb : b = v.bat
          · subst hb
            obtain rfl := Option.some.inj (setData_data_self.symm.trans hd'')
            exact ⟨cfg, hcfg, hsound'⟩
          · rw [setData_data_of_ne d' hb] at hd''
            exact h b d'' hd''
        · by_cases hb : w.bat = v.bat
          · rw [hb, setData_data_self] at hd''
            obtain rfl := Option.some.inj hd''
            exact hcurrent'
          · rw [setData_data_of_ne d' hb] at hd''
            exact hvs w hw d'' hd''
      · rw [heq]
        refine ⟨fun b d'' cfg' phase slots hd'' hcfg' hslots => ?_, fun hraised => Bool.noConfusion hraised⟩
        by_cases hb : b = v.bat
        · subst hb
          obtain rfl := Option.some.inj (setData_data_self.symm.trans hd'')
          rw [BatData.appliedIn, happlied]
          exact h.inOrder v.bat d cfg' phase slots hdata hcfg' hslots
        · exact h.inOrder b d'' cfg' phase slots ((setData_data_of_ne d' hb).symm.trans hd'') hcfg'
            hslots

/-- The start of a phase for a BAT instance keeps the progress. -/
lemma Progresses.begin (h : s.Progresses config) (c : Call B) : (s.begin c).Progresses config := by
  cases c with
  | refresh visits => exact h
  | startPhase phase v =>
    cases hdata : s.data v.bat with
    | none =>
      rw [Schedule.begin]
      simp only [hdata]
      exact h
    | some d =>
      rw [Schedule.begin]
      simp only [hdata]
      intro b d' hd'
      by_cases hb : b = v.bat
      · subst hb
        obtain rfl := Option.some.inj (setData_data_self.symm.trans hd')
        obtain ⟨cfg, hcfg, hsound⟩ := h v.bat d hdata
        exact ⟨cfg, hcfg, fun hne => absurd rfl hne, fun p slots hslots =>
          (hsound.progress p slots hslots).congr rfl rfl⟩
      · exact h b d' ((setData_data_of_ne _ hb).symm.trans hd')

/-- `start_phase` calls `refresh`; for a BAT instance that is not scheduled it makes no difference. -/
lemma step_eq (s : Schedule B) (c : Call B) : s.step c = some ((s.begin c).refresh c.visits) := by
  cases c with
  | refresh visits => rfl
  | startPhase phase v =>
    cases hdata : s.data v.bat with
    | none =>
      simp only [step, startPhase, Schedule.begin, Call.visits, hdata, refresh,
        if_neg (List.cons_ne_nil v []), refreshLoop, BatData.visit]
    | some d => simp only [step, startPhase, Schedule.begin, Call.visits, hdata]

/-- A call keeps the order. -/
lemma Progresses.step (h : s.Progresses config) (horderly : s.Orderly c) (hstep : s.step c = some s') :
    s'.InOrder config ∧ (s'.raised = false → s'.Progresses config) := by
  rw [step_eq] at hstep
  obtain rfl := Option.some.inj hstep
  have hbegin := h.begin c
  rw [Schedule.refresh]
  split_ifs
  · exact ⟨hbegin.inOrder, fun _ => hbegin⟩
  · exact hbegin.refreshLoop true horderly.current

/-! ### Who waits -/

omit [DecidableEq B] in
/-- A visit that does not go on leaves the loop. -/
lemma leaves_of_visit {v : Visit B} {r : Visited} (h : BatData.visit s.phase v (s.data v.bat) = r)
    (hr : ∀ d pending, r ≠ .done d pending) : s.Leaves v := by
  refine leaves_iff.mpr ?_
  rintro ⟨d, pending, heq⟩
  exact hr d pending (h.symm.trans heq)

/-- The loop, one visit after the other. -/
lemma refreshLoop_cons (notPending : Bool) (v : Visit B) (vs : List (Visit B)) :
    (s.Leaves v ∧ (s.refreshLoop notPending (v :: vs)).data = (s.after v).data) ∨
      ¬ s.Leaves v ∧ ∃ notPending', s.refreshLoop notPending (v :: vs) =
        (s.after v).refreshLoop notPending' vs := by
  rw [refreshLoop, after, alone]
  cases hvisit : BatData.visit s.phase v (s.data v.bat) with
  | left =>
    refine .inl ⟨leaves_of_visit hvisit fun _ _ h => Visited.noConfusion h, ?_⟩
    cases hdata : s.data v.bat with
    | none => rfl
    | some d => exact (Function.update_eq_self_iff.mpr hdata.symm).symm
  | raised d => exact .inl ⟨leaves_of_visit hvisit fun _ _ h => Visited.noConfusion h, rfl⟩
  | done d pending =>
    exact .inr ⟨fun h => leaves_iff.mp h ⟨d, pending, hvisit⟩, notPending && !pending, rfl⟩

/-- A visit changes its BAT instance only, as a visit of it alone does. -/
lemma after_data (v : Visit B) :
    (s.after v).data v.bat = s.alone v ∧ ∀ b, b ≠ v.bat → (s.after v).data b = s.data b := by
  rw [after]
  cases halone : s.alone v with
  | some d => exact ⟨setData_data_self, fun b hb => setData_data_of_ne d hb⟩
  | none =>
    refine ⟨?_, fun b _ => rfl⟩
    rw [alone] at halone
    cases hvisit : BatData.visit s.phase v (s.data v.bat) with
    | left =>
      rw [hvisit] at halone
      exact halone
    | raised d =>
      rw [hvisit] at halone
      cases halone
    | done d pending =>
      rw [hvisit] at halone
      cases halone

lemma after_phase (v : Visit B) : (s.after v).phase = s.phase := by
  rw [after]
  split <;> rfl

/-- The loop over the visits of one BAT instance depends on its data only. -/
lemma refreshLoop_data_congr (hvisits : ∀ v ∈ visits, v.bat = b) (hphase : s'.phase = s.phase)
    (hdata : s'.data b = s.data b) (notPending notPending' : Bool) :
    (s'.refreshLoop notPending' visits).data b = (s.refreshLoop notPending visits).data b := by
  induction visits generalizing s s' notPending notPending' with
  | nil =>
    rw [refreshLoop, refreshLoop]
    split_ifs <;> exact hdata
  | cons v vs ih =>
    obtain ⟨rfl, hvs⟩ := List.forall_mem_cons.mp hvisits
    have hafter : (s'.after v).data v.bat = (s.after v).data v.bat := by
      rw [(after_data v).1, (after_data v).1, alone_congr hphase hdata]
    have hleaves : s'.Leaves v ↔ s.Leaves v := leaves_congr hphase hdata
    rcases refreshLoop_cons (s := s) notPending v vs with ⟨hl, heq⟩ | ⟨hl, n, heq⟩ <;>
      rcases refreshLoop_cons (s := s') notPending' v vs with ⟨hl', heq'⟩ | ⟨hl', n', heq'⟩
    · rw [heq, heq', hafter]
    · exact absurd (hleaves.mpr hl) hl'
    · exact absurd (hleaves.mp hl') hl
    · rw [heq, heq']
      exact ih hvs (by rw [after_phase, after_phase, hphase]) hafter n n'

/-- The pace does not fall. -/
lemma pace_refreshLoop (notPending : Bool) :
    BatData.pace s.phase (s.data b) ≤
      BatData.pace s.phase ((s.refreshLoop notPending visits).data b) := by
  induction visits generalizing s notPending with
  | nil =>
    rw [refreshLoop]
    split_ifs <;> exact le_rfl
  | cons v vs ih =>
    have hafter : BatData.pace s.phase (s.data b) ≤ BatData.pace s.phase ((s.after v).data b) := by
      by_cases hb : b = v.bat
      · subst hb
        rw [(after_data v).1, alone]
        rcases BatData.visit_eq_self_or_pace_lt s.phase v (s.data v.bat) with ⟨-, heq⟩ | ⟨-, hlt⟩
        · rw [heq]
        · exact hlt.le
      · rw [(after_data v).2 b hb]
    rcases refreshLoop_cons (s := s) notPending v vs with ⟨-, heq⟩ | ⟨-, n, heq⟩
    · rw [heq]
      exact hafter
    · rw [heq]
      have hrest := ih (s := s.after v) n
      rw [after_phase] at hrest
      exact hafter.trans hrest

/-- The visits of one BAT instance change it exactly when it advances in one of them. -/
lemma refreshLoop_data_eq_self_iff (hvisits : ∀ v ∈ visits, v.bat = b) (notPending : Bool) :
    (s.refreshLoop notPending visits).data b = s.data b ↔ ¬ ∃ v ∈ s.reached visits, s.Advances v := by
  induction visits generalizing s notPending with
  | nil =>
    rw [refreshLoop]
    refine iff_of_true (by split_ifs <;> rfl) ?_
    rintro ⟨v, hv, -⟩
    cases hv
  | cons v vs ih =>
    obtain ⟨rfl, hvs⟩ := List.forall_mem_cons.mp hvisits
    rcases BatData.visit_eq_self_or_pace_lt s.phase v (s.data v.bat) with ⟨hstays, heq⟩ | ⟨hgoes, hlt⟩
    · -- the visit changes nothing
      have hdata : (s.after v).data v.bat = s.data v.bat := (after_data v).1.trans heq
      have hall : ∀ b, (s.after v).data b = s.data b := by
        intro b
        by_cases hb : b = v.bat
        · rw [hb, hdata]
        · exact (after_data v).2 b hb
      have hrest : ∀ l, (s.after v).reached l = s.reached l := fun l =>
        reached_congr (after_phase v) fun w _ => hall w.bat
      have hadvances : ∀ w, (s.after v).Advances w ↔ s.Advances w := fun w => by
        rw [Advances, Advances, after_phase, hall]
      rw [reached]
      rcases refreshLoop_cons (s := s) notPending v vs with ⟨hl, hloop⟩ | ⟨hl, n, hloop⟩
      · rw [hloop, hdata, if_pos hl]
        refine iff_of_true rfl ?_
        rintro ⟨w, hw, hwadvances⟩
        obtain rfl := List.mem_singleton.mp hw
        exact hstays hwadvances
      · have htail := ih (s := s.after v) hvs n
        rw [hdata, hrest] at htail
        rw [hloop, if_neg hl, htail]
        simp only [hadvances, List.mem_cons, exists_eq_or_imp]
        rw [or_iff_right (show ¬ s.Advances v from hstays)]
    · -- the pace has grown
      refine iff_of_false (fun hsame => ?_) fun hnone => hnone ⟨v, List.mem_cons_self, hgoes⟩
      rcases refreshLoop_cons (s := s) notPending v vs with ⟨hl, hloop⟩ | ⟨hl, n, hloop⟩
      · rw [hloop, (after_data v).1, alone] at hsame
        rw [hsame] at hlt
        exact lt_irrefl _ hlt
      · have hrest : BatData.pace (s.after v).phase ((s.after v).data v.bat) ≤
            BatData.pace (s.after v).phase (((s.after v).refreshLoop n vs).data v.bat) :=
          pace_refreshLoop n
        rw [← hloop, after_phase, hsame, (after_data v).1, alone] at hrest
        exact absurd hlt (not_lt.mpr hrest)

/-- A BAT instance ends up as if it were alone exactly when it does not wait. -/
lemma refreshLoop_data_filter_iff (b : B) (notPending notPending' : Bool) :
    (s.refreshLoop notPending visits).data b =
        (s.refreshLoop notPending' (visits.filter fun v => v.bat = b)).data b ↔
      ¬ s.Waits b visits := by
  induction visits generalizing s notPending notPending' with
  | nil =>
    refine iff_of_true ?_ id
    rw [List.filter_nil, refreshLoop, refreshLoop]
    split_ifs <;> rfl
  | cons v vs ih =>
    have hown : ∀ v ∈ vs.filter fun v => v.bat = b, v.bat = b := fun v hv =>
      of_decide_eq_true (List.mem_filter.mp hv).2
    rw [Waits]
    by_cases hb : v.bat = b
    · have hfilter : (v :: vs).filter (fun v => v.bat = b) = v :: vs.filter fun v => v.bat = b :=
        List.filter_cons_of_pos (decide_eq_true hb)
      rw [hfilter]
      rcases refreshLoop_cons (s := s) notPending v vs with ⟨hl, heq⟩ | ⟨hl, n, heq⟩ <;>
        rcases refreshLoop_cons (s := s) notPending' v (vs.filter fun v => v.bat = b) with
          ⟨hl', heq'⟩ | ⟨hl', n', heq'⟩
      · rw [heq, heq', if_pos hl]
        exact iff_of_true rfl fun h => h.1 hb
      · exact absurd hl hl'
      · exact absurd hl' hl
      · rw [heq, heq', if_neg hl]
        exact ih n n'
    · have hfilter : (v :: vs).filter (fun v => v.bat = b) = vs.filter fun v => v.bat = b :=
        List.filter_cons_of_neg (by simp [hb])
      rw [hfilter]
      have hother : (s.after v).data b = s.data b := (after_data v).2 b fun h => hb h.symm
      rcases refreshLoop_cons (s := s) notPending v vs with ⟨hl, heq⟩ | ⟨hl, n, heq⟩
      · rw [heq, hother, if_pos hl, and_iff_right hb, AdvancesAlone, eq_comm]
        exact refreshLoop_data_eq_self_iff hown notPending'
      · rw [heq, if_neg hl, ← ih n notPending',
          refreshLoop_data_congr hown (after_phase v) hother notPending' notPending']

/-- The BAT instances are independent exactly when nobody waits. -/
lemma independent_iff : s.Independent c ↔ s.NobodyWaits c := by
  refine forall₂_congr fun b hb => ?_
  rw [refresh]
  split_ifs with hnil
  · rw [hnil] at hb
    cases hb
  · rw [← refreshLoop_data_filter_iff b true true]
    rw [refresh]
    split_ifs with hown
    · rw [hown, refreshLoop]
      split_ifs <;> rfl
    · rfl

/-! ## All calls -/

/-- **The order of the slots.**  In every run in which no call follows one that has raised an error, and
every BAT instance that is visited was started in the phase, the slots are applied in order and held long
enough; and the BAT instances do not depend on each other exactly when nobody who would advance stands
behind another one that leaves the loop. -/
theorem slotOrder (phase : TrafficPhase)
    (config : B → Option (TrafficPhase → Option (List CpsSlot))) (calls : List (Call B))
    (horderly : LabelledSystem.Along step Orderly (init phase config) calls) :
    LabelledSystem.Throughout step (InOrder config) (init phase config) calls ∧
      (LabelledSystem.Along step Independent (init phase config) calls ↔
        LabelledSystem.Along step NobodyWaits (init phase config) calls) := by
  refine ⟨?_, LabelledSystem.along_congr (I := fun _ => True) (fun _ _ _ _ _ => trivial)
    (fun _ _ _ _ _ => independent_iff) trivial⟩
  refine LabelledSystem.throughout_of_along
    (I := fun s => s.InOrder config ∧ (s.raised = false → s.Progresses config)) ?_
    (fun s h => h.1) ⟨(progresses_init phase config).inOrder, fun _ => progresses_init phase config⟩
    horderly
  rintro s c t ⟨-, hprogresses⟩ hc hstep
  exact (hprogresses hc.callsOn).step hc hstep

/-- Two BAT instances of three are scheduled; one of them replaces its first slot. -/
def twoScheduled (b : ℕ) : Option (TrafficPhase → Option (List CpsSlot)) :=
  if b = 0 then some fun phase => if phase = .preexec then some [⟨1, -1⟩] else some [⟨10, 5⟩, ⟨20, -1⟩]
  else if b = 1 then some fun phase => if phase = .preexec then none else some [⟨5, -1⟩]
  else none

/-- A visit at a time. -/
def visitAt (b : ℕ) (now : ℚ) (hnow : 0 < now) : Visit ℕ := ⟨b, now, now, hnow, true⟩

/-- The first BAT instance is in two phases, the second one in one; the third one is the last of a
list. -/
def twoPhases : List (Call ℕ) :=
  [.startPhase .preexec (visitAt 0 1 (by norm_num)), .startPhase .loadgen (visitAt 0 2 (by norm_num)),
    .startPhase .loadgen (visitAt 1 2 (by norm_num)),
    .refresh [visitAt 1 4 (by norm_num), visitAt 0 4 (by norm_num), visitAt 2 4 (by norm_num)],
    .refresh [visitAt 0 10 (by norm_num), visitAt 1 10 (by norm_num), visitAt 0 11 (by norm_num)],
    .refresh [visitAt 1 1000 (by norm_num), visitAt 0 1000 (by norm_num)]]

/-- Its slots are applied in order, the BAT instances do not depend on each other, and the first one
has had all of its slots. -/
theorem twoPhases_slotOrder :
    LabelledSystem.Throughout step (InOrder twoScheduled) (init .preexec twoScheduled) twoPhases ∧
      LabelledSystem.Along step Independent (init .preexec twoScheduled) twoPhases ∧
      ∃ s, LabelledSystem.exec step (init .preexec twoScheduled) twoPhases = some s ∧
        (s.data 0).map (fun d => d.applied.map fun e => e.slot.value) = some [1, 10, 20] := by
  obtain ⟨horder, hsame⟩ := slotOrder .preexec twoScheduled twoPhases (by decide +kernel)
  exact ⟨horder, hsame.mpr (by decide +kernel), _, rfl, by decide +kernel⟩

/-- One BAT instance of two is scheduled. -/
def oneScheduled (b : ℕ) : Option (TrafficPhase → Option (List CpsSlot)) :=
  if b = 1 then some fun _ => some [⟨10, 5⟩] else none

/-- The BAT instance that is not scheduled keeps the other one from its first target. -/
theorem oneScheduled_waits :
    ¬ LabelledSystem.Along step Independent (init .loadgen oneScheduled)
      [.refresh [visitAt 0 1 (by norm_num), visitAt 1 1 (by norm_num)]] := by
  intro h
  have hsame := (h _ rfl).1 1 (by decide)
  have happlied := congrArg (Option.map fun d => d.applied.length) hsame
  revert happlied
  decide +kernel

end Schedule

end HssRtc

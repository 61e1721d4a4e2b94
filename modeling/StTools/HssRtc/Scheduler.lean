import StTools.HssRtc.CapacityHandler
import StTools.Lib.LabelledSystem

/-!
# The CPS scheduler

Every scheduled BAT instance has a queue of slots for each phase: a target, and how long it is kept.
`refresh` visits the BAT instances that it is given one after the other.  A visit starts the first slot,
or replaces it when its time is over; a time of -1 never is.

A BAT instance without a queue raises a `KeyError`, and its handler leaves the whole loop: a call makes
the visits that are reached, each as if it were the only one.
-/

namespace HssRtc

universe u

variable {B : Type u}

/-! ## One BAT instance -/

/-- A target that was set. -/
structure AppliedSlot where
  phase : TrafficPhase
  slot : CpsSlot
  /-- The time when it was decided to set it. -/
  now : ℚ
  /-- The time after it was set. -/
  setAt : ℚ
  deriving DecidableEq

/-- What the scheduler knows of a BAT instance. -/
structure BatData where
  /-- When the target was set; 0 after the start of a phase. -/
  lastTime : ℚ
  target : PyNumber
  slots : TrafficPhase → Option (List CpsSlot)
  /-- Ghost: what was set. -/
  applied : List AppliedSlot

/-- A visit of a BAT instance. -/
structure Visit (B : Type u) where
  bat : B
  now : ℚ
  /-- The time after a target was set.  The clock never shows 0. -/
  later : ℚ
  later_pos : 0 < later
  /-- It runs, and takes a new target. -/
  accepts : Bool

/-- How a visit ends. -/
inductive Visited where
  /-- A `KeyError`. -/
  | left
  /-- The target is refused, and an `ExecutionRunError` is raised. -/
  | raised (d : BatData)
  /-- The loop goes on; is a slot pending? -/
  | done (d : BatData) (pending : Bool)

namespace BatData

/-- Set the target of a slot. -/
def setSlot (d : BatData) (phase : TrafficPhase) (v : Visit B) (slot : CpsSlot) : Visited :=
  if v.accepts then
    .done { d with
      lastTime := v.later
      target := slot.value
      applied := d.applied ++ [⟨phase, slot, v.now, v.later⟩] } true
  else .raised d

/-- The first slot is over. -/
def pop (d : BatData) (phase : TrafficPhase) (rest : List CpsSlot) : BatData :=
  { d with slots := Function.update d.slots phase (some rest) }

/-- The time of the slot is over. -/
def Expired (d : BatData) (slot : CpsSlot) (now : ℚ) : Prop :=
  d.lastTime ≠ 0 ∧ slot.time ≠ -1 ∧ slot.time < now - d.lastTime

instance (d : BatData) (slot : CpsSlot) (now : ℚ) : Decidable (d.Expired slot now) :=
  inferInstanceAs (Decidable (_ ∧ _))

/-- Visit a BAT instance. -/
def visit (phase : TrafficPhase) (v : Visit B) : Option BatData → Visited
  | none => .left
  | some d =>
    match d.slots phase with
    | none => .left
    | some [] => .done d false
    | some (slot :: rest) =>
      if d.lastTime = 0 then d.setSlot phase v slot
      else if slot.time = -1 then .done d true
      else if slot.time < v.now - d.lastTime then
        match rest with
        | [] => .done (d.pop phase rest) false
        | next :: _ => (d.pop phase rest).setSlot phase v next
      else .done d true

end BatData

/-- What is known of the BAT instance after a visit. -/
def Visited.data (before : Option BatData) : Visited → Option BatData
  | .left => before
  | .raised d => some d
  | .done d _ => some d

/-! ## The scheduler -/

/-- The scheduler. -/
structure Schedule (B : Type u) where
  phase : TrafficPhase
  /-- The scheduled BAT instances. -/
  data : B → Option BatData
  /-- How often the end of the phase was requested. -/
  stops : ℕ
  /-- An `ExecutionRunError` was raised. -/
  raised : Bool

/-- The calls of `refresh`: no BAT instance is listed twice. -/
abbrev Visits (B : Type u) := {l : List (Visit B) // (l.map Visit.bat).Nodup}

namespace Schedule

/-- The scheduler at the beginning of a phase. -/
def init (phase : TrafficPhase) (config : B → Option (TrafficPhase → Option (List CpsSlot))) :
    Schedule B where
  phase := phase
  data b := (config b).map fun slots => ⟨0, 0, slots, []⟩
  stops := 0
  raised := false

variable [DecidableEq B]

/-- The data of one BAT instance changes. -/
def setData (s : Schedule B) (b : B) (d : BatData) : Schedule B :=
  { s with data := Function.update s.data b (some d) }

/-- The loop of `refresh`.  Without scheduled BAT instances it is not entered; it would be left at once. -/
def refreshLoop (s : Schedule B) (notPending : Bool) : List (Visit B) → Schedule B
  | [] => if notPending ∧ s.phase = .loadgen then { s with stops := s.stops + 1 } else s
  | v :: vs =>
    match BatData.visit s.phase v (s.data v.bat) with
    | .left => s
    | .raised d => { s.setData v.bat d with raised := true }
    | .done d pending => refreshLoop (s.setData v.bat d) (notPending && !pending) vs

/-- `refresh`. -/
def refresh (s : Schedule B) (visits : List (Visit B)) : Schedule B :=
  if visits = [] then s else s.refreshLoop true visits

/-- `start_phase` for one BAT instance. -/
def startPhase (s : Schedule B) (phase : TrafficPhase) (v : Visit B) : Schedule B :=
  let s := { s with phase := phase }
  match s.data v.bat with
  | none => s
  | some d => (s.setData v.bat { d with lastTime := 0 }).refresh [v]

/-! ## Who leaves the loop -/

omit [DecidableEq B] in
/-- The queue of a BAT instance in this phase. -/
def slotsOf (s : Schedule B) (b : B) : Option (List CpsSlot) :=
  (s.data b).bind fun d => d.slots s.phase

end Schedule

/-- The slot that a visit is to set. -/
def BatData.nextSlot (d : BatData) (phase : TrafficPhase) (now : ℚ) : Option CpsSlot :=
  match d.slots phase with
  | some (slot :: rest) =>
    if d.lastTime = 0 then some slot else if d.Expired slot now then rest.head? else none
  | _ => none

namespace Schedule

/-- The loop is left at a BAT instance: it has no queue, or it refuses its next target. -/
def Leaves (s : Schedule B) (v : Visit B) : Prop :=
  s.slotsOf v.bat = none ∨
    ∃ d ∈ s.data v.bat, (d.nextSlot s.phase v.now).isSome = true ∧ v.accepts = false

instance (s : Schedule B) (v : Visit B) : Decidable (s.Leaves v) := by
  unfold Leaves
  infer_instance

/-- The visits that are made: those up to the first one that leaves the loop. -/
def reached (s : Schedule B) : List (Visit B) → List (Visit B)
  | [] => []
  | v :: vs => v :: if s.Leaves v then [] else s.reached vs

/-- What is known of a BAT instance after a visit of it alone. -/
def alone (s : Schedule B) (v : Visit B) : Option BatData :=
  (BatData.visit s.phase v (s.data v.bat)).data (s.data v.bat)

end Schedule

/-! ## One visit -/

section Visit

variable {d d' : BatData} {phase : TrafficPhase} {v : Visit B} {slot next : CpsSlot}
  {rest : List CpsSlot}

namespace BatData

/-- Only a BAT instance without a queue raises a `KeyError`. -/
lemma visit_none {o : Option BatData} (h : (o.bind fun d => d.slots phase) = none) :
    visit phase v o = .left := by
  cases o with
  | none => rfl
  | some d =>
    have hslots : d.slots phase = none := h
    simp only [visit, hslots]

lemma visit_nil (h : d.slots phase = some []) : visit phase v (some d) = .done d false := by
  simp only [visit, h]

/-- The first slot is started. -/
lemma visit_first (h : d.slots phase = some (slot :: rest)) (hstart : d.lastTime = 0) :
    visit phase v (some d) = d.setSlot phase v slot := by
  simp only [visit, h, if_pos hstart]

/-- The slot is kept. -/
lemma visit_kept (h : d.slots phase = some (slot :: rest)) (hstart : d.lastTime ≠ 0)
    (hexpired : ¬ d.Expired slot v.now) : visit phase v (some d) = .done d true := by
  simp only [visit, h, if_neg hstart]
  split_ifs with hopen htime
  · rfl
  · exact absurd ⟨hstart, hopen, htime⟩ hexpired
  · rfl

/-- The last slot is over. -/
lemma visit_last (h : d.slots phase = some [slot]) (hexpired : d.Expired slot v.now) :
    visit phase v (some d) = .done (d.pop phase []) false := by
  simp only [visit, h, if_neg hexpired.1, if_neg hexpired.2.1, if_pos hexpired.2.2]

/-- A slot is replaced. -/
lemma visit_next (h : d.slots phase = some (slot :: next :: rest))
    (hexpired : d.Expired slot v.now) :
    visit phase v (some d) = (d.pop phase (next :: rest)).setSlot phase v next := by
  simp only [visit, h, if_neg hexpired.1, if_neg hexpired.2.1, if_pos hexpired.2.2]

@[simp] lemma slots_pop : (d.pop phase rest).slots phase = some rest := by
  simp [pop]

/-- The cases of a visit of a BAT instance with a queue. -/
lemma visit_cases (v : Visit B) {l : List CpsSlot} (h : d.slots phase = some l) :
    (l = [] ∧ visit phase v (some d) = .done d false) ∨
    ∃ slot rest, l = slot :: rest ∧
      (d.lastTime = 0 ∧ visit phase v (some d) = d.setSlot phase v slot ∨
        d.lastTime ≠ 0 ∧ ¬ d.Expired slot v.now ∧ visit phase v (some d) = .done d true ∨
        d.Expired slot v.now ∧ (rest = [] ∧ visit phase v (some d) = .done (d.pop phase []) false ∨
          ∃ next rest', rest = next :: rest' ∧
            visit phase v (some d) = (d.pop phase (next :: rest')).setSlot phase v next)) := by
  cases l with
  | nil => exact .inl ⟨rfl, visit_nil h⟩
  | cons slot rest =>
    refine .inr ⟨slot, rest, rfl, ?_⟩
    by_cases hstart : d.lastTime = 0
    · exact .inl ⟨hstart, visit_first h hstart⟩
    · by_cases hexpired : d.Expired slot v.now
      · refine .inr (.inr ⟨hexpired, ?_⟩)
        cases rest with
        | nil => exact .inl ⟨rfl, visit_last h hexpired⟩
        | cons next rest' => exact .inr ⟨next, rest', rfl, visit_next h hexpired⟩
      · exact .inr (.inl ⟨hstart, hexpired, visit_kept h hstart hexpired⟩)

/-- A visit goes on unless a slot is to be set that is refused. -/
lemma visit_done_iff (h : (d.slots phase).isSome = true) :
    (∃ d' pending, visit phase v (some d) = .done d' pending) ↔
      ¬ ((d.nextSlot phase v.now).isSome = true ∧ v.accepts = false) := by
  obtain ⟨l, hl⟩ := Option.isSome_iff_exists.mp h
  have hset : ∀ (d : BatData) slot, (∃ d' pending, d.setSlot phase v slot = .done d' pending) ↔
      v.accepts = true := by
    intro d slot
    rw [setSlot]
    split_ifs with haccepts
    · exact ⟨fun _ => haccepts, fun _ => ⟨_, _, rfl⟩⟩
    · exact ⟨fun ⟨_, _, h⟩ => (nomatch h), fun h => absurd h haccepts⟩
  rcases visit_cases v hl with ⟨rfl, heq⟩ | ⟨slot, rest, rfl, ⟨hstart, heq⟩ |
    ⟨hstart, hexpired, heq⟩ | ⟨hexpired, ⟨rfl, heq⟩ | ⟨next, rest', rfl, heq⟩⟩⟩
  · simp [heq, nextSlot, hl]
  · rw [heq, hset]
    simp [nextSlot, hl, hstart]
  · simp [heq, nextSlot, hl, hstart, hexpired]
  · simp [heq, nextSlot, hl, hexpired.1]
  · rw [heq, hset]
    simp [nextSlot, hl, hexpired.1, hexpired]

end BatData

end Visit

/-! ## The loop -/

namespace Schedule

variable {s : Schedule B} {v : Visit B} {visits : List (Visit B)} {notPending : Bool}

/-- A visit leaves the loop exactly when it does not go on. -/
lemma leaves_iff : s.Leaves v ↔
    ¬ ∃ d pending, BatData.visit s.phase v (s.data v.bat) = .done d pending := by
  cases hdata : s.data v.bat with
  | none =>
    have hleaves : s.Leaves v := .inl (by rw [slotsOf, hdata]; rfl)
    exact ⟨fun _ ⟨d, pending, h⟩ => (nomatch h), fun _ => hleaves⟩
  | some d =>
    cases hslots : d.slots s.phase with
    | none =>
      have hleaves : s.Leaves v := .inl (by rw [slotsOf, hdata]; exact hslots)
      rw [BatData.visit_none (by exact hslots)]
      exact ⟨fun _ ⟨d, pending, h⟩ => (nomatch h), fun _ => hleaves⟩
    | some l =>
      rw [BatData.visit_done_iff (by rw [hslots]; rfl), not_not, Leaves, slotsOf, hdata]
      simp [hslots]

/-- A visit depends on the data of its BAT instance only. -/
lemma alone_congr {s' : Schedule B} (hphase : s'.phase = s.phase)
    (hdata : s'.data v.bat = s.data v.bat) : s'.alone v = s.alone v := by
  rw [alone, alone, hphase, hdata]

lemma leaves_congr {s' : Schedule B} (hphase : s'.phase = s.phase)
    (hdata : s'.data v.bat = s.data v.bat) : s'.Leaves v ↔ s.Leaves v := by
  rw [Leaves, Leaves, slotsOf, slotsOf, hphase, hdata]

lemma reached_congr {s' : Schedule B} (hphase : s'.phase = s.phase)
    (hdata : ∀ v ∈ visits, s'.data v.bat = s.data v.bat) : s'.reached visits = s.reached visits := by
  induction visits with
  | nil => rfl
  | cons v vs ih =>
    rw [reached, reached, ih fun w hw => hdata w (List.mem_cons_of_mem v hw)]
    simp only [leaves_congr hphase (hdata v List.mem_cons_self)]

lemma mem_of_mem_reached (h : v ∈ s.reached visits) : v ∈ visits := by
  induction visits with
  | nil => exact h
  | cons u us ih =>
    rw [reached] at h
    rcases List.mem_cons.mp h with rfl | h
    · exact List.mem_cons_self
    · split_ifs at h
      · exact nomatch h
      · exact List.mem_cons_of_mem u (ih h)

variable [DecidableEq B]

/-- The data of the other BAT instances do not change. -/
lemma setData_data_of_ne {b b' : B} (d : BatData) (h : b' ≠ b) :
    (s.setData b d).data b' = s.data b' := Function.update_of_ne h _ _

/-- The loop changes the BAT instances that are reached as a visit of each alone does, and no other. -/
lemma refreshLoop_data (notPending : Bool) (hnodup : (visits.map Visit.bat).Nodup) :
    (∀ v ∈ s.reached visits, (s.refreshLoop notPending visits).data v.bat = s.alone v) ∧
    ∀ b, b ∉ (s.reached visits).map Visit.bat →
      (s.refreshLoop notPending visits).data b = s.data b := by
  induction visits generalizing s notPending with
  | nil =>
    refine ⟨fun v hv => (nomatch hv), fun b _ => ?_⟩
    rw [refreshLoop]
    split_ifs <;> rfl
  | cons v vs ih =>
    rw [List.map_cons, List.nodup_cons] at hnodup
    obtain ⟨hnew, hnodup⟩ := hnodup
    cases hvisit : BatData.visit s.phase v (s.data v.bat) with
    | left =>
      have hleaves : s.Leaves v := leaves_iff.mpr fun ⟨d, pending, h⟩ => nomatch hvisit.symm.trans h
      rw [refreshLoop, hvisit, reached, if_pos hleaves]
      refine ⟨fun w hw => ?_, fun b _ => rfl⟩
      rw [List.mem_singleton.mp hw, alone, hvisit]
      rfl
    | raised d =>
      have hleaves : s.Leaves v := leaves_iff.mpr fun ⟨d, pending, h⟩ => nomatch hvisit.symm.trans h
      rw [refreshLoop, hvisit, reached, if_pos hleaves]
      refine ⟨fun w hw => ?_, fun b hb => ?_⟩
      · rw [List.mem_singleton.mp hw, alone, hvisit]
        exact Function.update_self _ _ _
      · exact setData_data_of_ne d fun h => hb (by simp [h])
    | done d pending =>
      have hstays : ¬ s.Leaves v := fun h => leaves_iff.mp h ⟨d, pending, hvisit⟩
      have hother : ∀ w ∈ vs, (s.setData v.bat d).data w.bat = s.data w.bat := fun w hw =>
        setData_data_of_ne d fun h => hnew (h ▸ List.mem_map_of_mem hw)
      have hreached : (s.setData v.bat d).reached vs = s.reached vs := reached_congr rfl hother
      obtain ⟨hvisited, hothers⟩ := ih (s := s.setData v.bat d) (notPending && !pending) hnodup
      rw [hreached] at hvisited hothers
      rw [refreshLoop, hvisit, reached, if_neg hstays]
      refine ⟨List.forall_mem_cons.mpr ⟨?_, fun w hw => ?_⟩, fun b hb => ?_⟩
      · rw [hothers v.bat fun h => ?_]
        · rw [alone, hvisit]
          exact Function.update_self _ _ _
        · obtain ⟨w, hw, heq⟩ := List.mem_map.mp h
          exact hnew (heq ▸ List.mem_map_of_mem (mem_of_mem_reached hw))
      · rw [hvisited w hw]
        exact alone_congr rfl (hother w (mem_of_mem_reached hw))
      · rw [List.map_cons, List.mem_cons, not_or] at hb
        rw [hothers b hb.2]
        exact setData_data_of_ne d hb.1

/-- The loop stays in its phase. -/
lemma refreshLoop_phase : (s.refreshLoop notPending visits).phase = s.phase := by
  induction visits generalizing s notPending with
  | nil =>
    rw [refreshLoop]
    split_ifs <;> rfl
  | cons v vs ih =>
    cases hvisit : BatData.visit s.phase v (s.data v.bat) with
    | left => rw [refreshLoop, hvisit]
    | raised d =>
      rw [refreshLoop, hvisit]
      rfl
    | done d pending =>
      rw [refreshLoop, hvisit]
      exact ih (s := s.setData v.bat d)

/-- A call of `refresh` is the loop. -/
lemma refresh_data (hnodup : (visits.map Visit.bat).Nodup) :
    (∀ v ∈ s.reached visits, (s.refresh visits).data v.bat = s.alone v) ∧
      ∀ b, b ∉ (s.reached visits).map Visit.bat → (s.refresh visits).data b = s.data b := by
  rw [refresh]
  split_ifs with hnil
  · subst hnil
    exact ⟨fun v hv => (nomatch hv), fun b _ => rfl⟩
  · exact refreshLoop_data true hnodup

lemma refresh_phase (visits : List (Visit B)) : (s.refresh visits).phase = s.phase := by
  rw [refresh]
  split_ifs
  · rfl
  · exact refreshLoop_phase

end Schedule

end HssRtc

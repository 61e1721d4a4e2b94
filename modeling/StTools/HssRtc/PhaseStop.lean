import StTools.HssRtc.SlotOrder

/-!
# The end of the load generation

When no slot is pending any more, the scheduler requests the end of the phase.  It looks at the BAT
instances of the call only: at one alone when the phase is started for it, and at none of them when an
unscheduled one is in the list.  `stopsRight_iff` says in which runs the request comes when it should.
-/

namespace HssRtc

universe u

variable {B : Type u}

namespace Schedule

/-! ## The calls -/

/-- What calls `refresh`, and which BAT instances are running then. -/
inductive Event (B : Type u) where
  /-- `start_phase` for one BAT instance. -/
  | startPhase (phase : TrafficPhase) (v : Visit B) (running : {l : List B // v.bat ∈ l})
  | refresh (visits : Visits B) (running : {l : List B // ∀ v ∈ visits.1, v.bat ∈ l})

namespace Event

/-- The visits of the call. -/
def visits : Event B → Visits B
  | .startPhase _ v _ => ⟨[v], List.nodup_singleton v.bat⟩
  | .refresh visits _ => visits

/-- The call of the scheduler. -/
def call : Event B → Call B
  | .startPhase phase v _ => .startPhase phase v
  | .refresh visits _ => .refresh visits.1

/-- The BAT instances that are running. -/
def running : Event B → List B
  | .startPhase _ _ running => running.1
  | .refresh _ running => running.1

end Event

variable [DecidableEq B]

/-- The scheduler when `refresh` is called. -/
def before (s : Schedule B) (e : Event B) : Schedule B := s.begin e.call

/-- One event. -/
def stepEvent (s : Schedule B) (e : Event B) : Option (Schedule B) := s.step e.call

/-! ## What is expected -/

/-- The call requests the end of the phase. -/
def Requests (s : Schedule B) (e : Event B) : Prop :=
  ((s.before e).refresh e.visits.1).stops ≠ (s.before e).stops

omit [DecidableEq B] in
/-- The last slot of the BAT instance is over. -/
def Exhausted (s : Schedule B) (v : Visit B) : Prop :=
  s.slotsOf v.bat = some [] ∨
    ∃ d ∈ s.data v.bat, ∃ slot, d.slots s.phase = some [slot] ∧ d.Expired slot v.now

/-- All running BAT instances are refreshed in the load generation, some of them are scheduled, and the
last slot of each of these is over. -/
structure AllOver (s : Schedule B) (e : Event B) : Prop where
  phase : (s.before e).phase = .loadgen
  all : ∀ b ∈ e.running, b ∈ e.visits.1.map Visit.bat
  scheduled : ∃ v ∈ e.visits.1, ((s.before e).data v.bat).isSome = true
  exhausted : ∀ v ∈ e.visits.1, ((s.before e).data v.bat).isSome = true → (s.before e).Exhausted v

/-- The end of the phase is requested only if no running BAT instance has a slot left, and it is
requested when all of them are refreshed and their last slots are over. -/
structure StopsRight (s : Schedule B) (e : Event B) : Prop where
  only : s.Requests e → ∀ b ∈ e.running, ∀ slots,
    ((s.before e).refresh e.visits.1).slotsOf b = some slots → slots = []
  comes : s.AllOver e → s.Requests e

/-- If the slots of all BAT instances of a call are over, then no other one that is running has a slot
left; and when all are over no unscheduled one is in the list. -/
structure Complete (s : Schedule B) (e : Event B) : Prop where
  others : (s.before e).phase = .loadgen → e.visits.1 ≠ [] →
    (∀ v ∈ e.visits.1, (s.before e).Exhausted v) → ∀ b ∈ e.running, b ∉ e.visits.1.map Visit.bat →
      ∀ slots, (s.before e).slotsOf b = some slots → slots = []
  scheduled : s.AllOver e → ∀ v ∈ e.visits.1, ((s.before e).data v.bat).isSome = true

/-! ## One call -/

variable {s : Schedule B} {v : Visit B} {visits : List (Visit B)} {notPending : Bool} {e : Event B}

omit [DecidableEq B] in
/-- A visit leaves no slot pending exactly when the slots are over. -/
lemma exhausted_iff : s.Exhausted v ↔
    ∃ d, BatData.visit s.phase v (s.data v.bat) = .done d false := by
  rw [Exhausted, slotsOf]
  cases hdata : s.data v.bat with
  | none => simp [BatData.visit]
  | some d =>
    cases hslots : d.slots s.phase with
    | none =>
      have hleft : BatData.visit s.phase v (some d) = .left := BatData.visit_none (by exact hslots)
      simp [hleft, hslots]
    | some l =>
      have hset : ∀ (d d' : BatData) slot, d.setSlot s.phase v slot ≠ .done d' false := by
        intro d d' slot
        rw [BatData.setSlot]
        split_ifs <;> simp
      rcases BatData.visit_cases v hslots with ⟨rfl, heq⟩ | ⟨slot, rest, rfl, ⟨hstart, heq⟩ |
        ⟨hstart, hexpired, heq⟩ | ⟨hexpired, ⟨rfl, heq⟩ | ⟨next, rest', rfl, heq⟩⟩⟩
      · simp [heq, hslots]
      · simp [heq, hslots, hset, BatData.Expired, hstart]
      · simp [heq, hslots, hexpired]
      · simp [heq, hslots, hexpired]
      · simp [heq, hslots, hset]

omit [DecidableEq B] in
/-- A visit that ends otherwise finds slots that are not over. -/
lemma not_exhausted {r : Visited} (hvisit : BatData.visit s.phase v (s.data v.bat) = r)
    (hr : ∀ d, r ≠ .done d false) : ¬ s.Exhausted v := fun h => by
  obtain ⟨d, hd⟩ := exhausted_iff.mp h
  exact hr d (hvisit.symm.trans hd)

omit [DecidableEq B] in
lemma exhausted_congr {s' : Schedule B} (hphase : s'.phase = s.phase)
    (hdata : s'.data v.bat = s.data v.bat) : s'.Exhausted v ↔ s.Exhausted v := by
  rw [Exhausted, Exhausted, slotsOf, slotsOf, hphase, hdata]

/-- The loop requests the end when it has seen no pending slot. -/
lemma stops_refreshLoop (notPending : Bool) (hnodup : (visits.map Visit.bat).Nodup) :
    (s.refreshLoop notPending visits).stops ≠ s.stops ↔
      notPending = true ∧ s.phase = .loadgen ∧ ∀ v ∈ visits, s.Exhausted v := by
  induction visits generalizing s notPending with
  | nil =>
    rw [refreshLoop]
    split_ifs with h
    · simp [h]
    · simp only [ne_eq, not_true, List.not_mem_nil, false_imp_iff, implies_true, and_true, false_iff]
      exact h
  | cons v vs ih =>
    rw [List.map_cons, List.nodup_cons] at hnodup
    obtain ⟨hnew, hnodup⟩ := hnodup
    rw [List.forall_mem_cons]
    cases hvisit : BatData.visit s.phase v (s.data v.bat) with
    | left =>
      have hnot : ¬ s.Exhausted v := not_exhausted hvisit (by simp)
      rw [refreshLoop, hvisit]
      simp [hnot]
    | raised d =>
      have hnot : ¬ s.Exhausted v := not_exhausted hvisit (by simp)
      rw [refreshLoop, hvisit]
      simp [hnot, setData]
    | done d pending =>
      have hother : ∀ w ∈ vs, (s.setData v.bat d).Exhausted w ↔ s.Exhausted w := fun w hw =>
        exhausted_congr rfl (setData_data_of_ne d fun h => hnew (h ▸ List.mem_map_of_mem hw))
      have hpending : s.Exhausted v → pending = false := fun h => by
        obtain ⟨d', hd'⟩ := exhausted_iff.mp h
        cases hvisit.symm.trans hd'
        rfl
      have hover : pending = false → s.Exhausted v := fun h => exhausted_iff.mpr ⟨d, h ▸ hvisit⟩
      rw [refreshLoop, hvisit]
      have hrest := ih (s := s.setData v.bat d) (notPending && !pending) hnodup
      rw [show (s.setData v.bat d).stops = s.stops from rfl,
        show (s.setData v.bat d).phase = s.phase from rfl] at hrest
      dsimp only
      rw [hrest, forall₂_congr hother, Bool.and_eq_true, Bool.not_eq_true', and_assoc]
      constructor
      · rintro ⟨hnot, hfalse, hphase, hvs⟩
        exact ⟨hnot, hphase, hover hfalse, hvs⟩
      · rintro ⟨hnot, hphase, hv, hvs⟩
        exact ⟨hnot, hpending hv, hphase, hvs⟩

omit [DecidableEq B] in
/-- Behind a visit that leaves no slot pending there is no slot. -/
lemma slotsOf_of_exhausted {s' : Schedule B} (hphase : s'.phase = s.phase)
    (hdata : s'.data v.bat = s.alone v) (h : s.Exhausted v) : s'.slotsOf v.bat = some [] := by
  rw [slotsOf, hphase, hdata, alone]
  rcases h with hnil | ⟨d, hd, slot, hslots, hexpired⟩
  · obtain ⟨d, hd, hslots⟩ := Option.bind_eq_some_iff.mp hnil
    rw [hd, BatData.visit_nil hslots]
    exact hslots
  · rw [hd, BatData.visit_last hslots hexpired]
    exact BatData.slots_pop

/-- When the end is requested. -/
lemma requests_iff : s.Requests e ↔ (s.before e).phase = .loadgen ∧ e.visits.1 ≠ [] ∧
    ∀ v ∈ e.visits.1, (s.before e).Exhausted v := by
  rw [Requests, refresh]
  split_ifs with hnil
  · simp [hnil]
  · rw [stops_refreshLoop true e.visits.2]
    simp [hnil]

omit [DecidableEq B] in
/-- If no visit leaves the loop, all are made. -/
lemma reached_eq_self (h : ∀ v ∈ visits, ¬ s.Leaves v) : s.reached visits = visits := by
  induction visits with
  | nil => rfl
  | cons v vs ih =>
    rw [reached, if_neg (h v List.mem_cons_self), ih fun w hw => h w (List.mem_cons_of_mem v hw)]

/-- What is left of the slots when the end is requested. -/
lemma slotsOf_of_requests (h : ∀ v ∈ e.visits.1, (s.before e).Exhausted v) :
    (∀ b ∈ e.visits.1.map Visit.bat,
        ((s.before e).refresh e.visits.1).slotsOf b = some []) ∧
      ∀ b, b ∉ e.visits.1.map Visit.bat →
        ((s.before e).refresh e.visits.1).slotsOf b = (s.before e).slotsOf b := by
  have hreached : (s.before e).reached e.visits.1 = e.visits.1 := by
    refine reached_eq_self fun v hv hleaves => leaves_iff.mp hleaves ?_
    obtain ⟨d, hd⟩ := exhausted_iff.mp (h v hv)
    exact ⟨d, false, hd⟩
  obtain ⟨hvisited, hothers⟩ := refresh_data (s := s.before e) e.visits.2
  rw [hreached] at hvisited hothers
  constructor
  · intro b hb
    obtain ⟨v, hv, rfl⟩ := List.mem_map.mp hb
    exact slotsOf_of_exhausted (refresh_phase _) (hvisited v hv) (h v hv)
  · intro b hb
    rw [slotsOf, refresh_phase, hothers b hb, slotsOf]

/-- A call requests the end as it should exactly when it is complete. -/
lemma stopsRight_iff_complete : s.StopsRight e ↔ s.Complete e := by
  constructor
  · rintro ⟨honly, hcomes⟩
    refine ⟨fun hphase hne hall b hb hnot slots hslots => ?_, fun hover v hv => ?_⟩
    · refine honly (requests_iff.mpr ⟨hphase, hne, hall⟩) b hb slots ?_
      rw [(slotsOf_of_requests hall).2 b hnot]
      exact hslots
    · have hexhausted := (requests_iff.mp (hcomes hover)).2.2 v hv
      obtain ⟨d, hd⟩ := exhausted_iff.mp hexhausted
      cases hdata : (s.before e).data v.bat with
      | none =>
        rw [hdata] at hd
        exact nomatch hd
      | some d => rfl
  · rintro ⟨hothers, hscheduled⟩
    refine ⟨fun hrequests b hb slots hslots => ?_, fun hover => ?_⟩
    · obtain ⟨hphase, hne, hall⟩ := requests_iff.mp hrequests
      by_cases hvisited : b ∈ e.visits.1.map Visit.bat
      · rw [(slotsOf_of_requests hall).1 b hvisited] at hslots
        exact (Option.some.inj hslots).symm
      · rw [(slotsOf_of_requests hall).2 b hvisited] at hslots
        exact hothers hphase hne hall b hb hvisited slots hslots
    · obtain ⟨v, hv, -⟩ := hover.scheduled
      exact requests_iff.mpr ⟨hover.phase, List.ne_nil_of_mem hv,
        fun v hv => hover.exhausted v hv (hscheduled hover v hv)⟩

/-- **The end of the phase is requested when it should** in a run exactly when every call is complete. -/
theorem stopsRight_iff (s : Schedule B) (es : List (Event B)) :
    LabelledSystem.Along stepEvent StopsRight s es ↔ LabelledSystem.Along stepEvent Complete s es :=
  LabelledSystem.along_congr (I := fun _ => True) (fun _ _ _ _ _ => trivial)
    (fun _ _ _ _ _ => stopsRight_iff_complete) trivial

/-- One BAT instance has no slots, and the other one has a slot that is never over. -/
def openEnded (b : ℕ) : Option (TrafficPhase → Option (List CpsSlot)) :=
  if b = 0 then some fun _ => some [] else some fun _ => some [⟨10, -1⟩]

/-- The phase is started for the first BAT instance, and its end is requested at once. -/
theorem openEnded_stops :
    ¬ LabelledSystem.Along stepEvent StopsRight (init .preexec openEnded)
      [.startPhase .loadgen (visitAt 0 1 (by norm_num)) ⟨[0, 1], List.mem_cons_self⟩] := by
  intro h
  have honly := (h _ rfl).1.only (by rw [Requests]; decide +kernel) 1 (by decide) [⟨10, -1⟩] rfl
  exact List.cons_ne_nil _ _ honly

end Schedule

end HssRtc

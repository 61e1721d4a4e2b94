import StTools.HssRtc.CapacityPeriods
import StTools.Lib.LabelledSystem
import Mathlib.Algebra.Group.Pi.Basic
import Mathlib.Algebra.Order.Monoid.Canonical.Basic

/-!
# The TPS counters of the DiaProxys

At the end of each period the capacity handler asks for the TPS error rate.  `read_tps_counters` goes
through the DiaProxys and adds up what they have counted; a DiaProxy that answers starts to count from
zero again.  The first DiaProxy that does not answer ends the loop with an empty dictionary, which
gives the error rate zero: what the DiaProxys before it have handed out is dropped.

`nothingDropped_iff` says in which runs everything that was handed out reaches an error rate and no
measurement with a missing answer is accepted.
-/

namespace HssRtc

/-! ## The counters -/

/-- The counters of a DiaProxy. -/
inductive ResultCode
  | request
  | success
  | busy
  | utc
  | other
  deriving DecidableEq

/-- What has been counted; a counter that is missing has counted nothing. -/
abbrev TpsCounters := ResultCode → ℕ

namespace TpsCounters

/-- The executed requests in the loop of `tps_error_rate`. -/
def executed (data : TpsCounters) : ℕ :=
  data .success + data .busy + data .utc + data .other

/-- The failed requests in the loop of `tps_error_rate`. -/
def failed (data : TpsCounters) : ℕ := data .busy + data .utc

/-- The function `tps_error_rate`. -/
def errorRate (data : TpsCounters) : ℚ :=
  if data.executed ≠ 0 then (data.failed * 100 : ℕ) / (data.executed : ℚ) else 0

/-- Without counters the error rate is zero. -/
lemma errorRate_zero : errorRate 0 = 0 := rfl

/-- A sum is zero when both parts are. -/
lemma add_eq_zero_iff {a b : TpsCounters} : a + b = 0 ↔ a = 0 ∧ b = 0 := by
  simp only [funext_iff, Pi.add_apply, Pi.zero_apply, Nat.add_eq_zero_iff, forall_and]

end TpsCounters

/-! ## Reading the counters -/

/-- What comes of the command `get_and_reset_result_code_counter`. -/
inductive ProxyReply
  | answer
  /-- The counters have been reset, but the answer does not arrive. -/
  | lostAnswer
  /-- The command does not arrive. -/
  | silence
  deriving DecidableEq

section

variable {P : Type*} [DecidableEq P]

/-- The function `read_tps_counters`: the counters that it returns, and what the DiaProxys have
counted afterwards. -/
def readTpsCounters (reply : P → ProxyReply) :
    List P → (P → TpsCounters) → TpsCounters → TpsCounters × (P → TpsCounters)
  | [], counted, data => (data, counted)
  | p :: ps, counted, data =>
    match reply p with
    | .answer => readTpsCounters reply ps (Function.update counted p 0) (data + counted p)
    | .lostAnswer => (0, Function.update counted p 0)
    | .silence => (0, counted)

/-- What the DiaProxys hand out in their answers until the loop ends. -/
def handedOut (reply : P → ProxyReply) : List P → (P → TpsCounters) → TpsCounters
  | [], _ => 0
  | p :: ps, counted =>
    match reply p with
    | .answer => counted p + handedOut reply ps (Function.update counted p 0)
    | .lostAnswer | .silence => 0

/-- Every DiaProxy answers. -/
def AllAnswer (reply : P → ProxyReply) (ps : List P) : Prop := ∀ p ∈ ps, reply p = .answer

instance (reply : P → ProxyReply) (ps : List P) : Decidable (AllAnswer reply ps) := by
  unfold AllAnswer
  infer_instance

/-- The DiaProxys before the first one that does not answer have counted nothing. -/
def NothingBefore (reply : P → ProxyReply) (counted : P → TpsCounters) (ps : List P) : Prop :=
  ∀ p ∈ ps.takeWhile fun p => reply p = .answer, counted p = 0

variable {reply : P → ProxyReply} {ps : List P} {counted : P → TpsCounters} {data : TpsCounters}

/-- When every DiaProxy answers, all that is handed out is returned. -/
lemma readTpsCounters_of_allAnswer (h : AllAnswer reply ps) :
    (readTpsCounters reply ps counted data).1 = data + handedOut reply ps counted := by
  induction ps generalizing counted data with
  | nil => exact (add_zero data).symm
  | cons p ps ih =>
    have hp : reply p = .answer := h p List.mem_cons_self
    have hps : AllAnswer reply ps := fun q hq => h q (List.mem_cons_of_mem p hq)
    simp only [readTpsCounters, handedOut, hp]
    rw [ih hps, add_assoc]

/-- When a DiaProxy does not answer, nothing is returned. -/
lemma readTpsCounters_of_not_allAnswer (h : ¬ AllAnswer reply ps) :
    (readTpsCounters reply ps counted data).1 = 0 := by
  induction ps generalizing counted data with
  | nil => exact absurd (fun p hp => nomatch hp) h
  | cons p ps ih =>
    cases hp : reply p with
    | lostAnswer => simp only [readTpsCounters, hp]
    | silence => simp only [readTpsCounters, hp]
    | answer =>
      simp only [readTpsCounters, hp]
      refine ih fun hps => h fun q hq => ?_
      rcases List.mem_cons.mp hq with rfl | hq
      · exact hp
      · exact hps q hq

/-- Nothing is handed out exactly when the DiaProxys before the first silent one have counted
nothing. -/
lemma handedOut_eq_zero_iff : handedOut reply ps counted = 0 ↔ NothingBefore reply counted ps := by
  induction ps generalizing counted with
  | nil => exact ⟨fun _ p hp => (nomatch hp), fun _ => rfl⟩
  | cons p ps ih =>
    cases hp : reply p with
    | lostAnswer => simp [handedOut, NothingBefore, hp]
    | silence => simp [handedOut, NothingBefore, hp]
    | answer =>
      have htake : (p :: ps).takeWhile (fun p => reply p = .answer) =
          p :: ps.takeWhile fun p => reply p = .answer :=
        List.takeWhile_cons_of_pos (by simp [hp])
      simp only [handedOut, hp, NothingBefore, htake, List.forall_mem_cons]
      rw [TpsCounters.add_eq_zero_iff, ih]
      -- A DiaProxy that has counted nothing is not changed by the reset.
      refine and_congr_right fun hzero => ?_
      have hreset : Function.update counted p 0 = counted :=
        Function.update_eq_self_iff.mpr hzero.symm
      rw [hreset]
      rfl

end

/-! ## Accepting a measurement -/

namespace CapacityHandler

universe u

variable {B : Type u}

/-- The load of the period allows the end of the search or of the validation. -/
def LoadAccepted (c : CapacityConfig B) (s : CapacityHandler B) : Prop :=
  ∃ load ∈ (s.measure c).2.periodLoad.getLast?,
    (s.measure c).2.fsmStatus = .searchDown ∧
        (c.loadValidationEnabled → (s.measure c).1 ∧ load ≤ c.maxLoad) ∨
      (s.measure c).2.fsmStatus = .validate ∧ (s.measure c).1

/-- The capacity handler accepts an error rate at the end of a period. -/
def Accepts (c : CapacityConfig B) (s : CapacityHandler B) (tpsErrorRate : ℚ) : Prop :=
  tpsErrorRate ≤ c.maxErrorRate ∧ s.LoadAccepted c

/-- With an error rate that is accepted the validation of the DC starts, or the capacity is found. -/
lemma endPeriod_of_accepts [DecidableEq B] {c : CapacityConfig B} {s : CapacityHandler B}
    {bats : List B} {r : Readings B} (h : s.Accepts c r.tpsErrorRate) :
    ∃ t : CapacityHandler B, s.endPeriod c bats r = t.startValidation c bats r ∨
      ∃ load, s.endPeriod c bats r = (t.noteFound r (s.measure c).1 load).finish c := by
  obtain ⟨hrate, load, hload, hstate⟩ := h
  rcases hmeasure : s.measure c with ⟨stable, t⟩
  simp only [hmeasure] at hload hstate
  rcases hstate with ⟨hdown, hcriteria⟩ | ⟨hvalidate, hstable⟩
  · have hmeets : MeetsCriteria c r stable load := ⟨hrate, hcriteria⟩
    simp only [endPeriod, hmeasure, Option.mem_def.mp hload, hdown, searchDown, if_pos hmeets]
    by_cases hdc : c.dc = true
    · exact ⟨_, Or.inl (if_pos hdc)⟩
    · exact ⟨_, Or.inr ⟨load, if_neg hdc⟩⟩
  · have hkeep : ¬ stable = false := by simp [hstable]
    simp only [endPeriod, hmeasure, Option.mem_def.mp hload, hvalidate, validate,
      if_neg (not_lt.mpr hrate), if_neg hkeep]
    exact ⟨_, Or.inr ⟨load, rfl⟩⟩

end CapacityHandler

/-! ## Runs -/

namespace TpsMeasurement

open LabelledSystem

universe u

/-- What the DiaProxys have counted; the rest is ghost. -/
structure State (P : Type*) where
  counted : P → TpsCounters
  /-- Ghost: what the DiaProxys have handed out in their answers. -/
  received : TpsCounters
  /-- Ghost: what has been included in error rates. -/
  included : TpsCounters

/-- What happens. -/
inductive Event (P : Type*) (B : Type u)
  /-- A DiaProxy counts. -/
  | traffic (p : P) (counters : TpsCounters)
  /-- A period of the capacity handler ends. -/
  | measure (reply : P → ProxyReply) (s : CapacityHandler B)

section

variable {P : Type*} {B : Type u} [DecidableEq P]

/-- One step, with the DiaProxys `ps`. -/
def step (ps : List P) (s : State P) : Event P B → Option (State P)
  | .traffic p counters =>
    some { s with counted := Function.update s.counted p (s.counted p + counters) }
  | .measure reply _ =>
    some {
      counted := (readTpsCounters reply ps s.counted 0).2
      received := s.received + handedOut reply ps s.counted
      included := s.included + (readTpsCounters reply ps s.counted 0).1 }

/-- Everything that was handed out has been included in an error rate. -/
def Included (s : State P) : Prop := s.included = s.received

/-- After the run everything that was handed out has been included in an error rate. -/
def IncludedAfter (ps : List P) (s : State P) (es : List (Event P B)) : Prop :=
  ∀ s', exec (step ps) s es = some s' → Included s'

/-- A measurement with a missing answer is not reported as an error rate of zero that the capacity
handler accepts. -/
def NotTaken (c : CapacityConfig B) (ps : List P) (s : State P) : Event P B → Prop
  | .traffic _ _ => True
  | .measure reply h =>
    ¬ AllAnswer reply ps → (readTpsCounters reply ps s.counted 0).1.errorRate = 0 →
      ¬ h.Accepts c (readTpsCounters reply ps s.counted 0).1.errorRate

/-- Every DiaProxy answers; or those before the first silent one have counted nothing, and the
capacity handler does not come to the end of a search or validation that the load allows, unless no
error is allowed at all. -/
def Complete (c : CapacityConfig B) (ps : List P) (s : State P) : Event P B → Prop
  | .traffic _ _ => True
  | .measure reply h =>
    AllAnswer reply ps ∨
      NothingBefore reply s.counted ps ∧ (c.maxErrorRate < 0 ∨ ¬ h.LoadAccepted c)

variable {c : CapacityConfig B} {ps : List P} {s s' : State P} {e : Event P B}
  {es : List (Event P B)}

/-- Every DiaProxy answers, or those before the first silent one have counted nothing. -/
def Kept (ps : List P) (s : State P) : Event P B → Prop
  | .traffic _ _ => True
  | .measure reply _ => AllAnswer reply ps ∨ NothingBefore reply s.counted ps

/-- What a step includes in an error rate and what it drops. -/
lemma step_ledger (hstep : step ps s e = some s') :
    ∃ given dropped : TpsCounters, s'.included = s.included + given ∧
      s'.received = s.received + given + dropped ∧ (dropped = 0 ↔ Kept ps s e) := by
  cases e with
  | traffic p counters =>
    cases hstep
    exact ⟨0, 0, rfl, rfl, iff_of_true rfl trivial⟩
  | measure reply h =>
    cases hstep
    by_cases hall : AllAnswer reply ps
    · refine ⟨handedOut reply ps s.counted, 0, ?_, rfl, iff_of_true rfl (Or.inl hall)⟩
      change s.included + (readTpsCounters reply ps s.counted 0).1 = _
      rw [readTpsCounters_of_allAnswer hall, zero_add]
    · refine ⟨0, handedOut reply ps s.counted, ?_, ?_, ?_⟩
      · change s.included + (readTpsCounters reply ps s.counted 0).1 = _
        rw [readTpsCounters_of_not_allAnswer hall]
      · change s.received + handedOut reply ps s.counted = _
        rw [add_zero]
      · rw [handedOut_eq_zero_iff]
        exact (or_iff_right hall).symm

/-- A step happens in every state. -/
lemma exists_step (ps : List P) (s : State P) (e : Event P B) : ∃ s', step ps s e = some s' := by
  cases e <;> exact ⟨_, rfl⟩

/-- What was dropped once is never included: after a run everything has been included exactly when
nothing was missing before and no step drops anything. -/
lemma includedAfter_iff {missing : TpsCounters} (hs : s.received = s.included + missing) :
    IncludedAfter ps s es ↔ missing = 0 ∧ Along (step ps) (Kept ps) s es := by
  induction es generalizing s missing with
  | nil =>
    have hnil : IncludedAfter (B := B) ps s [] ↔ s.included = s.received :=
      ⟨fun h => h s rfl, fun h s' hs' => Option.some.inj hs' ▸ h⟩
    rw [hnil, hs, left_eq_add]
    exact ⟨fun h => ⟨h, trivial⟩, And.left⟩
  | cons e es ih =>
    obtain ⟨t, ht⟩ := exists_step ps s e
    obtain ⟨given, dropped, hincluded, hreceived, hkept⟩ := step_ledger ht
    have hmissing : t.received = t.included + (missing + dropped) := by
      rw [hreceived, hincluded, hs]
      ac_rfl
    have hafter : IncludedAfter ps s (e :: es) ↔ IncludedAfter ps t es := by
      refine forall_congr' fun s' => imp_congr_left ?_
      rw [exec_cons_eq_some]
      exact ⟨fun ⟨u, hu, hrest⟩ => Option.some.inj (ht.symm.trans hu) ▸ hrest,
        fun hrest => ⟨t, ht, hrest⟩⟩
    rw [hafter, ih hmissing, TpsCounters.add_eq_zero_iff, hkept, and_assoc]
    refine and_congr_right fun _ => ?_
    exact ⟨fun h u hu => Option.some.inj (ht.symm.trans hu) ▸ h, fun h => h t ht⟩

/-- A measurement loses nothing and is not taken for a good one exactly when it is complete. -/
lemma kept_and_notTaken_iff :
    (Kept ps s e ∧ NotTaken c ps s e) ↔ Complete c ps s e := by
  cases e with
  | traffic p counters => exact Iff.rfl.and Iff.rfl |>.trans (and_self_iff)
  | measure reply h =>
    by_cases hall : AllAnswer reply ps
    · exact iff_of_true ⟨Or.inl hall, fun hnot => absurd hall hnot⟩ (Or.inl hall)
    · have hrate : (readTpsCounters reply ps s.counted 0).1.errorRate = 0 := by
        rw [readTpsCounters_of_not_allAnswer hall, TpsCounters.errorRate_zero]
      have htaken : NotTaken c ps s (.measure reply h) ↔ ¬ h.Accepts c 0 := by
        rw [NotTaken, hrate]
        exact ⟨fun hnot => hnot hall rfl, fun hnot _ _ => hnot⟩
      rw [htaken, Kept, Complete, or_iff_right hall, or_iff_right hall,
        CapacityHandler.Accepts, not_and_or, not_le]

/-- **When no counter is dropped.**  In a run that starts with any counters, everything that the
DiaProxys hand out is included in an error rate and no measurement with a missing answer is accepted
with the error rate zero, if and only if every measurement is complete. -/
theorem nothingDropped_iff (c : CapacityConfig B) (ps : List P) (counted : P → TpsCounters)
    (es : List (Event P B)) :
    (IncludedAfter ps ⟨counted, 0, 0⟩ es ∧
        Along (step ps) (NotTaken c ps) ⟨counted, 0, 0⟩ es) ↔
      Along (step ps) (Complete c ps) ⟨counted, 0, 0⟩ es := by
  have hcongr : Along (step ps) (fun s e => Kept ps s e ∧ NotTaken c ps s e) ⟨counted, 0, 0⟩ es ↔
      Along (step ps) (Complete c ps) ⟨counted, 0, 0⟩ es :=
    along_congr (I := fun _ => True) (fun _ _ _ _ _ => trivial)
      (fun _ _ _ _ _ => kept_and_notTaken_iff) trivial
  rw [includedAfter_iff (add_zero 0).symm, ← hcongr]
  constructor
  · rintro ⟨⟨-, hkept⟩, htaken⟩
    exact hkept.and htaken
  · intro h
    refine ⟨⟨rfl, ?_⟩, ?_⟩
    · exact along_of_along (I := fun _ => True) (fun _ _ _ _ _ _ => trivial)
        (fun _ _ _ hse => hse.1) trivial h
    · exact along_of_along (I := fun _ => True) (fun _ _ _ _ _ _ => trivial)
        (fun _ _ _ hse => hse.2) trivial h

end

/-- The counters of a DiaProxy: ten requests with success, five answered with busy. -/
def busyCounters : TpsCounters
  | .request => 15
  | .success => 10
  | .busy => 5
  | .utc => 0
  | .other => 0

/-- The end of a period on the way down with a load of 50. -/
def onTheWayDown : CapacityHandler ℕ :=
  { CapacityHandler.init (CapacityHandler.oneBat 1 80) with
    fsmStatus := .searchDown
    loadSamples := [50] }

/-- The first of two DiaProxys has counted failed requests, and the second one is silent. -/
def secondSilent : List (Event ℕ ℕ) :=
  [.traffic 0 busyCounters, .measure (fun p => if p = 0 then .answer else .silence) onTheWayDown]

/-- The load of the period is accepted. -/
lemma onTheWayDown_loadAccepted : onTheWayDown.LoadAccepted (CapacityHandler.oneBat 1 80) := by
  refine ⟨50, by decide +kernel, Or.inl ⟨rfl, fun _ => ⟨by decide +kernel, ?_⟩⟩⟩
  norm_num [CapacityHandler.oneBat]

/-- The counters of the first DiaProxy are dropped, and the capacity handler takes the measurement
for a good one. -/
theorem secondSilent_dropped :
    ¬ IncludedAfter [0, 1] ⟨fun _ => 0, 0, 0⟩ secondSilent ∧
      ¬ Along (step [0, 1]) (NotTaken (CapacityHandler.oneBat 1 80) [0, 1]) ⟨fun _ => 0, 0, 0⟩
        secondSilent := by
  constructor
  · intro h
    have hbusy := congrFun (h _ rfl) .busy
    revert hbusy
    decide
  · intro h
    have hmeasure := ((h _ rfl).2 _ rfl).1
    refine hmeasure (by decide) rfl ⟨?_, onTheWayDown_loadAccepted⟩
    decide +kernel

end TpsMeasurement

end HssRtc

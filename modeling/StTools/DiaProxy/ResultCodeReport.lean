import StTools.Lib.LabelledSystem
import StTools.DiaProxy.DiaThread

/-!
# Counting result codes

A server thread counts every answer on its connection, under the mutex `STATISTIC`.  From time to
time the report thread moves the counters of all connections to the totals: it adds them up and
sets them to zero under `STATISTIC`, and adds the sums to the totals under `REPORT`.  The remote
thread fetches the totals with `get_and_reset_result_code_counter`: it reads them without a lock,
and after that sets them to zero under `REPORT`.

The sums that the report thread adds between the reading and the reset are lost.
`balanced_throughout_iff` says that counts are neither lost nor doubled in exactly those runs in
which a reset finds the totals as they were read and no 32-bit counter runs over.
-/

namespace DiaProxy

/-- What is counted. -/
inductive ResultKind
  | request
  | success
  | busy
  | unableToComply
  | other
  deriving DecidableEq, Repr

/-- The kinds, in the order in which `get_result_code_info` reads them. -/
def ResultKind.all : List ResultKind := [.request, .success, .busy, .unableToComply, .other]

/-- The counter of a connection for a kind. -/
def Statistic.resultCounter (d : Statistic) : ResultKind → UInt32
  | .request => d.requestSent
  | .success => d.resultCodeSuccess
  | .busy => d.resultCodeBusy
  | .unableToComply => d.resultCodeUnableToComply
  | .other => d.resultCodeOther

/-- The counters of a connection are set to zero. -/
def Statistic.clearResults (d : Statistic) : Statistic :=
  { d with
    requestSent := 0
    resultCodeSuccess := 0
    resultCodeBusy := 0
    resultCodeUnableToComply := 0
    resultCodeOther := 0 }

/-- The kind that an answer with this result code is counted as. -/
def ResultKind.ofResult : Option ℕ → ResultKind
  | some value =>
    if value = 2001 then .success
    else if value = 5012 then .unableToComply
    else if value = 3004 then .busy
    else if value > 2001 ∧ value < 3000 then .success
    else .other
  | none => .other

/-- An answer raises the counter of its kind. -/
lemma Statistic.resultCounter_result (d : Statistic) (value : Option ℕ) (k : ResultKind) :
    (d.result value).resultCounter k =
      if k = ResultKind.ofResult value then d.resultCounter k + 1 else d.resultCounter k := by
  unfold Statistic.result ResultKind.ofResult
  split
  · cases k <;> rfl
  · cases k <;> rfl
  · cases k <;> rfl
  · rename_i h₁ h₂ h₃
    simp only [if_neg h₁, if_neg h₂, if_neg h₃]
    split
    · cases k <;> rfl
    · cases k <;> rfl
  · cases k <;> rfl

/-- The shared counters and what the threads hold of them. -/
structure Report where
  /-- `v_connections`, with their counters. -/
  connections : List Statistic
  /-- `cer_data.resultcode_request` to `cer_data.resultcode_other`. -/
  resultcode : ResultKind → UInt32
  /-- The sums of `save_DiaErrCounters_data`, while it is between its two sections. -/
  total : Option (ResultKind → UInt32)
  /-- The values that `get_result_code_info` has read so far. -/
  answer : List UInt32
  /-- Ghost: how often each kind was counted. -/
  counted : ResultKind → ℕ
  /-- Ghost: the sum of the values returned for each kind. -/
  returned : ResultKind → ℕ

namespace Report

/-- What the threads can do next. -/
inductive Event
  /-- A server thread counts an answer on its connection. -/
  | countAnswer (c : ℕ) (value : Option ℕ)
  /-- A request is counted on a connection when it is sent. -/
  | countRequest (c : ℕ)
  /-- The section of `save_DiaErrCounters_data` under `STATISTIC`. -/
  | collect
  /-- The section of `save_DiaErrCounters_data` under `REPORT`. -/
  | add
  /-- `get_result_code_info` reads the next total. -/
  | read
  /-- `reset_result_code_info`, and the values that were read are returned. -/
  | reset

/-- Count one of a kind on a connection. -/
def count (s : Report) (c : ℕ) (k : ResultKind) (f : Statistic → Statistic) : Report :=
  { s with
    connections := s.connections.modify c f
    counted := fun j => if j = k then s.counted j + 1 else s.counted j }

/-- The sum over all connections, as the loop of `save_DiaErrCounters_data` computes it. -/
def sum (s : Report) (k : ResultKind) : UInt32 :=
  s.connections.foldl (fun total d => total + d.resultCounter k) 0

/-- The value that was read for a kind. -/
def answerOf (s : Report) (k : ResultKind) : UInt32 :=
  (s.answer[ResultKind.all.idxOf k]?).getD 0

/-- One step. -/
def step (s : Report) : Event → Option Report
  | .countAnswer c value =>
    if c < s.connections.length then
      some (s.count c (.ofResult value) fun d => d.result value)
    else none
  | .countRequest c =>
    if c < s.connections.length then
      some (s.count c .request fun d => { d with requestSent := d.requestSent + 1 })
    else none
  | .collect =>
    if s.total = none then
      some { s with total := some s.sum, connections := s.connections.map Statistic.clearResults }
    else none
  | .add =>
    match s.total with
    | none => none
    | some total =>
      some { s with total := none, resultcode := fun k => s.resultcode k + total k }
  | .read =>
    match ResultKind.all[s.answer.length]? with
    | none => none
    | some k => some { s with answer := s.answer ++ [s.resultcode k] }
  | .reset =>
    if s.answer.length = ResultKind.all.length then
      some { s with
        answer := []
        resultcode := fun _ => 0
        returned := fun k => s.returned k + (s.answerOf k).toNat }
    else none

/-- Nothing is counted yet. -/
def init (n : ℕ) : Report where
  connections := List.replicate n {}
  resultcode _ := 0
  total := none
  answer := []
  counted _ := 0
  returned _ := 0

/-- What the report thread holds of a kind. -/
def moving (s : Report) (k : ResultKind) : ℕ :=
  match s.total with
  | none => 0
  | some total => (total k).toNat

/-- The counters of all connections for a kind. -/
def held (s : Report) (k : ResultKind) : ℕ :=
  (s.connections.map fun d => (d.resultCounter k).toNat).sum

/-- Of every kind, what was returned, the total, what is being moved and the counters of the
connections add up to what was counted. -/
def Balanced (s : Report) : Prop :=
  ∀ k, s.returned k + (s.resultcode k).toNat + s.moving k + s.held k = s.counted k

/-- The counter of a kind on a connection can be raised. -/
def MayCount (s : Report) (c : ℕ) (k : ResultKind) : Prop :=
  ∀ d, s.connections[c]? = some d → (d.resultCounter k).toNat + 1 < 4294967296

/-- The step loses no count: no counter runs over, and a reset finds the totals as they were
read. -/
def Undisturbed (s : Report) : Event → Prop
  | .countAnswer c value => s.MayCount c (.ofResult value)
  | .countRequest c => s.MayCount c .request
  | .collect => ∀ k, s.held k < 4294967296
  | .add => ∀ k, (s.resultcode k).toNat + s.moving k < 4294967296
  | .read => True
  | .reset => ∀ k, s.answerOf k = s.resultcode k

/-! ## What the steps do to the sums -/

variable {s s' : Report}

/-- A number below the limit that is raised by one. -/
lemma toNat_add_one {n : UInt32} (h : n.toNat + 1 < 4294967296) : (n + 1).toNat = n.toNat + 1 := by
  rw [UInt32.toNat_add]
  exact Nat.mod_eq_of_lt h

/-- Raising a number at the limit starts again at zero. -/
lemma toNat_add_one_ne {n : UInt32} (h : ¬ n.toNat + 1 < 4294967296) :
    (n + 1).toNat ≠ n.toNat + 1 := by
  have hlt := (n + 1).toNat_lt
  omega

/-- The sum that the loop computes is right up to the limit. -/
lemma toNat_sum (s : Report) (k : ResultKind) : (s.sum k).toNat = s.held k % 4294967296 := by
  suffices h : ∀ (l : List Statistic) (t : UInt32),
      (l.foldl (fun total d => total + d.resultCounter k) t).toNat =
        (t.toNat + (l.map fun d => (d.resultCounter k).toNat).sum) % 4294967296 by
    rw [sum, h, UInt32.toNat_zero, Nat.zero_add]
    rfl
  intro l
  induction l with
  | nil =>
    intro t
    exact (Nat.mod_eq_of_lt t.toNat_lt).symm
  | cons d l ih =>
    intro t
    rw [List.foldl_cons, ih, UInt32.toNat_add, List.map_cons, List.sum_cons, Nat.mod_add_mod,
      Nat.add_assoc]

/-- Cleared counters hold nothing. -/
lemma held_clear (l : List Statistic) (k : ResultKind) :
    ((l.map Statistic.clearResults).map fun d => (d.resultCounter k).toNat).sum = 0 := by
  induction l with
  | nil => rfl
  | cons d l ih =>
    rw [List.map_cons, List.map_cons, List.sum_cons, ih]
    cases k <;> rfl

/-- A sum changes by what one of its entries changes. -/
lemma sum_modify (l : List Statistic) (g : Statistic → ℕ) (f : Statistic → Statistic) {c : ℕ}
    {d : Statistic} (h : l[c]? = some d) :
    ((l.modify c f).map g).sum + g d = (l.map g).sum + g (f d) := by
  induction l generalizing c with
  | nil => cases h
  | cons b l ih =>
    cases c with
    | zero =>
      cases h
      simp only [List.modify_zero_cons, List.map_cons, List.sum_cons]
      omega
    | succ c =>
      have hl := ih h
      simp only [List.modify_succ_cons, List.map_cons, List.sum_cons]
      omega

/-- What counting one on a connection does: the counter of the kind is raised, the others are
kept. -/
lemma held_count {c : ℕ} {k : ResultKind} {f : Statistic → Statistic}
    (hf : ∀ d j, (f d).resultCounter j =
      if j = k then d.resultCounter j + 1 else d.resultCounter j)
    (hc : c < s.connections.length) :
    (∀ j ≠ k, (s.count c k f).held j = s.held j) ∧
      ((s.count c k f).held k = s.held k + 1 ↔ s.MayCount c k) := by
  obtain ⟨d, hd⟩ : ∃ d, s.connections[c]? = some d :=
    ⟨_, List.getElem?_eq_getElem hc⟩
  constructor
  · intro j hj
    have hsum := sum_modify s.connections (fun d => (d.resultCounter j).toNat) f hd
    rw [hf, if_neg hj] at hsum
    exact Nat.add_right_cancel hsum
  · have hsum : (s.count c k f).held k + (d.resultCounter k).toNat =
        s.held k + ((f d).resultCounter k).toNat := sum_modify s.connections _ f hd
    rw [hf, if_pos rfl] at hsum
    have hmay : s.MayCount c k ↔ (d.resultCounter k).toNat + 1 < 4294967296 := by
      simp [MayCount, hd]
    rw [hmay]
    constructor
    · intro heq
      by_contra hover
      exact toNat_add_one_ne hover (by omega)
    · intro hlt
      rw [toNat_add_one hlt] at hsum
      omega

/-- Counting one of a kind keeps the balance exactly when the counter does not run over. -/
lemma balanced_count_iff (h : s.Balanced) {c : ℕ} {k : ResultKind} {f : Statistic → Statistic}
    (hf : ∀ d j, (f d).resultCounter j =
      if j = k then d.resultCounter j + 1 else d.resultCounter j)
    (hc : c < s.connections.length) : (s.count c k f).Balanced ↔ s.MayCount c k := by
  obtain ⟨hother, hself⟩ := held_count hf hc
  rw [← hself]
  constructor
  · intro hbal
    have hk := hbal k
    have hs := h k
    simp only [count, if_true] at hk
    simp only [moving, held, count] at *
    omega
  · intro heq j
    have hs := h j
    by_cases hj : j = k
    · subst hj
      simp only [count, if_true]
      simp only [moving, held, count] at *
      omega
    · have hkeep := hother j hj
      simp only [count, if_neg hj]
      simp only [moving, held, count] at *
      omega

/-- **Step rule.**  From a balanced state a step leads to a balanced state exactly when it is
undisturbed. -/
theorem balanced_step_iff (h : s.Balanced) {e : Event} (hstep : s.step e = some s') :
    s'.Balanced ↔ s.Undisturbed e := by
  cases e with
  | countAnswer c value =>
    obtain ⟨hc, hs⟩ := Option.ite_none_right_eq_some.mp hstep
    cases hs
    exact balanced_count_iff h (fun d j => d.resultCounter_result value j) hc
  | countRequest c =>
    obtain ⟨hc, hs⟩ := Option.ite_none_right_eq_some.mp hstep
    cases hs
    exact balanced_count_iff h (fun d j => by cases j <;> rfl) hc
  | collect =>
    obtain ⟨htotal, hs⟩ := Option.ite_none_right_eq_some.mp hstep
    cases hs
    refine forall_congr' fun k => ?_
    have hs := h k
    have hclear := held_clear s.connections k
    have hsum := s.toNat_sum k
    simp only [moving, htotal, held] at *
    rw [hclear, hsum]
    omega
  | add =>
    cases htotal : s.total with
    | none =>
      simp only [step, htotal] at hstep
      cases hstep
    | some total =>
      simp only [step, htotal, Option.some.injEq] at hstep
      subst hstep
      refine forall_congr' fun k => ?_
      have hs := h k
      simp only [moving, htotal, held, UInt32.toNat_add] at *
      have hlt := (s.resultcode k).toNat_lt
      have hlt' := (total k).toNat_lt
      omega
  | read =>
    cases hk : ResultKind.all[s.answer.length]? with
    | none =>
      simp only [step, hk] at hstep
      cases hstep
    | some k =>
      simp only [step, hk, Option.some.injEq] at hstep
      subst hstep
      exact iff_of_true h trivial
  | reset =>
    obtain ⟨-, hs⟩ := Option.ite_none_right_eq_some.mp hstep
    cases hs
    refine forall_congr' fun k => ?_
    have hs := h k
    rw [← UInt32.toNat_inj]
    simp only [moving, held, UInt32.toNat_zero] at *
    omega

/-- Before anything is counted everything is zero. -/
lemma balanced_init (n : ℕ) : (init n).Balanced := by
  intro k
  have hheld : (init n).held k = 0 := by
    have hclear := held_clear (List.replicate n {}) k
    rwa [List.map_replicate] at hclear
  rw [hheld]
  rfl

/-- **Counts are neither lost nor doubled exactly in the undisturbed runs.** -/
theorem balanced_throughout_iff (n : ℕ) (es : List Event) :
    LabelledSystem.Throughout step Balanced (init n) es ↔
      LabelledSystem.Along step Undisturbed (init n) es :=
  LabelledSystem.throughout_iff_along
    (fun _ _ _ h hC hstep => (balanced_step_iff h hstep).mpr hC) (fun _ h => h)
    (fun _ _ _ h hC hstep hbal => hC ((balanced_step_iff h hstep).mp hbal)) (balanced_init n)

/-- A run in which the report thread adds a count between the reading and the reset. -/
def disturbedRun : List Event :=
  [.countAnswer 0 (some 2001), .collect, .read, .read, .read, .read, .read, .add, .reset]

/-- The count is lost: at the end no thread holds anything, and nothing was returned. -/
theorem disturbedRun_loses : ∃ s, LabelledSystem.exec step (init 1) disturbedRun = some s ∧
    s.total = none ∧ s.answer = [] ∧ s.counted .success = 1 ∧
      s.returned .success + (s.resultcode .success).toNat + s.held .success = 0 ∧
      ¬ s.Balanced := by
  refine ⟨_, rfl, rfl, rfl, rfl, rfl, fun h => ?_⟩
  exact absurd (h .success) (by decide)

end Report

end DiaProxy

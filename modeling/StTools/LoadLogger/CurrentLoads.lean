import StTools.LoadLogger.LoadReport
import StTools.Lib.NamedInstances
import Mathlib.Data.List.DropRight
import Mathlib.Data.List.FinRange
import Mathlib.Data.List.Perm.Basic

/-!
# The current loads of the dicos processors

After every report, `logLoad` computes the loads of the dicos processors and the mean of the last traffic
loads, which are kept in `m_otl_vals`, the newest first.  Excluded processors are not added up.  The sum of
the traffic is divided by the number of the others, but the sums for the system and for operation and
maintenance by the number of all.  Processors that are listed behind an unknown name are not added up
either, and a report whose last line has no end is given up before the loads are computed.

`rightAfter_iff` says for which reports the loads are means.
-/

namespace LoadLogger

open ScenarioDeployGenerator (toInt32)

/-! ## The loads -/

/-- `resize` of a vector of numbers. -/
def resize (vals : List ℚ) (size : ℕ) : List ℚ :=
  vals.take size ++ List.replicate (size - vals.length) 0

/-- The variables for the current loads. -/
structure CurrentLoads where
  /-- `m_cur_dicos_sys_load`. -/
  sysLoad : ℚ
  /-- `m_cur_dicos_traffic_load`. -/
  trafficLoad : ℚ
  /-- `m_cur_dicos_oam_load`. -/
  oamLoad : ℚ
  /-- `m_cur_dicos_ota_load`. -/
  otaLoad : ℚ
  /-- `m_otl_vals`. -/
  otlVals : List ℚ
  /-- `m_buildOTALNr`. -/
  buildOTALNr : ℕ
  deriving DecidableEq

namespace CurrentLoads

/-- The variables at first. -/
def start : CurrentLoads := ⟨0, 0, 0, 0, resize [] 5, 5⟩

/-- `setBuildAverOver`. -/
def setBuildAverOver (s : CurrentLoads) (theNumber : ℕ) : CurrentLoads :=
  { s with otlVals := resize s.otlVals theNumber, buildOTALNr := theNumber }

end CurrentLoads

namespace Site

variable {n : ℕ} (c : Site n)

/-- The sum of a load over the dicos processors in a report that are not excluded. -/
def dicosSum (f : Load → UInt32) (entries : List (Fin n × Load)) : UInt32 :=
  entries.foldl (fun sum e => if c.ptype e.1 = .dicos then sum + f e.2 else sum) 0

/-- The end of `logLoad`, behind the loop over the lines. -/
def publish (s : CurrentLoads) (entries : List (Fin n × Load)) : CurrentLoads :=
  if 0 < c.nrOfDicos then
    let traffic : ℚ := (c.dicosSum Load.tv entries).toNat / (c.nrOfDicos - c.nrOfExcludedDicos : ℕ)
    let vals := resize (traffic :: s.otlVals) s.buildOTALNr
    { s with
      sysLoad := (c.dicosSum Load.sv entries).toNat / c.nrOfDicos
      trafficLoad := traffic
      oamLoad := (c.dicosSum Load.oam entries).toNat / c.nrOfDicos
      -- The index of the loop is an `int`, and so is its bound.
      otaLoad := (vals.take (toInt32 s.buildOTALNr).toNat).sum / s.buildOTALNr
      otlVals := vals }
  else s

end Site

/-- The list of processors, and the number of reports that the mean traffic load is built over. -/
structure Setup (n : ℕ) extends Site n, ProcessorList n where
  /-- Processors are told apart by their names. -/
  name_injective : Function.Injective name
  /-- Some dicos processor is not excluded. -/
  excluded_lt : toSite.nrOfExcludedDicos < toSite.nrOfDicos
  /-- The number that was given to `setBuildAverOver`. -/
  buildOver : ℕ
  /-- The reader of the configuration refuses 0. -/
  buildOver_pos : 0 < buildOver
  /-- It is an `unsigned int`. -/
  buildOver_lt : buildOver < 2 ^ 32

/-- `logLoad`, as far as the current loads are concerned.  There is no result when a name is copied
outside the buffer. -/
def Setup.logLoad {n : ℕ} (c : Setup n) (s : CurrentLoads) (ldata : Text) : Option CurrentLoads :=
  (c.toProcessorList.logLoad ldata).map fun r => if r.complete then c.publish s r.entries else s

/-- A report that lists every dicos processor once. -/
structure Report {n : ℕ} (c : Setup n) extends LoadText where
  listed : ∀ i, (c.ptype i).kind = some .dicos → lines.countP (fun l => l.name = c.name i) = 1

namespace Report

variable {n : ℕ} {c : Setup n}

/-- What the report says about a processor. -/
def load (r : Report c) (i : Fin n) : Load :=
  ((r.lines.find? fun l => l.name = c.name i).map ReportLine.load).getD ⟨0, 0, 0⟩

/-- A load of the dicos processors that are not excluded. -/
def values (r : Report c) (f : Load → UInt32) : List ℕ :=
  (c.getProcessors .dicos).map fun i => (f (r.load i)).toNat

/-- Their sum. -/
def total (r : Report c) (f : Load → UInt32) : ℕ := (r.values f).sum

/-- Their mean. -/
def mean (r : Report c) (f : Load → UInt32) : ℚ := r.total f / (r.values f).length

/-- The report is not given up: the last line has an end, or there is an unknown name. -/
def Finished (r : Report c) : Prop := '\n' ∈ r.after ∨ ∃ l ∈ r.lines, ¬ c.Known l

/-- The processors that are listed behind an unknown name. -/
def missed (r : Report c) : List (Fin n × Load) := c.updates (r.lines.dropWhile (c.Known ·))

end Report

namespace Setup

variable {n : ℕ} (c : Setup n)

/-- The variables after some reports. -/
def currentLoads (rs : List (Report c)) : Option CurrentLoads :=
  rs.foldlM (fun s r => c.logLoad s r.text) (CurrentLoads.start.setBuildAverOver c.buildOver)

/-- The loads are right for the report `r`, which came after the reports `rs`. -/
structure Right (rs : List (Report c)) (r : Report c) (s : CurrentLoads) : Prop where
  sys : s.sysLoad = r.mean Load.sv
  traffic : s.trafficLoad = r.mean Load.tv
  oam : s.oamLoad = r.mean Load.oam
  /-- The mean of the last traffic loads, where those before the first report count as 0. -/
  overTime : s.otaLoad =
    (((rs ++ [r]).map fun r => r.mean Load.tv).rtake c.buildOver).sum / c.buildOver

/-- The current loads are right after the report `r`, which came after the reports `rs`. -/
def RightAfter (rs : List (Report c)) (r : Report c) : Prop :=
  ∃ s, c.currentLoads (rs ++ [r]) = some s ∧ c.Right rs r s

/-- The reports for which the current loads are right. -/
structure InOrder (r : Report c) : Prop where
  /-- The names fit into the buffer. -/
  fits : c.NamesFit r.lines
  /-- The report is not given up. -/
  finished : r.Finished
  /-- No dicos processor that is not excluded is missed, unless it has no load. -/
  found : ∀ e ∈ r.missed, c.ptype e.1 = .dicos → e.2 = ⟨0, 0, 0⟩
  /-- The sums do not overflow. -/
  sys : r.total Load.sv < 2 ^ 32
  traffic : r.total Load.tv < 2 ^ 32
  oam : r.total Load.oam < 2 ^ 32
  /-- No dicos processor is excluded, or there is nothing to divide by their number. -/
  excluded : c.nrOfExcludedDicos = 0 ∨ r.total Load.sv = 0 ∧ r.total Load.oam = 0
  /-- The loop over the last traffic loads is entered, or there is no traffic. -/
  buildOver : c.buildOver < 2 ^ 31 ∨ r.total Load.tv = 0

end Setup

/-! ## The window -/

/-- Values in front of zeros, as many as the window holds. -/
lemma resize_cons_take {N : ℕ} (hN : 0 < N) (x : ℚ) (l : List ℚ) :
    resize (x :: (l ++ List.replicate N 0).take N) N = (x :: l ++ List.replicate N 0).take N := by
  obtain ⟨M, rfl⟩ := Nat.exists_eq_succ_of_ne_zero hN.ne'
  have hlength : ((l ++ List.replicate (M + 1) 0).take (M + 1)).length = M + 1 := by simp
  rw [resize, List.length_cons, hlength, List.cons_append, List.take_succ_cons, List.take_succ_cons,
    List.take_take]
  simp

/-- The vector has no numbers but zeros at first. -/
lemma resize_start (N : ℕ) : resize (resize [] 5) N = List.replicate N 0 := by
  rw [resize, resize, List.take_nil, List.nil_append, List.length_nil, List.take_replicate,
    List.length_replicate, List.replicate_append_replicate]
  congr 1
  omega

/-- Zeros do not count. -/
lemma sum_take_append_zeros (l : List ℚ) (N M : ℕ) :
    ((l ++ List.replicate M 0).take N).sum = (l.take N).sum := by
  rw [List.take_append, List.sum_append, List.take_replicate]
  simp

/-! ## Sums and means -/

/-- The sum of a load in some entries, without overflow. -/
def Site.dicosTotal {n : ℕ} (c : Site n) (f : Load → UInt32) (entries : List (Fin n × Load)) : ℕ :=
  ((entries.filter fun e => c.ptype e.1 = .dicos).map fun e => (f e.2).toNat).sum

/-- The sum of a report is that of its entries, as an `unsigned int`. -/
lemma Site.toNat_dicosSum {n : ℕ} (c : Site n) (f : Load → UInt32) (entries : List (Fin n × Load)) :
    (c.dicosSum f entries).toNat = c.dicosTotal f entries % 2 ^ 32 := by
  have hfold : ∀ sum : UInt32, (entries.foldl
      (fun sum e => if c.ptype e.1 = .dicos then sum + f e.2 else sum) sum).toNat =
        (sum.toNat + c.dicosTotal f entries) % 2 ^ 32 := by
    induction entries with
    | nil => simp [dicosTotal]
    | cons e entries ih =>
      intro sum
      rw [List.foldl_cons, ih]
      by_cases he : c.ptype e.1 = .dicos
      · simp [dicosTotal, he, UInt32.toNat_add, Nat.add_assoc]
      · simp [dicosTotal, he]
  rw [dicosSum, hfold]
  simp

section Sums

variable {n : ℕ} {c : Setup n}

/-- A processor is found by its name. -/
lemma Setup.findProcessor_eq_some_iff {name : Text} {i : Fin n} :
    c.findProcessor name = some i ↔ c.name i = name := by
  constructor
  · intro h
    have hname := List.find?_some h
    exact of_decide_eq_true hname
  · rintro rfl
    cases hfind : c.findProcessor (c.name i) with
    | none =>
      have hnot := List.find?_eq_none.mp hfind i (List.mem_finRange i)
      simp at hnot
    | some k =>
      have hname := List.find?_some hfind
      rw [c.name_injective (of_decide_eq_true hname)]

/-- An entry is that of a line. -/
lemma Setup.mem_updates {ls : List ReportLine} {e : Fin n × Load} :
    e ∈ c.updates ls ↔ ∃ l ∈ ls, c.name e.1 = l.name ∧ e.2 = l.load := by
  simp only [ProcessorList.updates, List.mem_filterMap, Option.map_eq_some_iff]
  constructor
  · rintro ⟨l, hl, i, hi, rfl⟩
    exact ⟨l, hl, findProcessor_eq_some_iff.mp hi, rfl⟩
  · rintro ⟨l, hl, hname, hload⟩
    exact ⟨l, hl, e.1, findProcessor_eq_some_iff.mpr hname, by rw [← hload]⟩

/-- The entry of a dicos processor is what the report says about it. -/
lemma Report.load_eq (r : Report c) {e : Fin n × Load} (he : e ∈ c.updates r.lines)
    (hkind : (c.ptype e.1).kind = some .dicos) : r.load e.1 = e.2 := by
  obtain ⟨l, hl, hname, hload⟩ := Setup.mem_updates.mp he
  have hlisted := r.listed e.1 hkind
  rw [List.countP_eq_length_filter, List.length_eq_one_iff] at hlisted
  obtain ⟨x, hx⟩ := hlisted
  have hmem : ∀ y ∈ r.lines, y.name = c.name e.1 → y = x := fun y hy hyname => by
    have hfilter : y ∈ r.lines.filter fun l => l.name = c.name e.1 :=
      List.mem_filter.mpr ⟨hy, decide_eq_true hyname⟩
    rw [hx] at hfilter
    exact List.mem_singleton.mp hfilter
  cases hfind : r.lines.find? fun l => l.name = c.name e.1 with
  | none =>
    have hnot := List.find?_eq_none.mp hfind l hl
    simp [hname] at hnot
  | some y =>
    have hyname := List.find?_some hfind
    have hy := hmem y (List.mem_of_find?_eq_some hfind) (of_decide_eq_true hyname)
    have hsame := hmem l hl hname.symm
    rw [Report.load, hfind, hload, hsame, ← hy]
    rfl

/-- A processor has as many entries as lines. -/
lemma Setup.count_updates (ls : List ReportLine) (i : Fin n) :
    ((c.updates ls).map Prod.fst).count i = ls.countP fun l => l.name = c.name i := by
  rw [List.count_eq_countP, List.countP_map, ProcessorList.updates, List.countP_filterMap]
  refine List.countP_congr fun l _ => ?_
  cases hfind : c.findProcessor l.name with
  | none =>
    have hne : l.name ≠ c.name i := fun h =>
      Option.some_ne_none i (hfind ▸ findProcessor_eq_some_iff.mpr h.symm).symm
    simp [hne]
  | some k =>
    have hk : c.name k = l.name := findProcessor_eq_some_iff.mp hfind
    simp [← hk, c.name_injective.eq_iff]

/-- The total of a report is that of its entries. -/
lemma Report.total_eq (r : Report c) (f : Load → UInt32) :
    r.total f = c.dicosTotal f (c.updates r.lines) := by
  have hperm : (((c.updates r.lines).filter fun e => c.ptype e.1 = .dicos).map Prod.fst).Perm
      (c.getProcessors .dicos) := by
    refine List.perm_iff_count.mpr fun i => ?_
    have hfilter : ((c.updates r.lines).filter fun e => c.ptype e.1 = .dicos).map Prod.fst =
        ((c.updates r.lines).map Prod.fst).filter fun i => c.ptype i = .dicos := by
      rw [List.filter_map]
      rfl
    rw [Site.getProcessors, hfilter]
    by_cases hi : c.ptype i = .dicos
    · have hkind : (c.ptype i).kind = some .dicos := by rw [hi]; rfl
      rw [List.count_filter (by simpa using hi), List.count_filter (by simpa using hi),
        Setup.count_updates, r.listed i hkind,
        List.count_eq_one_of_mem (List.nodup_finRange n) (List.mem_finRange i)]
    · have hnot : ∀ l : List (Fin n), i ∉ l.filter fun i => c.ptype i = .dicos := fun l hmem =>
        hi (of_decide_eq_true (List.mem_filter.mp hmem).2)
      rw [List.count_eq_zero_of_not_mem (hnot _), List.count_eq_zero_of_not_mem (hnot _)]
  rw [Report.total, Report.values, ← (hperm.map _).sum_eq, Site.dicosTotal, List.map_map]
  congr 1
  refine List.map_congr_left fun e he => ?_
  obtain ⟨hmem, htype⟩ := List.mem_filter.mp he
  have hkind : (c.ptype e.1).kind = some .dicos := by rw [of_decide_eq_true htype]; rfl
  rw [Function.comp_apply, r.load_eq hmem hkind]

/-- What is read of a report. -/
def Report.read (r : Report c) (f : Load → UInt32) : ℕ :=
  c.dicosTotal f (c.updates (r.lines.takeWhile (c.Known ·)))

/-- What is not read is missed. -/
lemma Report.read_add_missed (r : Report c) (f : Load → UInt32) :
    r.read f + c.dicosTotal f r.missed = r.total f := by
  have hsplit : c.updates r.lines = c.updates (r.lines.takeWhile (c.Known ·)) ++ r.missed := by
    conv_lhs => rw [← List.takeWhile_append_dropWhile (p := (c.Known ·)) (l := r.lines)]
    exact List.filterMap_append
  rw [r.total_eq, hsplit, Report.read]
  simp [Site.dicosTotal]

/-- Nothing of a load is missed. -/
lemma Report.read_eq_total_iff (r : Report c) (f : Load → UInt32) :
    r.read f = r.total f ↔ ∀ e ∈ r.missed, c.ptype e.1 = .dicos → f e.2 = 0 := by
  have hzero : c.dicosTotal f r.missed = 0 ↔ ∀ e ∈ r.missed, c.ptype e.1 = .dicos → f e.2 = 0 := by
    rw [Site.dicosTotal, List.sum_eq_zero_iff_forall_eq_nat, List.forall_mem_map]
    simp [← UInt32.toNat_inj]
  rw [← r.read_add_missed f, ← hzero]
  omega

/-- The number of the processors that are not excluded. -/
lemma Report.length_values (r : Report c) (f : Load → UInt32) :
    (r.values f).length = c.nrOfDicos - c.nrOfExcludedDicos := by
  rw [Report.values, List.length_map, Site.nrOfDicos, Site.nrOfExcludedDicos, Nat.add_sub_cancel]

/-- A part of a sum that may overflow and is divided by too great a number is the mean only for these
reasons. -/
lemma mod_div_eq_iff {read total d e M : ℕ} (hread : read ≤ total) (he : e < d) (hM : 0 < M) :
    ((read % M : ℕ) : ℚ) / d = total / (d - e : ℕ) ↔
      read = total ∧ total < M ∧ (e = 0 ∨ total = 0) := by
  have hd : (d : ℚ) ≠ 0 := by exact_mod_cast (Nat.zero_lt_of_lt he).ne'
  have hk : ((d - e : ℕ) : ℚ) ≠ 0 := by exact_mod_cast (Nat.sub_pos_of_lt he).ne'
  rw [div_eq_div_iff hd hk]
  norm_cast
  constructor
  · intro h
    have hle : read % M ≤ total := (Nat.mod_le read M).trans hread
    have hmul : total * d ≤ total * (d - e) := h ▸ Nat.mul_le_mul_right _ hle
    rcases Nat.eq_zero_or_pos total with hzero | hpos
    · exact ⟨by omega, hzero ▸ hM, .inr hzero⟩
    · have hde : d ≤ d - e := Nat.le_of_mul_le_mul_left hmul hpos
      have hzero : e = 0 := by omega
      rw [hzero, Nat.sub_zero] at h
      have hmod : read % M = total := Nat.eq_of_mul_eq_mul_right (Nat.zero_lt_of_lt he) h
      have hlt := Nat.mod_lt read hM
      have hmodle := Nat.mod_le read M
      exact ⟨by omega, by omega, .inl hzero⟩
  · rintro ⟨rfl, hlt, hzero | hzero⟩
    · rw [hzero, Nat.sub_zero, Nat.mod_eq_of_lt hlt]
    · simp [hzero]

end Sums

/-! ## Runs -/

namespace Setup

variable {n : ℕ} {c : Setup n} {rs : List (Report c)} {r : Report c} {s s' : CurrentLoads}

/-- The traffic load that is computed for a report. -/
def trafficOf (c : Setup n) (r : Report c) : ℚ :=
  (r.read Load.tv % 2 ^ 32 : ℕ) / (c.nrOfDicos - c.nrOfExcludedDicos : ℕ)

lemma mean_eq (r : Report c) (f : Load → UInt32) :
    r.mean f = r.total f / (c.nrOfDicos - c.nrOfExcludedDicos : ℕ) := by
  rw [Report.mean, r.length_values]

/-- The last report. -/
lemma currentLoads_append (rs : List (Report c)) (r : Report c) :
    c.currentLoads (rs ++ [r]) = (c.currentLoads rs).bind fun s => c.logLoad s r.text := by
  rw [currentLoads, List.foldlM_append]
  simp [currentLoads]

/-- There is a dicos processor, so the report has lines. -/
lemma lines_ne_nil (r : Report c) : r.lines ≠ [] := by
  have hpos := Nat.zero_lt_of_lt c.excluded_lt
  rw [Site.nrOfDicos, ← List.length_append] at hpos
  obtain ⟨i, hi⟩ := List.exists_mem_of_length_pos hpos
  have hkind : (c.ptype i).kind = some .dicos := by
    rcases List.mem_append.mp hi with hi | hi <;>
      (rw [of_decide_eq_true (List.mem_filter.mp hi).2]; rfl)
  intro hnil
  have hlisted := r.listed i hkind
  rw [hnil, List.countP_nil] at hlisted
  cases hlisted

/-- The variables after a report that is read to its end. -/
def published (s : CurrentLoads) (r : Report c) : CurrentLoads :=
  { s with
    sysLoad := (r.read Load.sv % 2 ^ 32 : ℕ) / c.nrOfDicos
    trafficLoad := c.trafficOf r
    oamLoad := (r.read Load.oam % 2 ^ 32 : ℕ) / c.nrOfDicos
    otaLoad := ((resize (c.trafficOf r :: s.otlVals) s.buildOTALNr).take
      (toInt32 s.buildOTALNr).toNat).sum / s.buildOTALNr
    otlVals := resize (c.trafficOf r :: s.otlVals) s.buildOTALNr }

/-- **What a report does.**  There is a result when the names fit, and something is computed when the
report is not given up. -/
theorem logLoad_text (s : CurrentLoads) (r : Report c) [Decidable r.Finished] :
    c.logLoad s r.text =
      if c.NamesFit r.lines then some (if r.Finished then published s r else s) else none := by
  have hpublish : c.publish s (c.updates (r.lines.takeWhile (c.Known ·))) = published s r := by
    rw [Site.publish, if_pos (Nat.zero_lt_of_lt c.excluded_lt)]
    simp only [Site.toNat_dicosSum]
    rfl
  rw [Setup.logLoad, ProcessorList.logLoad_text]
  split_ifs with hfit hfinished
  · rw [Option.map_some, if_pos (decide_eq_true ⟨lines_ne_nil r, hfinished⟩), hpublish]
  · rw [Option.map_some, if_neg fun h => hfinished (of_decide_eq_true h).2]
  · rfl

/-- A report that is given up changes nothing. -/
lemma logLoad_of_not_finished (hfit : c.NamesFit r.lines) (h : ¬ r.Finished) (s : CurrentLoads) :
    c.logLoad s r.text = some s := by
  classical
  rw [logLoad_text, if_pos hfit, if_neg h]

/-- A report that is read to its end, with a result. -/
lemma eq_published (h : r.Finished) (hs : c.logLoad s r.text = some s') :
    c.NamesFit r.lines ∧ s' = published s r := by
  classical
  rw [logLoad_text] at hs
  split_ifs at hs with hfit
  exact ⟨hfit, (Option.some.inj hs).symm⟩

/-- The size of the window stays. -/
lemma buildOTALNr_currentLoads {rs : List (Report c)} (h : c.currentLoads rs = some s) :
    s.buildOTALNr = c.buildOver := by
  classical
  induction rs using List.reverseRecOn generalizing s with
  | nil =>
    obtain rfl := Option.some.inj h
    rfl
  | append_singleton rs r ih =>
    rw [currentLoads_append] at h
    obtain ⟨t, ht, hs⟩ := Option.bind_eq_some_iff.mp h
    rw [logLoad_text] at hs
    split_ifs at hs with hfit hfinished
    · obtain rfl := Option.some.inj hs
      have hsame : (published t r).buildOTALNr = t.buildOTALNr := rfl
      rw [hsame]
      exact ih ht
    · obtain rfl := Option.some.inj hs
      exact ih ht

/-- **The window.**  After reports that are read to their ends the vector holds the last traffic loads,
with zeros behind them. -/
lemma window_currentLoads (h : ∀ r ∈ rs, c.NamesFit r.lines ∧ r.Finished) :
    ∃ s, c.currentLoads rs = some s ∧ s.otlVals =
      ((rs.map c.trafficOf).reverse ++ List.replicate c.buildOver 0).take c.buildOver := by
  classical
  induction rs using List.reverseRecOn with
  | nil =>
    refine ⟨_, rfl, ?_⟩
    change resize (resize [] 5) c.buildOver = _
    rw [resize_start, List.map_nil, List.reverse_nil, List.nil_append, List.take_replicate, Nat.min_self]
  | append_singleton rs r ih =>
    obtain ⟨s, hs, hvals⟩ := ih fun x hx => h x (List.mem_append_left _ hx)
    obtain ⟨hfit, hfinished⟩ := h r (List.mem_append_right _ (List.mem_singleton_self r))
    refine ⟨published s r, ?_, ?_⟩
    · rw [currentLoads_append, hs, Option.bind_some, logLoad_text, if_pos hfit, if_pos hfinished]
    · dsimp only [published]
      rw [buildOTALNr_currentLoads hs, hvals, resize_cons_take c.buildOver_pos, List.map_append,
        List.reverse_append]
      rfl

/-- The bound of the loop over the last traffic loads. -/
lemma toNat_toInt32_buildOver (c : Setup n) :
    (toInt32 c.buildOver).toNat = if c.buildOver < 2 ^ 31 then c.buildOver else 0 := by
  have hlt := c.buildOver_lt
  unfold toInt32
  split_ifs <;> omega

/-- Some processors are not excluded. -/
lemma included_ne_zero (c : Setup n) : ((c.nrOfDicos - c.nrOfExcludedDicos : ℕ) : ℚ) ≠ 0 := by
  exact_mod_cast (Nat.sub_pos_of_lt c.excluded_lt).ne'

/-- What is read is a part. -/
lemma read_le_total (r : Report c) (f : Load → UInt32) : r.read f ≤ r.total f :=
  Nat.le.intro (r.read_add_missed f)

/-- The traffic load of a report is right when it is read and the sum does not overflow. -/
lemma trafficOf_eq_mean_iff (r : Report c) :
    c.trafficOf r = r.mean Load.tv ↔
      r.read Load.tv = r.total Load.tv ∧ r.total Load.tv < 2 ^ 32 := by
  rw [trafficOf, mean_eq, div_left_inj' c.included_ne_zero, Nat.cast_inj]
  have hle := read_le_total r Load.tv
  constructor
  · intro h
    have hlt := Nat.mod_lt (r.read Load.tv) (show 0 < 2 ^ 32 by decide)
    have hmodle := Nat.mod_le (r.read Load.tv) (2 ^ 32)
    exact ⟨by omega, by omega⟩
  · rintro ⟨hread, hlt⟩
    rw [hread, Nat.mod_eq_of_lt hlt]

/-- There is no traffic. -/
lemma mean_eq_zero_iff (r : Report c) (f : Load → UInt32) : r.mean f = 0 ↔ r.total f = 0 := by
  rw [mean_eq, div_eq_zero_iff, or_iff_left c.included_ne_zero, Nat.cast_eq_zero]

/-- The last mean traffic loads add up to nothing only if the last of them is nothing. -/
lemma total_eq_zero_of_sum (h : (((rs ++ [r]).map fun r => r.mean Load.tv).rtake c.buildOver).sum = 0) :
    r.total Load.tv = 0 := by
  obtain ⟨M, hM⟩ := Nat.exists_eq_succ_of_ne_zero c.buildOver_pos.ne'
  have hnonneg : ∀ r : Report c, 0 ≤ r.mean Load.tv := fun r => by
    rw [Report.mean]
    positivity
  rw [hM, List.map_append, List.map_singleton, List.rtake_concat_succ, List.sum_append,
    List.sum_singleton] at h
  have hrest : 0 ≤ ((rs.map fun r => r.mean Load.tv).rtake M).sum := by
    refine List.sum_nonneg fun x hx => ?_
    obtain ⟨r', -, rfl⟩ := List.mem_map.mp (List.mem_of_mem_drop hx)
    exact hnonneg r'
  have hzero : r.mean Load.tv = 0 :=
    le_antisymm ((le_add_of_nonneg_left hrest).trans h.le) (hnonneg r)
  exact (mean_eq_zero_iff r _).mp hzero

/-- A load is missed by no processor when none of the three is. -/
lemma found_of_read (hsys : r.read Load.sv = r.total Load.sv)
    (htraffic : r.read Load.tv = r.total Load.tv) (hoam : r.read Load.oam = r.total Load.oam) :
    ∀ e ∈ r.missed, c.ptype e.1 = .dicos → e.2 = ⟨0, 0, 0⟩ := by
  rintro ⟨i, ⟨sv, tv, oam⟩⟩ he htype
  obtain rfl : sv = 0 := (r.read_eq_total_iff Load.sv).mp hsys _ he htype
  obtain rfl : tv = 0 := (r.read_eq_total_iff Load.tv).mp htraffic _ he htype
  obtain rfl : oam = 0 := (r.read_eq_total_iff Load.oam).mp hoam _ he htype
  rfl

/-- What is right after a report that is read to its end is so because of the report. -/
lemma RightAfter.inOrder (h : c.RightAfter rs r) (hfinished : r.Finished) : c.InOrder r := by
  obtain ⟨s', hs', hsys, htraffic, hoam, hover⟩ := h
  rw [currentLoads_append] at hs'
  obtain ⟨s, hs, hlog⟩ := Option.bind_eq_some_iff.mp hs'
  obtain ⟨hfit, rfl⟩ := eq_published hfinished hlog
  dsimp only [published] at hsys htraffic hoam hover
  rw [buildOTALNr_currentLoads hs, toNat_toInt32_buildOver] at hover
  rw [mean_eq, mod_div_eq_iff (read_le_total r _) c.excluded_lt (by decide)] at hsys hoam
  obtain ⟨htrafficRead, htrafficLt⟩ := (trafficOf_eq_mean_iff r).mp htraffic
  refine ⟨hfit, hfinished, found_of_read hsys.1 htrafficRead hoam.1, hsys.2.1, htrafficLt, hoam.2.1,
    ?_, ?_⟩
  · by_cases hnone : c.nrOfExcludedDicos = 0
    · exact .inl hnone
    · exact .inr ⟨hsys.2.2.resolve_left hnone, hoam.2.2.resolve_left hnone⟩
  · by_cases hbound : c.buildOver < 2 ^ 31
    · exact .inl hbound
    · rw [if_neg hbound, List.take_zero, List.sum_nil, zero_div] at hover
      have hpos : (c.buildOver : ℚ) ≠ 0 := by exact_mod_cast c.buildOver_pos.ne'
      exact .inr (total_eq_zero_of_sum ((div_eq_zero_iff.mp hover.symm).resolve_right hpos))

/-- Everything is read of a report that is in order. -/
lemma InOrder.read_eq (h : c.InOrder r) :
    r.read Load.sv = r.total Load.sv ∧ r.read Load.tv = r.total Load.tv ∧
      r.read Load.oam = r.total Load.oam := by
  refine ⟨(r.read_eq_total_iff _).mpr fun e he htype => ?_,
    (r.read_eq_total_iff _).mpr fun e he htype => ?_,
    (r.read_eq_total_iff _).mpr fun e he htype => ?_⟩ <;> rw [h.found e he htype]

/-- After reports that are in order the loads are right. -/
lemma rightAfter_of_inOrder (h : ∀ x ∈ rs ++ [r], c.InOrder x) : c.RightAfter rs r := by
  have hr : c.InOrder r := h r (List.mem_append_right _ (List.mem_singleton_self r))
  obtain ⟨hsys, htraffic, hoam⟩ := hr.read_eq
  have hread : ∀ x ∈ rs, c.NamesFit x.lines ∧ x.Finished := fun x hx =>
    ⟨(h x (List.mem_append_left _ hx)).fits, (h x (List.mem_append_left _ hx)).finished⟩
  obtain ⟨s, hs, hvals⟩ := window_currentLoads hread
  have hlog : c.logLoad s r.text = some (published s r) := by
    classical
    rw [logLoad_text, if_pos hr.fits, if_pos hr.finished]
  refine ⟨published s r, by rw [currentLoads_append, hs, Option.bind_some, hlog], ?_, ?_, ?_, ?_⟩
  · dsimp only [published]
    rw [mean_eq, mod_div_eq_iff (read_le_total r _) c.excluded_lt (by decide)]
    exact ⟨hsys, hr.sys, hr.excluded.imp_right And.left⟩
  · exact (trafficOf_eq_mean_iff r).mpr ⟨htraffic, hr.traffic⟩
  · dsimp only [published]
    rw [mean_eq, mod_div_eq_iff (read_le_total r _) c.excluded_lt (by decide)]
    exact ⟨hoam, hr.oam, hr.excluded.imp_right And.right⟩
  have hmeans : (rs ++ [r]).map c.trafficOf = (rs ++ [r]).map fun r => r.mean Load.tv :=
    List.map_congr_left fun x hx =>
      (trafficOf_eq_mean_iff x).mpr ⟨(h x hx).read_eq.2.1, (h x hx).traffic⟩
  have hrev : c.trafficOf r :: (rs.map c.trafficOf).reverse = ((rs ++ [r]).map c.trafficOf).reverse := by
    rw [List.map_append, List.reverse_append]
    rfl
  dsimp only [published]
  rw [buildOTALNr_currentLoads hs, hvals, resize_cons_take c.buildOver_pos, toNat_toInt32_buildOver,
    hrev, hmeans]
  split_ifs with hbound
  · rw [List.take_take, Nat.min_self, sum_take_append_zeros, List.rtake_eq_reverse_take_reverse,
      List.sum_reverse]
  · have hzero : ∀ x ∈ ((rs ++ [r]).map fun r => r.mean Load.tv).rtake c.buildOver, x = 0 := by
      intro x hx
      obtain ⟨y, hy, rfl⟩ := List.mem_map.mp (List.mem_of_mem_drop hx)
      exact (mean_eq_zero_iff y _).mpr ((h y hy).buildOver.resolve_left hbound)
    rw [List.take_zero, List.sum_nil, List.sum_eq_zero hzero]

/-- **When the current loads are right.**  After each of the reports the loads are means over the processors
that are not excluded when each report is in order: its names fit into the buffer, its last line has an end,
no dicos processor with a load is listed behind an unknown name, the sums do not overflow, no dicos processor
is excluded or the system load and that of operation and maintenance are 0, and the loads over time are built
over fewer than 2³¹ reports or there is no traffic.  After a report that is read to its end they are right
only then, and one that is given up changes nothing. -/
theorem rightAfter_iff (c : Setup n) (rs : List (Report c)) :
    ((∀ r ∈ rs, c.InOrder r) → ∀ rs' r, rs' ++ [r] <+: rs → c.RightAfter rs' r) ∧
      (∀ rs' r, rs' ++ [r] <+: rs → r.Finished → c.RightAfter rs' r → c.InOrder r) ∧
      ∀ r : Report c, c.NamesFit r.lines → ¬ r.Finished → ∀ s, c.logLoad s r.text = some s :=
  ⟨fun h _ _ hinit => rightAfter_of_inOrder fun x hx => h x (hinit.subset hx),
    fun _ _ _ hfinished h => h.inOrder hfinished,
    fun _ hfit h s => logLoad_of_not_finished hfit h s⟩

attribute [local instance] NamedInstances.neZero_two

lemma fiveReports_pos : 0 < 5 := by decide

/-- Two dicos processors. -/
def noneExcluded : Setup 2 where
  ptype _ := .dicos
  excludedDicos := 0
  name i := if i = 0 then "P0".toList else "P1".toList
  name_newline := by decide
  name_injective := by decide
  excluded_lt := by decide
  buildOver := 5
  buildOver_pos := fiveReports_pos
  buildOver_lt := by decide

open ProcessorList (zero_colon nothing_before_header twoProcessors twoProcessors_length
  twoProcessors_number)

/-! The names of two processors have neither colons nor the end of a line. -/

lemma first_colon : ':' ∉ "P0".toList := by decide

lemma first_newline : '\n' ∉ "P0".toList := by decide

lemma second_colon : ':' ∉ "P1".toList := by decide

lemma second_newline : '\n' ∉ "P1".toList := by decide

/-- The first processor has loads of 10, the second of 20, and behind them is an unknown one. -/
def threeLines : Report noneExcluded where
  before := []
  header := "3 processors, all of 23".toList
  lines :=
    [⟨"P0".toList, "0".toList, ⟨10, 10, 10⟩, first_colon, first_newline, zero_colon⟩,
      ⟨"P1".toList, "0".toList, ⟨20, 20, 20⟩, second_colon, second_newline, zero_colon⟩,
      ⟨"P7".toList, "0".toList, ⟨30, 30, 30⟩, by decide, by decide, zero_colon⟩]
  after := []
  after_digit := nothing_digit
  before_header := nothing_before_header
  header_length := by decide
  header_number t := ScenarioDeployGenerator.atoi_append (m := 3)
    (r := " processors, all of 23".toList ++ t) (by simp)
  listed := by decide

/-- The report is in order. -/
lemma inOrder_threeLines : noneExcluded.InOrder threeLines where
  fits := by decide +kernel
  finished := .inr (by decide +kernel)
  found := by decide +kernel
  sys := by decide +kernel
  traffic := by decide +kernel
  oam := by decide +kernel
  excluded := .inl (by decide +kernel)
  buildOver := .inl (by decide)

/-- After a second report the loads are right. -/
theorem threeLines_rightAfter :
    noneExcluded.RightAfter [threeLines] threeLines ∧ threeLines.mean Load.sv = 15 := by
  have hall : ∀ r ∈ [threeLines, threeLines], noneExcluded.InOrder r := by
    simp [inOrder_threeLines]
  exact ⟨(rightAfter_iff noneExcluded [threeLines, threeLines]).1 hall [threeLines] threeLines
    (List.prefix_refl _), by decide +kernel⟩

/-- Two dicos processors, and the second is excluded. -/
def oneExcluded : Setup 2 where
  ptype i := if i = 0 then .dicos else .excludedDicos
  excludedDicos := 1
  name i := if i = 0 then "P0".toList else "P1".toList
  name_newline := by decide
  name_injective := by decide
  excluded_lt := by decide
  buildOver := 5
  buildOver_pos := fiveReports_pos
  buildOver_lt := by decide

/-- The first processor has loads of 10, the second of 20. -/
def oneReport : Report oneExcluded where
  before := []
  header := twoProcessors
  lines :=
    [⟨"P0".toList, "0".toList, ⟨10, 10, 10⟩, first_colon, first_newline, zero_colon⟩,
      ⟨"P1".toList, "0".toList, ⟨20, 20, 20⟩, second_colon, second_newline, zero_colon⟩]
  after := ['\n']
  after_digit := only_newline_digit
  before_header := nothing_before_header
  header_length := twoProcessors_length
  header_number := twoProcessors_number
  listed := by decide

/-- The system load is that of the first processor, divided by 2. -/
theorem oneReport_not_rightAfter :
    (oneExcluded.currentLoads [oneReport]).map CurrentLoads.sysLoad = some 5 ∧
      oneReport.mean Load.sv = 10 ∧ ¬ oneExcluded.RightAfter [] oneReport := by
  have hload : (oneExcluded.currentLoads [oneReport]).map CurrentLoads.sysLoad = some 5 := by
    decide +kernel
  have hmean : oneReport.mean Load.sv = 10 := by decide +kernel
  refine ⟨hload, hmean, fun h => ?_⟩
  obtain ⟨s, hs, hright⟩ := h
  rw [show oneExcluded.currentLoads [oneReport] = some s from hs] at hload
  have hsame : (5 : ℚ) = 10 := (Option.some.inj hload).symm.trans (hright.sys.trans hmean)
  norm_num at hsame

end Setup

end LoadLogger

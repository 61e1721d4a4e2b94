import StTools.Lib.NamedInstances
import Mathlib.Algebra.BigOperators.Group.List.Basic
import Mathlib.Algebra.Order.BigOperators.Group.List
import Mathlib.Data.Rat.Cast.Order
import Mathlib.Data.List.DropRight
import Mathlib.Data.UInt
import Mathlib.Tactic.FieldSimp
import Mathlib.Tactic.NormNum.Eq
import Mathlib.Tactic.Positivity

/-!
# The summaries of the load logger

`CLogger` adds the readings of every processor up and prints, at the end, averages for each processor
and for each type of processor.  The sums are kept for a processor, but what they are divided by is kept
for a type: the number of the last report with a processor of the type, or the number of all its memory
readings divided by the number of its processors, without remainder.  The average of the traffic load
without the excluded processors sums up the excluded ones among those that are not.

Divisions are those of rational numbers; a `Quotient` is kept with its divisor.  `trueSummaries_iff`
says for which readings the summaries are means.
-/

namespace LoadLogger

/-! ## Means -/

/-- A number that is printed as a quotient. -/
structure Quotient where
  /-- What is divided. -/
  dividend : ℚ
  /-- What it is divided by. -/
  divisor : ℚ
  deriving DecidableEq

/-- The number. -/
def Quotient.value (q : Quotient) : ℚ := q.dividend / q.divisor

/-- The divisor is not zero, and the quotient is the mean of the values, when there are values. -/
def IsMean (values : List ℚ) (q : Quotient) : Prop :=
  q.divisor ≠ 0 ∧ values.length * q.value = values.sum

/-- The mean of some values, or zero when there are none. -/
def mean (values : List ℚ) : ℚ := values.sum / values.length

/-- Dividing a sum by the number of values, and by no other number unless it is zero, gives their
mean. -/
lemma isMean_sum_iff (values : List ℚ) (d : ℚ) :
    IsMean values ⟨values.sum, d⟩ ↔ d ≠ 0 ∧ (values.sum = 0 ∨ values.length = d) := by
  refine and_congr_right fun hd => ?_
  rw [Quotient.value]
  constructor
  · intro h
    by_cases hzero : values.sum = 0
    · exact .inl hzero
    · right
      field_simp at h
      exact h
  · rintro (hzero | hlength)
    · rw [hzero, zero_div, mul_zero]
    · rw [hlength]
      field_simp

/-! ## The data -/

/-- `ProcessorTypeE`. -/
inductive ProcessorType
  | unknown
  | linux
  | loader
  | dicos
  | excludedDicos
  deriving Repr, DecidableEq

/-- The types that are counted and summarised: a dicos processor may be excluded. -/
inductive Kind
  | linux
  | loader
  | dicos
  deriving Repr, DecidableEq

/-- The kind of a type. -/
def ProcessorType.kind : ProcessorType → Option Kind
  | unknown => none
  | linux => some .linux
  | loader => some .loader
  | dicos => some .dicos
  | excludedDicos => some .dicos

/-- Three of the `AVER_VALUES`. -/
structure Series where
  /-- The greatest value. -/
  max : ℚ
  /-- The least value. -/
  min : ℚ
  /-- The sum. -/
  sum : ℚ
  deriving DecidableEq

/-- The values at the start. -/
def Series.init : Series := ⟨0, 9999.9999, 0⟩

/-- Log a value. -/
def Series.log (s : Series) (value : UInt32) : Series where
  max := if s.max < value.toNat then value.toNat else s.max
  min := if s.min > value.toNat then value.toNat else s.min
  sum := s.sum + value.toNat

/-- What a report says about a processor. -/
structure Load where
  /-- The system load. -/
  sv : UInt32
  /-- The traffic load. -/
  tv : UInt32
  /-- The load of operation and maintenance. -/
  oam : UInt32
  deriving Repr, DecidableEq

/-- A memory reading. -/
structure Memory where
  /-- The memory. -/
  mem : UInt32
  /-- The memory of the database. -/
  dbn : UInt32
  deriving Repr, DecidableEq

/-- The list of processors, by their places in `m_proc_list`. -/
structure Site (n : ℕ) where
  /-- The types. -/
  ptype : Fin n → ProcessorType
  /-- The size of `m_excludedDicos`, the names that the user has given. -/
  excludedDicos : ℕ

/-- What is logged. -/
inductive Event (n : ℕ)
  /-- A report, with what it says about the processors. -/
  | load (entries : List (Fin n × Load))
  /-- A memory reading of a processor. -/
  | memory (i : Fin n) (reading : Memory)
  deriving Repr, DecidableEq

/-- The variables of the loggers. -/
structure Logger (n : ℕ) where
  /-- `laver`: system, traffic, operation and maintenance. -/
  laver : Fin n → Series × Series × Series
  /-- `maver`: memory, and memory of the database. -/
  maver : Fin n → Series × Series
  /-- `m_linuxMemReadings`, `m_loadersMemReadings`, `m_dicosMemReadings`. -/
  memReadings : Kind → ℕ
  /-- `m_linuxLoadReadings`, `m_loadersLoadReadings`, `m_dicosLoadReadings`. -/
  loadReadings : Kind → ℕ
  /-- `m_readings` of the load logger. -/
  readings : ℕ

/-- The variables after `initAverValues`. -/
def Logger.initAverValues (n : ℕ) : Logger n where
  laver _ := (.init, .init, .init)
  maver _ := (.init, .init)
  memReadings _ := 0
  loadReadings _ := 0
  readings := 0

namespace Site

variable {n : ℕ} (c : Site n)

/-- `getProcessors`. -/
def getProcessors (t : ProcessorType) : List (Fin n) := (List.finRange n).filter (c.ptype · = t)

/-- `m_nrOfDicos`. -/
def nrOfDicos : ℕ :=
  (c.getProcessors .dicos).length + (c.getProcessors .excludedDicos).length

/-- `m_nrOfExcludedDicos`. -/
def nrOfExcludedDicos : ℕ := (c.getProcessors .excludedDicos).length

/-- `logMemory`. -/
def logMemory (s : Logger n) (i : Fin n) (r : Memory) : Logger n :=
  { s with
    maver := Function.update s.maver i ((s.maver i).1.log r.mem, (s.maver i).2.log r.dbn)
    memReadings := fun k =>
      if (c.ptype i).kind = some k then (s.memReadings k + 1) % 4294967296 else s.memReadings k }

/-- What `logLoad` does with the part of a report for one processor. -/
def logEntry (reading : ℕ) (s : Logger n) (e : Fin n × Load) : Logger n :=
  { s with
    laver := Function.update s.laver e.1
      ((s.laver e.1).1.log e.2.sv, (s.laver e.1).2.1.log e.2.tv, (s.laver e.1).2.2.log e.2.oam)
    loadReadings := fun k =>
      if (c.ptype e.1).kind = some k then reading else s.loadReadings k }

/-- A reading is logged; the load logger counts its reports. -/
def log (s : Logger n) : Event n → Logger n
  | .memory i r => c.logMemory s i r
  | .load entries =>
    let reading := (s.readings + 1) % 4294967296
    entries.foldl (c.logEntry reading) { s with readings := reading }

/-- The loggers after some events. -/
def run (es : List (Event n)) : Logger n := es.foldl c.log (.initAverValues n)

end Site

/-! ## The summaries -/

/-- What is printed about one quantity. -/
structure Averages (n : ℕ) where
  /-- The averages of the processors. -/
  procs : List (Fin n × Quotient)
  /-- The average of all. -/
  average : Quotient

/-- The averages of some processors; the averages of each are added up. -/
def averages {n : ℕ} (procs : List (Fin n)) (sum : Fin n → ℚ) (readings count : ℚ) : Averages n where
  procs := procs.map fun i => (i, ⟨sum i, readings⟩)
  average := ⟨(procs.map fun i => sum i / readings).sum, count⟩

/-- What `writeMemSummary` prints about a kind of processors. -/
structure MemSummary (n : ℕ) where
  /-- The memory. -/
  mem : Averages n
  /-- The memory of the database. -/
  dbn : Averages n
  /-- For dicos processors, the averages of both without the excluded processors. -/
  excl : Option (Quotient × Quotient)

/-- What `writeLoadSummary` prints about a kind of processors. -/
structure LoadSummary (n : ℕ) where
  /-- The system load. -/
  system : Averages n
  /-- The traffic load. -/
  traffic : Averages n
  /-- The load of operation and maintenance. -/
  oam : Averages n
  /-- The total load. -/
  total : Averages n
  /-- For dicos processors, the average traffic load without the excluded processors. -/
  excl : Option Quotient

namespace Site

variable {n : ℕ} (c : Site n)

/-- The processors of the memory summary. -/
def memProcs : Kind → List (Fin n)
  | .linux => c.getProcessors .linux
  | .loader => c.getProcessors .loader
  | .dicos => c.getProcessors .dicos ++ c.getProcessors .excludedDicos

/-- What the number of memory readings is divided by. -/
def memCount : Kind → ℕ
  | .linux => (c.memProcs .linux).length
  | .loader => (c.memProcs .loader).length
  | .dicos => c.nrOfDicos

/-- The sum over the processors that are not excluded, and their number. -/
def memExcl (sum : Fin n → ℚ) (readings : ℚ) : Quotient where
  dividend := (((c.memProcs .dicos).filter fun i => c.ptype i ≠ .excludedDicos).map
    fun i => sum i / readings).sum
  divisor := (c.nrOfDicos : ℚ) - c.nrOfExcludedDicos

/-- `writeMemSummary`; nothing is printed about a kind without readings or processors. -/
def writeMemSummary (s : Logger n) (k : Kind) : Option (MemSummary n) :=
  if 0 < s.memReadings k ∧ c.memProcs k ≠ [] then
    let readings : ℚ := (s.memReadings k / c.memCount k : ℕ)
    some
      { mem := averages (c.memProcs k) (fun i => (s.maver i).1.sum) readings (c.memCount k)
        dbn := averages (c.memProcs k) (fun i => (s.maver i).2.sum) readings (c.memCount k)
        excl := if k = .dicos then some (c.memExcl (fun i => (s.maver i).1.sum) readings,
          c.memExcl (fun i => (s.maver i).2.sum) readings) else none }
  else none

/-- The processors of the load summary. -/
def loadProcs : Kind → List (Fin n)
  | .linux => c.getProcessors .linux
  | .loader => c.getProcessors .loader
  | .dicos => c.getProcessors .dicos

/-- The sum over the excluded ones of these processors, and the size of the list without that of the
excluded names, as a `size_t`. -/
def loadExcl (sum : Fin n → ℚ) (readings : ℚ) : Quotient where
  dividend := (((c.loadProcs .dicos).filter fun i => c.ptype i ≠ .dicos).map
    fun i => sum i / readings).sum
  divisor := (((c.loadProcs .dicos).length - c.excludedDicos : ℤ) % 18446744073709551616 : ℤ)

/-- `writeLoadSummary`; nothing is printed about a kind without readings or processors. -/
def writeLoadSummary (s : Logger n) (k : Kind) : Option (LoadSummary n) :=
  if 0 < s.loadReadings k ∧ c.loadProcs k ≠ [] then
    let readings : ℚ := s.loadReadings k
    let count : ℚ := (c.loadProcs k).length
    some
      { system := averages (c.loadProcs k) (fun i => (s.laver i).1.sum) readings count
        traffic := averages (c.loadProcs k) (fun i => (s.laver i).2.1.sum) readings count
        oam := averages (c.loadProcs k) (fun i => (s.laver i).2.2.sum) readings count
        total := averages (c.loadProcs k)
          (fun i => (s.laver i).1.sum + (s.laver i).2.1.sum + (s.laver i).2.2.sum) readings count
        excl := if k = .dicos then
          some (c.loadExcl (fun i => (s.laver i).2.1.sum) readings) else none }
  else none

end Site

/-! ## The readings -/

section

variable {n : ℕ}

/-- The memory readings of a processor. -/
def memories (es : List (Event n)) (i : Fin n) : List Memory :=
  es.filterMap fun e => match e with
    | .load _ => none
    | .memory j r => if j = i then some r else none

/-- What the reports say about a processor. -/
def loads (es : List (Event n)) (i : Fin n) : List Load :=
  es.flatMap fun e => match e with
    | .load entries => entries.filterMap fun p => if p.1 = i then some p.2 else none
    | .memory _ _ => []

/-- The reports. -/
def reports (es : List (Event n)) : List (List (Fin n × Load)) :=
  es.filterMap fun e => match e with
    | .load entries => some entries
    | .memory _ _ => none

namespace Site

variable (c : Site n)

/-- The number of memory readings of a kind, as an `unsigned int`. -/
def memoriesOfKind (es : List (Event n)) (k : Kind) : ℕ :=
  es.countP (fun e => match e with
    | .load _ => false
    | .memory i _ => (c.ptype i).kind = some k) % 4294967296

/-- The number of the last report with a processor of a kind, as an `unsigned int`, or zero. -/
def lastReport (es : List (Event n)) (k : Kind) : ℕ :=
  ((reports es).rdropWhile fun r => !r.any fun p => (c.ptype p.1).kind = some k).length % 4294967296

end Site

/-! ## What the summaries should be -/

/-- The averages that are printed for processors are means of their readings, and the average of all is
the mean over all processors of the type. -/
def Averages.Means {α : Type*} (a : Averages n) (all : List (Fin n)) (readings : Fin n → List α)
    (value : α → ℚ) : Prop :=
  (∀ p ∈ a.procs, IsMean ((readings p.1).map value) p.2) ∧
    IsMean (all.map fun i => mean ((readings i).map value)) a.average

namespace Site

variable (c : Site n)

/-- The processors of a kind, the excluded ones among them. -/
def procsOfKind (k : Kind) : List (Fin n) := (List.finRange n).filter fun i => (c.ptype i).kind = some k

/-- The dicos processors that are not excluded. -/
def notExcluded : List (Fin n) := (c.procsOfKind .dicos).filter fun i => c.ptype i ≠ .excludedDicos

/-- The dicos processors that are excluded. -/
def excluded : List (Fin n) := (c.procsOfKind .dicos).filter fun i => c.ptype i = .excludedDicos

/-- The average is the mean over the dicos processors that are not excluded. -/
def TrueExcl {α : Type*} (q : Quotient) (readings : Fin n → List α) (value : α → ℚ) : Prop :=
  IsMean (c.notExcluded.map fun i => mean ((readings i).map value)) q

/-- Everything that is printed is a mean. -/
structure TrueSummaries (es : List (Event n)) : Prop where
  /-- The memory summary. -/
  mem : ∀ k m, c.writeMemSummary (c.run es) k = some m →
    m.mem.Means (c.procsOfKind k) (memories es) (fun r => r.mem.toNat) ∧
      m.dbn.Means (c.procsOfKind k) (memories es) (fun r => r.dbn.toNat) ∧
      ∀ q ∈ m.excl, c.TrueExcl q.1 (memories es) (fun r => r.mem.toNat) ∧
        c.TrueExcl q.2 (memories es) (fun r => r.dbn.toNat)
  /-- The load summary. -/
  load : ∀ k l, c.writeLoadSummary (c.run es) k = some l →
    l.system.Means (c.procsOfKind k) (loads es) (fun r => r.sv.toNat) ∧
      l.traffic.Means (c.procsOfKind k) (loads es) (fun r => r.tv.toNat) ∧
      l.oam.Means (c.procsOfKind k) (loads es) (fun r => r.oam.toNat) ∧
      l.total.Means (c.procsOfKind k) (loads es) (fun r => r.sv.toNat + r.tv.toNat + r.oam.toNat) ∧
      ∀ q ∈ l.excl, c.TrueExcl q (loads es) (fun r => r.tv.toNat)

/-- The excluded dicos processors have the same mean as the others, or there are none. -/
def ExcludedAgree (es : List (Event n)) (value : Load → ℚ) : Prop :=
  c.excluded.length * (c.notExcluded.map fun i => mean ((loads es i).map value)).sum =
    c.notExcluded.length * (c.excluded.map fun i => mean ((loads es i).map value)).sum

/-- The readings for which the divisors are right. -/
structure EvenlyRead (es : List (Event n)) : Prop where
  /-- The memory readings of a kind are at least as many as its processors. -/
  enough : ∀ k, 0 < c.memoriesOfKind es k → c.memProcs k ≠ [] →
    (c.memProcs k).length ≤ c.memoriesOfKind es k
  /-- Each has its part of them, or reads nothing but zeros. -/
  mem : ∀ k, 0 < c.memoriesOfKind es k → ∀ i ∈ c.memProcs k,
    (memories es i).length = c.memoriesOfKind es k / (c.memProcs k).length ∨
      ∀ r ∈ memories es i, r = ⟨0, 0⟩
  /-- Not all dicos processors are excluded. -/
  oneLeft : 0 < c.memoriesOfKind es .dicos → c.memProcs .dicos ≠ [] → c.loadProcs .dicos ≠ []
  /-- Each processor is in as many reports as there are up to the last one with its kind, or its loads are
  zero. -/
  load : ∀ k, 0 < c.lastReport es k → ∀ i ∈ c.loadProcs k,
    (loads es i).length = c.lastReport es k ∨ ∀ r ∈ loads es i, r = ⟨0, 0, 0⟩
  /-- No dicos processor has any traffic. -/
  noTraffic : 0 < c.lastReport es .dicos → c.loadProcs .dicos ≠ [] → ∀ i ∈ c.procsOfKind .dicos,
    ∀ r ∈ loads es i, r.tv = 0
  /-- Excluding processors makes no difference for the other loads. -/
  agree : 0 < c.lastReport es .dicos → c.loadProcs .dicos ≠ [] →
    c.ExcludedAgree es (fun r => r.sv.toNat) ∧ c.ExcludedAgree es (fun r => r.oam.toNat)
  /-- The number of those that are not excluded is not the number of excluded names. -/
  names : 0 < c.lastReport es .dicos → c.loadProcs .dicos ≠ [] →
    ((c.loadProcs .dicos).length - c.excludedDicos : ℤ) % 18446744073709551616 ≠ 0

/-! ## The books -/

variable {c} {es : List (Event n)} {s : Logger n}

/-- The loggers have added up the readings, and counted them. -/
structure Books (c : Site n) (es : List (Event n)) (s : Logger n) : Prop where
  /-- The memory readings. -/
  mem : ∀ i, (s.maver i).1.sum = ((memories es i).map fun r => (r.mem.toNat : ℚ)).sum ∧
    (s.maver i).2.sum = ((memories es i).map fun r => (r.dbn.toNat : ℚ)).sum
  /-- The loads. -/
  load : ∀ i, (s.laver i).1.sum = ((loads es i).map fun r => (r.sv.toNat : ℚ)).sum ∧
    (s.laver i).2.1.sum = ((loads es i).map fun r => (r.tv.toNat : ℚ)).sum ∧
      (s.laver i).2.2.sum = ((loads es i).map fun r => (r.oam.toNat : ℚ)).sum
  /-- The memory readings of a kind. -/
  memReadings : ∀ k, s.memReadings k = c.memoriesOfKind es k
  /-- The last report with a processor of a kind. -/
  loadReadings : ∀ k, s.loadReadings k = c.lastReport es k
  /-- The reports. -/
  readings : s.readings = (reports es).length % 4294967296

lemma books_init (c : Site n) : c.Books [] (.initAverValues n) where
  mem _ := ⟨rfl, rfl⟩
  load _ := ⟨rfl, rfl, rfl⟩
  memReadings _ := rfl
  loadReadings _ := rfl
  readings := rfl

/-- A memory reading is entered. -/
lemma Books.logMemory (h : c.Books es s) (i : Fin n) (r : Memory) :
    c.Books (es ++ [.memory i r]) (c.logMemory s i r) where
  mem j := by
    obtain ⟨hmem, hdbn⟩ := h.mem j
    by_cases hj : j = i
    · subst hj
      simp [Site.logMemory, Series.log, memories, hmem, hdbn, List.filterMap_append]
    · have hij : i ≠ j := fun heq => hj heq.symm
      simp only [Site.logMemory, Function.update_of_ne hj, memories, List.filterMap_append,
        List.filterMap_cons, List.filterMap_nil, if_neg hij, List.append_nil]
      exact h.mem j
  load j := by
    have hloads : loads (es ++ [.memory i r]) j = loads es j := by simp [loads]
    rw [hloads]
    exact h.load j
  memReadings k := by
    have hcount := h.memReadings k
    simp only [Site.logMemory, memoriesOfKind, List.countP_append, List.countP_cons,
      List.countP_nil] at hcount ⊢
    rw [hcount]
    split_ifs <;> simp_all
  loadReadings k := by
    have hreports : reports (es ++ [.memory i r]) = reports es := by simp [reports]
    rw [lastReport, hreports]
    exact h.loadReadings k
  readings := by
    have hreports : reports (es ++ [.memory i r]) = reports es := by simp [reports]
    rw [hreports]
    exact h.readings

/-- The part of a report about a processor. -/
def partOf (entries : List (Fin n × Load)) (i : Fin n) : List Load :=
  entries.filterMap fun p => if p.1 = i then some p.2 else none

lemma loads_append_load (es : List (Event n)) (entries : List (Fin n × Load)) (i : Fin n) :
    loads (es ++ [.load entries]) i = loads es i ++ partOf entries i := by
  simp [loads, partOf]

/-- The entries of a report are added up, and those of a kind set its number. -/
lemma foldl_logEntry (c : Site n) (reading : ℕ) (s : Logger n) (entries : List (Fin n × Load)) :
    (∀ i, ((entries.foldl (c.logEntry reading) s).laver i).1.sum =
        (s.laver i).1.sum + ((partOf entries i).map fun r => (r.sv.toNat : ℚ)).sum ∧
      ((entries.foldl (c.logEntry reading) s).laver i).2.1.sum =
        (s.laver i).2.1.sum + ((partOf entries i).map fun r => (r.tv.toNat : ℚ)).sum ∧
      ((entries.foldl (c.logEntry reading) s).laver i).2.2.sum =
        (s.laver i).2.2.sum + ((partOf entries i).map fun r => (r.oam.toNat : ℚ)).sum) ∧
    (∀ k, (entries.foldl (c.logEntry reading) s).loadReadings k =
      if entries.any fun p => (c.ptype p.1).kind = some k then reading else s.loadReadings k) ∧
    (entries.foldl (c.logEntry reading) s).maver = s.maver ∧
    (entries.foldl (c.logEntry reading) s).memReadings = s.memReadings ∧
    (entries.foldl (c.logEntry reading) s).readings = s.readings := by
  induction entries generalizing s with
  | nil => simp [partOf]
  | cons e entries ih =>
    obtain ⟨hlaver, hreadings, hrest⟩ := ih (c.logEntry reading s e)
    rw [List.foldl_cons]
    refine ⟨fun i => ?_, fun k => ?_, hrest⟩
    · obtain ⟨h₁, h₂, h₃⟩ := hlaver i
      rw [h₁, h₂, h₃]
      by_cases hi : e.1 = i
      · subst hi
        simp [logEntry, Series.log, partOf, add_assoc]
      · have hne : i ≠ e.1 := fun heq => hi heq.symm
        simp [logEntry, partOf, hi, hne]
    · have hlog : (c.logEntry reading s e).loadReadings k =
          if (c.ptype e.1).kind = some k then reading else s.loadReadings k := rfl
      rw [hreadings k, hlog, List.any_cons]
      by_cases hk : (c.ptype e.1).kind = some k
      · rw [if_pos hk, decide_eq_true hk, Bool.true_or, ite_self, if_pos rfl]
      · rw [if_neg hk, decide_eq_false hk, Bool.false_or]

/-- A report is entered. -/
lemma Books.logLoad (h : c.Books es s) (entries : List (Fin n × Load)) :
    c.Books (es ++ [.load entries]) (c.log s (.load entries)) := by
  obtain ⟨hlaver, hreadings, hmaver, hmem, hcount⟩ := foldl_logEntry c
    ((s.readings + 1) % 4294967296) { s with readings := (s.readings + 1) % 4294967296 } entries
  have hreports : reports (es ++ [.load entries]) = reports es ++ [entries] := by simp [reports]
  have hnumber : (s.readings + 1) % 4294967296 =
      (reports es ++ [entries]).length % 4294967296 := by
    rw [h.readings, List.length_append, List.length_singleton, Nat.mod_add_mod]
  constructor
  · intro i
    have hmemories : memories (es ++ [.load entries]) i = memories es i := by simp [memories]
    rw [hmemories, log, hmaver]
    exact h.mem i
  · intro i
    obtain ⟨h₁, h₂, h₃⟩ := hlaver i
    obtain ⟨g₁, g₂, g₃⟩ := h.load i
    rw [loads_append_load, log, h₁, h₂, h₃, g₁, g₂, g₃]
    simp
  · intro k
    have hof : c.memoriesOfKind (es ++ [.load entries]) k = c.memoriesOfKind es k := by
      simp [memoriesOfKind]
    rw [hof, log, hmem]
    exact h.memReadings k
  · intro k
    rw [log, hreadings k, lastReport, hreports, List.rdropWhile_concat]
    by_cases hany : (entries.any fun p => decide ((c.ptype p.1).kind = some k)) = true
    · rw [if_pos hany, hany, hnumber]
      rfl
    · rw [if_neg hany, Bool.eq_false_iff.mpr hany]
      exact h.loadReadings k
  · rw [log, hcount, hreports]
    exact hnumber

/-- **The loggers keep their books** over every sequence of readings. -/
lemma books_run (c : Site n) (es : List (Event n)) : c.Books es (c.run es) := by
  induction es using List.reverseRecOn with
  | nil => exact books_init c
  | append_singleton es e ih =>
    rw [run, List.foldl_append]
    cases e with
    | load entries => exact ih.logLoad entries
    | memory i r => exact ih.logMemory i r

end Site

/-! ## The divisors -/

/-- A sum of numbers that are not negative is zero when all of them are. -/
lemma sum_map_eq_zero_iff {α : Type*} {f : α → ℚ} (hf : ∀ x, 0 ≤ f x) (l : List α) :
    (l.map f).sum = 0 ↔ ∀ x ∈ l, f x = 0 := by
  induction l with
  | nil => simp
  | cons x l ih =>
    have hrest : 0 ≤ (l.map f).sum := by
      refine List.sum_nonneg fun y hy => ?_
      obtain ⟨x, -, rfl⟩ := List.mem_map.mp hy
      exact hf x
    rw [List.map_cons, List.sum_cons, add_eq_zero_iff_of_nonneg (hf x) hrest, ih,
      List.forall_mem_cons]

/-- A sum divided by the right number, or a sum of zeros, is the mean. -/
lemma sum_div_eq_mean {values : List ℚ} {d : ℚ} (h : values.length = d ∨ values.sum = 0) :
    values.sum / d = mean values := by
  rw [mean]
  rcases h with rfl | hzero
  · rfl
  · rw [hzero, zero_div, zero_div]

/-- The mean of numbers that are not negative is zero when all of them are. -/
lemma mean_map_eq_zero_iff {α : Type*} {f : α → ℚ} (hf : ∀ x, 0 ≤ f x) (l : List α) :
    mean (l.map f) = 0 ↔ ∀ x ∈ l, f x = 0 := by
  rw [← sum_map_eq_zero_iff hf, mean, div_eq_zero_iff, or_iff_left_of_imp]
  intro hlength
  rw [List.length_map, Nat.cast_eq_zero, List.length_eq_zero_iff] at hlength
  rw [hlength]
  rfl

lemma mean_map_nonneg {α : Type*} {f : α → ℚ} (hf : ∀ x, 0 ≤ f x) (l : List α) :
    0 ≤ mean (l.map f) := by
  refine div_nonneg (List.sum_nonneg fun y hy => ?_) (Nat.cast_nonneg _)
  obtain ⟨x, -, rfl⟩ := List.mem_map.mp hy
  exact hf x

lemma mean_map_add {α : Type*} (f g : α → ℚ) (l : List α) :
    mean (l.map fun x => f x + g x) = mean (l.map f) + mean (l.map g) := by
  rw [mean, mean, mean, List.sum_map_add, List.length_map, List.length_map, List.length_map, add_div]

/-- The averages of some processors are means, and their average is the mean over all processors of the
type, when each has as many readings as the divisor says, or only zeros, and leaving the others out makes
no difference. -/
lemma means_iff {α : Type*} {readings : Fin n → List α} {value : α → ℚ} (hvalue : ∀ r, 0 ≤ value r)
    {procs : List (Fin n)} (all : List (Fin n)) (hne : procs ≠ []) (d : ℚ) :
    (averages procs (fun i => ((readings i).map value).sum) d procs.length).Means all readings value ↔
      d ≠ 0 ∧ (∀ i ∈ procs, (readings i).length = d ∨ ∀ r ∈ readings i, value r = 0) ∧
        all.length * (procs.map fun i => mean ((readings i).map value)).sum =
          procs.length * (all.map fun i => mean ((readings i).map value)).sum := by
  have hproc : ∀ i, IsMean ((readings i).map value) ⟨((readings i).map value).sum, d⟩ ↔
      d ≠ 0 ∧ ((readings i).length = d ∨ ∀ r ∈ readings i, value r = 0) := by
    intro i
    rw [isMean_sum_iff, sum_map_eq_zero_iff hvalue, List.length_map, or_comm]
  obtain ⟨i, hi⟩ := List.exists_mem_of_ne_nil procs hne
  have hprocs : (∀ p ∈ (averages procs (fun i => ((readings i).map value).sum) d procs.length).procs,
      IsMean ((readings p.1).map value) p.2) ↔
        d ≠ 0 ∧ ∀ i ∈ procs, (readings i).length = d ∨ ∀ r ∈ readings i, value r = 0 := by
    simp only [averages, List.forall_mem_map, hproc]
    exact ⟨fun h => ⟨(h i hi).1, fun j hj => (h j hj).2⟩, fun h j hj => ⟨h.1, h.2 j hj⟩⟩
  rw [Averages.Means, hprocs, and_assoc]
  refine and_congr_right fun hd => and_congr_right fun hread => ?_
  have haverages : procs.map (fun i => ((readings i).map value).sum / d) =
      procs.map fun i => mean ((readings i).map value) := by
    refine List.map_congr_left fun j hj => sum_div_eq_mean ?_
    rw [sum_map_eq_zero_iff hvalue, List.length_map]
    exact hread j hj
  have hlength : (procs.length : ℚ) ≠ 0 := by
    exact_mod_cast (List.length_pos_iff.mpr hne).ne'
  rw [averages, haverages, IsMean, and_iff_right hlength, Quotient.value, List.length_map,
    mul_div_assoc', div_eq_iff hlength, mul_comm (List.sum _) (procs.length : ℚ)]

lemma toNat_cast_eq_zero_iff (x : UInt32) : (x.toNat : ℚ) = 0 ↔ x = 0 := by
  rw [Nat.cast_eq_zero, ← UInt32.toNat_inj]
  rfl

namespace Site

variable (c : Site n)

/-! ## The processors -/

lemma memCount_eq (k : Kind) : c.memCount k = (c.memProcs k).length := by
  cases k with
  | linux | loader => rfl
  | dicos => rw [memCount, nrOfDicos, memProcs, List.length_append]

lemma ptype_of_mem {t : ProcessorType} {i : Fin n} (h : i ∈ c.getProcessors t) : c.ptype i = t := by
  simpa [getProcessors] using h

/-- The dicos processors that are not excluded. -/
lemma notExcluded_eq : c.notExcluded = c.loadProcs .dicos := by
  rw [notExcluded, procsOfKind, List.filter_filter]
  refine List.filter_congr fun i _ => ?_
  cases c.ptype i <;> rfl

/-- The dicos processors that are excluded. -/
lemma excluded_eq : c.excluded = c.getProcessors .excludedDicos := by
  rw [excluded, procsOfKind, List.filter_filter]
  refine List.filter_congr fun i _ => ?_
  cases c.ptype i <;> rfl

/-- The memory summary is about all processors of a kind. -/
lemma memProcs_perm (k : Kind) : (c.memProcs k).Perm (c.procsOfKind k) := by
  cases k with
  | dicos =>
    have hsplit := List.filter_append_perm (fun i => c.ptype i ≠ .excludedDicos) (c.procsOfKind .dicos)
    have hnot : (c.procsOfKind .dicos).filter (fun i => !decide (c.ptype i ≠ .excludedDicos)) =
        c.excluded := List.filter_congr fun i _ => by simp
    rw [hnot] at hsplit
    change (c.loadProcs .dicos ++ c.getProcessors .excludedDicos).Perm _
    rw [← notExcluded_eq, ← excluded_eq]
    exact hsplit
  | linux | loader =>
    refine List.Perm.of_eq (List.filter_congr fun i _ => ?_)
    cases c.ptype i <;> rfl

/-- The load summary is about those that are not excluded. -/
lemma loadProcs_eq {k : Kind} (hk : k ≠ .dicos) : c.loadProcs k = c.procsOfKind k := by
  cases k with
  | dicos => exact absurd rfl hk
  | linux | loader =>
    refine List.filter_congr fun i _ => ?_
    cases c.ptype i <;> rfl

/-- The dicos processors are those that are not excluded and the excluded ones. -/
lemma procsOfKind_dicos_perm : (c.procsOfKind .dicos).Perm (c.notExcluded ++ c.excluded) := by
  rw [notExcluded_eq, excluded_eq]
  exact (c.memProcs_perm .dicos).symm

/-- The average over the processors that are not excluded is that of all when the excluded ones agree with
them. -/
lemma average_iff_agree (es : List (Event n)) (value : Load → ℚ) :
    ((c.procsOfKind .dicos).length : ℚ) *
        ((c.loadProcs .dicos).map fun i => mean ((loads es i).map value)).sum =
        (c.loadProcs .dicos).length *
          ((c.procsOfKind .dicos).map fun i => mean ((loads es i).map value)).sum ↔
      c.ExcludedAgree es value := by
  have hlength := c.procsOfKind_dicos_perm.length_eq
  have hsum := (c.procsOfKind_dicos_perm.map fun i => mean ((loads es i).map value)).sum_eq
  rw [List.length_append] at hlength
  rw [List.map_append, List.sum_append] at hsum
  rw [hlength, hsum, ExcludedAgree, ← notExcluded_eq, Nat.cast_add, add_mul, mul_add, add_right_inj]

/-! ## The averages without the excluded processors -/

/-- The average without the excluded processors is the mean of the others when there are some. -/
lemma trueExcl_mem_iff {α : Type*} {readings : Fin n → List α} {value : α → ℚ}
    (hvalue : ∀ r, 0 ≤ value r) {d : ℚ}
    (hread : ∀ i ∈ c.memProcs .dicos, (readings i).length = d ∨ ∀ r ∈ readings i, value r = 0) :
    c.TrueExcl (c.memExcl (fun i => ((readings i).map value).sum) d) readings value ↔
      c.loadProcs .dicos ≠ [] := by
  have hdivisor : (c.nrOfDicos : ℚ) - c.nrOfExcludedDicos = (c.loadProcs .dicos).length := by
    rw [nrOfDicos, nrOfExcludedDicos, Nat.cast_add, add_sub_cancel_right]
    rfl
  have hdicos : ∀ i ∈ c.getProcessors .dicos, decide (c.ptype i ≠ .excludedDicos) = true :=
    fun i hi => by simp [c.ptype_of_mem hi]
  have hexcluded : ∀ i ∈ c.getProcessors .excludedDicos,
      ¬ decide (c.ptype i ≠ .excludedDicos) = true := fun i hi => by simp [c.ptype_of_mem hi]
  have hfilter : ((c.memProcs .dicos).filter fun i => c.ptype i ≠ .excludedDicos) = c.loadProcs .dicos := by
    rw [memProcs, List.filter_append, List.filter_eq_self.mpr hdicos,
      List.filter_eq_nil_iff.mpr hexcluded, List.append_nil]
    rfl
  have haverages : ((c.loadProcs .dicos).map fun i => ((readings i).map value).sum / d) =
      (c.loadProcs .dicos).map fun i => mean ((readings i).map value) := by
    refine List.map_congr_left fun i hi => sum_div_eq_mean ?_
    rw [sum_map_eq_zero_iff hvalue, List.length_map]
    exact hread i (List.mem_append_left _ hi)
  rw [TrueExcl, memExcl, hfilter, hdivisor, haverages, notExcluded_eq, isMean_sum_iff, List.length_map]
  simp

/-- The traffic of the excluded ones of the other processors is zero, which is the mean when there is no
traffic. -/
lemma trueExcl_load_iff (es : List (Event n)) (d : ℚ) :
    c.TrueExcl (c.loadExcl (fun i => ((loads es i).map fun r => (r.tv.toNat : ℚ)).sum) d)
        (loads es) (fun r => r.tv.toNat) ↔
      ((c.loadProcs .dicos).length - c.excludedDicos : ℤ) % 18446744073709551616 ≠ 0 ∧
        ∀ i ∈ c.loadProcs .dicos, ∀ r ∈ loads es i, r.tv = 0 := by
  have hnone : (c.loadProcs .dicos).filter (fun i => c.ptype i ≠ .dicos) = [] :=
    List.filter_eq_nil_iff.mpr fun i hi => by simp [c.ptype_of_mem hi]
  have htv : ∀ r : Load, (0 : ℚ) ≤ r.tv.toNat := fun r => Nat.cast_nonneg _
  rw [TrueExcl, loadExcl, hnone, IsMean, Quotient.value, notExcluded_eq]
  simp only [List.map_nil, List.sum_nil, zero_div, mul_zero, Int.cast_ne_zero]
  rw [eq_comm (a := (0 : ℚ)), sum_map_eq_zero_iff fun i => mean_map_nonneg htv (loads es i)]
  simp only [mean_map_eq_zero_iff htv, toNat_cast_eq_zero_iff]

/-- When there is no traffic without the excluded processors, they agree if they have none. -/
lemma excludedAgree_traffic_iff (es : List (Event n)) (hne : c.loadProcs .dicos ≠ []) :
    ((∀ i ∈ c.loadProcs .dicos, ∀ r ∈ loads es i, r.tv = 0) ∧
        c.ExcludedAgree es fun r => r.tv.toNat) ↔
      ∀ i ∈ c.procsOfKind .dicos, ∀ r ∈ loads es i, r.tv = 0 := by
  have htv : ∀ r : Load, (0 : ℚ) ≤ r.tv.toNat := fun r => Nat.cast_nonneg _
  have hall : (∀ i ∈ c.procsOfKind .dicos, ∀ r ∈ loads es i, r.tv = 0) ↔
      (∀ i ∈ c.notExcluded, ∀ r ∈ loads es i, r.tv = 0) ∧
        ∀ i ∈ c.excluded, ∀ r ∈ loads es i, r.tv = 0 := by
    rw [← List.forall_mem_append]
    exact forall_congr' fun i => imp_congr_left c.procsOfKind_dicos_perm.mem_iff
  have hsum : ∀ l : List (Fin n), (l.map fun i => mean ((loads es i).map fun r => (r.tv.toNat : ℚ))).sum
      = 0 ↔ ∀ i ∈ l, ∀ r ∈ loads es i, r.tv = 0 := by
    intro l
    rw [sum_map_eq_zero_iff fun i => mean_map_nonneg htv (loads es i)]
    simp only [mean_map_eq_zero_iff htv, toNat_cast_eq_zero_iff]
  have hlength : (c.notExcluded.length : ℚ) ≠ 0 := by
    rw [notExcluded_eq]
    exact_mod_cast (List.length_pos_iff.mpr hne).ne'
  rw [hall, ← notExcluded_eq]
  refine and_congr_right fun hnot => ?_
  rw [ExcludedAgree, (hsum _).mpr hnot, mul_zero, zero_eq_mul, or_iff_right hlength]
  exact hsum _

/-! ## The summaries of a kind -/

/-- What the memory summary of a kind needs. -/
lemma memSummary_iff (es : List (Event n)) {k : Kind} (hne : c.memProcs k ≠ [])
    (hpos : 0 < c.memoriesOfKind es k) :
    (∀ m, c.writeMemSummary (c.run es) k = some m →
      m.mem.Means (c.procsOfKind k) (memories es) (fun r => r.mem.toNat) ∧
        m.dbn.Means (c.procsOfKind k) (memories es) (fun r => r.dbn.toNat) ∧
          ∀ q ∈ m.excl, c.TrueExcl q.1 (memories es) (fun r => r.mem.toNat) ∧
            c.TrueExcl q.2 (memories es) (fun r => r.dbn.toNat)) ↔
      (c.memProcs k).length ≤ c.memoriesOfKind es k ∧
        (∀ i ∈ c.memProcs k,
          (memories es i).length = c.memoriesOfKind es k / (c.memProcs k).length ∨
            ∀ r ∈ memories es i, r = ⟨0, 0⟩) ∧
          (k = .dicos → c.loadProcs .dicos ≠ []) := by
  have hbooks := c.books_run es
  have hmem : (fun i => ((c.run es).maver i).1.sum) =
      fun i => ((memories es i).map fun r => (r.mem.toNat : ℚ)).sum := funext fun i => (hbooks.mem i).1
  have hdbn : (fun i => ((c.run es).maver i).2.sum) =
      fun i => ((memories es i).map fun r => (r.dbn.toNat : ℚ)).sum := funext fun i => (hbooks.mem i).2
  have hdivisor : ((c.memoriesOfKind es k / (c.memProcs k).length : ℕ) : ℚ) ≠ 0 ↔
      (c.memProcs k).length ≤ c.memoriesOfKind es k := by
    rw [Nat.cast_ne_zero, ← Nat.pos_iff_ne_zero,
      Nat.div_pos_iff, and_iff_right (List.length_pos_iff.mpr hne)]
  have hzero : ∀ i, (∀ r ∈ memories es i, r = ⟨0, 0⟩) ↔
      (∀ r ∈ memories es i, (r.mem.toNat : ℚ) = 0) ∧ ∀ r ∈ memories es i, (r.dbn.toNat : ℚ) = 0 := by
    intro i
    simp only [toNat_cast_eq_zero_iff, ← forall₂_and]
    refine forall₂_congr fun r _ => ?_
    cases r
    simp
  -- all processors of the kind are printed
  have hall : ∀ f : Fin n → ℚ, ((c.procsOfKind k).length : ℚ) * ((c.memProcs k).map f).sum =
      (c.memProcs k).length * ((c.procsOfKind k).map f).sum := by
    intro f
    rw [(c.memProcs_perm k).length_eq, ((c.memProcs_perm k).map f).sum_eq]
  rw [writeMemSummary, hbooks.memReadings k, if_pos ⟨hpos, hne⟩, hmem, hdbn, memCount_eq]
  simp only [Option.some.injEq, forall_eq']
  rw [means_iff (fun r => Nat.cast_nonneg _) _ hne, means_iff (fun r => Nat.cast_nonneg _) _ hne,
    and_iff_left (hall _), and_iff_left (hall _), hdivisor]
  have hexcl : (∀ i ∈ c.memProcs k, (memories es i).length =
      ((c.memoriesOfKind es k / (c.memProcs k).length : ℕ) : ℚ) ∨
        ∀ r ∈ memories es i, (r.mem.toNat : ℚ) = 0) →
      (∀ i ∈ c.memProcs k, (memories es i).length =
        ((c.memoriesOfKind es k / (c.memProcs k).length : ℕ) : ℚ) ∨
          ∀ r ∈ memories es i, (r.dbn.toNat : ℚ) = 0) →
      ((∀ q ∈ if k = .dicos then
        some (c.memExcl (fun i => ((memories es i).map fun r => (r.mem.toNat : ℚ)).sum)
            (c.memoriesOfKind es k / (c.memProcs k).length : ℕ),
          c.memExcl (fun i => ((memories es i).map fun r => (r.dbn.toNat : ℚ)).sum)
            (c.memoriesOfKind es k / (c.memProcs k).length : ℕ)) else none,
        c.TrueExcl q.1 (memories es) (fun r => r.mem.toNat) ∧
          c.TrueExcl q.2 (memories es) (fun r => r.dbn.toNat)) ↔
        (k = .dicos → c.loadProcs .dicos ≠ [])) := by
    intro h₁ h₂
    by_cases hk : k = .dicos
    · subst hk
      simp [c.trueExcl_mem_iff (fun r => Nat.cast_nonneg _) h₁,
        c.trueExcl_mem_iff (fun r => Nat.cast_nonneg _) h₂]
    · simp [hk]
  constructor
  · rintro ⟨⟨hle, h₁⟩, ⟨-, h₂⟩, h₃⟩
    refine ⟨hle, fun i hi => ?_, (hexcl h₁ h₂).mp h₃⟩
    rw [hzero]
    rcases h₁ i hi with h | h
    · exact .inl (Nat.cast_inj.mp h)
    · exact (h₂ i hi).imp Nat.cast_inj.mp fun h' => ⟨h, h'⟩
  · rintro ⟨hle, h, h₃⟩
    simp only [hzero] at h
    have h₁ := fun i hi => (h i hi).imp (congrArg (Nat.cast (R := ℚ))) And.left
    have h₂ := fun i hi => (h i hi).imp (congrArg (Nat.cast (R := ℚ))) And.right
    exact ⟨⟨hle, h₁⟩, ⟨hle, h₂⟩, (hexcl h₁ h₂).mpr h₃⟩

/-- What the load summary of a kind needs. -/
lemma loadSummary_iff (es : List (Event n)) {k : Kind} (hne : c.loadProcs k ≠ [])
    (hpos : 0 < c.lastReport es k) :
    (∀ l, c.writeLoadSummary (c.run es) k = some l →
      l.system.Means (c.procsOfKind k) (loads es) (fun r => r.sv.toNat) ∧
        l.traffic.Means (c.procsOfKind k) (loads es) (fun r => r.tv.toNat) ∧
          l.oam.Means (c.procsOfKind k) (loads es) (fun r => r.oam.toNat) ∧
            l.total.Means (c.procsOfKind k) (loads es)
                (fun r => r.sv.toNat + r.tv.toNat + r.oam.toNat) ∧
              ∀ q ∈ l.excl, c.TrueExcl q (loads es) (fun r => r.tv.toNat)) ↔
      (∀ i ∈ c.loadProcs k,
        (loads es i).length = c.lastReport es k ∨ ∀ r ∈ loads es i, r = ⟨0, 0, 0⟩) ∧
        (k = .dicos →
          ((c.loadProcs .dicos).length - c.excludedDicos : ℤ) % 18446744073709551616 ≠ 0 ∧
            (∀ i ∈ c.procsOfKind .dicos, ∀ r ∈ loads es i, r.tv = 0) ∧
              c.ExcludedAgree es (fun r => r.sv.toNat) ∧
                c.ExcludedAgree es (fun r => r.oam.toNat)) := by
  have hbooks := c.books_run es
  have hsystem : (fun i => ((c.run es).laver i).1.sum) =
      fun i => ((loads es i).map fun r => (r.sv.toNat : ℚ)).sum := funext fun i => (hbooks.load i).1
  have htraffic : (fun i => ((c.run es).laver i).2.1.sum) =
      fun i => ((loads es i).map fun r => (r.tv.toNat : ℚ)).sum := funext fun i => (hbooks.load i).2.1
  have hoam : (fun i => ((c.run es).laver i).2.2.sum) =
      fun i => ((loads es i).map fun r => (r.oam.toNat : ℚ)).sum := funext fun i => (hbooks.load i).2.2
  have htotal : (fun i => ((c.run es).laver i).1.sum + ((c.run es).laver i).2.1.sum +
      ((c.run es).laver i).2.2.sum) =
        fun i => ((loads es i).map fun r => (r.sv.toNat + r.tv.toNat + r.oam.toNat : ℚ)).sum := by
    funext i
    obtain ⟨h₁, h₂, h₃⟩ := hbooks.load i
    rw [h₁, h₂, h₃, List.sum_map_add, List.sum_map_add]
  have hdivisor : (c.lastReport es k : ℚ) ≠ 0 := by exact_mod_cast hpos.ne'
  have hzero : ∀ i, (∀ r ∈ loads es i, r = ⟨0, 0, 0⟩) ↔
      (∀ r ∈ loads es i, (r.sv.toNat : ℚ) = 0) ∧ (∀ r ∈ loads es i, (r.tv.toNat : ℚ) = 0) ∧
        ∀ r ∈ loads es i, (r.oam.toNat : ℚ) = 0 := by
    intro i
    simp only [toNat_cast_eq_zero_iff, ← forall₂_and]
    refine forall₂_congr fun r _ => ?_
    cases r
    simp
  rw [writeLoadSummary, hbooks.loadReadings k, if_pos ⟨hpos, hne⟩, hsystem, htraffic, hoam, htotal]
  simp only [Option.some.injEq, forall_eq']
  have hsum : ∀ r : Load, (0 : ℚ) ≤ r.sv.toNat + r.tv.toNat + r.oam.toNat := fun r => by positivity
  rw [means_iff (fun r => Nat.cast_nonneg _) _ hne, means_iff (fun r => Nat.cast_nonneg _) _ hne,
    means_iff (fun r => Nat.cast_nonneg _) _ hne, means_iff hsum _ hne]
  simp only [Nat.cast_inj, and_iff_right hdivisor]
  -- the average of the total loads is the sum of the others
  have hall : ∀ {f : Load → ℚ}, k ≠ .dicos → ((c.procsOfKind k).length : ℚ) *
      ((c.loadProcs k).map fun i => mean ((loads es i).map f)).sum =
        (c.loadProcs k).length * ((c.procsOfKind k).map fun i => mean ((loads es i).map f)).sum := by
    intro f hk
    rw [c.loadProcs_eq hk]
  have hadd : ∀ (l : List (Fin n)), (l.map fun i => mean ((loads es i).map
      fun r => (r.sv.toNat + r.tv.toNat + r.oam.toNat : ℚ))).sum =
      (l.map fun i => mean ((loads es i).map fun r => (r.sv.toNat : ℚ))).sum +
        (l.map fun i => mean ((loads es i).map fun r => (r.tv.toNat : ℚ))).sum +
          (l.map fun i => mean ((loads es i).map fun r => (r.oam.toNat : ℚ))).sum := by
    intro l
    simp only [mean_map_add, List.sum_map_add]
  have hrows : (∀ i ∈ c.loadProcs k, (loads es i).length = c.lastReport es k ∨
      ∀ r ∈ loads es i, r = ⟨0, 0, 0⟩) ↔
      (∀ i ∈ c.loadProcs k, (loads es i).length = c.lastReport es k ∨
        ∀ r ∈ loads es i, (r.sv.toNat : ℚ) = 0) ∧
      (∀ i ∈ c.loadProcs k, (loads es i).length = c.lastReport es k ∨
        ∀ r ∈ loads es i, (r.tv.toNat : ℚ) = 0) ∧
      ∀ i ∈ c.loadProcs k, (loads es i).length = c.lastReport es k ∨
        ∀ r ∈ loads es i, (r.oam.toNat : ℚ) = 0 := by
    simp only [hzero, or_and_left, forall_and]
  rw [hrows]
  have hrest : ∀ i, ((loads es i).length = c.lastReport es k ∨
      ∀ r ∈ loads es i, r = ⟨0, 0, 0⟩) → (loads es i).length = c.lastReport es k ∨
        ∀ r ∈ loads es i, (r.sv.toNat + r.tv.toNat + r.oam.toNat : ℚ) = 0 := by
    intro i h
    refine h.imp_right fun h r hr => ?_
    rw [h r hr]
    norm_num
  by_cases hk : k = .dicos
  · subst hk
    simp only [if_true, Option.mem_some_iff, forall_eq', c.trueExcl_load_iff es, forall_true_left,
      c.average_iff_agree]
    rw [← c.excludedAgree_traffic_iff es hne]
    constructor
    · rintro ⟨⟨h₁, a₁⟩, ⟨h₂, a₂⟩, ⟨h₃, a₃⟩, -, hnames, htv⟩
      exact ⟨⟨h₁, h₂, h₃⟩, hnames, ⟨htv, a₂⟩, a₁, a₃⟩
    · rintro ⟨hread, hnames, ⟨htv, a₂⟩, a₁, a₃⟩
      refine ⟨⟨hread.1, a₁⟩, ⟨hread.2.1, a₂⟩, ⟨hread.2.2, a₃⟩,
        ⟨fun i hi => hrest i (hrows.mpr hread i hi), ?_⟩, hnames, htv⟩
      rw [ExcludedAgree] at a₁ a₂ a₃ ⊢
      rw [hadd, hadd, mul_add, mul_add, mul_add, mul_add, a₁, a₂, a₃]
  · simp only [hall hk, and_true, hk, if_false, false_imp_iff, Option.not_mem_none, implies_true]
    exact ⟨fun h => ⟨h.1, h.2.1, h.2.2.1⟩,
      fun h => ⟨h.1, h.2.1, h.2.2, fun i hi => hrest i (hrows.mpr h i hi)⟩⟩

/-- **When the summaries are means.**  Everything that is printed is the mean that it is printed for
exactly when every printed processor has as many readings as the divisor of its kind says, or zeros
only, when leaving the excluded processors out of the load summary makes no difference, and when the
averages without the excluded processors happen to be right. -/
theorem trueSummaries_iff (es : List (Event n)) : c.TrueSummaries es ↔ c.EvenlyRead es := by
  have hbooks := c.books_run es
  have hprintsMem : ∀ {k m}, c.writeMemSummary (c.run es) k = some m →
      c.memProcs k ≠ [] ∧ 0 < c.memoriesOfKind es k := by
    intro k m hm
    rw [writeMemSummary, hbooks.memReadings k] at hm
    split at hm
    · rename_i h
      exact ⟨h.2, h.1⟩
    · cases hm
  have hprintsLoad : ∀ {k l}, c.writeLoadSummary (c.run es) k = some l →
      c.loadProcs k ≠ [] ∧ 0 < c.lastReport es k := by
    intro k l hl
    rw [writeLoadSummary, hbooks.loadReadings k] at hl
    split at hl
    · rename_i h
      exact ⟨h.2, h.1⟩
    · cases hl
  constructor
  · rintro ⟨hmem, hload⟩
    have hmem' := fun k hne hpos => (c.memSummary_iff es (k := k) hne hpos).mp (hmem k)
    have hload' := fun k hne hpos => (c.loadSummary_iff es (k := k) hne hpos).mp (hload k)
    exact
      { enough := fun k hpos hne => (hmem' k hne hpos).1
        mem := fun k hpos i hi => (hmem' k (List.ne_nil_of_mem hi) hpos).2.1 i hi
        oneLeft := fun hpos hne => (hmem' .dicos hne hpos).2.2 rfl
        load := fun k hpos i hi => (hload' k (List.ne_nil_of_mem hi) hpos).1 i hi
        noTraffic := fun hpos hne => ((hload' .dicos hne hpos).2 rfl).2.1
        agree := fun hpos hne => ((hload' .dicos hne hpos).2 rfl).2.2
        names := fun hpos hne => ((hload' .dicos hne hpos).2 rfl).1 }
  · intro h
    refine ⟨fun k m hm => ?_, fun k l hl => ?_⟩
    · obtain ⟨hne, hpos⟩ := hprintsMem hm
      refine (c.memSummary_iff es hne hpos).mpr ⟨h.enough k hpos hne, h.mem k hpos, ?_⟩ m hm
      rintro rfl
      exact h.oneLeft hpos hne
    · obtain ⟨hne, hpos⟩ := hprintsLoad hl
      refine (c.loadSummary_iff es hne hpos).mpr ⟨h.load k hpos, ?_⟩ l hl
      rintro rfl
      exact ⟨h.names hpos hne, h.noTraffic hpos hne, h.agree hpos hne⟩

end Site

end

/-- Two linux processors. -/
def twoLinux : Site 2 where
  ptype _ := .linux
  excludedDicos := 0

attribute [local instance] NamedInstances.neZero_two

/-- A round of memory readings, and another that is ended after the first processor. -/
def cutRound : List (Event 2) :=
  [.memory 0 ⟨10, 0⟩, .memory 1 ⟨10, 0⟩, .memory 0 ⟨10, 0⟩]

/-- The sum of two readings of the first processor is printed as their average. -/
theorem cutRound_not_trueSummaries :
    ((twoLinux.writeMemSummary (twoLinux.run cutRound) .linux).map fun m =>
        m.mem.procs.map fun p => p.2.value) = some [20, 10] ∧
      memories cutRound 0 = [⟨10, 0⟩, ⟨10, 0⟩] ∧ ¬ twoLinux.TrueSummaries cutRound := by
  refine ⟨by decide +kernel, rfl, fun h => ?_⟩
  obtain ⟨⟨hprocs, -⟩, -⟩ := h.mem .linux _ rfl
  have hfirst : IsMean [10, 10] ⟨20, 1⟩ := by
    have hmean := hprocs (0, ⟨20, 1⟩) (by decide +kernel)
    simpa [cutRound, memories] using hmean
  have hvalue := hfirst.2
  norm_num [Quotient.value] at hvalue

end LoadLogger

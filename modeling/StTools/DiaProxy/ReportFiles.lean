import StTools.DiaProxy.ReportControl
import Mathlib.Logic.Function.Basic
import Mathlib.Data.List.Nodup

/-!
# The files of the reports

The report thread looks at the flags of the two reports once a second.  For the latencies it opens a file when
the report has been started, and from then on takes the samples out of the queues of the connections and
writes them; when the report has been stopped, it writes what is left, closes the file and counts the capture.
For the result codes it opens and closes two files in the same way.

A sample is taken from its queue whether there is a file or not: `conserved_iff` says that this is the only way
to lose one.  The names of both kinds of files end in the number of the *latency* captures, so the files of
different latency captures are different (`latencyFiles_nodup`), and `countersFiles_iff` says when those of the
result codes are.
-/

namespace DiaProxy

open LabelledSystem
open ScenarioDeployGenerator (Text)

/-- The name of a file, as far as it may differ: what it begins with, and its number. -/
abbrev FileName := Text × ℕ

/-- Where the report thread is. -/
inductive ReportPlace (σ : Type*) (n : ℕ)
  /-- Before it looks at the flags. -/
  | asleep
  /-- In `save_latency_data`, before it takes the queue of a connection. -/
  | swapping (i : ℕ)
  /-- There, with what it took. -/
  | writing (i : Fin n) (batch : List σ)
  /-- It is done with the latencies. -/
  | counters
  /-- It has exited. -/
  | exited

/-- The report thread of a proxy with `n` connections, and what it shares with the other threads. -/
structure ReportManager (σ : Type*) (n : ℕ) where
  /-- The flags and the file names. -/
  reports : Reports
  /-- `reportData` of the connections. -/
  queues : Fin n → List σ
  /-- All samples that were put there. -/
  recorded : Fin n → List σ
  /-- The samples of a connection that were written to a file. -/
  written : Fin n → List σ
  /-- Where the thread is. -/
  place : ReportPlace σ n
  /-- The samples that it is saving are the last ones of the capture. -/
  stopping : Bool
  /-- `saving_latency_data`. -/
  savingLatency : Bool
  /-- The file could be opened. -/
  latencyOpen : Bool
  /-- `sample_latency_index`. -/
  latencyIndex : ℕ
  /-- The files that it has opened for latencies. -/
  latencyFiles : List FileName
  /-- `saving_DiaErrCounters_data`. -/
  savingCounters : Bool
  /-- `sample_DiaErrCounters_index`. -/
  countersIndex : ℕ
  /-- The files that it has opened for result codes. -/
  countersFiles : List FileName
  /-- What the names of those begin with that were opened since the number has changed. -/
  recent : List Text

/-- What can happen. -/
inductive ReportEvent (σ : Type*) (n : ℕ)
  /-- A remote command. -/
  | command (c : Reports.Command)
  /-- The proxy is told to stop, and stops the reports. -/
  | signal
  /-- A server thread records a sample. -/
  | record (i : Fin n) (x : σ)
  /-- The report thread looks at the latency report, and whether it can create a file. -/
  | pass (ok : Bool)
  /-- It takes the queue of the next connection. -/
  | swap
  /-- It writes a sample. -/
  | write
  /-- It looks at the report of the result codes, and whether it can create the files. -/
  | count (ok : Bool)
  /-- It finds that it has to exit. -/
  | exit

/-- A report is not running any more. -/
def ReportState.halt (r : ReportState) : ReportState := { r with running := false }

/-- A report whose file cannot be created. -/
def ReportState.giveUp (r : ReportState) : ReportState := { r with running := false, enabled := false }

namespace ReportManager

variable {σ : Type*} {n : ℕ}

/-- The thread looks at the latency report. -/
def pass (s : ReportManager σ n) (ok : Bool) : ReportManager σ n :=
  if s.reports.latency.enabled then
    if s.reports.latency.running then
      if s.savingLatency then { s with place := .swapping 0, stopping := false }
      else
        { s with
          reports := if ok then s.reports else { s.reports with latency := s.reports.latency.giveUp }
          place := .swapping 0
          stopping := false
          savingLatency := true
          latencyOpen := ok
          latencyFiles := s.latencyFiles ++ [(s.reports.latency.file, s.latencyIndex)] }
    else if s.savingLatency then { s with place := .swapping 0, stopping := true }
    else { s with place := .counters }
  else { s with place := .counters }

/-- The thread has saved the latencies; with the last ones of a capture it closes the file. -/
def saved (s : ReportManager σ n) : ReportManager σ n :=
  if s.stopping then
    { s with
      place := .counters
      savingLatency := false
      latencyOpen := false
      latencyIndex := s.latencyIndex + 1
      recent := [] }
  else { s with place := .counters }

/-- The thread takes the queue of a connection, or there are no more connections. -/
def swap (s : ReportManager σ n) (i : ℕ) : ReportManager σ n :=
  if h : i < n then
    { s with queues := Function.update s.queues ⟨i, h⟩ [], place := .writing ⟨i, h⟩ (s.queues ⟨i, h⟩) }
  else s.saved

/-- The thread writes a sample, or is done with a connection. -/
def write (s : ReportManager σ n) (i : Fin n) : List σ → ReportManager σ n
  | [] => { s with place := .swapping (i + 1) }
  | x :: batch =>
    { s with
      written := if s.latencyOpen then Function.update s.written i (s.written i ++ [x]) else s.written
      place := .writing i batch }

/-- The thread opens the files for the result codes. -/
def OpensCounters (s : ReportManager σ n) : Prop :=
  s.reports.resultCodes.enabled = true ∧ s.reports.resultCodes.running = true ∧
    s.savingCounters = false

instance (s : ReportManager σ n) : Decidable s.OpensCounters := inferInstanceAs (Decidable (_ ∧ _))

/-- The thread looks at the report of the result codes.  The names have the number of the latency
captures. -/
def count (s : ReportManager σ n) (ok : Bool) : ReportManager σ n :=
  if s.OpensCounters then
    { s with
      reports := if ok then s.reports else { s.reports with resultCodes := s.reports.resultCodes.giveUp }
      place := .asleep
      savingCounters := true
      countersFiles := s.countersFiles ++ [(s.reports.resultCodes.file, s.latencyIndex)]
      recent := s.reports.resultCodes.file :: s.recent }
  else if s.reports.resultCodes.enabled ∧ ¬ s.reports.resultCodes.running ∧ s.savingCounters then
    { s with place := .asleep, savingCounters := false, countersIndex := s.countersIndex + 1 }
  else { s with place := .asleep }

/-- One step. -/
def step (s : ReportManager σ n) : ReportEvent σ n → Option (ReportManager σ n)
  | .command c => some { s with reports := (s.reports.run c).1 }
  | .signal =>
    some { s with reports := ⟨s.reports.latency.halt, s.reports.resultCodes.halt⟩ }
  | .record i x =>
    some { s with
      queues := Function.update s.queues i (s.queues i ++ [x])
      recorded := Function.update s.recorded i (s.recorded i ++ [x]) }
  | .pass ok =>
    match s.place with
    | .asleep => some (s.pass ok)
    | _ => none
  | .swap =>
    match s.place with
    | .swapping i => some (s.swap i)
    | _ => none
  | .write =>
    match s.place with
    | .writing i batch => some (s.write i batch)
    | _ => none
  | .count ok =>
    match s.place with
    | .counters => some (s.count ok)
    | _ => none
  | .exit =>
    match s.place with
    | .asleep => some { s with place := .exited }
    | _ => none

/-- The proxy at its start. -/
def start : ReportManager σ n where
  reports := Reports.init
  queues _ := []
  recorded _ := []
  written _ := []
  place := .asleep
  stopping := false
  savingLatency := false
  latencyOpen := false
  latencyIndex := 0
  latencyFiles := []
  savingCounters := false
  countersIndex := 0
  countersFiles := []
  recent := []

/-! ## Samples -/

/-- What the thread has taken from a connection and not yet written. -/
def batch (s : ReportManager σ n) (i : Fin n) : List σ :=
  match s.place with
  | .writing j batch => if j = i then batch else []
  | _ => []

/-- Every sample is written once, in order, or waits. -/
def Conserved (s : ReportManager σ n) : Prop :=
  ∀ i, s.recorded i = s.written i ++ s.batch i ++ s.queues i

/-- A sample is only written when there is a file. -/
def HasFile (s : ReportManager σ n) : ReportEvent σ n → Prop
  | .write => ∀ i x rest, s.place = .writing i (x :: rest) → s.latencyOpen = true
  | _ => True

variable {s s' : ReportManager σ n}

/-- Nothing was taken that is not written, unless the thread is writing. -/
lemma batch_of_place (h : ∀ i batch, s.place ≠ .writing i batch) (i : Fin n) : s.batch i = [] := by
  unfold batch
  split
  · next j batch hplace => exact absurd hplace (h j batch)
  · rfl

/-- What the thread is writing. -/
lemma batch_of_writing {i j : Fin n} {l : List σ} (h : s.place = .writing i l) :
    s.batch j = if i = j then l else [] := by
  rw [batch, h]

/-- Samples are not touched. -/
lemma Conserved.of_eq (h : s.Conserved) (hrecorded : s'.recorded = s.recorded)
    (hwritten : s'.written = s.written) (hqueues : s'.queues = s.queues)
    (hbatch : ∀ i, s'.batch i = s.batch i) : s'.Conserved := by
  intro i
  rw [hrecorded, hwritten, hqueues, hbatch]
  exact h i

/-- The thread goes from one place to another without touching a sample. -/
lemma Conserved.of_place (h : s.Conserved) (hrecorded : s'.recorded = s.recorded)
    (hwritten : s'.written = s.written) (hqueues : s'.queues = s.queues)
    (hplace : ∀ i batch, s.place ≠ .writing i batch)
    (hplace' : ∀ i batch, s'.place ≠ .writing i batch) : s'.Conserved :=
  h.of_eq hrecorded hwritten hqueues fun i => by
    rw [batch_of_place hplace, batch_of_place hplace']

/-- The thread looks at the latency report. -/
lemma Conserved.pass (h : s.Conserved) (hplace : s.place = .asleep) (ok : Bool) :
    (s.pass ok).Conserved := by
  have hold : ∀ i batch, s.place ≠ .writing i batch := by simp [hplace]
  unfold ReportManager.pass
  split_ifs <;> exact h.of_place rfl rfl rfl hold (by simp)

/-- It looks at the other one. -/
lemma Conserved.count (h : s.Conserved) (hplace : s.place = .counters) (ok : Bool) :
    (s.count ok).Conserved := by
  have hold : ∀ i batch, s.place ≠ .writing i batch := by simp [hplace]
  unfold ReportManager.count
  split_ifs <;> exact h.of_place rfl rfl rfl hold (by simp)

/-- It takes the queue of a connection. -/
lemma Conserved.swap {i : ℕ} (h : s.Conserved) (hplace : s.place = .swapping i) :
    (s.swap i).Conserved := by
  have hold : ∀ i batch, s.place ≠ .writing i batch := by simp [hplace]
  unfold ReportManager.swap saved
  split_ifs with hi
  · intro j
    have hj := h j
    rw [batch_of_place hold, List.append_nil] at hj
    rw [batch_of_writing rfl]
    dsimp only
    by_cases hij : j = ⟨i, hi⟩
    · rw [if_pos hij.symm, hj, hij, Function.update_self, List.append_nil]
    · rw [if_neg (Ne.symm hij), Function.update_of_ne hij, List.append_nil]
      exact hj
  · exact h.of_place rfl rfl rfl hold (by simp)
  · exact h.of_place rfl rfl rfl hold (by simp)

/-- It is done with a connection, or writes a sample to a file. -/
lemma Conserved.write {i : Fin n} {l : List σ} (h : s.Conserved) (hplace : s.place = .writing i l)
    (hfile : ∀ x rest, l = x :: rest → s.latencyOpen = true) : (s.write i l).Conserved := by
  cases l with
  | nil =>
    refine h.of_eq rfl rfl rfl fun j => ?_
    rw [batch_of_writing hplace, ite_self]
    exact batch_of_place (by simp [ReportManager.write]) j
  | cons x rest =>
    intro j
    have hj := h j
    rw [batch_of_writing hplace] at hj
    rw [ReportManager.write, if_pos (hfile x rest rfl), batch_of_writing rfl]
    dsimp only
    by_cases hij : j = i
    · rw [if_pos hij.symm] at hj ⊢
      rw [hj, hij, Function.update_self, List.append_assoc, List.append_assoc, List.append_assoc]
      rfl
    · rw [if_neg (Ne.symm hij)] at hj ⊢
      rw [Function.update_of_ne hij]
      exact hj

/-- **Step lemma.**  No sample is lost in a step, unless it is taken without a file. -/
lemma Conserved.step {e : ReportEvent σ n} (h : s.Conserved) (hfile : s.HasFile e)
    (hstep : s.step e = some s') : s'.Conserved := by
  cases e with
  | command c =>
    cases hstep
    exact h
  | signal =>
    cases hstep
    exact h
  | record i x =>
    cases hstep
    intro j
    by_cases hj : j = i
    · subst hj
      dsimp only
      rw [Function.update_self, Function.update_self, ← List.append_assoc, h j]
      rfl
    · dsimp only
      rw [Function.update_of_ne hj, Function.update_of_ne hj]
      exact h j
  | pass ok =>
    rw [ReportManager.step] at hstep
    split at hstep <;> cases hstep
    exact h.pass ‹_› ok
  | swap =>
    rw [ReportManager.step] at hstep
    split at hstep <;> cases hstep
    exact h.swap ‹_›
  | write =>
    rw [ReportManager.step] at hstep
    split at hstep <;> cases hstep
    rename_i i l hplace
    exact h.write hplace fun x rest hl => hfile i x rest (hl ▸ hplace)
  | count ok =>
    rw [ReportManager.step] at hstep
    split at hstep <;> cases hstep
    exact h.count ‹_› ok
  | exit =>
    rw [ReportManager.step] at hstep
    split at hstep <;> cases hstep
    rename_i hplace
    exact h.of_place rfl rfl rfl (by simp [hplace]) (by simp)

/-- A sample that is written without a file is lost. -/
lemma not_conserved_of_not_hasFile {e : ReportEvent σ n} (h : s.Conserved) (hfile : ¬ s.HasFile e)
    (hstep : s.step e = some s') : ¬ s'.Conserved := by
  intro hafter
  cases e with
  | write =>
    simp only [HasFile, not_forall] at hfile
    obtain ⟨i, x, rest, hplace, hopen⟩ := hfile
    rw [step, hplace] at hstep
    cases hstep
    have hold := h i
    have hnew := hafter i
    rw [batch_of_writing hplace, if_pos rfl] at hold
    rw [write, if_neg hopen, batch_of_writing rfl, if_pos rfl] at hnew
    have hlen := congrArg List.length (hold.symm.trans hnew)
    simp only [List.length_append, List.length_cons] at hlen
    omega
  | _ => exact hfile trivial

/-- In the beginning there are no samples. -/
lemma conserved_start : (start : ReportManager σ n).Conserved := fun _ => rfl

/-- **No sample is lost.**  Throughout a run every sample that a server thread records is written once, in
the order of its connection, or waits to be written, exactly when the report thread takes samples only while
it has a file.  It goes on taking them when the file could not be created. -/
theorem conserved_iff (es : List (ReportEvent σ n)) :
    Throughout step Conserved (start : ReportManager σ n) es ↔
      Along step HasFile (start : ReportManager σ n) es :=
  throughout_iff_along (I := fun s : ReportManager σ n => s.Conserved)
    (fun _ _ _ h hfile hstep => h.step hfile hstep) (fun _ h => h)
    (fun _ _ _ h hfile hstep => not_conserved_of_not_hasFile h hfile hstep) conserved_start

/-! ## File names -/

/-- What the numbers of the files say. -/
structure Numbered (s : ReportManager σ n) : Prop where
  /-- The file of a capture that is over has a smaller number. -/
  latency : ∀ f ∈ s.latencyFiles,
    f.2 < s.latencyIndex ∨ (f.2 = s.latencyIndex ∧ s.savingLatency = true)
  /-- No two latency captures have the same file. -/
  nodup : s.latencyFiles.Nodup
  /-- The files for result codes have such numbers too. -/
  counters : ∀ f ∈ s.countersFiles, f.2 ≤ s.latencyIndex
  /-- Those with the present number. -/
  recent : ∀ t, (t, s.latencyIndex) ∈ s.countersFiles ↔ t ∈ s.recent

/-- The files of different captures of result codes are different. -/
def CountersKept (s : ReportManager σ n) : Prop := s.countersFiles.Nodup

/-- When files for result codes are opened, their name was not used since the last latency capture. -/
def FreshName (s : ReportManager σ n) : ReportEvent σ n → Prop
  | .count _ => s.place = .counters → s.OpensCounters → s.reports.resultCodes.file ∉ s.recent
  | _ => True

/-- A step that opens no file and ends no capture. -/
lemma Numbered.of_eq (h : s.Numbered) (hlatency : s'.latencyFiles = s.latencyFiles)
    (hindex : s'.latencyIndex = s.latencyIndex) (hsaving : s'.savingLatency = s.savingLatency)
    (hcounters : s'.countersFiles = s.countersFiles) (hrecent : s'.recent = s.recent) :
    s'.Numbered := by
  constructor
  · rw [hlatency, hindex, hsaving]
    exact h.latency
  · rw [hlatency]
    exact h.nodup
  · rw [hcounters, hindex]
    exact h.counters
  · rw [hcounters, hindex, hrecent]
    exact h.recent

/-- A file for latencies is opened: all files so far are of captures that are over. -/
lemma Numbered.openLatency {t : Text} (h : s.Numbered) (hsaving : ¬ s.savingLatency = true)
    (hlatency : s'.latencyFiles = s.latencyFiles ++ [(t, s.latencyIndex)])
    (hindex : s'.latencyIndex = s.latencyIndex) (hsaving' : s'.savingLatency = true)
    (hcounters : s'.countersFiles = s.countersFiles) (hrecent : s'.recent = s.recent) :
    s'.Numbered := by
  have hlt : ∀ f ∈ s.latencyFiles, f.2 < s.latencyIndex :=
    fun f hf => (h.latency f hf).resolve_right fun hnow => hsaving hnow.2
  constructor
  · intro f hf
    rw [hlatency] at hf
    rw [hindex, hsaving']
    rcases List.mem_append.mp hf with hf | hf
    · exact Or.inl (hlt f hf)
    · rw [List.mem_singleton] at hf
      exact Or.inr ⟨by rw [hf], rfl⟩
  · rw [hlatency]
    refine List.nodup_append.mpr ⟨h.nodup, List.nodup_singleton _, fun f hf g hg hfg => ?_⟩
    rw [List.mem_singleton] at hg
    have hnum := hlt f hf
    rw [hfg, hg] at hnum
    exact Nat.lt_irrefl _ hnum
  · rw [hcounters, hindex]
    exact h.counters
  · rw [hcounters, hindex, hrecent]
    exact h.recent

/-- The thread may open a file for latencies. -/
lemma Numbered.pass (h : s.Numbered) (ok : Bool) : (s.pass ok).Numbered := by
  unfold ReportManager.pass
  split_ifs with henabled hrunning hsaving
  · exact h.of_eq rfl rfl rfl rfl rfl
  · exact h.openLatency hsaving rfl rfl rfl rfl rfl
  · exact h.openLatency hsaving rfl rfl rfl rfl rfl
  · exact h.of_eq rfl rfl rfl rfl rfl
  · exact h.of_eq rfl rfl rfl rfl rfl
  · exact h.of_eq rfl rfl rfl rfl rfl

/-- The thread may end a capture. -/
lemma Numbered.swap (h : s.Numbered) (i : ℕ) : (s.swap i).Numbered := by
  unfold ReportManager.swap saved
  split_ifs
  · exact h.of_eq rfl rfl rfl rfl rfl
  · have hlt : ∀ f ∈ s.countersFiles, f.2 < s.latencyIndex + 1 :=
      fun f hf => Nat.lt_succ_of_le (h.counters f hf)
    constructor
    · intro f hf
      rcases h.latency f hf with hf | ⟨hf, -⟩
      · exact Or.inl (Nat.lt_succ_of_lt hf)
      · exact Or.inl (Nat.lt_succ_of_le (Nat.le_of_eq hf))
    · exact h.nodup
    · exact fun f hf => Nat.le_of_lt (hlt f hf)
    · intro t
      constructor
      · exact fun ht => absurd (hlt _ ht) (Nat.lt_irrefl _)
      · exact fun ht => absurd ht List.not_mem_nil
  · exact h.of_eq rfl rfl rfl rfl rfl

/-- Files for result codes are opened. -/
lemma Numbered.openCounters {t : Text} (h : s.Numbered)
    (hlatency : s'.latencyFiles = s.latencyFiles) (hindex : s'.latencyIndex = s.latencyIndex)
    (hsaving : s'.savingLatency = s.savingLatency)
    (hcounters : s'.countersFiles = s.countersFiles ++ [(t, s.latencyIndex)])
    (hrecent : s'.recent = t :: s.recent) : s'.Numbered := by
  constructor
  · rw [hlatency, hindex, hsaving]
    exact h.latency
  · rw [hlatency]
    exact h.nodup
  · intro f hf
    rw [hcounters] at hf
    rw [hindex]
    rcases List.mem_append.mp hf with hf | hf
    · exact h.counters f hf
    · rw [List.mem_singleton] at hf
      rw [hf]
  · intro t'
    rw [hcounters, hrecent, hindex, List.mem_append, h.recent, List.mem_singleton, List.mem_cons,
      Prod.mk.injEq, and_iff_left rfl]
    exact or_comm

/-- The thread may open files for result codes. -/
lemma Numbered.count (h : s.Numbered) (ok : Bool) : (s.count ok).Numbered := by
  unfold ReportManager.count
  split_ifs
  · exact h.openCounters rfl rfl rfl rfl rfl
  · exact h.openCounters rfl rfl rfl rfl rfl
  · exact h.of_eq rfl rfl rfl rfl rfl
  · exact h.of_eq rfl rfl rfl rfl rfl

/-- **Step lemma.**  The numbers of the files. -/
lemma Numbered.step {e : ReportEvent σ n} (h : s.Numbered) (hstep : s.step e = some s') :
    s'.Numbered := by
  cases e with
  | command c => cases hstep; exact h.of_eq rfl rfl rfl rfl rfl
  | signal => cases hstep; exact h.of_eq rfl rfl rfl rfl rfl
  | record i x => cases hstep; exact h.of_eq rfl rfl rfl rfl rfl
  | pass ok =>
    rw [ReportManager.step] at hstep
    split at hstep <;> cases hstep
    exact h.pass ok
  | swap =>
    rw [ReportManager.step] at hstep
    split at hstep <;> cases hstep
    exact h.swap _
  | write =>
    rw [ReportManager.step] at hstep
    split at hstep <;> cases hstep
    rename_i i l hplace
    cases l with
    | nil => exact h.of_eq rfl rfl rfl rfl rfl
    | cons x rest => exact h.of_eq rfl rfl rfl rfl rfl
  | count ok =>
    rw [ReportManager.step] at hstep
    split at hstep <;> cases hstep
    exact h.count ok
  | exit =>
    rw [ReportManager.step] at hstep
    split at hstep <;> cases hstep
    exact h.of_eq rfl rfl rfl rfl rfl

/-- Files for result codes are only opened when the thread looks at their report. -/
lemma countersFiles_of_step {e : ReportEvent σ n} (hstep : s.step e = some s') :
    s'.countersFiles = s.countersFiles ∨
      s.place = .counters ∧ s.OpensCounters ∧ (∃ ok, e = .count ok) ∧
        s'.countersFiles = s.countersFiles ++ [(s.reports.resultCodes.file, s.latencyIndex)] := by
  cases e with
  | command c => cases hstep; exact Or.inl rfl
  | signal => cases hstep; exact Or.inl rfl
  | record i x => cases hstep; exact Or.inl rfl
  | pass ok =>
    rw [step] at hstep
    split at hstep <;> cases hstep
    refine Or.inl ?_
    unfold pass
    split_ifs <;> rfl
  | swap =>
    rw [step] at hstep
    split at hstep <;> cases hstep
    refine Or.inl ?_
    unfold swap saved
    split_ifs <;> rfl
  | write =>
    rw [step] at hstep
    split at hstep <;> cases hstep
    rename_i i l hplace
    cases l <;> exact Or.inl rfl
  | count ok =>
    rw [step] at hstep
    split at hstep <;> cases hstep
    rename_i hplace
    unfold count
    split_ifs with hopens
    · exact Or.inr ⟨hplace, hopens, ⟨ok, rfl⟩, rfl⟩
    · exact Or.inr ⟨hplace, hopens, ⟨ok, rfl⟩, rfl⟩
    · exact Or.inl rfl
    · exact Or.inl rfl
  | exit =>
    rw [step] at hstep
    split at hstep <;> cases hstep
    exact Or.inl rfl

/-- A new name keeps the files apart. -/
lemma CountersKept.step {e : ReportEvent σ n} (h : s.CountersKept) (hnum : s.Numbered)
    (hfresh : s.FreshName e) (hstep : s.step e = some s') : s'.CountersKept := by
  rw [CountersKept]
  rcases countersFiles_of_step hstep with hfiles | ⟨hplace, hopens, ⟨ok, rfl⟩, hfiles⟩
  · rw [hfiles]
    exact h
  · rw [hfiles]
    refine List.nodup_append.mpr ⟨h, List.nodup_singleton _, fun f hf g hg hfg => ?_⟩
    rw [List.mem_singleton] at hg
    rw [hfg, hg] at hf
    exact hfresh hplace hopens ((hnum.recent _).mp hf)

/-- A name that was used since the last latency capture is the name of a file already. -/
lemma not_countersKept_of_not_freshName {e : ReportEvent σ n} (hnum : s.Numbered)
    (hfresh : ¬ s.FreshName e) (hstep : s.step e = some s') : ¬ s'.CountersKept := by
  cases e with
  | count ok =>
    simp only [FreshName, not_forall, not_not] at hfresh
    obtain ⟨hplace, hopens, hrecent⟩ := hfresh
    rw [step, hplace] at hstep
    cases hstep
    rw [CountersKept, count, if_pos hopens]
    intro hnodup
    have hmem := (hnum.recent _).mpr hrecent
    exact (List.nodup_append.mp hnodup).2.2 _ hmem _ (List.mem_singleton_self _) rfl
  | _ => exact absurd trivial hfresh

/-- There are no files in the beginning. -/
lemma numbered_start : (start : ReportManager σ n).Numbered where
  latency _ hf := by cases hf
  nodup := List.nodup_nil
  counters _ hf := by cases hf
  recent _ := ⟨fun h => absurd h List.not_mem_nil, fun h => absurd h List.not_mem_nil⟩

/-- **Latency captures keep their files.**  Whatever the commands are, and also when the report is given other
file names in between, no file of a latency capture is opened for another one. -/
theorem latencyFiles_nodup (es : List (ReportEvent σ n)) :
    Throughout step (fun s : ReportManager σ n => s.latencyFiles.Nodup) start es :=
  throughout_of_along (I := Numbered) (C := fun _ _ => True) (fun _ _ _ h _ hstep => h.step hstep)
    (fun _ h => h.nodup) numbered_start (along_of_forall fun _ _ _ => trivial)

/-- **Captures of result codes overwrite each other.**  The files of different captures of result codes are
different throughout a run exactly when, whenever such files are opened, a latency capture has ended since
the last time that they were opened under this name.  Their own number, `sample_DiaErrCounters_index`, is
counted and not used. -/
theorem countersFiles_iff (es : List (ReportEvent σ n)) :
    Throughout step CountersKept (start : ReportManager σ n) es ↔
      Along step FreshName (start : ReportManager σ n) es :=
  throughout_iff_along (I := fun s : ReportManager σ n => s.Numbered ∧ s.CountersKept)
    (fun _ _ _ h hfresh hstep => ⟨h.1.step hstep, h.2.step h.1 hfresh hstep⟩) (fun _ h => h.2)
    (fun _ _ _ h hfresh hstep => not_countersKept_of_not_freshName h.1 hfresh hstep)
    ⟨numbered_start, List.nodup_nil⟩

end ReportManager

end DiaProxy

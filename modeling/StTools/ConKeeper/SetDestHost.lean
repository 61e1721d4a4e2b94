import StTools.ConKeeper.Reset
import StTools.Lib.Words
import StTools.ScenarioDeployGenerator.Text
import Mathlib.Data.List.Forall2

/-!
# The command `setdesthost`

The words behind `setdesthost` are a type, a host, a port and perhaps another host.  They are read with
`>>`, and nothing looks at the state of the stream afterwards: without a port the port is 0, and the second
host is not read.  A name that cannot be resolved stands for `0.0.0.0`.  The type `ALL` is looked for as
`NONE`, which no listener has, and with the host `0.0.0.0` the loop over the listeners is left at the first
one.  The addresses are copied into arrays of 20 bytes.

`doesWhatItAnswers_iff` says for which commands the listeners are then as the answer promises.
-/

namespace ConKeeper

open ScenarioDeployGenerator (Text isSpace toUpper leadingDigits)
open Words (words readWord)

/-! ## The words of a command -/

/-- A decimal number behind a sign. -/
def signed : Text → ℤ × Text
  | '-' :: cs => (-1, cs)
  | '+' :: cs => (1, cs)
  | cs => (1, cs)

/-- An `int`. -/
def IsInt (v : ℤ) : Prop := -2147483648 ≤ v ∧ v ≤ 2147483647

instance : DecidablePred IsInt := fun v => inferInstanceAs (Decidable (-2147483648 ≤ v ∧ v ≤ 2147483647))

/-- Read an `int` with `>>`: the value, and what is left of the text unless the stream fails. -/
def readInt (t : Text) : ℤ × Option Text :=
  let (sign, cs) := signed (t.dropWhile isSpace)
  let value := sign * leadingDigits cs
  if cs.takeWhile Char.isDigit = [] then (0, none)
  else if IsInt value then (value, some (cs.dropWhile Char.isDigit))
  else (if sign < 0 then -2147483648 else 2147483647, none)

/-- What `setdesthost` reads. -/
structure SetDestHostParams where
  type : Text
  primaryHostname : Text
  port : ℤ
  secondaryHostname : Text
  deriving Repr, DecidableEq

/-- `ss >> type >> primary_hostname >> port >> secondary_hostname`. -/
def readParams (ss : Text) : SetDestHostParams :=
  match readWord isSpace ss with
  | none => ⟨[], [], 0, []⟩
  | some (type, ss) =>
    match readWord isSpace ss with
    | none => ⟨type, [], 0, []⟩
    | some (primaryHostname, ss) =>
      match readInt ss with
      | (port, none) => ⟨type, primaryHostname, port, []⟩
      | (port, some ss) =>
        match readWord isSpace ss with
        | none => ⟨type, primaryHostname, port, []⟩
        | some (secondaryHostname, _) => ⟨type, primaryHostname, port, secondaryHostname⟩

/-! ## The command -/

/-- What `gethostbyname` and `inet_ntoa` say about names. -/
structure Resolver where
  /-- The first address of a name. -/
  lookup : Text → Option Text
  /-- An address is not empty. -/
  ne_nil : ∀ host ip, lookup host = some ip → ip ≠ []

/-- `getIpByHostname`. -/
def getIpByHostname (dns : Resolver) (host : Text) : Text :=
  if '.' ∈ host then host
  else
    match dns.lookup host with
    | none => "0.0.0.0".toList
    | some ip => ip

/-- `HeartBeat`, without its socket. -/
structure HeartBeat where
  port : ℤ
  primaryIpHost : Text
  secondaryIpHost : Text
  deriving Repr, DecidableEq

/-- What `setdesthost` can change. -/
structure Destinations where
  /-- `v_listeners`, with the threads. -/
  slots : List ListenerSlot
  /-- Listeners are added with one of the three types. -/
  typed : ∀ slot ∈ slots, slot.listener.type ≠ .none
  /-- `heartBeatData`. -/
  heartBeat : HeartBeat
  /-- `dataTool.redundancy`. -/
  redundancy : Bool

/-- The types of listeners do not change. -/
lemma DestHost.typed_apply (d : DestHost) {slots : List ListenerSlot}
    (h : ∀ slot ∈ slots, slot.listener.type ≠ .none) :
    ∀ slot ∈ d.apply slots, slot.listener.type ≠ .none := by
  induction slots with
  | nil => exact h
  | cons first rest ih =>
    obtain ⟨hfirst, hrest⟩ := List.forall_mem_cons.mp h
    unfold DestHost.apply
    split_ifs
    · exact List.forall_mem_cons.mpr ⟨hfirst, hrest⟩
    · exact List.forall_mem_cons.mpr ⟨hfirst, ih hrest⟩
    · exact List.forall_mem_cons.mpr ⟨hfirst, ih hrest⟩

/-- The numbers of bytes that are copied into the arrays of a listener and of the heartbeat. -/
def DestHost.copies (d : DestHost) : List ℕ :=
  (d.primaryIp.length + 1) ::
    if d.secondaryIp = [] then []
    else (d.secondaryIp.length + 1) ::
      if d.type = .diameter then [d.secondaryIp.length + 1, d.primaryIp.length + 1] else []

/-- The loop over the listeners. -/
def Destinations.configure (s : Destinations) (d : DestHost) : Destinations where
  slots := d.apply s.slots
  typed := d.typed_apply s.typed
  heartBeat :=
    if (∃ slot ∈ s.slots, d.Matches slot.listener) ∧ d.notUsed = false ∧ d.secondaryIp ≠ [] ∧
        d.type = .diameter then ⟨d.port, d.primaryIp, d.secondaryIp⟩
    else s.heartBeat
  redundancy :=
    if (∃ slot ∈ s.slots, d.Matches slot.listener) ∧ d.notUsed = false ∧ d.secondaryIp ≠ [] ∧
        d.type = .diameter then true
    else s.redundancy

/-- An answer, with what has become of the listeners. -/
structure SetDestHostReply where
  answer : Text
  state : Destinations
  /-- Ghost: the numbers of bytes that were copied into arrays of 20 bytes. -/
  copies : List ℕ

/-- The type that is looked for. -/
def searchedType (type : Text) : Option ConnectionType :=
  if type = "LOAD".toList then some .load
  else if type = "DIAMETER".toList then some .diameter
  else if type = "LDAP".toList then some .ldap
  else if type = "ALL".toList then some .none
  else none

/-- `setdesthost`. -/
def setdesthost (dns : Resolver) (ss : Text) (s : Destinations) : SetDestHostReply :=
  let p := readParams ss
  let type := toUpper p.type
  let notUsed := decide (p.primaryHostname = notUsedHost)
  let primaryIp := if notUsed then [] else getIpByHostname dns p.primaryHostname
  let secondaryIp :=
    if notUsed ∨ p.secondaryHostname = [] then [] else getIpByHostname dns p.secondaryHostname
  if ¬ notUsed ∧ primaryIp = [] then
    ⟨"COMMAND FAILED: Destination ".toList ++ p.primaryHostname ++ " not valid".toList, s, []⟩
  else if ¬ notUsed ∧ p.secondaryHostname ≠ [] ∧ secondaryIp = [] then
    ⟨"COMMAND FAILED: Destination ".toList ++ p.secondaryHostname ++ " not valid".toList, s, []⟩
  else
    match searchedType type with
    | none => ⟨"COMMAND FAILED: Type ".toList ++ type ++ " not valid".toList, s, []⟩
    | some searchedType =>
      let d : DestHost := ⟨searchedType, p.port, notUsed, primaryIp, secondaryIp⟩
      ⟨"OK".toList, s.configure d, s.slots.flatMap fun slot =>
        if d.Matches slot.listener ∧ ¬ notUsed then d.copies else []⟩

/-! ## What the answers promise -/

/-- A bounded quantifier is decided by looking at the characters of the text, not at all characters. -/
local instance (priority := high) decidableForallMem (p : Char → Prop) [DecidablePred p] (t : Text) :
    Decidable (∀ c ∈ t, p c) :=
  List.decidableBAll p t

/-- The number that a word is. -/
def number? (w : Text) : Option ℤ :=
  let (sign, ds) := signed w
  if ds ≠ [] ∧ (∀ c ∈ ds, c.isDigit = true) ∧ IsInt (sign * leadingDigits ds) then
    some (sign * leadingDigits ds)
  else none

/-- The address that a host stands for. -/
def address (dns : Resolver) (host : Text) : Option Text :=
  if '.' ∈ host then some host else dns.lookup host

/-- The command is for listeners of any type. -/
def ForAll (ss : Text) : Prop := ∃ type ∈ (words isSpace ss).head?, toUpper type = "ALL".toList

/-- The command is for the listener, which is to be configured. -/
def Addressed (ss : Text) (l : Listener) : Prop :=
  (ForAll ss ∨ ∃ type ∈ (words isSpace ss).head?, searchedType (toUpper type) = some l.type) ∧
    l.status = .toBeConfigured

/-- The listener is as a command with these words wants it. -/
def Configured (dns : Resolver) (l : Listener) : List Text → Prop
  | _ :: primary :: rest =>
    if primary = notUsedHost then l.status = .notUsed
    else
      match rest with
      | [] => False
      | port :: rest =>
        number? port = some l.port ∧ address dns primary = some l.primaryIpHost ∧
          ∀ secondary ∈ rest.head?, address dns secondary = some l.secondaryIpHost
  | _ => False

/-- The command does what it answers. -/
structure DoesWhatItAnswers (dns : Resolver) (ss : Text) (s : Destinations) : Prop where
  /-- If it says so, the listeners are as the command wants them. -/
  ok : (setdesthost dns ss s).answer = "OK".toList →
    List.Forall₂ (fun slot slot' => Addressed ss slot.listener →
      Configured dns slot'.listener (words isSpace ss)) s.slots (setdesthost dns ss s).state.slots
  /-- If it fails, nothing has changed. -/
  failed : "COMMAND FAILED".toList <+: (setdesthost dns ss s).answer → (setdesthost dns ss s).state = s
  /-- Nothing was written outside the arrays. -/
  inside : ∀ n ∈ (setdesthost dns ss s).copies, n ≤ 20

/-- The host has an address, for which the arrays have room. -/
def HasAddress (dns : Resolver) (host : Text) : Prop := ∃ ip ∈ address dns host, ip.length < 20

/-- A command with these words can be executed for so many listeners. -/
def Executable (dns : Resolver) (n : ℕ) : List Text → Prop
  | _ :: primary :: rest =>
    if primary = notUsedHost then n ≤ 1
    else
      match rest with
      | [] => False
      | port :: rest =>
        (number? port).isSome ∧ HasAddress dns primary ∧
          ∀ secondary ∈ rest.head?, HasAddress dns secondary
  | _ => False

open Classical in
/-- The command is in order: one for listeners of any type finds these as it wants them, and another is for
no listener, or it can be executed. -/
def CommandInOrder (dns : Resolver) (ss : Text) (s : Destinations) : Prop :=
  if ForAll ss then
    ∀ slot ∈ s.slots, Addressed ss slot.listener → Configured dns slot.listener (words isSpace ss)
  else
    (∀ slot ∈ s.slots, ¬ Addressed ss slot.listener) ∨
      Executable dns (s.slots.countP fun slot => Addressed ss slot.listener) (words isSpace ss)

/-! ## Reading numbers -/

section Numbers

variable {t w rest : Text} {v : ℤ}

/-- What follows a word is not a digit. -/
lemma takeWhile_isDigit_append {ds : Text} (hds : ∀ c ∈ ds, c.isDigit = true)
    (hrest : ∀ c ∈ rest.head?, isSpace c = true) :
    (ds ++ rest).takeWhile Char.isDigit = ds ∧ (ds ++ rest).dropWhile Char.isDigit = rest := by
  rw [List.takeWhile_append_of_pos hds, List.dropWhile_append_of_pos hds]
  cases rest with
  | nil => simp
  | cons c rest =>
    have hc : c.isDigit = false := by
      have hspace := hrest c rfl
      by_contra hdigit
      simp only [isSpace, Char.isDigit, Bool.not_eq_false, Bool.and_eq_true, decide_eq_true_iff] at *
      rcases hspace with rfl | hspace
      · exact absurd hdigit (by decide)
      · have hle := UInt32.le_iff_toNat_le.mp hdigit.1
        simp at hle
        have : c.val.toNat = c.toNat := rfl
        omega
    simp [hc]

lemma signed_append (hne : w ≠ []) (rest : Text) :
    signed (w ++ rest) = ((signed w).1, (signed w).2 ++ rest) := by
  obtain ⟨c, cs, rfl⟩ := List.exists_cons_of_ne_nil hne
  rw [List.cons_append]
  unfold signed
  split <;> split <;> simp_all

/-- The value of a number. -/
lemma eq_of_number (hv : number? w = some v) : v = (signed w).1 * leadingDigits (signed w).2 := by
  unfold number? at hv
  dsimp only at hv
  split_ifs at hv
  exact (Option.some.inj hv).symm

/-- A word that is a number is read as this number. -/
lemma readInt_of_number (hread : readWord isSpace t = some (w, rest)) (hv : number? w = some v) :
    readInt t = (v, some rest) := by
  obtain ⟨hne, hw, hrest, bs, hbs, rfl⟩ := Words.exists_of_readWord hread
  have hdrop : (bs ++ (w ++ rest)).dropWhile isSpace = w ++ rest := by
    rw [List.dropWhile_append_of_pos hbs]
    obtain ⟨c, cs, rfl⟩ := List.exists_cons_of_ne_nil hne
    rw [List.cons_append, List.dropWhile_cons_of_neg (by simp [hw c List.mem_cons_self])]
  unfold number? at hv
  dsimp only at hv
  split_ifs at hv with hnum
  obtain ⟨hds, hdigits, hint⟩ := hnum
  obtain ⟨htake, hrest'⟩ := takeWhile_isDigit_append hdigits hrest
  have hself : (signed w).2.takeWhile Char.isDigit = (signed w).2 := by
    rw [List.takeWhile_eq_self_iff]
    exact hdigits
  have hvalue : leadingDigits ((signed w).2 ++ rest) = leadingDigits (signed w).2 := by
    unfold leadingDigits
    rw [htake, hself]
  unfold readInt
  rw [hdrop, signed_append hne]
  dsimp only
  rw [htake, if_neg hds, hvalue, if_pos hint, hrest', Option.some.inj hv]

end Numbers

/-! ## The loop over the listeners -/

namespace DestHost

variable {d : DestHost} {slots : List ListenerSlot}

/-- Listeners that the command is not for stay as they are. -/
lemma apply_of_forall_not (h : ∀ slot ∈ slots, ¬ d.Matches slot.listener) : d.apply slots = slots := by
  induction slots with
  | nil => rfl
  | cons first rest ih =>
    obtain ⟨hfirst, hrest⟩ := List.forall_mem_cons.mp h
    rw [apply, if_neg hfirst, ih hrest]

/-- All listeners that the command is for are set to not used when there is one at most. -/
lemma forall₂_apply_of_notUsed (hd : d.notUsed = true) :
    List.Forall₂ (fun slot slot' => d.Matches slot.listener → slot'.listener.status = .notUsed) slots
      (d.apply slots) ↔ slots.countP (fun slot => d.Matches slot.listener) ≤ 1 := by
  induction slots with
  | nil => simp [apply]
  | cons first rest ih =>
    rw [apply, List.countP_cons]
    by_cases hfirst : d.Matches first.listener
    · rw [if_pos hfirst, if_pos hd, List.forall₂_cons, List.forall₂_same]
      simp only [hfirst, decide_true, if_true, forall_true_left, true_and]
      rw [Nat.add_one_le_iff, Nat.lt_one_iff, List.countP_eq_zero]
      refine forall₂_congr fun slot _ => ?_
      rw [decide_eq_true_iff]
      refine ⟨fun h hm => ?_, fun h hm => absurd hm h⟩
      exact nomatch hm.2.symm.trans (h hm)
    · rw [if_neg hfirst, List.forall₂_cons, ih]
      simp [hfirst]

/-- Otherwise every one of them gets its configuration. -/
lemma forall₂_apply_of_used (hd : d.notUsed = false) {P : Listener → Prop} :
    List.Forall₂ (fun slot slot' => d.Matches slot.listener → P slot'.listener) slots (d.apply slots) ↔
      ∀ slot ∈ slots, d.Matches slot.listener → P (d.configure slot.listener) := by
  induction slots with
  | nil => simp [apply]
  | cons first rest ih =>
    rw [apply, List.forall_mem_cons, ← ih]
    by_cases hfirst : d.Matches first.listener
    · rw [if_pos hfirst, if_neg (by simp [hd]), List.forall₂_cons]
    · rw [if_neg hfirst, List.forall₂_cons]
      simp [hfirst]

end DestHost

/-! ## The answers -/

section Answers

variable {dns : Resolver} {ss : Text} {s : Destinations}

lemma readParams_type (ss : Text) : (readParams ss).type = (words isSpace ss).headD [] := by
  rw [Words.words_eq, readParams]
  cases readWord isSpace ss with
  | none => rfl
  | some x =>
    dsimp only
    split
    · rfl
    · split
      · rfl
      · split <;> rfl

lemma getIpByHostname_ne_nil (dns : Resolver) (host : Text) : getIpByHostname dns host ≠ [] := by
  unfold getIpByHostname
  split
  · rename_i hdot
    exact List.ne_nil_of_mem hdot
  · split
    · decide
    · rename_i ip hip
      exact dns.ne_nil host ip hip

/-- What the loop over the listeners works with. -/
def SetDestHostParams.destHost (dns : Resolver) (p : SetDestHostParams) (type : ConnectionType) :
    DestHost where
  type := type
  port := p.port
  notUsed := decide (p.primaryHostname = notUsedHost)
  primaryIp := if p.primaryHostname = notUsedHost then [] else getIpByHostname dns p.primaryHostname
  secondaryIp :=
    if p.primaryHostname = notUsedHost ∨ p.secondaryHostname = [] then []
    else getIpByHostname dns p.secondaryHostname

/-- With a type that is not valid the command fails. -/
lemma setdesthost_of_invalid (h : searchedType (toUpper (readParams ss).type) = none) :
    (setdesthost dns ss s).answer ≠ "OK".toList ∧ (setdesthost dns ss s).state = s ∧
      (setdesthost dns ss s).copies = [] := by
  unfold setdesthost
  dsimp only
  rw [h]
  split_ifs <;> refine ⟨fun hok => ?_, rfl, rfl⟩
  all_goals exact absurd (List.cons.inj hok).1 (by decide)

/-- With another the answer is always the same. -/
lemma setdesthost_of_valid {type : ConnectionType}
    (h : searchedType (toUpper (readParams ss).type) = some type) :
    setdesthost dns ss s = ⟨"OK".toList, s.configure ((readParams ss).destHost dns type),
      s.slots.flatMap fun slot =>
        if ((readParams ss).destHost dns type).Matches slot.listener ∧
            ¬ (readParams ss).primaryHostname = notUsedHost then
          ((readParams ss).destHost dns type).copies
        else []⟩ := by
  unfold setdesthost SetDestHostParams.destHost
  simp only [h, decide_eq_true_eq]
  rw [if_neg, if_neg]
  · rintro ⟨hused, hne, hnil⟩
    rw [if_neg (not_or.mpr ⟨hused, hne⟩)] at hnil
    exact getIpByHostname_ne_nil dns _ hnil
  · rintro ⟨hused, hnil⟩
    rw [if_neg hused] at hnil
    exact getIpByHostname_ne_nil dns _ hnil

/-! ## What the words say -/

lemma searchedType_eq_some_none_iff {type : Text} :
    searchedType type = some .none ↔ type = "ALL".toList := by
  unfold searchedType
  constructor
  · intro h
    by_contra hall
    rw [if_neg hall] at h
    split_ifs at h
    all_goals exact nomatch h
  · rintro rfl
    decide

/-- The first word, if the type that it names can be looked for. -/
lemma mem_head?_words_iff {P : Text → Prop} (hnil : ¬ P []) :
    (∃ type ∈ (words isSpace ss).head?, P type) ↔ P (readParams ss).type := by
  rw [readParams_type]
  cases words isSpace ss with
  | nil => simpa using hnil
  | cons type rest => simp

lemma forAll_iff : ForAll ss ↔ searchedType (toUpper (readParams ss).type) = some .none := by
  rw [searchedType_eq_some_none_iff, ForAll]
  exact mem_head?_words_iff (P := fun type => toUpper type = "ALL".toList) (by decide)

lemma addressed_iff {l : Listener} : Addressed ss l ↔
    (ForAll ss ∨ searchedType (toUpper (readParams ss).type) = some l.type) ∧
      l.status = .toBeConfigured := by
  unfold Addressed
  rw [mem_head?_words_iff (P := fun type => searchedType (toUpper type) = some l.type)]
  exact fun h => nomatch h

/-- A command for one type is for the listeners that the loop looks for. -/
lemma addressed_iff_matches {type : ConnectionType} {l : Listener} (hne : type ≠ .none)
    (h : searchedType (toUpper (readParams ss).type) = some type) :
    Addressed ss l ↔ ((readParams ss).destHost dns type).Matches l := by
  rw [addressed_iff, forAll_iff, h, Option.some.injEq, Option.some.injEq, or_iff_right hne]
  exact and_congr_left' eq_comm

/-- A command without a valid type is for no listener. -/
lemma not_addressed_of_invalid {l : Listener}
    (h : searchedType (toUpper (readParams ss).type) = none) : ¬ Addressed ss l := by
  rw [addressed_iff, forAll_iff, h]
  simp

/-- The host `0.0.0.0` is the second word. -/
lemma words_of_notUsed (h : (readParams ss).primaryHostname = notUsedHost) :
    ∃ type rest, words isSpace ss = type :: notUsedHost :: rest := by
  unfold readParams at h
  rw [Words.words_eq]
  cases hread : readWord isSpace ss with
  | none =>
    rw [hread] at h
    exact nomatch h
  | some x =>
    obtain ⟨type, ss₁⟩ := x
    rw [hread] at h
    dsimp only at h ⊢
    rw [Words.words_eq]
    cases hread₁ : readWord isSpace ss₁ with
    | none =>
      rw [hread₁] at h
      exact nomatch h
    | some x₁ =>
      obtain ⟨primary, ss₂⟩ := x₁
      rw [hread₁] at h
      dsimp only at h ⊢
      have hprimary : primary = notUsedHost := by
        revert h
        split
        · exact id
        · split <;> exact id
      exact ⟨type, _, by rw [hprimary]⟩

lemma hasAddress_iff {host : Text} : HasAddress dns host ↔
    address dns host = some (getIpByHostname dns host) ∧ (getIpByHostname dns host).length < 20 := by
  unfold HasAddress address getIpByHostname
  split
  · simp
  · cases dns.lookup host <;> simp

/-- A listener that got its configuration is as the command wants it, and the arrays had room, when the
command can be executed. -/
lemma configured_iff {type : ConnectionType} {l : Listener} {n : ℕ}
    (hused : (readParams ss).primaryHostname ≠ notUsedHost) :
    Configured dns (((readParams ss).destHost dns type).configure l) (words isSpace ss) ∧
        ((readParams ss).destHost dns type).primaryIp.length < 20 ∧
        ((readParams ss).destHost dns type).secondaryIp.length < 20 ↔
      Executable dns n (words isSpace ss) := by
  rw [Words.words_eq]
  unfold readParams at hused ⊢
  cases hread : readWord isSpace ss with
  | none => simp [Configured, Executable]
  | some x =>
    obtain ⟨word, ss₁⟩ := x
    rw [hread] at hused
    dsimp only at hused ⊢
    rw [Words.words_eq]
    cases hread₁ : readWord isSpace ss₁ with
    | none => simp [Configured, Executable]
    | some x₁ =>
      obtain ⟨primary, ss₂⟩ := x₁
      rw [hread₁] at hused
      dsimp only at hused ⊢
      have hprimary : primary ≠ notUsedHost := by
        revert hused
        split
        · exact id
        · split <;> exact id
      rw [Words.words_eq]
      cases hread₂ : readWord isSpace ss₂ with
      | none => simp [Configured, Executable, hprimary]
      | some x₂ =>
        obtain ⟨port, ss₃⟩ := x₂
        dsimp only [Configured, Executable]
        rw [if_neg hprimary, if_neg hprimary]
        cases hnumber : number? port with
        | none => simp
        | some v =>
          rw [readInt_of_number hread₂ hnumber, hasAddress_iff]
          dsimp only
          rw [Words.words_eq]
          cases hread₃ : readWord isSpace ss₃ with
          | none => simp [SetDestHostParams.destHost, DestHost.configure, hprimary]
          | some x₃ =>
            obtain ⟨secondary, ss₄⟩ := x₃
            have hne := (Words.exists_of_readWord hread₃).1
            have hip := getIpByHostname_ne_nil dns secondary
            simp [SetDestHostParams.destHost, DestHost.configure, hprimary, hne, hip, hasAddress_iff]
            tauto

/-! ## The whole command -/

/-- The copies stay inside the arrays when the addresses are short. -/
lemma forall_copies_le_iff {d : DestHost} :
    (∀ n ∈ d.copies, n ≤ 20) ↔ d.primaryIp.length < 20 ∧ d.secondaryIp.length < 20 := by
  unfold DestHost.copies
  by_cases hnil : d.secondaryIp = []
  · rw [if_pos hnil, hnil, List.forall_mem_singleton, List.length_nil, Nat.succ_le_iff]
    exact (and_iff_left (by decide)).symm
  · rw [if_neg hnil]
    split_ifs <;> simp only [List.forall_mem_cons, List.not_mem_nil, false_implies, implies_true,
      and_true, Nat.lt_iff_add_one_le]
    tauto

/-- A command for listeners of any type changes none. -/
lemma doesWhatItAnswers_iff_of_forAll (hall : ForAll ss) : DoesWhatItAnswers dns ss s ↔
    ∀ slot ∈ s.slots, Addressed ss slot.listener → Configured dns slot.listener (words isSpace ss) := by
  have hreply : setdesthost dns ss s = _ := setdesthost_of_valid (forAll_iff.mp hall)
  set d := (readParams ss).destHost dns .none with hd
  have hnone : ∀ slot ∈ s.slots, ¬ d.Matches slot.listener :=
    fun slot hslot hmatches => s.typed slot hslot hmatches.1
  have hslots : (setdesthost dns ss s).state.slots = s.slots := by
    rw [hreply]
    exact DestHost.apply_of_forall_not hnone
  have hok : (setdesthost dns ss s).answer = "OK".toList := by rw [hreply]
  constructor
  · intro h
    have hforall := h.ok hok
    rwa [hslots, List.forall₂_same] at hforall
  · intro h
    refine ⟨fun _ => ?_, fun hfailed => ?_, fun n hn => ?_⟩
    · rwa [hslots, List.forall₂_same]
    · rw [hok] at hfailed
      exact absurd hfailed (by decide)
    · rw [hreply] at hn
      obtain ⟨slot, hslot, hn⟩ := List.mem_flatMap.mp hn
      rw [if_neg fun h => hnone slot hslot h.1] at hn
      exact nomatch hn

/-- A command for one type does what it answers when the listeners are as it wants them, and their
addresses have room. -/
lemma doesWhatItAnswers_iff_of_valid {type : ConnectionType} (hne : type ≠ .none)
    (h : searchedType (toUpper (readParams ss).type) = some type) :
    DoesWhatItAnswers dns ss s ↔
      List.Forall₂ (fun slot slot' => ((readParams ss).destHost dns type).Matches slot.listener →
          Configured dns slot'.listener (words isSpace ss)) s.slots
        (((readParams ss).destHost dns type).apply s.slots) ∧
      ((readParams ss).primaryHostname ≠ notUsedHost →
        ∀ slot ∈ s.slots, ((readParams ss).destHost dns type).Matches slot.listener →
          ∀ n ∈ ((readParams ss).destHost dns type).copies, n ≤ 20) := by
  have hreply : setdesthost dns ss s = _ := setdesthost_of_valid h
  have hanswer : (setdesthost dns ss s).answer = "OK".toList := by rw [hreply]
  have hslots : (setdesthost dns ss s).state.slots =
      ((readParams ss).destHost dns type).apply s.slots := by
    rw [hreply]
    rfl
  have haddressed : ∀ l, Addressed ss l ↔ ((readParams ss).destHost dns type).Matches l :=
    fun l => addressed_iff_matches hne h
  constructor
  · rintro ⟨hok, -, hinside⟩
    rw [hslots] at hok
    simp only [haddressed] at hok
    rw [hreply] at hinside
    refine ⟨hok hanswer, fun hused slot hslot hmatches n hn => hinside n ?_⟩
    exact List.mem_flatMap.mpr ⟨slot, hslot, by rwa [if_pos ⟨hmatches, hused⟩]⟩
  · rintro ⟨hconfigured, hcopies⟩
    refine ⟨fun _ => ?_, fun hfailed => ?_, fun n hn => ?_⟩
    · rw [hslots]
      simpa only [haddressed] using hconfigured
    · rw [hanswer] at hfailed
      exact absurd hfailed (by decide)
    · rw [hreply] at hn
      obtain ⟨slot, hslot, hn⟩ := List.mem_flatMap.mp hn
      split_ifs at hn with hmatches
      · exact hcopies hmatches.2 slot hslot hmatches.1 n hn
      · exact nomatch hn

/-- A command for one type does what it answers when it is for no listener or can be executed. -/
lemma doesWhatItAnswers_iff_of_type {type : ConnectionType} (hne : type ≠ .none)
    (h : searchedType (toUpper (readParams ss).type) = some type) :
    DoesWhatItAnswers dns ss s ↔
      (∀ slot ∈ s.slots, ¬ ((readParams ss).destHost dns type).Matches slot.listener) ∨
      Executable dns (s.slots.countP fun slot =>
        ((readParams ss).destHost dns type).Matches slot.listener) (words isSpace ss) := by
  rw [doesWhatItAnswers_iff_of_valid hne h]
  set d := (readParams ss).destHost dns type with hd
  by_cases hnone : ∀ slot ∈ s.slots, ¬ d.Matches slot.listener
  · refine iff_of_true ⟨?_, fun _ slot hslot hmatches => absurd hmatches (hnone slot hslot)⟩ (.inl hnone)
    rw [DestHost.apply_of_forall_not hnone, List.forall₂_same]
    exact fun slot hslot hmatches => absurd hmatches (hnone slot hslot)
  rw [or_iff_right hnone]
  by_cases hused : (readParams ss).primaryHostname = notUsedHost
  · obtain ⟨word, rest, hwords⟩ := words_of_notUsed hused
    rw [hwords]
    simp only [Configured, Executable, if_true]
    rw [DestHost.forall₂_apply_of_notUsed (by simp [hd, SetDestHostParams.destHost, hused])]
    exact and_iff_left fun h => absurd hused h
  · rw [DestHost.forall₂_apply_of_used (by simp [hd, SetDestHostParams.destHost, hused])
      (P := fun l => Configured dns l (words isSpace ss))]
    simp only [forall_copies_le_iff]
    constructor
    · rintro ⟨hconfigured, hcopies⟩
      push Not at hnone
      obtain ⟨slot, hslot, hmatches⟩ := hnone
      exact (configured_iff hused).mp
        ⟨hconfigured slot hslot hmatches, hcopies hused slot hslot hmatches⟩
    · intro hexecutable
      exact ⟨fun slot _ _ => ((configured_iff hused).mpr hexecutable).1,
        fun _ slot _ _ => ((configured_iff (l := slot.listener) hused).mpr hexecutable).2⟩

/-- **When `setdesthost` does what it answers.**  With the answer `OK` every listener of the type that was
to be configured is as the command wants it, with another nothing has changed, and nothing is written
outside the arrays of addresses, exactly when the command is in order. -/
theorem doesWhatItAnswers_iff (dns : Resolver) (ss : Text) (s : Destinations) :
    DoesWhatItAnswers dns ss s ↔ CommandInOrder dns ss s := by
  unfold CommandInOrder
  cases h : searchedType (toUpper (readParams ss).type) with
  | none =>
    obtain ⟨hanswer, hstate, hcopies⟩ : (setdesthost dns ss s).answer ≠ _ ∧ _ ∧ _ :=
      setdesthost_of_invalid h
    have hforAll : ¬ ForAll ss := fun hall => nomatch h.symm.trans (forAll_iff.mp hall)
    rw [if_neg hforAll]
    refine iff_of_true ⟨fun hok => absurd hok hanswer, fun _ => hstate, fun n hn => ?_⟩
      (.inl fun slot _ => not_addressed_of_invalid h)
    rw [hcopies] at hn
    exact nomatch hn
  | some type =>
    by_cases hne : type = .none
    · have hall : ForAll ss := forAll_iff.mpr (hne ▸ h)
      rw [if_pos hall]
      exact doesWhatItAnswers_iff_of_forAll hall
    · have hforAll : ¬ ForAll ss := fun hall =>
        hne (Option.some.inj (h.symm.trans (forAll_iff.mp hall)))
      rw [if_neg hforAll, doesWhatItAnswers_iff_of_type hne h]
      have haddressed : ∀ l, Addressed ss l ↔ ((readParams ss).destHost dns type).Matches l :=
        fun l => addressed_iff_matches hne h
      simp only [haddressed]

end Answers

/-- One listener, for `LDAP`, that is to be configured. -/
def oneListener : Destinations where
  slots := [⟨⟨.ldap, 389, [], [], .toBeConfigured, true⟩, [.loop]⟩]
  typed := by decide
  heartBeat := ⟨0, [], []⟩
  redundancy := false

/-- No name has an address. -/
def noNames : Resolver := ⟨fun _ => none, fun _ _ h => nomatch h⟩

/-- The listener is not configured by a command for listeners of any type. -/
theorem oneListener_not_doesWhatItAnswers :
    (setdesthost noNames " ALL 10.0.0.1 3890".toList oneListener).answer = "OK".toList ∧
      (setdesthost noNames " ALL 10.0.0.1 3890".toList oneListener).state.slots = oneListener.slots ∧
      ¬ DoesWhatItAnswers noNames " ALL 10.0.0.1 3890".toList oneListener := by
  have hanswer : (setdesthost noNames " ALL 10.0.0.1 3890".toList oneListener).answer = "OK".toList := rfl
  refine ⟨hanswer, rfl, fun h => ?_⟩
  have hwords : words isSpace " ALL 10.0.0.1 3890".toList =
      ["ALL".toList, "10.0.0.1".toList, "3890".toList] := by decide
  have hfirst := (List.forall₂_cons.mp (h.ok hanswer)).1
    ⟨.inl ⟨"ALL".toList, by rw [hwords]; rfl, by decide⟩, rfl⟩
  rw [hwords] at hfirst
  exact absurd (eq_of_number hfirst.1) (by decide)

end ConKeeper

import StTools.RunTitansim.ConfigLines
import StTools.RunTitansim.ProxyFile
import StTools.ScenarioDeployGenerator.DiaProxies

/-!
# Diameter proxies through the tools

A definition of the option `-p` becomes a line of the configuration, then a host of the generator, then
an entry of the scenario file, and is read back as a tuple.  `Host.parse` and `ProxyLines.add` both cut
at a colon, so of the local address only the part before its first colon arrives.
-/

namespace RunTitansim

open ScenarioDeployGenerator (Text Host NoBlank Globals Output intToString toInt32 atoi
  purgeLine filterLine filterLine_key getlines lineSize proxiesOfLine noBlank_intToString noBlank_purgeLine
  mem_purgeLine diaProxy_main atoi_append)
open TextSearch

/-! ## Numbers -/

section Numbers

variable {z : ℤ}

/-- A written number is read. -/
lemma pyInt_intToString : pyInt (intToString z) = some z := by
  have hdigits : ∀ m : ℕ, digitsToNat (Nat.toDigits 10 m) = some m := by
    intro m
    have hall : (Nat.toDigits 10 m).all Char.isDigit = true :=
      List.all_eq_true.mpr fun c hc => Nat.isDigit_of_mem_toDigits (by decide) (by decide) hc
    rw [digitsToNat, if_pos ⟨Nat.toDigits_ne_nil, hall⟩, Nat.ofDigitChars_ten_toDigits]
  have hstrip : strip (intToString z) = intToString z := by
    refine strip_eq_self fun c hc => ?_
    rcases isDigit_of_mem_intToString hc with rfl | hdigit
    · rfl
    · refine decide_eq_false fun hmem => ?_
      have hwhite : ∀ d ∈ [' ', '\t', '\n', '\r', Char.ofNat 11, Char.ofNat 12], d.isDigit = false :=
        forall_mem_of_all (by decide)
      exact absurd hdigit (by simp [hwhite c hmem])
  rw [pyInt, hstrip]
  cases z with
  | negSucc m =>
    change (digitsToNat (Nat.toDigits 10 (m + 1))).map (fun n : ℕ => -(n : ℤ)) = _
    rw [hdigits]
    rfl
  | ofNat m =>
    have htext : intToString (Int.ofNat m) = Nat.toDigits 10 m := rfl
    rw [htext]
    have hsign : ∀ c ∈ Nat.toDigits 10 m, c ≠ '-' ∧ c ≠ '+' := by
      intro c hc
      have hdigit := Nat.isDigit_of_mem_toDigits (by decide) (by decide) hc
      constructor
      · rintro rfl
        exact absurd hdigit (by decide)
      · rintro rfl
        exact absurd hdigit (by decide)
    split
    · next heq => exact absurd rfl (hsign '-' (heq ▸ List.mem_cons_self)).1
    · next heq => exact absurd rfl (hsign '+' (heq ▸ List.mem_cons_self)).2
    · rw [hdigits]
      rfl

lemma toInt32_lt : toInt32 z < 2 ^ 31 := by
  rw [toInt32]
  omega

lemma toInt32_of_lt (h₀ : 0 ≤ z) (h : z < 2 ^ 31) : toInt32 z = z := by
  rw [toInt32]
  omega

end Numbers

/-! ## Definitions -/

/-- A definition of the option `-p` with all its parts. -/
structure ProxyDefinition where
  /-- The name of the host. -/
  host : Text
  /-- The port. -/
  port : Text
  /-- The number of connections. -/
  nc : Text
  /-- The local address. -/
  localIp : Text
  /-- The port as a number. -/
  portNumber : ℤ
  /-- The number of connections as a number. -/
  ncNumber : ℕ
  host_ne : host ≠ []
  host_plain : ∀ c ∈ host, isPlain c = true
  host_field : ':' ∉ host
  host_length : host.length ≤ 255
  localIp_plain : ∀ c ∈ localIp, isPlain c = true
  localIp_length : localIp.length ≤ 64
  port_field : ':' ∉ port
  nc_field : ':' ∉ nc
  pyInt_port : pyInt port = some portNumber
  pyInt_nc : pyInt nc = some (ncNumber : ℤ)
  port_pos : 1 ≤ portNumber
  port_le : portNumber ≤ 65535

namespace ProxyDefinition

variable (d : ProxyDefinition)

/-- The definition as the user writes it. -/
def text : Text := joinColon [d.host, d.port, d.nc, d.localIp]

/-- The proxy that is meant. -/
def proxy : Proxy := (d.host, d.portNumber, d.ncNumber, d.localIp)

/-- The local address up to its first colon. -/
def localGroup : Text := (d.localIp.splitOn ':').headD []

/-- The value of the line `diaProxy`. -/
def value : Text :=
  '"' :: d.host ++ ['"'] ++ ':' :: (intToString d.portNumber ++ ':' :: (intToString d.ncNumber ++
    ':' :: d.localGroup))

/-- The line of the configuration. -/
def line : Text := "diaProxy:= ".toList ++ d.value

/-- The host of the generator. -/
def toHost : Host where
  name := '"' :: d.host ++ ['"']
  port := d.portNumber
  nc := toInt32 (min d.ncNumber (2 ^ 63 - 1))
  localIp := d.localGroup

/-- The proxy that is read back. -/
def readProxy : Proxy := (d.host, d.portNumber, d.ncNumber, d.localGroup)

/-- The groups that are found of the entry. -/
def groups : Text × Text × Text × Text :=
  (d.host, intToString d.portNumber, intToString d.ncNumber, d.localGroup)

lemma text_eq : d.text = d.host ++ ':' :: (d.port ++ ':' :: (d.nc ++ ':' :: d.localIp)) := by
  simp [text, joinColon, List.intercalate]

lemma splitOn_text : d.text.splitOn ':' = d.host :: d.port :: d.nc :: d.localIp.splitOn ':' := by
  rw [text_eq, List.splitOn_append_cons_self_of_not_mem d.host_field,
    List.splitOn_append_cons_self_of_not_mem d.port_field,
    List.splitOn_append_cons_self_of_not_mem d.nc_field]

/-- The part of the local address is the address when it has no colon. -/
lemma localGroup_eq_iff : d.localGroup = d.localIp ↔ ':' ∉ d.localIp := by
  constructor
  · intro heq hmem
    obtain ⟨a, b, hip, ha⟩ := List.eq_append_cons_of_mem hmem
    have hgroup : d.localGroup = a := by
      rw [localGroup, hip, List.splitOn_append_cons_self_of_not_mem ha]
      rfl
    have hlength := congrArg List.length (hgroup.symm.trans (heq.trans hip))
    rw [List.length_append, List.length_cons] at hlength
    omega
  · intro hmem
    rw [localGroup, List.splitOn_eq_singleton hmem]
    rfl

lemma localGroup_part : d.localGroup <:+: d.localIp := by
  by_cases hmem : ':' ∈ d.localIp
  · obtain ⟨a, b, hip, ha⟩ := List.eq_append_cons_of_mem hmem
    rw [localGroup, hip, List.splitOn_append_cons_self_of_not_mem ha]
    exact (List.prefix_append a _).isInfix
  · exact (d.localGroup_eq_iff.mpr hmem) ▸ List.infix_rfl

/-- A complete definition is taken as it is. -/
lemma completeProxy_text (hostname : Text) (freePort : Text → Text) :
    completeProxy hostname freePort d.text = d.text := by
  have hne : ∀ t : Text, (pyInt t).isSome → t ≠ [] := by
    rintro _ h rfl
    exact absurd h (by decide)
  have hport := hne d.port (by rw [d.pyInt_port]; rfl)
  have hnc := hne d.nc (by rw [d.pyInt_nc]; rfl)
  have hjoin : joinColon (d.host :: d.port :: d.nc :: d.localIp.splitOn ':') = d.text := by
    rw [← splitOn_text]
    exact List.intercalate_splitOn ':'
  obtain ⟨x, rest, hrest⟩ := List.exists_cons_of_ne_nil (List.splitOn_ne_nil ':' d.localIp)
  rw [hrest] at hjoin
  rw [completeProxy, splitOn_text, hrest]
  dsimp only
  rw [if_neg d.host_ne, if_neg hport, if_neg hnc]
  split_ifs with hlength
  · have hnil : rest = [] :=
      List.eq_nil_of_length_eq_zero (by rw [List.length_cons] at hlength; omega)
    rw [hnil] at hjoin ⊢
    exact hjoin
  · rfl

/-- The definition gets its line. -/
lemma add_text (s : ProxyLines) : s.add d.text = some
    { cfg := s.cfg ++ [d.line], port := some d.portNumber, nc := some (d.ncNumber : ℤ) } := by
  obtain ⟨x, rest, hrest⟩ := List.exists_cons_of_ne_nil (List.splitOn_ne_nil ':' d.localIp)
  have hgroup : d.localGroup = x := by rw [localGroup, hrest]; rfl
  have hline : "diaProxy:= \"".toList ++ d.host ++ "\":".toList ++ intToString d.portNumber ++
      ":".toList ++ intToString d.ncNumber ++ ":".toList ++ x = d.line := by
    have hregroup : ∀ k k' h q p c n g : Text, k = k' ++ ['"'] → q = ['"', ':'] → c = [':'] →
        k ++ h ++ q ++ p ++ c ++ n ++ c ++ g =
          k' ++ ('"' :: h ++ ['"'] ++ ':' :: (p ++ ':' :: (n ++ ':' :: g))) := by
      rintro _ k' h _ p _ n g rfl rfl rfl
      simp only [List.append_assoc, List.cons_append, List.nil_append]
    have hkey : "diaProxy:= \"".toList = "diaProxy:= ".toList ++ ['"'] := by decide
    have hquote : "\":".toList = ['"', ':'] := by decide
    have hcolon : ":".toList = [':'] := by decide
    exact hgroup ▸ hregroup _ _ d.host _ (intToString d.portNumber) _ (intToString d.ncNumber)
      d.localGroup hkey hquote hcolon
  rw [ProxyLines.add, splitOn_text, hrest]
  simp only [List.headD_cons, List.getElem?_cons_succ, List.getElem?_cons_zero, Option.bind_some,
    d.pyInt_port, d.pyInt_nc]
  exact congrArg (fun l => some (ProxyLines.mk (s.cfg ++ [l]) _ _)) hline

/-- Complete definitions get their lines. -/
lemma proxiesCfg_map_text (defs : List ProxyDefinition) :
    proxiesCfg (defs.map text) = some (defs.map line) := by
  have hfold : ∀ (defs : List ProxyDefinition) (s : ProxyLines),
      ((defs.map text).foldlM ProxyLines.add s).map ProxyLines.cfg = some (s.cfg ++ defs.map line) := by
    intro defs
    induction defs with
    | nil => exact fun s => by simp
    | cons d defs ih =>
      intro s
      rw [List.map_cons, List.foldlM_cons, d.add_text]
      change ((defs.map text).foldlM ProxyLines.add _).map ProxyLines.cfg = _
      rw [ih, List.append_assoc, List.singleton_append, List.map_cons]
  exact hfold defs {}

/-- The characters of the value. -/
lemma isKept_of_mem_value {c : Char} (hc : c ∈ d.value) : isKept c = true ∧ c ≠ '\n' := by
  have hsigns : ∀ c ∈ ['"', ':', '-'], isKept c = true ∧ c ≠ '\n' := forall_mem_of_all (by decide)
  have hnumber : ∀ z, c ∈ intToString z → isKept c = true ∧ c ≠ '\n' := by
    intro z hz
    rcases isDigit_of_mem_intToString hz with rfl | hdigit
    · exact hsigns '-' (by decide)
    · have hother : ∀ e ∈ ['\n', '#', '\r', '/', ' ', '\t'], e.isDigit = false :=
        forall_mem_of_all (by decide)
      constructor
      · exact decide_eq_true fun hmem => by simp [hother c (List.mem_cons_of_mem _ hmem)] at hdigit
      · rintro rfl
        exact absurd hdigit (by decide)
  have hgroup : c ∈ d.localGroup → isKept c = true ∧ c ≠ '\n' := fun h =>
    isKept_of_isPlain (d.localIp_plain c (d.localGroup_part.subset h))
  simp only [value, List.mem_append, List.mem_cons, List.not_mem_nil, or_false] at hc
  rcases hc with ((rfl | hc) | rfl) | rfl | hc | rfl | hc | rfl | hc
  · exact hsigns _ (by decide)
  · exact isKept_of_isPlain (d.host_plain c hc)
  · exact hsigns _ (by decide)
  · exact hsigns _ (by decide)
  · exact hnumber _ hc
  · exact hsigns _ (by decide)
  · exact hnumber _ hc
  · exact hsigns _ (by decide)
  · exact hgroup hc

lemma purgeLine_line : purgeLine d.line = "diaProxy:=".toList ++ d.value := by
  have hkept : ∀ c ∈ "diaProxy:=".toList, isKept c = true := forall_mem_of_all (by decide)
  have hvalue : purgeLine d.value = d.value := by
    have h := purgeLine_append (b := []) fun c hc => (d.isKept_of_mem_value hc).1
    rwa [List.append_nil, purgeLine, List.append_nil] at h
  have hblank : ∀ k k' v : Text, k = k' ++ [' '] → (∀ c ∈ k', isKept c = true) → purgeLine v = v →
      purgeLine (k ++ v) = k' ++ v := by
    rintro _ k' v rfl hk hv
    rw [List.append_assoc, purgeLine_append hk, List.singleton_append, purgeLine, hv]
  exact hblank _ _ _ (by decide) hkept hvalue

/-- The host of a value. -/
lemma parse_value : Host.parse ("diaProxy:=".toList ++ d.value) = some d.toHost := by
  obtain ⟨p, hp⟩ := Int.eq_ofNat_of_zero_le (show 0 ≤ d.portNumber by have := d.port_pos; omega)
  have hdigits : ∀ m : ℕ, intToString m = Nat.toDigits 10 m := fun m => rfl
  have hno : ∀ z, ':' ∉ intToString z := by
    intro z hz
    exact absurd (isDigit_of_mem_intToString hz) (by decide)
  have hname : ':' ∉ '"' :: d.host ++ ['"'] := by
    simpa using d.host_field
  have hport : atoi (intToString d.portNumber) = d.portNumber := by
    have h := atoi_append (m := p) (r := []) (by simp)
    have hle := d.port_le
    rw [List.append_nil] at h
    rw [hp, hdigits, h, toInt32_of_lt (by omega) (by omega)]
    omega
  have hnc : atoi (intToString d.ncNumber ++ ':' :: d.localGroup) =
      toInt32 (min d.ncNumber (2 ^ 63 - 1)) := atoi_append (by simp)
  rw [Host.parse, List.drop_left, value, splitOnce_singleton hname]
  dsimp only
  rw [splitOnce_singleton (hno _)]
  dsimp only
  rw [splitOnce_singleton (hno _), hport, hnc]
  rfl

/-- The generator takes the host from the line. -/
lemma proxiesOfLine_line : proxiesOfLine d.line = [d.toHost] := by
  have hkey : filterLine ("diaProxy:=".toList ++ d.value) ":=".toList false =
      some "diaProxy".toList := filterLine_key (by decide) (by decide) _
  have hhosts : (Host.parse ("diaProxy:=".toList ++ d.value)).toList = [d.toHost] := by
    rw [parse_value]
    rfl
  rw [proxiesOfLine, purgeLine_line]
  exact (if_pos hkey).trans hhosts

/-- The line of a definition with a small number of connections fits into the buffer. -/
lemma length_line_lt (h : d.ncNumber < 2 ^ 31) : d.line.length < lineSize := by
  obtain ⟨p, hp⟩ := Int.eq_ofNat_of_zero_le (show 0 ≤ d.portNumber by have := d.port_pos; omega)
  have hport : (intToString d.portNumber).length ≤ 5 := by
    rw [hp]
    have hle := d.port_le
    exact (Nat.length_toDigits_le_iff (by decide) (by decide)).mpr (by omega)
  have hnc : (intToString d.ncNumber).length ≤ 10 :=
    (Nat.length_toDigits_le_iff (by decide) (by decide)).mpr (by omega)
  have hgroup := d.localGroup_part.length_le
  have hhost := d.host_length
  have hip := d.localIp_length
  have hkey : "diaProxy:= ".toList.length = 11 := by decide
  have hvalue : d.value.length ≤ 345 := by
    rw [value]
    simp only [List.length_append, List.length_cons, List.length_nil]
    omega
  have hlength : d.line.length = "diaProxy:= ".toList.length + d.value.length := List.length_append
  rw [hlength, lineSize]
  omega

/-- The entry of the host is found, with the numbers of the definition. -/
lemma diaproxyGroups_toHost (h : d.ncNumber < 2 ^ 31) {tail : Text} (htail : tail = [] ∨ tail = [',']) :
    diaproxyGroups (entryText d.toHost tail) = some d.groups := by
  have hplain : ∀ c, isPlain c = true → c ≠ ' ' ∧ c ≠ '"' ∧ isDot c = true := by
    intro c hc
    simp only [isPlain, isWhite, isDot, List.mem_cons, List.not_mem_nil, or_false, not_or,
      decide_eq_true_eq] at hc ⊢
    tauto
  have hhost := fun c hc => hplain c (d.host_plain c hc)
  have hgroup := fun c hc => hplain c (d.localIp_plain c (d.localGroup_part.subset hc))
  have hnc : d.toHost.nc = d.ncNumber := by
    change toInt32 (min d.ncNumber (2 ^ 63 - 1)) = _
    rw [toInt32_of_lt (by omega) (by omega)]
    omega
  have hport := d.port_pos
  have htailBlank : NoBlank tail ∧ '"' ∉ tail := by
    rcases htail with rfl | rfl <;> decide
  rw [groups, ← hnc]
  refine diaproxyGroups_entryText rfl d.host_ne d.host_field (fun hmem => (hhost _ hmem).1 rfl)
    (fun hmem => (hgroup _ hmem).1 rfl) (fun hmem => (hgroup _ hmem).2.1 rfl) ?_ ?_ (fun c hc => ?_)
    htailBlank.1 htailBlank.2
  · exact (by omega : 0 ≤ d.portNumber)
  · rw [hnc]
    omega
  · exact (List.mem_append.mp hc).elim (fun h => (hhost c h).2.2) fun h => (hgroup c h).2.2

end ProxyDefinition

/-! ## Hosts -/

section Hosts

variable {h : Host} {line raw : Text}

/-- The texts of a host are parts of its line, and its number of connections is an `int`. -/
lemma parse_eq_some (hparse : Host.parse line = some h) :
    h.name ⊆ line ∧ h.localIp ⊆ line ∧ h.nc < 2 ^ 31 := by
  have hdrop : line.drop "diaProxy:=".toList.length ⊆ line := List.drop_subset _ _
  have hnil : ([] : Text) ⊆ line := List.nil_subset _
  rw [Host.parse] at hparse
  cases h₁ : splitOnce [':'] (line.drop "diaProxy:=".toList.length) with
  | none =>
    rw [h₁] at hparse
    cases hparse
  | some x =>
    obtain ⟨hname, hbase⟩ := splitOnce_subset h₁
    rw [h₁] at hparse
    dsimp only at hparse
    split at hparse
    · cases hparse
      exact ⟨List.Subset.trans hname hdrop, hnil, (by decide : (0 : ℤ) < 2 ^ 31)⟩
    · next port base h₂ =>
      split at hparse
      · cases hparse
        exact ⟨List.Subset.trans hname hdrop, hnil, (by decide : (0 : ℤ) < 2 ^ 31)⟩
      · next h₃ =>
        cases hparse
        obtain ⟨-, hlocal⟩ := splitOnce_subset h₃
        exact ⟨List.Subset.trans hname hdrop,
          List.Subset.trans hlocal (List.Subset.trans (splitOnce_subset h₂).2
            (List.Subset.trans hbase hdrop)), toInt32_lt⟩

/-- A host as it comes from a line. -/
structure FromLine (h : Host) : Prop where
  oneLine : OneLine h
  noBlank : NoBlank h.name ∧ NoBlank h.localIp
  nc_lt : h.nc < 2 ^ 31

lemma fromLine_of_mem (hraw : '\n' ∉ raw) (hh : h ∈ proxiesOfLine raw) : FromLine h := by
  have hparse : Host.parse (purgeLine raw) = some h := by
    have hsome : ∀ (c : Prop) [Decidable c] (x : Option Host),
        h ∈ (if c then x.toList else []) → x = some h := by
      intro c _ x hmem
      split_ifs at hmem
      · exact Option.mem_toList.mp hmem
      · nomatch hmem
    exact hsome _ _ hh
  obtain ⟨hname, hlocal, hnc⟩ := parse_eq_some hparse
  have hsubset : h.name ++ h.localIp ⊆ purgeLine raw := List.append_subset.mpr ⟨hname, hlocal⟩
  exact
    { oneLine :=
        { newline := fun hmem => hraw (mem_purgeLine (hsubset hmem)).1
          carriageReturn := fun hmem => (mem_purgeLine (hsubset hmem)).2.2 rfl }
      noBlank := ⟨fun hmem => noBlank_purgeLine (hname hmem), fun hmem => noBlank_purgeLine (hlocal hmem)⟩
      nc_lt := hnc }

/-- What is found of the entry of a host has the host's number of connections. -/
lemma FromLine.nc_of_diaproxyGroups (hh : FromLine h) {tail : Text} (htail : tail = [] ∨ tail = [','])
    {y : Text × Text × Text × Text} (hy : diaproxyGroups (entryText h tail) = some y) :
    pyInt y.2.2.1 = some h.nc := by
  have htailBlank : NoBlank tail := by
    rcases htail with rfl | rfl <;> decide
  obtain ⟨start, rest, hm⟩ := isMatch_of_diaproxyGroups hy
  obtain ⟨-, -, hnc, -⟩ := hm.parts hh.noBlank.1 hh.noBlank.2 htailBlank
  rw [hnc, pyInt_intToString]

end Hosts

/-! ## The program -/

namespace BuildOptions

variable (b : BuildOptions)

/-- What the definitions meet on their way has nothing to do with proxies. -/
structure Ordinary : Prop where
  /-- The other options do not write proxies. -/
  otherLines : ∀ l ∈ getlines b.otherLines,
    filterLine (purgeLine l) ":=".toList false ≠ some "diaProxy".toList
  /-- The configuration files do not have the key of a proxy. -/
  batFiles : ¬ portKey <:+: b.batFiles
  asctime_newline : '\n' ∉ b.asctime
  asctime_comma : ',' ∉ b.asctime

/-- The lines of the traffic generators fit into the buffer. -/
def GeneratorsFit : Prop := ∀ generator ∈ b.generators, (generatorLine generator).length < lineSize

variable {b} {defs : List ProxyDefinition} {file : Text}

/-- A program that ends without an error has run the generator on the lines of the definitions. -/
lemma exists_of_buildConfigFile (hproxies : b.proxies = some (defs.map ProxyDefinition.text))
    (hfile : b.buildConfigFile = some file) :
    ∃ out, ScenarioDeployGenerator.main (b.sdgOptions (b.generators.map generatorLine ++
        (if b.mode.usesProxies then defs.map ProxyDefinition.line else []) ++ b.otherLines)) = .ok out ∧
      file = patchConfig b.asctime (b.deploymentConfig out) := by
  have hscenario : b.scenarioProxies =
      if b.mode.usesProxies then defs.map ProxyDefinition.text else [] := by
    rw [scenarioProxies, hproxies]
    dsimp only
    rw [List.map_map]
    split_ifs
    · exact List.map_congr_left fun d _ => d.completeProxy_text _ _
    · rfl
  have hcfg : proxiesCfg b.scenarioProxies =
      some (if b.mode.usesProxies then defs.map ProxyDefinition.line else []) := by
    rw [hscenario]
    split_ifs
    · exact ProxyDefinition.proxiesCfg_map_text defs
    · rfl
  rw [buildConfigFile] at hfile
  obtain ⟨config, hconfig, hrun⟩ := Option.bind_eq_some_iff.mp hfile
  obtain ⟨out, hout, hpatch⟩ := Option.bind_eq_some_iff.mp hrun
  rw [configFileContents] at hconfig
  split_ifs at hconfig with hneeds
  rw [hcfg] at hconfig
  cases hconfig
  refine ⟨out, ?_, (Option.some.inj hpatch).symm⟩
  cases hmain : ScenarioDeployGenerator.main (b.sdgOptions (b.generators.map generatorLine ++
      (if b.mode.usesProxies then defs.map ProxyDefinition.line else []) ++ b.otherLines)) with
  | error f =>
    rw [hmain] at hout
    cases hout
  | ok out' =>
    rw [hmain] at hout
    exact congrArg Except.ok (Option.some.inj hout)

/-- The line of a traffic generator is not one of a proxy, also when it is cut off. -/
lemma proxiesOfLine_generatorLine (generator : Text) (n : ℕ) :
    proxiesOfLine ((generatorLine generator).take n) = [] := by
  have hline : ∃ t, generatorLine generator = 'l' :: t :=
    ⟨"gen:= \"".toList ++ generator ++ "\"".toList, rfl⟩
  obtain ⟨t, ht⟩ := hline
  have hkey : filterLine (purgeLine ((generatorLine generator).take n)) ":=".toList false ≠
      some "diaProxy".toList := by
    intro heq
    obtain ⟨x, hx, hfst⟩ := Option.map_eq_some_iff.mp heq
    have happend := eq_append_of_splitOnce hx
    change x.1 = "diaProxy".toList at hfst
    have hhead : (purgeLine ((generatorLine generator).take n)).head? = some 'd' := by
      rw [happend, hfst]
      rfl
    rw [ht] at hhead
    cases n with
    | zero => nomatch hhead
    | succ n =>
      have hl : ∀ c ∈ ['l'], isKept c = true := forall_mem_of_all (by decide)
      have hcons : purgeLine (('l' :: t).take (n + 1)) = 'l' :: purgeLine (t.take n) :=
        purgeLine_append hl
      rw [hcons] at hhead
      exact absurd (Option.some.inj hhead) (by decide)
  exact if_neg hkey

/-- The hosts that the generator takes from the configuration. -/
def hosts (b : BuildOptions) (defs : List ProxyDefinition) : List Host :=
  (getlines (b.generators.map generatorLine ++
    (if b.mode.usesProxies then defs.map ProxyDefinition.line else []) ++ b.otherLines)).flatMap
      proxiesOfLine

/-- The other lines have no proxies. -/
lemma Ordinary.proxiesOfLine_eq_nil (hb : b.Ordinary) {l : Text}
    (hl : l ∈ getlines (b.generators.map generatorLine) ∨ l ∈ getlines b.otherLines) :
    proxiesOfLine l = [] := by
  rcases hl with hl | hl
  · obtain ⟨l', hl', n, rfl⟩ := exists_of_mem_getlines hl
    obtain ⟨generator, -, rfl⟩ := List.mem_map.mp hl'
    exact proxiesOfLine_generatorLine generator n
  · exact if_neg (hb.otherLines l hl)

/-- Without proxies in the scenario, or with a line that is too long before them, there are none. -/
lemma Ordinary.hosts_eq_nil (hb : b.Ordinary)
    (h : ¬ (b.mode.usesProxies = true ∧ b.GeneratorsFit)) : hosts b defs = [] := by
  rw [hosts, List.flatMap_eq_nil_iff]
  intro l hl
  by_cases huses : b.mode.usesProxies = true
  · have hlong : ∃ l ∈ b.generators.map generatorLine, lineSize ≤ l.length := by
      have hfit : ¬ b.GeneratorsFit := fun hfit => h ⟨huses, hfit⟩
      rw [GeneratorsFit] at hfit
      push Not at hfit
      obtain ⟨generator, hmem, hle⟩ := hfit
      exact ⟨_, List.mem_map_of_mem hmem, hle⟩
    rw [List.append_assoc, getlines_append_of_le hlong] at hl
    exact hb.proxiesOfLine_eq_nil (.inl hl)
  · rw [if_neg huses, List.append_nil] at hl
    exact hb.proxiesOfLine_eq_nil (mem_getlines_append hl)

/-- Every host is that of a definition, whose line may be cut off. -/
lemma Ordinary.fromLine_of_mem_hosts (hb : b.Ordinary) {h : Host} (hh : h ∈ hosts b defs) :
    FromLine h := by
  obtain ⟨l, hl, hmem⟩ := List.mem_flatMap.mp hh
  rcases mem_getlines_append hl with hl | hl
  · rcases mem_getlines_append hl with hl | hl
    · rw [hb.proxiesOfLine_eq_nil (.inl hl)] at hmem
      cases hmem
    · obtain ⟨l', hl', n, rfl⟩ := exists_of_mem_getlines hl
      obtain ⟨d, hline⟩ : ∃ d : ProxyDefinition, l' = d.line := by
        split_ifs at hl'
        · obtain ⟨d, -, rfl⟩ := List.mem_map.mp hl'
          exact ⟨d, rfl⟩
        · cases hl'
      have hnewline : '\n' ∉ d.line := by
        intro hmem
        rcases List.mem_append.mp hmem with h | h
        · exact absurd h (by decide)
        · exact (d.isKept_of_mem_value h).2 rfl
      exact fromLine_of_mem (fun h => hnewline (hline ▸ List.mem_of_mem_take h)) hmem
  · rw [hb.proxiesOfLine_eq_nil (.inr hl)] at hmem
    cases hmem

/-- When the lines fit, the hosts are those of the definitions. -/
lemma Ordinary.hosts_eq_map (hb : b.Ordinary) (huses : b.mode.usesProxies = true)
    (hfit : b.GeneratorsFit) (hnc : ∀ d ∈ defs, d.ncNumber < 2 ^ 31) :
    hosts b defs = defs.map ProxyDefinition.toHost := by
  have hgenerators : (b.generators.map generatorLine).flatMap proxiesOfLine = [] := by
    rw [List.flatMap_eq_nil_iff]
    intro l hl
    obtain ⟨generator, -, rfl⟩ := List.mem_map.mp hl
    have h := proxiesOfLine_generatorLine generator (generatorLine generator).length
    rwa [List.take_length] at h
  have hother : (getlines b.otherLines).flatMap proxiesOfLine = [] :=
    List.flatMap_eq_nil_iff.mpr fun l hl => hb.proxiesOfLine_eq_nil (.inr hl)
  have hlines : ∀ l ∈ b.generators.map generatorLine ++ defs.map ProxyDefinition.line,
      l.length < lineSize := by
    refine List.forall_mem_append.mpr ⟨List.forall_mem_map.mpr hfit, List.forall_mem_map.mpr ?_⟩
    exact fun d hd => d.length_line_lt (hnc d hd)
  rw [hosts, if_pos huses, getlines_append hlines, List.flatMap_append, List.flatMap_append,
    hgenerators, hother, List.nil_append, List.append_nil, List.flatMap_map]
  simp only [ProxyDefinition.proxiesOfLine_line]
  exact List.flatMap_pure_eq_map _ _

/-- The entries of the hosts, with what stands behind them. -/
def entries (hosts : List Host) : List Text :=
  hosts.zipIdx.map fun x => entryText x.1 (separator (hosts.length - 1) x.2)

/-- What is found in the file. -/
lemma Ordinary.findDiaproxyList_eq (hb : b.Ordinary)
    (hproxies : b.proxies = some (defs.map ProxyDefinition.text))
    (hfile : b.buildConfigFile = some file) :
    findDiaproxyList file = (entries (hosts b defs)).filterMap diaproxyGroups := by
  obtain ⟨out, hmain, rfl⟩ := exists_of_buildConfigFile hproxies hfile
  obtain ⟨hhosts, htype⟩ := diaProxy_main hmain
  change out.globals.diaProxy = hosts b defs at hhosts
  change out.globals.trafficType = b.mode.trafficType at htype
  have hkind : b.mode.usesProxies = true ↔
      (b.mode.trafficType = .ismsda ∨ b.mode.trafficType = .esm) := by
    cases b.mode <;> decide
  have honeLine : ∀ x ∈ out.globals.diaProxy, OneLine x := fun x hx =>
    (hb.fromLine_of_mem_hosts (hhosts ▸ hx)).oneLine
  rw [deploymentConfig, findDiaproxyList_file hmain hb.asctime_newline hb.asctime_comma hb.batFiles
    honeLine, htype, hhosts, entries, List.filterMap_map]
  by_cases huses : b.mode.usesProxies = true
  · rw [if_pos (hkind.mp huses)]
    rfl
  · rw [if_neg (mt hkind.mpr huses), hb.hosts_eq_nil fun h => huses h.1]
    rfl

/-- The tuple of what was found. -/
def toProxy (y : Text × Text × Text × Text) : Option Proxy := do
  return (y.1, ← pyInt y.2.1, ← pyInt y.2.2.1, y.2.2.2)

/-- A tuple that is read back has a number of connections that is an `int`. -/
lemma Ordinary.nc_lt (hb : b.Ordinary) (hproxies : b.proxies = some (defs.map ProxyDefinition.text))
    (hfile : b.buildConfigFile = some file) {l : List Proxy} (hread : diaproxies file = some l) :
    ∀ x ∈ l, x.2.2.1 < 2 ^ 31 := by
  intro x hx
  have hmem : ∀ (ys : List (Text × Text × Text × Text)) (l : List Proxy), ys.mapM toProxy = some l →
      x ∈ l → ∃ y ∈ ys, toProxy y = some x := by
    intro ys
    induction ys with
    | nil =>
      rintro l ⟨⟩ hx
      nomatch hx
    | cons y ys ih =>
      intro l hl hx
      rw [List.mapM_cons] at hl
      obtain ⟨z, hz, hrest⟩ := Option.bind_eq_some_iff.mp hl
      obtain ⟨zs, hzs, hl⟩ := Option.bind_eq_some_iff.mp hrest
      cases hl
      rcases List.mem_cons.mp hx with rfl | hx
      · exact ⟨y, List.mem_cons_self, hz⟩
      · obtain ⟨w, hw, hwx⟩ := ih zs hzs hx
        exact ⟨w, List.mem_cons_of_mem y hw, hwx⟩
  obtain ⟨y, hy, hxy⟩ := hmem _ l hread hx
  rw [hb.findDiaproxyList_eq hproxies hfile] at hy
  obtain ⟨t, ht, hgroups⟩ := List.mem_filterMap.mp hy
  obtain ⟨e, he, rfl⟩ := List.mem_map.mp ht
  have hline : FromLine e.1 := hb.fromLine_of_mem_hosts (List.fst_mem_of_mem_zipIdx he)
  have hnc := hline.nc_of_diaproxyGroups (separator_cases _ _) hgroups
  obtain ⟨p, hp, hrest⟩ := Option.bind_eq_some_iff.mp hxy
  rw [hnc] at hrest
  rw [← Option.some.inj hrest]
  exact hline.nc_lt

/-- Without hosts nothing is read back. -/
lemma Ordinary.diaproxies_eq_nil (hb : b.Ordinary)
    (hproxies : b.proxies = some (defs.map ProxyDefinition.text))
    (hfile : b.buildConfigFile = some file) (hhosts : hosts b defs = []) :
    diaproxies file = some [] := by
  change (findDiaproxyList file).mapM toProxy = _
  rw [hb.findDiaproxyList_eq hproxies hfile, hhosts]
  rfl

/-- When the lines fit, a definition is read back with a part of its local address. -/
lemma Ordinary.diaproxies_eq (hb : b.Ordinary)
    (hproxies : b.proxies = some (defs.map ProxyDefinition.text))
    (hfile : b.buildConfigFile = some file) (hhosts : hosts b defs = defs.map ProxyDefinition.toHost)
    (hnc : ∀ d ∈ defs, d.ncNumber < 2 ^ 31) :
    diaproxies file = some (defs.map ProxyDefinition.readProxy) := by
  have hfound : findDiaproxyList file = defs.map ProxyDefinition.groups := by
    have hentry : ∀ last, ∀ x ∈ defs.zipIdx, diaproxyGroups (entryText x.1.toHost
        (separator last x.2)) = some x.1.groups := fun last x hx =>
      x.1.diaproxyGroups_toHost (hnc x.1 (List.fst_mem_of_mem_zipIdx hx)) (separator_cases _ _)
    have hfst : defs.zipIdx.filterMap (fun x => some x.1.groups) =
        (defs.zipIdx.map Prod.fst).map ProxyDefinition.groups := by
      rw [List.map_map, ← List.filterMap_eq_map]
      rfl
    rw [hb.findDiaproxyList_eq hproxies hfile, hhosts, entries, List.filterMap_map, List.zipIdx_map,
      List.filterMap_map]
    exact (List.filterMap_congr (hentry _)).trans (hfst.trans (by rw [List.zipIdx_map_fst]))
  have hmapM : ∀ defs : List ProxyDefinition, (defs.map ProxyDefinition.groups).mapM toProxy =
      some (defs.map ProxyDefinition.readProxy) := by
    intro defs
    induction defs with
    | nil => rfl
    | cons d defs ih =>
      have htoProxy : toProxy d.groups = some d.readProxy := by
        rw [toProxy, ProxyDefinition.groups, pyInt_intToString, pyInt_intToString]
        rfl
      rw [List.map_cons, List.mapM_cons, ih, htoProxy]
      rfl
  change (findDiaproxyList file).mapM toProxy = _
  rw [hfound, hmapM]

/-- **The way of the definitions.**  The proxies that are read back are those that were meant exactly
when the scenario has proxies and the lines before theirs fit into the buffer, and each definition has
a local address without a colon and a number of connections that is an `int`. -/
theorem proxies_survive_iff (hb : b.Ordinary)
    (hproxies : b.proxies = some (defs.map ProxyDefinition.text))
    (hfile : b.buildConfigFile = some file) :
    diaproxies file = some (defs.map ProxyDefinition.proxy) ↔
      (defs = [] ∨ b.mode.usesProxies = true ∧ b.GeneratorsFit) ∧
        ∀ d ∈ defs, ':' ∉ d.localIp ∧ d.ncNumber < 2 ^ 31 := by
  constructor
  · intro hsame
    have hpart : defs = [] ∨ b.mode.usesProxies = true ∧ b.GeneratorsFit := by
      by_contra hno
      obtain ⟨hne, hneither⟩ := not_or.mp hno
      have hnil := hb.diaproxies_eq_nil hproxies hfile (hb.hosts_eq_nil hneither)
      exact hne (List.map_eq_nil_iff.mp (Option.some.inj (hsame.symm.trans hnil)))
    have hnc : ∀ d ∈ defs, d.ncNumber < 2 ^ 31 := fun d hd => by
      have h := hb.nc_lt hproxies hfile hsame d.proxy (List.mem_map_of_mem hd)
      change (d.ncNumber : ℤ) < 2 ^ 31 at h
      omega
    refine ⟨hpart, fun d hd => ⟨?_, hnc d hd⟩⟩
    obtain rfl | ⟨huses, hfit⟩ := hpart
    · nomatch hd
    have hread := hb.diaproxies_eq hproxies hfile (hb.hosts_eq_map huses hfit hnc) hnc
    have hproxy := List.map_inj_left.mp (Option.some.inj (hread.symm.trans hsame)) d hd
    exact d.localGroup_eq_iff.mp (congrArg (fun x : Proxy => x.2.2.2) hproxy)
  · rintro ⟨hpart, hdefs⟩
    obtain rfl | ⟨huses, hfit⟩ := hpart
    · have hnil : hosts b [] = [] := by
        by_cases h : b.mode.usesProxies = true ∧ b.GeneratorsFit
        · exact hb.hosts_eq_map h.1 h.2 fun d hd => nomatch hd
        · exact hb.hosts_eq_nil h
      exact hb.diaproxies_eq_nil hproxies hfile hnil
    have hnc : ∀ d ∈ defs, d.ncNumber < 2 ^ 31 := fun d hd => (hdefs d hd).2
    rw [hb.diaproxies_eq hproxies hfile (hb.hosts_eq_map huses hfit hnc) hnc]
    refine congrArg some (List.map_congr_left fun d hd => ?_)
    have hlocal : d.localGroup = d.localIp := d.localGroup_eq_iff.mpr (hdefs d hd).1
    rw [ProxyDefinition.readProxy, ProxyDefinition.proxy, hlocal]

/-- A test with one traffic case, one traffic generator and a list of proxies. -/
def oneTc (proxies : List Text) : BuildOptions where
  mode := .epc
  generators := ["h".toList]
  proxies := some proxies
  otherLines := []
  specificTrafficMix := false
  template := ["tcName:=A".toList, "subcriberType:=T".toList]
  trafficMix := ["tcName:=A".toList]
  batFiles := []
  hostname := []
  freePort := fun _ => []
  asctime := []

lemma ordinary_oneTc (proxies : List Text) : (oneTc proxies).Ordinary where
  otherLines := fun _ h => nomatch h
  batFiles := by change ¬ portKey <:+: []; decide
  asctime_newline := List.not_mem_nil
  asctime_comma := List.not_mem_nil

lemma generatorsFit_oneTc (proxies : List Text) : (oneTc proxies).GeneratorsFit := by
  change ∀ generator ∈ ["h".toList], _
  decide

end BuildOptions

/-- The definition `h:3868:2` with a local address. -/
def proxyAt (localIp : Text) (hplain : ∀ c ∈ localIp, isPlain c = true)
    (hlength : localIp.length ≤ 64) : ProxyDefinition where
  host := "h".toList
  port := "3868".toList
  nc := "2".toList
  localIp := localIp
  portNumber := 3868
  ncNumber := 2
  host_ne := by decide
  host_plain := forall_mem_of_all (by decide)
  host_field := by decide
  host_length := by decide
  localIp_plain := hplain
  localIp_length := hlength
  port_field := by decide
  nc_field := by decide
  pyInt_port := by decide
  pyInt_nc := by decide
  port_pos := by decide
  port_le := by decide

/-- A proxy with a local address of version 4. -/
def proxyV4 : ProxyDefinition := proxyAt "10.0.0.1".toList (forall_mem_of_all (by decide)) (by decide)

/-- A proxy with a local address of version 6. -/
def proxyV6 : ProxyDefinition := proxyAt "fe80::1".toList (forall_mem_of_all (by decide)) (by decide)

/-- A proxy with a local address of version 4 is read back. -/
theorem proxyV4_survives : ∃ file, (BuildOptions.oneTc [proxyV4.text]).buildConfigFile = some file ∧
    diaproxies file = some [proxyV4.proxy] := by
  obtain ⟨file, hfile⟩ : ∃ file, (BuildOptions.oneTc [proxyV4.text]).buildConfigFile = some file :=
    Option.isSome_iff_exists.mp rfl
  have hproxies : (BuildOptions.oneTc [proxyV4.text]).proxies =
      some ([proxyV4].map ProxyDefinition.text) := rfl
  refine ⟨file, hfile, ?_⟩
  refine (BuildOptions.proxies_survive_iff (BuildOptions.ordinary_oneTc _) hproxies hfile).mpr
    ⟨.inr ⟨rfl, BuildOptions.generatorsFit_oneTc _⟩, ?_⟩
  decide

/-- Of a local address of version 6 only the part before its first colon is read back. -/
theorem proxyV6_cutOff : ∃ file, (BuildOptions.oneTc [proxyV6.text]).buildConfigFile = some file ∧
    diaproxies file = some [("h".toList, 3868, 2, "fe80".toList)] ∧
    proxyV6.proxy = ("h".toList, 3868, 2, "fe80::1".toList) := by
  obtain ⟨file, hfile⟩ : ∃ file, (BuildOptions.oneTc [proxyV6.text]).buildConfigFile = some file :=
    Option.isSome_iff_exists.mp rfl
  have hproxies : (BuildOptions.oneTc [proxyV6.text]).proxies =
      some ([proxyV6].map ProxyDefinition.text) := rfl
  have hb := BuildOptions.ordinary_oneTc [proxyV6.text]
  have hnc : ∀ d ∈ [proxyV6], d.ncNumber < 2 ^ 31 := by decide
  have hhosts := hb.hosts_eq_map rfl (BuildOptions.generatorsFit_oneTc _) hnc
  refine ⟨file, hfile, ?_, rfl⟩
  rw [hb.diaproxies_eq hproxies hfile hhosts hnc]
  decide

end RunTitansim

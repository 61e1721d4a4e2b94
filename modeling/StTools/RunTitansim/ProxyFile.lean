import StTools.RunTitansim.ProxyEntry
import StTools.ScenarioDeployGenerator.CalmFiles

/-!
# Proxies in the configuration of a test

What `find_diaproxy_list` finds in the patched configuration.  Behind a line without the key of a port
there is no proxy, and in the text of the generator only the entries of the proxies have this key.
-/

namespace RunTitansim

open ScenarioDeployGenerator (Text Host Calm intToString Globals Output diaproxyEntry diaproxyInfo scenarioRest
  scenarioText_eq calm_of_main eq_of_writeFiles)

/-! ## Lines -/

section Lines

variable {asctime line l t : Text}

/-- What is found of a line of the generator's text. -/
def readBack (asctime line : Text) : Option (Text × Text × Text × Text) :=
  (patchLine asctime line).bind fun line =>
    let line := strip line
    if line = [] ∨ isComment line then none else diaproxyGroups line

/-- The line with the title of the window. -/
def titleLine (asctime : Text) : Text :=
  windowTitle ++ " := \"HSS traffic <> ".toList ++ asctime ++ "\"".toList

/-- A patched line is the line, the line as a comment, or the title. -/
lemma eq_of_patchLine (h : patchLine asctime line = some l) :
    l = '/' :: '/' :: line ∨ l = titleLine asctime ∨ l = line := by
  rw [patchLine] at h
  split_ifs at h
  · exact .inl (Option.some.inj h).symm
  · exact .inr (.inl (Option.some.inj h).symm)
  · exact .inr (.inr (Option.some.inj h).symm)

lemma newline_notMem_of_patchLine (h : patchLine asctime line = some l) (hline : '\n' ∉ line)
    (htime : '\n' ∉ asctime) : '\n' ∉ l := by
  obtain rfl | rfl | rfl := eq_of_patchLine h
  · simpa using hline
  · have hstart : '\n' ∉ windowTitle ++ " := \"HSS traffic <> ".toList := by decide
    simp only [titleLine, List.mem_append, not_or] at hstart ⊢
    exact ⟨⟨hstart, htime⟩, by decide⟩
  · exact hline

/-- The lines of the patched text. -/
def patchedLines (asctime raw : Text) : List Text := (splitlines raw).filterMap (patchLine asctime)

/-- The patched text is read line by line. -/
lemma readlines_patchConfig {raw : Text} (htime : '\n' ∉ asctime) :
    readlines (patchConfig asctime raw) = patchedLines asctime raw := by
  have hlines : ∀ l ∈ (splitlines raw).filterMap (patchLine asctime), '\n' ∉ l := by
    intro l hl
    obtain ⟨line, hline, hpatch⟩ := List.mem_filterMap.mp hl
    exact newline_notMem_of_patchLine hpatch (newline_notMem_of_mem_splitlines hline) htime
  exact readlines_unlines hlines

/-- The proxies of the patched text are found line by line. -/
lemma findDiaproxyList_patchConfig {raw : Text} (htime : '\n' ∉ asctime) :
    findDiaproxyList (patchConfig asctime raw) =
      (splitlines raw).filterMap (readBack asctime) := by
  rw [findDiaproxyList, readlines_patchConfig htime, patchedLines, List.filterMap_filterMap]
  rfl

/-- Only a text with the key of the port is a match. -/
lemma infix_of_diaproxyGroups {y : Text × Text × Text × Text} (h : diaproxyGroups t = some y) :
    portKey <:+: t := by
  obtain ⟨start, rest, hm⟩ := isMatch_of_diaproxyGroups h
  refine ⟨start ++ (hostKey ++ y.1), y.2.1 ++ (ncKey ++ (y.2.2.1 ++ (ipKey ++ (y.2.2.2 ++
    (['"', '\x7d'] ++ rest))))), ?_⟩
  rw [hm.eq]
  simp only [List.append_assoc]

lemma strip_part : strip t <:+: t := by
  have h : (strip t).reverse <:+ (lstrip t).reverse := by
    rw [strip, List.reverse_reverse]
    exact List.dropWhile_suffix _
  exact (List.reverse_suffix.mp h).isInfix.trans (List.dropWhile_suffix _).isInfix

/-- Without the key of the port no proxy is found. -/
lemma readBack_eq_none (htime : ',' ∉ asctime) (hline : ¬ portKey <:+: line) :
    readBack asctime line = none := by
  have hnone : ∀ l, patchLine asctime line = some l → ¬ portKey <:+: l := by
    intro l hl hin
    obtain rfl | rfl | rfl := eq_of_patchLine hl
    · rcases List.infix_cons_iff.mp hin with h | h
      · exact absurd (List.cons_prefix_cons.mp h).1 (by decide)
      rcases List.infix_cons_iff.mp h with h | h
      · exact absurd (List.cons_prefix_cons.mp h).1 (by decide)
      exact hline h
    · have hcomma : ',' ∈ titleLine asctime := hin.subset (by decide)
      have hstart : ',' ∉ windowTitle ++ " := \"HSS traffic <> ".toList := by decide
      rcases List.mem_append.mp hcomma with h | h
      · exact (List.mem_append.mp h).elim hstart htime
      · exact absurd h (by decide)
    · exact hline hin
  rw [readBack]
  cases hl : patchLine asctime line with
  | none => rfl
  | some l =>
    rw [Option.bind_some]
    dsimp only
    split_ifs
    · rfl
    · rw [Option.eq_none_iff_forall_ne_some]
      exact fun y hy => hnone l hl ((infix_of_diaproxyGroups hy).trans strip_part)

/-- Texts without the key of the port. -/
lemma readBack_splitlines_eq_nil (htime : ',' ∉ asctime) (h : ¬ portKey <:+: t) :
    (splitlines t).filterMap (readBack asctime) = [] := by
  rw [List.filterMap_eq_nil_iff]
  exact fun line hline => readBack_eq_none htime fun hkey =>
    h (hkey.trans (infix_of_splitlines.1 line hline))

end Lines

/-! ## Entries -/

section Entries

variable {asctime tail pre a b pat t : Text} {h : Host}

/-- The tabulator in front of a text is taken away. -/
lemma strip_tabulator {c d : Char} (hc : isWhite c = false) (hd : isWhite d = false) :
    strip ('\t' :: c :: (t ++ [d])) = c :: (t ++ [d]) := by
  rw [strip_cons (by decide), strip_of_ends hc hd]

/-- An entry begins with a brace, and behind the local address it ends. -/
lemma entryText_eq : ∃ t, entryText h tail = '\x7b' :: (t ++ '"' :: '\x7d' :: tail) := by
  refine ⟨"hostname:=".toList ++ (h.name ++ ([','] ++ ' ' :: (portWord ++ (intToString h.port ++
    (ncKey ++ (intToString h.nc ++ (ipKey ++ h.localIp))))))), ?_⟩
  rw [entryText]
  simp only [List.append_assoc, List.cons_append, List.nil_append]

/-- What is found of the line of an entry is what the regular expression finds. -/
lemma readBack_entry (htail : tail = [] ∨ tail = [',']) :
    readBack asctime ('\t' :: entryText h tail) = diaproxyGroups (entryText h tail) := by
  obtain ⟨t, ht⟩ : ∃ t, entryText h tail = '\x7b' :: (t ++ '"' :: '\x7d' :: tail) := entryText_eq
  have hstrip : strip ('\t' :: entryText h tail) = entryText h tail := by
    rw [ht]
    rcases htail with rfl | rfl
    · have hend : t ++ ['"', '\x7d'] = (t ++ ['"']) ++ ['\x7d'] := by simp
      rw [hend]
      exact strip_tabulator (by decide) (by decide)
    · have hend : t ++ ['"', '\x7d', ','] = (t ++ ['"', '\x7d']) ++ [','] := by simp
      rw [hend]
      exact strip_tabulator (by decide) (by decide)
  have hspecial : entryText h tail ∉ specialLines := by
    have hheads : ∀ l ∈ specialLines, l.head? ≠ some '\x7b' := by decide
    exact fun hmem => hheads _ hmem (by rw [ht]; rfl)
  have hcomment : isComment (entryText h tail) = false := by
    rw [ht]
    refine decide_eq_false ?_
    rintro (hpre | hpre)
    · exact absurd (List.cons_prefix_cons.mp hpre).1 (by decide)
    · exact absurd (List.cons_prefix_cons.mp hpre).1 (by decide)
  have htitle : ¬ windowTitle <+: entryText h tail := by
    rw [ht]
    exact fun hpre => absurd (List.cons_prefix_cons.mp hpre).1 (by decide)
  have hne : entryText h tail ≠ [] := by
    rw [ht]
    exact List.cons_ne_nil _ _
  have hpatch : patchLine asctime ('\t' :: entryText h tail) = some ('\t' :: entryText h tail) := by
    rw [patchLine, hstrip, if_neg hspecial, if_neg (by simp [hcomment]), if_neg htitle]
  rw [readBack, hpatch, Option.bind_some, hstrip]
  rw [if_neg (by simp [hne, hcomment])]

/-- What stands behind an entry on its line. -/
def separator (last i : ℕ) : Text := if i < last then [','] else []

lemma separator_cases (last i : ℕ) : separator last i = [] ∨ separator last i = [','] := by
  rw [separator]
  split_ifs
  · exact .inr rfl
  · exact .inl rfl

/-- The lines of the entries. -/
def entryLines (hosts : List Host) : List Text :=
  hosts.zipIdx.map fun x => '\t' :: entryText x.1 (separator (hosts.length - 1) x.2)

/-- The host has no end of a line in its texts. -/
structure OneLine (h : Host) : Prop where
  newline : '\n' ∉ h.name ++ h.localIp
  carriageReturn : '\r' ∉ h.name ++ h.localIp

/-- The entry as it is written. -/
lemma diaproxyEntry_eq : diaproxyEntry h ++ tail = '\t' :: entryText h tail := by
  have hregroup : ∀ a a' n p p' port nkey n' ikey ip e e' s : Text, a = '\t' :: a' → p = p' → e = e' →
      a ++ n ++ p ++ port ++ nkey ++ n' ++ ikey ++ ip ++ e ++ s =
        '\t' :: (a' ++ (n ++ (p' ++ (port ++ (nkey ++ (n' ++ (ikey ++ (ip ++ (e' ++ s))))))))) := by
    rintro _ a' n _ p' port nkey n' ikey ip _ e' s rfl rfl rfl
    simp only [List.append_assoc, List.cons_append]
  have hentry := hregroup _ ('\x7b' :: "hostname:=".toList) h.name _ ([','] ++ ' ' :: portWord)
    (intToString h.port) ncKey (intToString h.nc) ipKey h.localIp _ ['"', '\x7d'] tail
    (by decide : "\t\x7bhostname:=".toList = _) (by decide : ", listeningPort:=\"".toList = _)
    (by decide : "\"\x7d".toList = _)
  have hport : ∀ t : Text, ([','] ++ ' ' :: portWord) ++ t = [','] ++ ' ' :: (portWord ++ t) :=
    fun t => rfl
  rw [hport] at hentry
  exact hentry

/-- The proxies of a text are the entries. -/
lemma diaproxyInfo_eq {g : Globals} (hg : g.trafficType = .ismsda ∨ g.trafficType = .esm) :
    diaproxyInfo g = "Diaproxy_info_list:=\x7b ".toList ++ '\n' ::
      (unlines (entryLines g.diaProxy) ++ "\x7d\n\n".toList) := by
  have hlines : g.diaProxy.zipIdx.flatMap (fun x => diaproxyEntry x.1 ++
      (if x.2 < g.diaProxy.length - 1 then ",".toList else []) ++ "\n".toList) =
        unlines (entryLines g.diaProxy) := by
    rw [unlines, entryLines, List.flatMap_map]
    refine congrArg (fun f => List.flatMap f _) (funext fun x => ?_)
    exact congrArg (fun l => l ++ ['\n']) diaproxyEntry_eq
  have hhead : "Diaproxy_info_list:=\x7b \n".toList = "Diaproxy_info_list:=\x7b ".toList ++ ['\n'] := by
    decide
  have hregroup : ∀ a b c d : Text, a = b ++ ['\n'] → a ++ c ++ d = b ++ '\n' :: (c ++ d) := by
    rintro _ b c d rfl
    simp only [List.append_assoc, List.cons_append, List.nil_append]
  rw [diaproxyInfo, if_pos hg, hlines]
  exact hregroup _ _ _ _ hhead

/-- A number consists of digits, and of a sign. -/
lemma isDigit_of_mem_intToString {n : ℤ} {c : Char} (hc : c ∈ intToString n) :
    c = '-' ∨ c.isDigit = true := by
  have hdigits : ∀ m : ℕ, c ∈ Nat.toDigits 10 m → c.isDigit = true :=
    fun m hm => Nat.isDigit_of_mem_toDigits (by decide) (by decide) hm
  cases n with
  | ofNat m => exact .inr (hdigits m hc)
  | negSucc m => exact (List.mem_cons.mp hc).imp id (hdigits _)

/-- The keys of an entry, and what stands behind it. -/
def entryKeys (tail : Text) : List Text :=
  ['\t' :: '\x7b' :: "hostname:=".toList, [','] ++ ' ' :: portWord, ncKey, ipKey, ['"', '\x7d'], tail]

/-- The other characters of an entry are those of the host. -/
lemma notMem_entry {c : Char} (hkeys : ∀ t ∈ entryKeys tail, c ∉ t) (hsign : c ≠ '-')
    (hdigit : c.isDigit = false) (hh : c ∉ h.name ++ h.localIp) :
    c ∉ '\t' :: entryText h tail := by
  have hnumber : ∀ n : ℤ, c ∉ intToString n := by
    intro n hmem
    rcases isDigit_of_mem_intToString hmem with heq | htrue
    · exact hsign heq
    · exact absurd htrue (by simp [hdigit])
  have hgroup : '\t' :: entryText h tail = ('\t' :: '\x7b' :: "hostname:=".toList) ++ (h.name ++
      (([','] ++ ' ' :: portWord) ++ (intToString h.port ++ (ncKey ++ (intToString h.nc ++
        (ipKey ++ (h.localIp ++ (['"', '\x7d'] ++ tail)))))))) := rfl
  have happend : ∀ {a b : Text}, c ∉ a → c ∉ b → c ∉ a ++ b := fun ha hb hmem =>
    (List.mem_append.mp hmem).elim ha hb
  obtain ⟨hname, hip⟩ := not_or.mp (mt List.mem_append.mpr hh)
  obtain ⟨hk₁, hk₂, hk₃, hk₄, hk₅, hk₆⟩ : c ∉ '\t' :: '\x7b' :: "hostname:=".toList ∧
      c ∉ [','] ++ ' ' :: portWord ∧ c ∉ ncKey ∧ c ∉ ipKey ∧ c ∉ ['"', '\x7d'] ∧ c ∉ tail := by
    simpa only [entryKeys, List.forall_mem_cons, List.not_mem_nil, IsEmpty.forall_iff,
      implies_true, and_true] using hkeys
  rw [hgroup]
  exact happend hk₁ (happend hname (happend hk₂ (happend (hnumber _) (happend hk₃
    (happend (hnumber _) (happend hk₄ (happend hip (happend hk₅ hk₆))))))))

/-- An entry is one line. -/
lemma OneLine.entry (hh : OneLine h) (htail : tail = [] ∨ tail = [',']) :
    '\n' ∉ '\t' :: entryText h tail ∧ '\r' ∉ '\t' :: entryText h tail := by
  have hkeys : ∀ t ∈ entryKeys tail, '\n' ∉ t ∧ '\r' ∉ t := by
    rcases htail with rfl | rfl <;> decide
  constructor
  · exact notMem_entry (fun t ht => (hkeys t ht).1) (by decide) (by decide) hh.newline
  · exact notMem_entry (fun t ht => (hkeys t ht).2) (by decide) (by decide) hh.carriageReturn

end Entries

/-! ## The file -/

section File

variable {asctime batFiles a b : Text} {o : ScenarioDeployGenerator.Options} {out : Output}

/-- A calm text does not contain the key of the port. -/
lemma Calm.no_portKey (h : Calm a) : ¬ portKey <:+: a := by
  have hkey : ", li".toList <:+: portKey := ⟨['"'], "steningPort:=\"".toList, by decide⟩
  exact fun hin => h.not_key (hkey.trans hin)

/-- The deployment file ends with the end of a line. -/
lemma deployment_eq (h : ScenarioDeployGenerator.main o = .ok out) :
    ∃ t, out.deployment = t ++ ['\n'] := by
  rw [ScenarioDeployGenerator.main] at h
  cases hg : ScenarioDeployGenerator.plan o with
  | error f =>
    rw [hg] at h
    cases h
  | ok g =>
    rw [hg] at h
    obtain ⟨ranged, -, rfl⟩ := eq_of_writeFiles h
    have hend : "\n\n".toList = ['\n'] ++ ['\n'] := by decide
    have hregroup : ∀ a b c d e f k l m t : Text, m = t ++ ['\n'] →
        a ++ b ++ c ++ d ++ (e ++ f ++ k ++ l ++ m) =
          (a ++ b ++ c ++ d ++ (e ++ f ++ k ++ l ++ t)) ++ ['\n'] := by
      rintro a b c d e f k l _ t rfl
      simp only [List.append_assoc]
    exact ⟨_, hregroup _ _ _ _ _ _ _ _ _ _ hend⟩

/-- **The proxies of the patched file** are found in the entries that the generator wrote. -/
lemma findDiaproxyList_file (h : ScenarioDeployGenerator.main o = .ok out)
    (hnewline : '\n' ∉ asctime) (hcomma : ',' ∉ asctime) (hbat : ¬ portKey <:+: batFiles)
    (hhosts : ∀ x ∈ out.globals.diaProxy, OneLine x) :
    findDiaproxyList (patchConfig asctime (out.deployment ++ batFiles ++ out.scenarioText)) =
      if out.globals.trafficType = .ismsda ∨ out.globals.trafficType = .esm then
        out.globals.diaProxy.zipIdx.filterMap fun x =>
          diaproxyGroups (entryText x.1 (separator (out.globals.diaProxy.length - 1) x.2))
      else [] := by
  obtain ⟨hdeployment, hrest⟩ := calm_of_main h
  obtain ⟨t, ht⟩ := deployment_eq h
  -- the three parts: the deployment, the files up to the first line of the scenario, the scenario
  have hparts : splitlines (out.deployment ++ batFiles ++ out.scenarioText) =
      splitlines out.deployment ++ (splitlines (batFiles ++ '[' :: "MODULE_PARAMETERS]\n".toList) ++
        splitlines (diaproxyInfo out.globals ++ scenarioRest out.globals out.scenario)) := by
    have hhead : "[MODULE_PARAMETERS]\n".toList = '[' :: "MODULE_PARAMETERS]".toList ++ ['\n'] := by
      decide
    have hmodule : "MODULE_PARAMETERS]\n".toList = "MODULE_PARAMETERS]".toList ++ ['\n'] := by decide
    have hregroup : ∀ a b c d e : Text, e = '[' :: c ++ ['\n'] →
        a ++ ['\n'] ++ b ++ (e ++ d) = a ++ '\n' :: ((b ++ '[' :: c) ++ '\n' :: d) := by
      rintro a b c d _ rfl
      simp only [List.append_assoc, List.cons_append, List.nil_append]
    have hlast : ∀ a b c : Text, c = b ++ ['\n'] → a ++ '[' :: c = (a ++ '[' :: b) ++ ['\n'] := by
      rintro a b _ rfl
      simp only [List.append_assoc, List.cons_append]
    rw [Output.scenarioText, scenarioText_eq, ht, hregroup _ _ _ _ _ hhead,
      splitlines_append_newline, splitlines_append_newline (a := batFiles ++ _), hlast _ _ _ hmodule]
  have hmodule : ¬ portKey <:+: batFiles ++ '[' :: "MODULE_PARAMETERS]\n".toList := by
    intro hin
    rcases (TextSearch.infix_append_cons_iff (by decide)).mp hin with h | h
    · exact hbat h
    · exact absurd h (by decide)
  rw [findDiaproxyList_patchConfig hnewline, hparts, List.filterMap_append, List.filterMap_append,
    readBack_splitlines_eq_nil hcomma (Calm.no_portKey hdeployment),
    readBack_splitlines_eq_nil hcomma hmodule, List.nil_append, List.nil_append]
  split_ifs with htype
  · have hlines : ∀ l ∈ entryLines out.globals.diaProxy, '\n' ∉ l ∧ '\r' ∉ l := by
      intro l hl
      obtain ⟨x, hx, rfl⟩ := List.mem_map.mp hl
      exact (hhosts x.1 (List.fst_mem_of_mem_zipIdx hx)).entry (separator_cases _ _)
    have hentries : (entryLines out.globals.diaProxy).filterMap (readBack asctime) =
        out.globals.diaProxy.zipIdx.filterMap fun x =>
          diaproxyGroups (entryText x.1 (separator (out.globals.diaProxy.length - 1) x.2)) := by
      rw [entryLines, List.filterMap_map]
      exact congrArg (fun f => List.filterMap f _) (funext fun x => readBack_entry (separator_cases _ _))
    have hkey : ¬ portKey <:+: "Diaproxy_info_list:=\x7b ".toList := by decide
    have hcalm : Calm ("\x7d\n\n".toList ++ scenarioRest out.globals out.scenario) :=
      Calm.append (.literal (by decide)) hrest
    rw [diaproxyInfo_eq htype, List.append_assoc, List.cons_append, List.append_assoc,
      splitlines_append (by decide) (by decide), splitlines_unlines_append hlines,
      List.filterMap_cons_none (readBack_eq_none hcomma hkey), List.filterMap_append, hentries,
      readBack_splitlines_eq_nil hcomma (Calm.no_portKey hcalm), List.append_nil]
  · rw [diaproxyInfo, if_neg htype, List.nil_append,
      readBack_splitlines_eq_nil hcomma (Calm.no_portKey hrest)]

end File

end RunTitansim

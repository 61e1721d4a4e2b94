import StTools.RunTitansim.ConfigHandler
import StTools.ScenarioDeployGenerator.CalmText
import Mathlib.Data.List.Basic
import Mathlib.Data.List.Count

/-!
# The entry of a Diameter proxy

The regular expression of `find_diaproxy_list` on the entries that `writeScenarioFile` writes.  An
entry has three blanks, and each of the three keys behind the host name has one; so a match puts the
keys where they were written, and the groups are what was written between them.
-/

namespace RunTitansim

open ScenarioDeployGenerator (Text Host NoBlank intToString noBlank_intToString)
open GreedyMatch

/-! ## Matches -/

section Match

variable {t : Text} {y : Text × Text × Text × Text}

/-- The text is put together from the groups and the keys. -/
structure IsMatch (t start : Text) (y : Text × Text × Text × Text) (rest : Text) : Prop where
  eq : t = start ++ (hostKey ++ (y.1 ++ (portKey ++ (y.2.1 ++ (ncKey ++ (y.2.2.1 ++ (ipKey ++
    (y.2.2.2 ++ (['"', '\x7d'] ++ rest)))))))))
  start_ne : start ≠ []
  host_ne : y.1 ≠ []
  port_ne : y.2.1 ≠ []
  nc_ne : y.2.2.1 ≠ []
  nc_digits : ∀ c ∈ y.2.2.1, c.isDigit = true
  start_dot : ∀ c ∈ start, isDot c = true
  host_dot : ∀ c ∈ y.1, isDot c = true
  port_dot : ∀ c ∈ y.2.1, isDot c = true
  localIp_dot : ∀ c ∈ y.2.2.2, isDot c = true

/-- What the regular expression finds is a match. -/
lemma isMatch_of_diaproxyGroups (h : diaproxyGroups t = some y) :
    ∃ start rest, IsMatch t start y rest := by
  obtain ⟨⟨start, host, port, nc, localIp, u⟩, hplus, rfl⟩ := Option.map_eq_some_iff.mp h
  obtain ⟨r₁, rfl, hstart, hstartDot, h₁⟩ := of_plus_eq_some hplus
  obtain ⟨r₂, rfl, h₂⟩ := literal_eq_some_iff.mp h₁
  obtain ⟨r₃, rfl, hhost, hhostDot, h₃⟩ := of_plus_eq_some h₂
  obtain ⟨r₄, rfl, h₄⟩ := literal_eq_some_iff.mp h₃
  obtain ⟨r₅, rfl, hport, hportDot, h₅⟩ := of_plus_eq_some h₄
  obtain ⟨r₆, rfl, h₆⟩ := literal_eq_some_iff.mp h₅
  obtain ⟨r₇, rfl, hnc, hncDot, h₇⟩ := of_plus_eq_some h₆
  obtain ⟨r₈, rfl, h₈⟩ := literal_eq_some_iff.mp h₇
  obtain ⟨r₉, rfl, hipDot, h₉⟩ := of_star_eq_some h₈
  obtain ⟨rest, rfl, -⟩ := literal_eq_some_iff.mp h₉
  exact ⟨start, rest, rfl, hstart, hhost, hport, hnc, hncDot, hstartDot, hhostDot, hportDot, hipDot⟩

/-- Where there is a match, the regular expression finds one. -/
lemma isSome_diaproxyGroups {start rest : Text} (h : IsMatch t start y rest) :
    (diaproxyGroups t).isSome := by
  have hliteral : ∀ {β : Type} (pat r : Text) (k : Text → Option β), (k r).isSome →
      (literal pat k (pat ++ r)).isSome := by
    intro β pat r k hk
    obtain ⟨b, hb⟩ := Option.isSome_iff_exists.mp hk
    exact Option.isSome_iff_exists.mpr ⟨b, literal_eq_some_iff.mpr ⟨r, rfl, hb⟩⟩
  rw [diaproxyGroups, Option.isSome_map, h.eq]
  refine isSome_plus h.start_ne h.start_dot (hliteral _ _ _ ?_)
  refine isSome_plus h.host_ne h.host_dot (hliteral _ _ _ ?_)
  refine isSome_plus h.port_ne h.port_dot (hliteral _ _ _ ?_)
  refine isSome_plus h.nc_ne h.nc_digits (hliteral _ _ _ ?_)
  exact isSome_star h.localIp_dot (hliteral _ _ _ rfl)

end Match

/-! ## Entries -/

/-- The key of the port, behind its blank. -/
def portWord : Text := "listeningPort:=\"".toList

/-- The key of the number of connections, behind its blank. -/
def ncWord : Text := "connections_number:=".toList

/-- The key of the local address, behind its blank. -/
def ipWord : Text := "local_ip:=\"".toList

lemma portKey_eq : portKey = ['"', ','] ++ ' ' :: portWord := by decide

lemma ncKey_eq : ncKey = ['"', ','] ++ ' ' :: ncWord := by decide

lemma ipKey_eq : ipKey = [','] ++ ' ' :: ipWord := by decide

/-- The entry of a proxy without the tabulator, and with what follows on its line. -/
def entryText (h : Host) (tail : Text) : Text :=
  ('\x7b' :: "hostname:=".toList) ++ (h.name ++ ([','] ++ ' ' :: (portWord ++ (intToString h.port ++
    (ncKey ++ (intToString h.nc ++ (ipKey ++ (h.localIp ++ (['"', '\x7d'] ++ tail)))))))))

section Entry

variable {h : Host} {tail start rest : Text} {y : Text × Text × Text × Text}

/-- Two texts are the same up to the first place of a character, and behind it. -/
lemma eq_of_append_cons {c : Char} {a b a' b' : Text} (ha : c ∉ a) (ha' : c ∉ a')
    (heq : a ++ c :: b = a' ++ c :: b') : a = a' ∧ b = b' := by
  induction a generalizing a' with
  | nil =>
    cases a' with
    | nil => exact ⟨rfl, (List.cons.inj heq).2⟩
    | cons d ds => exact absurd ((List.cons.inj heq).1 ▸ List.mem_cons_self) ha'
  | cons d ds ih =>
    cases a' with
    | nil => exact absurd ((List.cons.inj heq).1 ▸ List.mem_cons_self) ha
    | cons e es =>
      obtain ⟨rfl, htail⟩ := List.cons.inj heq
      obtain ⟨rfl, hb⟩ := ih (fun h => ha (List.mem_cons_of_mem _ h))
        (fun h => ha' (List.mem_cons_of_mem _ h)) htail
      exact ⟨rfl, hb⟩

/-- An entry has three blanks. -/
lemma count_entryText (hname : NoBlank h.name) (hip : NoBlank h.localIp) (htail : NoBlank tail) :
    (entryText h tail).count ' ' = 3 := by
  have hzero : ∀ t : Text, NoBlank t → t.count ' ' = 0 := fun t ht => List.count_eq_zero.mpr ht
  have hhost : ('\x7b' :: "hostname:=".toList).count ' ' = 0 := by decide
  have hport : ([','] ++ ' ' :: portWord).count ' ' = 1 := by decide
  have hnc : ncKey.count ' ' = 1 := by decide
  have hlocal : ipKey.count ' ' = 1 := by decide
  have hends : (['"', '\x7d'] : Text).count ' ' = 0 := by decide
  have hgroup : entryText h tail = ('\x7b' :: "hostname:=".toList) ++ (h.name ++
      (([','] ++ ' ' :: portWord) ++ (intToString h.port ++ (ncKey ++ (intToString h.nc ++
        (ipKey ++ (h.localIp ++ (['"', '\x7d'] ++ tail)))))))) := rfl
  rw [hgroup]
  simp only [List.count_append, hzero _ hname, hzero _ hip, hzero _ htail,
    hzero _ (noBlank_intToString _), hhost, hport, hnc, hlocal, hends]

/-- A match of an entry has no blanks outside of the keys. -/
lemma IsMatch.noBlank (hm : IsMatch (entryText h tail) start y rest) (hname : NoBlank h.name)
    (hip : NoBlank h.localIp) (htail : NoBlank tail) :
    NoBlank start ∧ NoBlank y.1 ∧ NoBlank y.2.1 ∧ NoBlank y.2.2.1 ∧ NoBlank y.2.2.2 := by
  have hcount := congrArg (List.count ' ') hm.eq
  rw [count_entryText hname hip htail] at hcount
  simp only [List.count_append] at hcount
  have h₁ : portKey.count ' ' = 1 := by decide
  have h₂ : ncKey.count ' ' = 1 := by decide
  have h₃ : ipKey.count ' ' = 1 := by decide
  rw [h₁, h₂, h₃] at hcount
  simp only [NoBlank, ← List.count_eq_zero]
  omega

/-- The groups of a match of an entry are what was written between the keys. -/
lemma IsMatch.parts (hm : IsMatch (entryText h tail) start y rest) (hname : NoBlank h.name)
    (hip : NoBlank h.localIp) (htail : NoBlank tail) :
    start ++ (hostKey ++ (y.1 ++ ['"', ','])) = ('\x7b' :: "hostname:=".toList) ++ (h.name ++ [',']) ∧
      y.2.1 = intToString h.port ∧ y.2.2.1 = intToString h.nc ∧
      y.2.2.2 ++ '"' :: '\x7d' :: rest = h.localIp ++ '"' :: '\x7d' :: tail := by
  obtain ⟨hstart, hhost, hport, hnc, -⟩ := hm.noBlank hname hip htail
  have hleft : entryText h tail = (('\x7b' :: "hostname:=".toList) ++ (h.name ++ [','])) ++ ' ' ::
      ((portWord ++ (intToString h.port ++ ['"', ','])) ++ ' ' ::
        ((ncWord ++ (intToString h.nc ++ [','])) ++ ' ' ::
          (ipWord ++ (h.localIp ++ '"' :: '\x7d' :: tail)))) := by
    rw [entryText, ncKey_eq, ipKey_eq]
    simp only [List.append_assoc, List.cons_append, List.nil_append]
  have hright : entryText h tail = (start ++ (hostKey ++ (y.1 ++ ['"', ',']))) ++ ' ' ::
      ((portWord ++ (y.2.1 ++ ['"', ','])) ++ ' ' ::
        ((ncWord ++ (y.2.2.1 ++ [','])) ++ ' ' ::
          (ipWord ++ (y.2.2.2 ++ '"' :: '\x7d' :: rest)))) := by
    rw [hm.eq, portKey_eq, ncKey_eq, ipKey_eq]
    simp only [List.append_assoc, List.cons_append, List.nil_append]
  have hcons : ∀ {a b : Text}, NoBlank a → NoBlank b → NoBlank (a ++ b) := fun ha hb h =>
    (List.mem_append.mp h).elim ha hb
  have hkey : NoBlank hostKey := by decide
  have hfirst : NoBlank ('\x7b' :: "hostname:=".toList) := by decide
  have hwords : NoBlank portWord ∧ NoBlank ncWord := by decide
  have hends : NoBlank ['"', ','] ∧ NoBlank [','] := by decide
  have hint := noBlank_intToString
  obtain ⟨h₁, htail₁⟩ := eq_of_append_cons (hcons hfirst (hcons hname hends.2))
    (hcons hstart (hcons hkey (hcons hhost hends.1))) (hleft.symm.trans hright)
  obtain ⟨h₂, htail₂⟩ := eq_of_append_cons (hcons hwords.1 (hcons (hint _) hends.1))
    (hcons hwords.1 (hcons hport hends.1)) htail₁
  obtain ⟨h₃, h₄⟩ := eq_of_append_cons (hcons hwords.2 (hcons (hint _) hends.2))
    (hcons hwords.2 (hcons hnc hends.2)) htail₂
  refine ⟨h₁.symm, ?_, ?_, ?_⟩
  · exact (List.append_cancel_right (List.append_cancel_left h₂)).symm
  · exact (List.append_cancel_right (List.append_cancel_left h₃)).symm
  · exact (List.append_cancel_left h₄).symm

/-- An entry with a quoted host name gives back what was written. -/
lemma diaproxyGroups_entryText {host : Text} (hname : h.name = '"' :: (host ++ ['"']))
    (hhost : host ≠ []) (hcolon : ':' ∉ host) (hblank : NoBlank host) (hip : NoBlank h.localIp)
    (hquote : '"' ∉ h.localIp) (hport : 0 ≤ h.port) (hnc : 0 ≤ h.nc)
    (hdot : ∀ c ∈ host ++ h.localIp, isDot c = true) (htail : NoBlank tail) (hquote' : '"' ∉ tail) :
    diaproxyGroups (entryText h tail) =
      some (host, intToString h.port, intToString h.nc, h.localIp) := by
  have hdigits : ∀ n : ℤ, 0 ≤ n → intToString n ≠ [] ∧ ∀ c ∈ intToString n, c.isDigit = true := by
    intro n hn
    obtain ⟨m, rfl⟩ := Int.eq_ofNat_of_zero_le hn
    exact ⟨Nat.toDigits_ne_nil, fun c hc => Nat.isDigit_of_mem_toDigits (by decide) (by decide) hc⟩
  have hdigitDot : ∀ c : Char, c.isDigit = true → isDot c = true := by
    intro c hc
    refine decide_eq_true fun heq => ?_
    subst heq
    exact absurd hc (by decide)
  have hmatch : IsMatch (entryText h tail) ['\x7b']
      (host, intToString h.port, intToString h.nc, h.localIp) tail := by
    refine ⟨?_, List.cons_ne_nil _ _, hhost, (hdigits _ hport).1, (hdigits _ hnc).1,
      (hdigits _ hnc).2, ?_, ?_, ?_, ?_⟩
    · have hkey : hostKey = "hostname:=".toList ++ ['"'] := by decide
      rw [entryText, hname, hkey, portKey_eq]
      simp only [List.append_assoc, List.cons_append, List.nil_append]
    · exact fun c hc => List.mem_singleton.mp hc ▸ rfl
    · exact fun c hc => hdot c (List.mem_append_left _ hc)
    · exact fun c hc => hdigitDot c ((hdigits _ hport).2 c hc)
    · exact fun c hc => hdot c (List.mem_append_right _ hc)
  obtain ⟨y, hy⟩ := Option.isSome_iff_exists.mp (isSome_diaproxyGroups hmatch)
  obtain ⟨start, rest, hm⟩ := isMatch_of_diaproxyGroups hy
  have hnameBlank : NoBlank h.name := by
    rw [hname]
    intro hmem
    rcases List.mem_cons.mp hmem with heq | hmem
    · exact absurd heq (by decide)
    · exact (List.mem_append.mp hmem).elim hblank (by decide)
  obtain ⟨hfirst, hport', hnc', hlast⟩ := hm.parts hnameBlank hip htail
  have hhost' : y.1 = host := by
    have hkey : hostKey = "hostname".toList ++ ':' :: ['=', '"'] := by decide
    have hname' : '\x7b' :: "hostname:=".toList = ('\x7b' :: "hostname".toList) ++ ':' :: ['='] := by
      decide
    rw [hkey, hname, hname'] at hfirst
    have hleft : (start ++ "hostname".toList) ++ ':' :: ('=' :: '"' :: (y.1 ++ ['"', ','])) =
        ('\x7b' :: "hostname".toList) ++ ':' :: ('=' :: '"' :: (host ++ ['"', ','])) := by
      simpa only [List.append_assoc, List.cons_append, List.nil_append] using hfirst
    have hstart : ':' ∉ start ++ "hostname".toList := by
      have hcount := congrArg (List.count ':') hleft
      have h₁ : List.count ':' ('\x7b' :: "hostname".toList) = 0 := by decide
      have h₂ : List.count ':' (host ++ ['"', ',']) = 0 := by
        rw [List.count_append, List.count_eq_zero.mpr hcolon]
        decide
      have h₃ : List.count ':' ('=' :: '"' :: (host ++ ['"', ','])) = 0 := by
        rw [List.count_cons_of_ne (by decide), List.count_cons_of_ne (by decide), h₂]
      simp only [List.count_append, List.count_cons_self, h₁, h₃] at hcount
      rw [← List.count_eq_zero, List.count_append]
      omega
    obtain ⟨-, hrest⟩ := eq_of_append_cons hstart (by decide) hleft
    exact List.append_cancel_right (List.cons.inj (List.cons.inj hrest).2).2
  have hip' : y.2.2.2 = h.localIp := by
    have hcount := congrArg (List.count '"') hlast
    rw [List.count_append, List.count_append, List.count_cons_self, List.count_cons_self,
      List.count_eq_zero.mpr hquote, List.count_cons_of_ne (by decide),
      List.count_cons_of_ne (by decide), List.count_eq_zero.mpr hquote'] at hcount
    have hlocal : '"' ∉ y.2.2.2 := List.count_eq_zero.mp (by omega)
    exact (eq_of_append_cons hlocal hquote hlast).1
  rw [hy]
  exact congrArg some (Prod.ext hhost' (Prod.ext hport' (Prod.ext hnc' hip')))

end Entry

end RunTitansim

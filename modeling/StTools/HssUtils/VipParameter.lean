import StTools.ScenarioDeployGenerator.Text
import StTools.Lib.GreedyMatch
import StTools.Lib.TextSearch
import Mathlib.Data.List.Basic

/-!
# Lists of addresses

The addresses of a node are one parameter: IPv4 addresses and IPv6 addresses in brackets, separated
by colons, with nothing between two colons where an address is missing.  `parse_vip_parameter` finds
the addresses and the separators with a regular expression and walks over them with one flag.

The flag says whether the entry that is being read is still empty.  `parseVipParameter_join` is the
round trip: every list whose last entry is an address is read back with all its empty places.
-/

namespace HssUtils

open ScenarioDeployGenerator (Text)
open GreedyMatch TextSearch

/-! ## The parser -/

/-- The groups `ipv4`, `ipv6` and `separator` of a match. -/
structure VipMatch where
  ipv4 : Text
  ipv6 : Text
  separator : Text
  deriving DecidableEq

/-- The class `[\d.]`. -/
def isIpv4Char (c : Char) : Bool := c.isDigit || c == '.'

/-- The class `[0-9a-fA-F\.:]`. -/
def isIpv6Char (c : Char) : Bool :=
  c.isDigit || ('a' ≤ c && c ≤ 'f') || ('A' ≤ c && c ≤ 'F') || c == '.' || c == ':'

/-- The pattern `([\d.]+)|\[([0-9a-fA-F\.:]*)\]|(:)`. -/
def vipPattern (t : Text) : Option (VipMatch × Text) :=
  ((plus isIpv4Char some t).map fun x => (⟨x.1, [], []⟩, x.2)) <|>
    (literal ['['] (fun t => star isIpv6Char (literal [']'] some) t) t).map
      (fun x => (⟨[], x.1, []⟩, x.2)) <|>
    (literal [':'] some t).map fun rest => (⟨[], [], [':']⟩, rest)

/-- One round of the loop: the flag `empty`, and the result. -/
def vipStep (s : Bool × List Text) (vip : VipMatch) : Bool × List Text :=
  if vip.ipv4 ≠ [] then (false, s.2 ++ [vip.ipv4])
  else if vip.ipv6 ≠ [] then (false, s.2 ++ [vip.ipv6])
  else if s.1 then (s.1, s.2 ++ [[]])
  else (true, s.2)

/-- `parse_vip_parameter`. -/
def parseVipParameter (parameter : Text) : List Text :=
  ((findAll vipPattern parameter.length parameter).foldl vipStep (true, [])).2

/-! ## Lists of entries -/

/-- An entry of the list. -/
inductive VipEntry
  | empty
  | ipv4 (address : Text) (hne : address ≠ []) (hchars : ∀ c ∈ address, isIpv4Char c = true)
  | ipv6 (address : Text) (hne : address ≠ []) (hchars : ∀ c ∈ address, isIpv6Char c = true)

namespace VipEntry

/-- The address of an entry. -/
def address : VipEntry → Text
  | empty => []
  | ipv4 a _ _ => a
  | ipv6 a _ _ => a

/-- An entry as it is written in the parameter. -/
def text : VipEntry → Text
  | empty => []
  | ipv4 a _ _ => a
  | ipv6 a _ _ => '[' :: a ++ [']']

/-- What the pattern finds of an entry. -/
def found : VipEntry → List VipMatch
  | empty => []
  | ipv4 a _ _ => [⟨a, [], []⟩]
  | ipv6 a _ _ => [⟨[], a, []⟩]

end VipEntry

/-- The entries joined by colons. -/
def joinVips (entries : List VipEntry) : Text := [':'].intercalate (entries.map VipEntry.text)

/-! ## Reading the entries back -/

variable {t rest : Text} {m : VipMatch} {e : VipEntry}

/-- A match takes at least one character. -/
lemma length_lt_of_vipPattern (h : vipPattern t = some (m, rest)) : rest.length < t.length := by
  simp only [vipPattern, Option.orElse_eq_orElse, Option.orElse_eq_or, Option.or_eq_some_iff,
    Option.map_eq_some_iff, Prod.mk.injEq] at h
  rcases h with ⟨x, hx, -, rfl⟩ | ⟨-, ⟨x, hx, -, rfl⟩ | ⟨-, x, hx, -, rfl⟩⟩
  · obtain ⟨r, rfl, hne, -, hr⟩ := of_plus_eq_some hx
    cases hr
    simpa using List.length_pos_iff.mpr hne
  · obtain ⟨r, rfl, hr⟩ := literal_eq_some_iff.mp hx
    obtain ⟨r', rfl, -, hr'⟩ := of_star_eq_some hr
    obtain ⟨r'', rfl, hr''⟩ := literal_eq_some_iff.mp hr'
    cases hr''
    simp only [List.length_append, List.length_cons, List.length_nil]
    omega
  · obtain ⟨r, rfl, hr⟩ := literal_eq_some_iff.mp hx
    cases hr
    simp

/-- What is found in a text. -/
def vipMatches (t : Text) : List VipMatch := findAll vipPattern t.length t

/-- A match, and what is found behind it. -/
lemma vipMatches_of_match (h : vipPattern t = some (m, rest)) : vipMatches t = m :: vipMatches rest :=
  findAll_of_match (fun _ _ _ => length_lt_of_vipPattern) h

/-- A separator is found. -/
lemma vipMatches_separator : vipMatches (':' :: rest) = ⟨[], [], [':']⟩ :: vipMatches rest :=
  vipMatches_of_match rfl

/-- An entry in front of a separator or of the end is found. -/
lemma vipMatches_entry (hrest : ∀ c ∈ rest.head?, c = ':') :
    vipMatches (e.text ++ rest) = e.found ++ vipMatches rest := by
  cases e with
  | empty => rfl
  | ipv4 a hne hchars =>
    have hend : ∀ c ∈ rest.head?, isIpv4Char c = false := by
      intro c hc
      rw [hrest c hc]
      decide
    refine vipMatches_of_match ?_
    rw [VipEntry.text, vipPattern, plus_append hne hchars hend rfl]
    rfl
  | ipv6 a hne hchars =>
    have hin : star isIpv6Char (literal [']'] some) (a ++ ']' :: rest) = some (a, rest) := by
      refine star_append hchars ?_ (literal_eq_some_iff.mpr ⟨rest, rfl, rfl⟩)
      rintro _ ⟨⟩
      decide
    have h6 : literal ['['] (fun t => star isIpv6Char (literal [']'] some) t)
        ('[' :: (a ++ ']' :: rest)) = some (a, rest) := literal_eq_some_iff.mpr ⟨_, rfl, hin⟩
    have h4 : plus isIpv4Char some ('[' :: (a ++ ']' :: rest)) = none := rfl
    refine vipMatches_of_match ?_
    rw [VipEntry.text, List.cons_append, List.cons_append, List.append_assoc, List.singleton_append, vipPattern,
      h4, h6]
    rfl

/-- The joined entries behind the first one. -/
lemma joinVips_cons_cons (e e' : VipEntry) (entries : List VipEntry) :
    joinVips (e :: e' :: entries) = e.text ++ ':' :: joinVips (e' :: entries) := by
  simp [joinVips, List.intercalate]

/-! ## The loop -/

/-- The loop over what is found of an entry that is not empty. -/
lemma foldl_found (he : e ≠ .empty) (result : List Text) :
    e.found.foldl vipStep (true, result) = (false, result ++ [e.address]) := by
  cases e with
  | empty => exact absurd rfl he
  | ipv4 a hne hchars => simp [VipEntry.found, VipEntry.address, vipStep, hne]
  | ipv6 a hne hchars => simp [VipEntry.found, VipEntry.address, vipStep, hne]

/-- The separator behind an entry puts an empty entry into the result, and the next entry is
empty so far. -/
lemma foldl_found_separator (e : VipEntry) (result : List Text) :
    vipStep (e.found.foldl vipStep (true, result)) ⟨[], [], [':']⟩ = (true, result ++ [e.address]) := by
  by_cases he : e = .empty
  · rw [he]
    rfl
  · rw [foldl_found he]
    rfl

/-- The loop over the joined entries, by induction on the entries: in front of an entry the flag
is set. -/
lemma foldl_joinVips {entries : List VipEntry} (hlast : ∀ e ∈ entries.getLast?, e ≠ .empty)
    (hne : entries ≠ []) (result : List Text) :
    ((vipMatches (joinVips entries)).foldl vipStep (true, result)).2 =
      result ++ entries.map VipEntry.address := by
  induction entries generalizing result with
  | nil => exact absurd rfl hne
  | cons e entries ih =>
    cases entries with
    | nil =>
      have he : e ≠ .empty := hlast e rfl
      have hjoin : joinVips [e] = e.text ++ [] := by simp [joinVips, List.intercalate]
      rw [hjoin, vipMatches_entry (by simp), show vipMatches [] = [] from rfl, List.append_nil,
        foldl_found he]
      rfl
    | cons e' entries =>
      have hrest : ∀ c ∈ (':' :: joinVips (e' :: entries)).head?, c = ':' := by
        rintro _ ⟨⟩
        exact rfl
      rw [joinVips_cons_cons, vipMatches_entry hrest, vipMatches_separator, List.foldl_append, List.foldl_cons,
        foldl_found_separator, ih (by simpa using hlast) (List.cons_ne_nil _ _)]
      simp

/-- **The places of the entries are kept**: a list of entries that does not end with an empty one
is read back from its joined text. -/
theorem parseVipParameter_join (entries : List VipEntry) (hne : entries ≠ [])
    (hlast : entries.getLast hne ≠ .empty) :
    parseVipParameter (joinVips entries) = entries.map VipEntry.address := by
  refine foldl_joinVips (fun e he => ?_) hne []
  rw [List.getLast?_eq_some_getLast hne, Option.mem_some_iff] at he
  exact he ▸ hlast

/-- Two empty places, an IPv4 address and an IPv6 address. -/
theorem parseVipParameter_join_mixed :
    parseVipParameter "::10.0.0.1::[fe80::1]".toList =
      [[], [], "10.0.0.1".toList, [], "fe80::1".toList] :=
  parseVipParameter_join
    [.empty, .empty, .ipv4 "10.0.0.1".toList (by decide) (forall_mem_of_all (by decide)), .empty,
      .ipv6 "fe80::1".toList (by decide) (forall_mem_of_all (by decide))]
    (by simp) (by simp)

end HssUtils

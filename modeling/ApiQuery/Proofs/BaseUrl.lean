/-
  ApiQuery.Proofs.BaseUrl — a URI that stands for itself nowhere stays on the configured
  server.

  The URL of such a URI is the base URL with more text behind it, joined before any of it is
  read. A web URL has the authority that its place denotes: the text between the slashes after
  the scheme and the next slash, `?` or `#` (`parse_web`). Joining leaves the place as it is
  (`place_join`); so does trimming the base, unless the place ends with a blank or a control
  there, and then neither text has an authority (`authorityOf_snoc`).

  All this holds where the base URL has a place. A base URL of slashes only passes the checks
  of a configuration, and is refused as a URL; but joining takes its slashes away, and the
  first segment of the URI becomes the host (`stays_iff_hasPlace`).
-/

import ApiQuery.Proofs.Url.LowCharacters
import ApiQuery.Web.Client

namespace ApiQuery

namespace Url

/-! ## Cutting at a character -/

section Cut

variable {p : Char → Bool} {m : Char} (hm : p m = false)

include hm

theorem dropWhile_stop (a b : List Char) : (a ++ m :: b).dropWhile p = a.dropWhile p ++ m :: b := by
  induction a with
  | nil => simp [hm]
  | cons c a ih =>
    rw [List.cons_append, List.dropWhile_cons, List.dropWhile_cons, ih]
    split <;> rfl

theorem takeWhile_stop (a b : List Char) : (a ++ m :: b).takeWhile p = a.takeWhile p := by
  induction a with
  | nil => simp [hm]
  | cons c a ih =>
    rw [List.cons_append, List.takeWhile_cons, List.takeWhile_cons, ih]

theorem trimEnd_stop (a b : List Char) :
    ((a ++ m :: b).reverse.dropWhile p).reverse = a ++ m :: (b.reverse.dropWhile p).reverse := by
  have hr : (a ++ m :: b).reverse = b.reverse ++ m :: a.reverse := by simp
  rw [hr, dropWhile_stop hm, List.reverse_append, List.reverse_cons, List.reverse_reverse, List.append_assoc]
  rfl

end Cut

theorem exists_trimEnd (p : Char → Bool) (cs : List Char) :
    ∃ rest, cs = (cs.reverse.dropWhile p).reverse ++ rest ∧ ∀ c ∈ rest, p c = true := by
  refine ⟨(cs.reverse.takeWhile p).reverse, ?_, fun c hc => ?_⟩
  · rw [← List.reverse_append, List.takeWhile_append_dropWhile, List.reverse_reverse]
  · exact List.all_eq_true.1 List.all_takeWhile c (List.mem_reverse.1 hc)

theorem mem_of_mem_trimEnd {p : Char → Bool} {cs : List Char} {c : Char} (h : c ∈ (cs.reverse.dropWhile p).reverse) :
    c ∈ cs :=
  List.mem_reverse.1 ((List.dropWhile_suffix p).subset (List.mem_reverse.1 h))

theorem solid_append (a b : List Char) : solid (a ++ b) = solid a ++ solid b := List.filter_append ..

/-! ## Places -/

/-- The text of the authority in what follows the colon of a scheme. -/
def place (cs : List Char) : List Char := (cs.dropWhile (isSlash true)).takeWhile (!endsAuthority true ·)

theorem backslash_not_mem_place (cs : List Char) : '\\' ∉ place cs := fun h =>
  absurd (List.all_eq_true.1 List.all_takeWhile _ h) (by decide)

theorem place_of_slashes {cs : List Char} (h : ∀ c ∈ cs, isSlash true c = true) (more : List Char) :
    place (cs ++ more) = place more := by
  rw [place, List.dropWhile_append_of_pos h]
  rfl

/-- What the parser keeps of the text after the colon. -/
def kept (cs : List Char) : List Char := solid (cs.reverse.dropWhile isOuter).reverse

theorem kept_append_slash (a b : List Char) : kept (a ++ '/' :: b) = solid a ++ '/' :: kept b := by
  rw [kept, trimEnd_stop rfl, solid_append]
  rfl

/-- More text behind a slash leaves a place alone. -/
theorem place_append_slash {cs : List Char} (h : ∃ c ∈ cs, isSlash true c = false) (more : List Char) :
    place (cs ++ '/' :: more) = place cs := by
  obtain ⟨c, hc, hs⟩ := h
  have hne : (cs.dropWhile (isSlash true)).isEmpty = false := by
    rw [List.isEmpty_eq_false_iff, Ne, List.dropWhile_eq_nil_iff]
    exact fun hall => absurd ((hall c hc).symm.trans hs) nofun
  rw [place, List.dropWhile_append, hne, if_neg Bool.false_ne_true, takeWhile_stop rfl]
  rfl

/-- A text that has more than slashes, tabs and line ends. -/
def HasPlace (cs : List Char) : Prop := ∃ c ∈ cs, isSlash true c = false ∧ isInner c = false

theorem slashes_of_not_hasPlace {cs : List Char} (h : ¬ HasPlace cs) {c : Char} (hc : c ∈ cs) (hi : isInner c = false) :
    isSlash true c = true := by
  by_contra hs
  exact h ⟨c, hc, Bool.eq_false_iff.2 hs, hi⟩

theorem HasPlace.solid {cs : List Char} (h : HasPlace cs) : ∃ c ∈ solid cs, isSlash true c = false := by
  obtain ⟨c, hc, hs, hi⟩ := h
  exact ⟨c, List.mem_filter.2 ⟨hc, by simp [hi]⟩, hs⟩

/-- Slashes at the end may go. -/
theorem HasPlace.trimSlashesRight {cs : List Char} (h : HasPlace cs) : HasPlace (WebClient.trimSlashesRight cs) := by
  obtain ⟨c, hc, hs, hi⟩ := h
  obtain ⟨slashes, hcs, hall⟩ := exists_trimEnd (· == '/') cs
  rw [hcs] at hc
  rcases List.mem_append.1 hc with hc | hc
  · exact ⟨c, hc, hs, hi⟩
  · obtain rfl : c = '/' := by simpa using hall c hc
    cases hs

/-- Joining leaves the place as it is. -/
theorem place_join {cs : List Char} (h : HasPlace cs) (more : List Char) :
    place (solid (WebClient.trimSlashesRight cs) ++ '/' :: more) = place (solid cs) := by
  obtain ⟨slashes, hcs, hall⟩ := exists_trimEnd (· == '/') cs
  have hsolid : solid cs = solid (WebClient.trimSlashesRight cs) ++ solid slashes := by
    rw [← solid_append]
    exact congrArg solid hcs
  rw [place_append_slash h.trimSlashesRight.solid, hsolid]
  cases slashes with
  | nil => rw [solid, solid, List.filter_nil, List.append_nil]
  | cons d slashes =>
    obtain rfl : d = '/' := by simpa using hall d List.mem_cons_self
    exact (place_append_slash h.trimSlashesRight.solid (solid slashes)).symm

theorem low_stays {c : Char} (hc : IsLow c) : isSlash true c = false ∧ endsAuthority true c = false :=
  hc.of_all (P := fun d => isSlash true d = false ∧ endsAuthority true d = false) (by decide)

theorem place_append_low (cs : List Char) {low : List Char} (h : ∀ c ∈ low, IsLow c) :
    place (cs ++ low) = place cs ∨ ∃ z, place (cs ++ low) = z ++ low := by
  have hdrop : low.dropWhile (isSlash true) = low := by
    cases low with
    | nil => rfl
    | cons c low => rw [List.dropWhile_cons, (low_stays (h c List.mem_cons_self)).1, if_neg Bool.false_ne_true]
  have htake : low.takeWhile (!endsAuthority true ·) = low :=
    List.takeWhile_eq_self_iff.2 fun c hc => by rw [(low_stays (h c hc)).2]; rfl
  have hd : (cs ++ low).dropWhile (isSlash true) = cs.dropWhile (isSlash true) ++ low := by
    rw [List.dropWhile_append, hdrop]
    split
    · next he => rw [List.isEmpty_iff.1 he, List.nil_append]
    · rfl
  rw [place, hd, List.takeWhile_append, htake]
  split
  · exact .inr ⟨_, rfl⟩
  · exact .inl rfl

/-- Trimming the end leaves the place as it is, or takes a low character from its end. -/
theorem place_trimEnd (cs : List Char) :
    place (kept cs) = place (solid cs) ∨ ∃ z c, IsLow c ∧ place (solid cs) = z ++ [c] := by
  obtain ⟨outer, hcs, hall⟩ := exists_trimEnd isOuter cs
  obtain ⟨trimmed, ht⟩ : ∃ trimmed, trimmed = (cs.reverse.dropWhile isOuter).reverse := ⟨_, rfl⟩
  rw [kept, ← ht]
  rw [← ht] at hcs
  rw [hcs, solid_append]
  have hlow : ∀ c ∈ solid outer, IsLow c := fun c hc =>
    of_decide_eq_true (p := c.toNat ≤ 0x20) (hall c (List.mem_filter.1 hc).1)
  rcases place_append_low (solid trimmed) hlow with hp | ⟨z, hz⟩
  · exact .inl hp.symm
  · rcases List.eq_nil_or_concat (solid outer) with hnil | ⟨l, c, hc⟩
    · rw [hnil, List.append_nil]
      exact .inl rfl
    · rw [hc, List.concat_eq_append] at hz hlow ⊢
      exact .inr ⟨z ++ l, c, hlow c (by simp), by rw [hz, List.append_assoc]⟩

/-! ## Authorities -/

theorem splitUserinfo_snoc {c : Char} (hc : c ≠ '@') (cs : List Char) :
    ∃ user l, splitUserinfo (cs ++ [c]) = (user, l ++ [c]) ∧ ∀ d ∈ l, d ∈ cs := by
  have hspan : (cs ++ [c]).reverse.span (· != '@') =
      (c :: (cs.reverse.span (· != '@')).1, (cs.reverse.span (· != '@')).2) := by
    simp [List.span_eq_takeWhile_dropWhile, hc]
  rw [splitUserinfo, hspan]
  cases hr : (cs.reverse.span (· != '@')).2 with
  | nil => exact ⟨none, cs, rfl, fun _ hd => hd⟩
  | cons m user =>
    refine ⟨some user.reverse, (cs.reverse.span (· != '@')).1.reverse, by rw [← List.reverse_cons], fun d hd => ?_⟩
    rw [List.span_eq_takeWhile_dropWhile, List.mem_reverse] at hd
    exact List.mem_reverse.1 ((List.takeWhile_prefix _).subset hd)

theorem splitPort_snoc {c : Char} (hc : c ≠ ':') (inside : Bool) (cs : List Char) :
    (∃ l, splitPort inside (cs ++ [c]) = (l ++ [c], none)) ∨
      ∃ l p, splitPort inside (cs ++ [c]) = (l, some (p ++ [c])) ∧ ∀ d ∈ p, d ∈ cs := by
  induction cs generalizing inside with
  | nil => exact .inl ⟨[], by simp [splitPort, hc]⟩
  | cons d cs ih =>
    rw [List.cons_append, splitPort]
    split
    · exact .inr ⟨[], cs, rfl, fun e he => List.mem_cons_of_mem d he⟩
    · rcases ih (if d = '[' then true else if d = ']' then false else inside) with ⟨l, hl⟩ | ⟨l, p, hl, hp⟩
      · exact .inl ⟨d :: l, by rw [hl]; rfl⟩
      · exact .inr ⟨d :: l, p, by rw [hl], fun e he => List.mem_cons_of_mem d (hp e he)⟩

/-- No port is written with a low character at the end. -/
theorem port_snoc {c : Char} (hc : IsLow c) {cs : List Char} (h : '\\' ∉ cs) (scheme : List Char) :
    port scheme (cs ++ [c]) = .error .port := by
  have hdigit : c.isDigit = false := hc.of_all (P := fun d => d.isDigit = false) (by decide)
  have hne : c ≠ '\\' := hc.of_all (P := (· ≠ '\\')) (by decide)
  have hrest : (cs ++ [c]).dropWhile Char.isDigit = cs.dropWhile Char.isDigit ++ [c] := dropWhile_stop hdigit cs []
  have hhead : (cs.dropWhile Char.isDigit ++ [c]).head? ≠ some '\\' := by
    cases hd : cs.dropWhile Char.isDigit with
    | nil => simpa using hne
    | cons d r =>
      have hmem : d ∈ cs := (List.dropWhile_suffix _).subset (by rw [hd]; exact List.mem_cons_self)
      rintro he
      cases he
      exact h hmem
  unfold port
  dsimp only
  rw [hrest, if_pos (.inr ⟨by simp, hhead⟩)]

section Authority

variable {scheme text pl name : List Char} {user : Option (List Char)} {portText : Option (List Char)}
  (hu : splitUserinfo text = (user, pl)) (hp : splitPort false pl = (name, portText))

include hu hp

/-- An authority has a host and, where one is written, a port. -/
theorem parts_of_authorityOf {last : Bool} {r : Authority × List Char}
    (h : authorityOf scheme true last text = .ok r) :
    (∃ host, hostOf true name = .ok host) ∧ ∀ p, portText = some p → ∃ r, port scheme p = .ok r := by
  simp only [authorityOf, hu, hp] at h
  split at h
  · cases h
  · cases hh : hostOf true name with
    | error e => rw [hh] at h; cases h
    | ok host =>
      refine ⟨⟨host, rfl⟩, ?_⟩
      rintro p rfl
      cases hr : port scheme p with
      | error e =>
        simp only [hh, hr, bind, Except.bind] at h
        split at h <;> cases h
      | ok r => exact ⟨r, rfl⟩

/-- It does not matter whether the text goes on. -/
theorem authorityOf_last (last last' : Bool) {r : Authority × List Char} (h : authorityOf scheme true last text = .ok r) :
    authorityOf scheme true last' text = .ok r := by
  have hempty : ¬ (user = some [] ∧ pl = []) := by
    rintro ⟨-, rfl⟩
    obtain rfl : name = [] := congrArg Prod.fst hp.symm
    obtain ⟨⟨host, hh⟩, -⟩ := parts_of_authorityOf hu hp h
    cases hh
  have hno (b : Bool) : ¬ (user = some [] ∧ pl = [] ∧ !b) := fun hb => hempty ⟨hb.1, hb.2.1⟩
  simp only [authorityOf, hu, hp] at h ⊢
  rw [if_neg (hno last)] at h
  rw [if_neg (hno last'), h]

end Authority

/-- No authority is written with a low character at the end. -/
theorem authorityOf_snoc {c : Char} (hc : IsLow c) {cs : List Char} (h : '\\' ∉ cs) (scheme : List Char) (last : Bool)
    (r : Authority × List Char) : authorityOf scheme true last (cs ++ [c]) ≠ .ok r := by
  have hat : c ≠ '@' := hc.of_all (P := (· ≠ '@')) (by decide)
  have hcolon : c ≠ ':' := hc.of_all (P := (· ≠ ':')) (by decide)
  obtain ⟨user, l, hu, hl⟩ := splitUserinfo_snoc hat cs
  intro ha
  rcases splitPort_snoc hcolon false l with ⟨name, hp⟩ | ⟨name, p, hp, hsub⟩
  · obtain ⟨⟨host, hh⟩, -⟩ := parts_of_authorityOf hu hp ha
    rw [hostOf, if_pos rfl, if_neg (by simp)] at hh
    exact specialHost_snoc hc name host hh
  · obtain ⟨-, hport⟩ := parts_of_authorityOf hu hp ha
    obtain ⟨_, hr⟩ := hport _ rfl
    rw [port_snoc hc fun hm => h (hl _ (hsub _ hm))] at hr
    cases hr

/-! ## Web URLs -/

theorem afterSlashes_eq (scheme cs : List Char) :
    ∃ last rest, afterSlashes scheme true (cs.dropWhile (isSlash true)) =
      (authorityOf scheme true last (place cs)).map fun r => withTail scheme true (some r.1) (r.2 ++ rest) := by
  refine ⟨decide ((cs.dropWhile (isSlash true)).dropWhile (!endsAuthority true ·) = []),
    (cs.dropWhile (isSlash true)).dropWhile (!endsAuthority true ·), ?_⟩
  rw [afterSlashes, place]
  cases authorityOf scheme true _ _ <;> rfl

def IsWebScheme (scheme : List Char) : Prop := scheme = "http".toList ∨ scheme = "https".toList

section Web

variable {s : String} {scheme rest : List Char} (hw : IsWebScheme scheme) (hs : s.toList = scheme ++ ':' :: rest)

include hw hs

theorem parse_web : parse s = afterSlashes scheme true ((kept rest).dropWhile (isSlash true)) := by
  have hhead : s.toList.dropWhile isOuter = s.toList := by rw [hs]; rcases hw with rfl | rfl <;> rfl
  have htrim : trim s.toList = scheme ++ ':' :: (rest.reverse.dropWhile isOuter).reverse := by
    rw [trim, hhead, hs, trimEnd_stop rfl]
  have hsplit (cs : List Char) : splitScheme (solid (scheme ++ ':' :: cs)) = some (scheme, solid cs) := by
    rcases hw with rfl | rfl <;> rfl
  have hfile : scheme ≠ "file".toList := by rcases hw with rfl | rfl <;> decide
  have hspecial : isSpecial scheme = true := by rcases hw with rfl | rfl <;> rfl
  simp only [parse, htrim, hsplit]
  rw [if_neg hfile, if_pos hspecial, kept]

/-- A web URL has the authority that its place denotes. -/
theorem authority_of_parse {u : Url} (h : parse s = .ok u) :
    ∃ r, authorityOf scheme true true (place (kept rest)) = .ok r ∧
      u.scheme = scheme ∧ u.authority = some r.1 := by
  obtain ⟨last, tail, heq⟩ := afterSlashes_eq scheme (kept rest)
  rw [parse_web hw hs, heq] at h
  cases ha : authorityOf scheme true last (place (kept rest)) with
  | error e => rw [ha] at h; cases h
  | ok r =>
    rw [ha] at h
    cases h
    exact ⟨r, authorityOf_last rfl rfl last true ha, rfl, rfl⟩

theorem parse_of_authority {r : Authority × List Char}
    (h : authorityOf scheme true true (place (kept rest)) = .ok r) :
    ∃ u, parse s = .ok u ∧ u.scheme = scheme ∧ u.authority = some r.1 := by
  obtain ⟨last, tail, heq⟩ := afterSlashes_eq scheme (kept rest)
  rw [parse_web hw hs, heq, authorityOf_last rfl rfl true last h]
  exact ⟨_, rfl, rfl, rfl⟩

end Web

/-! ## Servers -/

/-- Requests for both URLs go to one server, in one way. -/
def SameServer (u v : Url) : Prop :=
  u.scheme = v.scheme ∧ ∃ a b, u.authority = some a ∧ v.authority = some b ∧ a.host = b.host ∧ a.port = b.port

end Url

/-! ## Joining -/

theorem isWebUrl_iff {s : String} :
    isWebUrl s = true ↔ ∃ scheme rest, Url.IsWebScheme scheme ∧ s.toList = scheme ++ ':' :: '/' :: '/' :: rest := by
  constructor
  · intro h
    rcases Bool.or_eq_true_iff.1 h with h | h
    · obtain ⟨rest, hr⟩ := List.isPrefixOf_iff_prefix.1 h
      exact ⟨_, rest, .inl rfl, hr.symm⟩
    · obtain ⟨rest, hr⟩ := List.isPrefixOf_iff_prefix.1 h
      exact ⟨_, rest, .inr rfl, hr.symm⟩
  · rintro ⟨scheme, rest, rfl | rfl, hs⟩
    · exact Bool.or_eq_true_iff.2 (.inl (List.isPrefixOf_iff_prefix.2 ⟨rest, hs.symm⟩))
    · exact Bool.or_eq_true_iff.2 (.inr (List.isPrefixOf_iff_prefix.2 ⟨rest, hs.symm⟩))

theorem ClientConfig.isWebUrl_of_validate {config : ClientConfig} (h : config.validate = .ok ()) :
    isWebUrl config.baseUrl = true := by
  unfold validate at h
  split at h
  · cases h
  · split at h
    · cases h
    · next hweb => simpa using hweb

namespace WebClient

open Url

/-- What follows the scheme of a URL. -/
def afterColon (s : String) : List Char := (s.toList.dropWhile (· ≠ ':')).drop 1

theorem afterColon_eq {s : String} {scheme rest : List Char} (hw : IsWebScheme scheme)
    (hs : s.toList = scheme ++ ':' :: rest) : afterColon s = rest := by
  rw [afterColon, hs]
  rcases hw with rfl | rfl <;> rfl

section Join

variable {base uri : String} {scheme rest : List Char} (hw : IsWebScheme scheme)
  (hs : base.toList = scheme ++ ':' :: rest)

include hs in
theorem address_of_relative (hweb : isWebUrl uri = false) (hne : uri ≠ "") :
    (address base uri).toList =
      scheme ++ ':' :: (trimSlashesRight rest ++ '/' :: trimSlashesLeft uri.toList) := by
  have htrim : trimSlashesRight (scheme ++ ':' :: rest) = scheme ++ ':' :: trimSlashesRight rest :=
    trimEnd_stop rfl scheme rest
  rw [address, if_neg (Bool.eq_false_iff.1 hweb), if_neg hne, String.toList_ofList, hs, htrim, List.append_assoc]
  rfl

theorem resolve_eq_ok {u : Url} : resolve base uri = .ok u ↔ Url.parse (address base uri) = .ok u := by
  rw [resolve]
  cases Url.parse (address base uri) with
  | error e => exact ⟨nofun, nofun⟩
  | ok v => rw [Except.mapError, Except.ok.injEq, Except.ok.injEq]

/-- What stands behind the joining slash has no part in the place. -/
theorem place_address (h : HasPlace rest) (more : List Char) :
    Url.place (kept (trimSlashesRight rest ++ '/' :: more)) = Url.place (solid rest) := by
  rw [kept_append_slash]
  exact place_join h _

include hw hs

/-- Over a base URL that has a place, nothing leaves the server. -/
theorem sameServer_of_hasPlace (h : HasPlace rest) (hweb : isWebUrl uri = false) {u : Url}
    (hu : resolve base uri = .ok u) : ∃ b, Url.parse base = .ok b ∧ SameServer u b := by
  by_cases hne : uri = ""
  · have hb : Url.parse base = .ok u := by
      rw [← resolve_eq_ok.1 hu, address, if_neg (Bool.eq_false_iff.1 hweb), if_pos hne]
    obtain ⟨r, -, -, hr⟩ := authority_of_parse hw hs hb
    exact ⟨u, hb, rfl, r.1, r.1, hr, hr, rfl, rfl⟩
  · obtain ⟨r, hr, hus, hua⟩ :=
      authority_of_parse hw (address_of_relative hs hweb hne) (resolve_eq_ok.1 hu)
    rw [place_address h] at hr
    have hplace : Url.place (kept rest) = Url.place (solid rest) := by
      refine (place_trimEnd rest).resolve_right ?_
      rintro ⟨z, c, hc, hz⟩
      have hback : '\\' ∉ z := fun hm =>
        backslash_not_mem_place (solid rest) (by rw [hz]; exact List.mem_append_left _ hm)
      rw [hz] at hr
      exact authorityOf_snoc hc hback scheme true r hr
    rw [← hplace] at hr
    obtain ⟨b, hb, hbs, hba⟩ := parse_of_authority hw hs hr
    exact ⟨b, hb, hus.trans hbs.symm, r.1, r.1, hua, hba, rfl, rfl⟩

/-- Slashes are no URL. -/
theorem parse_ne_ok_of_slashes (h : ¬ HasPlace rest) (b : Url) : Url.parse base ≠ .ok b := by
  intro hb
  obtain ⟨r, hr, -⟩ := authority_of_parse hw hs hb
  have hall : ∀ c ∈ kept rest, isSlash true c = true := by
    intro c hc
    obtain ⟨hc, hi⟩ := List.mem_filter.1 hc
    exact slashes_of_not_hasPlace h (mem_of_mem_trimEnd hc) (by simpa using hi)
  rw [← List.append_nil (kept rest), place_of_slashes hall] at hr
  rcases hw with rfl | rfl <;> cases hr

/-- Behind slashes, a segment is a host. -/
theorem resolve_h_of_slashes (h : ¬ HasPlace rest) : ∃ u, resolve base "h" = .ok u := by
  have hall : ∀ c ∈ solid (trimSlashesRight rest) ++ ['/'], isSlash true c = true := by
    intro c hc
    rcases List.mem_append.1 hc with hc | hc
    · obtain ⟨hc, hi⟩ := List.mem_filter.1 hc
      exact slashes_of_not_hasPlace h (mem_of_mem_trimEnd hc) (by simpa using hi)
    · obtain rfl : c = '/' := List.mem_singleton.1 hc
      rfl
  have hplace : Url.place (kept (trimSlashesRight rest ++ ['/', 'h'])) = ['h'] := by
    rw [kept_append_slash, List.append_cons, place_of_slashes hall]
    rfl
  obtain ⟨r, hr⟩ : ∃ r, authorityOf scheme true true ['h'] = .ok r := by
    rcases hw with rfl | rfl <;> exact ⟨_, rfl⟩
  rw [← hplace] at hr
  have haddress : (address base "h").toList = scheme ++ ':' :: (trimSlashesRight rest ++ ['/', 'h']) :=
    address_of_relative hs (by decide) (by decide)
  obtain ⟨u, hu, -⟩ := parse_of_authority hw haddress hr
  exact ⟨u, resolve_eq_ok.2 hu⟩

end Join

/-- Over a valid configuration every relative URI stays on the configured server, if and only
    if the base URL has more than slashes, tabs and line ends after its scheme. -/
theorem stays_iff_hasPlace {config : ClientConfig} (h : config.validate = .ok ()) :
    (∀ uri u, isWebUrl uri = false → resolve config.baseUrl uri = .ok u →
        ∃ b, Url.parse config.baseUrl = .ok b ∧ SameServer u b) ↔
      HasPlace (afterColon config.baseUrl) := by
  obtain ⟨scheme, rest, hw, hs⟩ := isWebUrl_iff.1 (config.isWebUrl_of_validate h)
  rw [afterColon_eq hw hs]
  constructor
  · intro hall
    by_contra hno
    obtain ⟨u, hu⟩ := resolve_h_of_slashes hw hs hno
    obtain ⟨b, hb, -⟩ := hall "h" u (by decide) hu
    exact parse_ne_ok_of_slashes hw hs hno b hb
  · exact fun hp uri u hweb hu => sameServer_of_hasPlace hw hs hp hweb hu

/-- Neither slashes nor a user name before another host lead away from the default server. -/
theorem stays_on_localhost :
    ClientConfig.default.validate = .ok () ∧
      ∃ u, resolve ClientConfig.default.baseUrl "//evil.example/@x" = .ok u ∧
        ∃ b, Url.parse ClientConfig.default.baseUrl = .ok b ∧ SameServer u b := by
  have hu : resolve ClientConfig.default.baseUrl "//evil.example/@x" =
      .ok ⟨"http".toList, some { host := .name "localhost".toList, port := some 8080 },
        .segments ["evil.example".toList, "@x".toList], none, none⟩ := by rfl
  have hvalid : ClientConfig.default.validate = .ok () := rfl
  have hplace : HasPlace (afterColon ClientConfig.default.baseUrl) := ⟨'l', by decide, rfl, rfl⟩
  exact ⟨hvalid, _, hu, (stays_iff_hasPlace hvalid).2 hplace _ _ (by decide) hu⟩

/-- A base URL of slashes is no URL, and the first segment of a URI becomes the host. -/
theorem slashes_leave :
    ({ baseUrl := "http://" } : ClientConfig).validate = .ok () ∧
      isWebUrl "example.com/x" = false ∧
      (∃ u, resolve "http://" "example.com/x" = .ok u ∧
        u.authority = some { host := .name "example.com".toList }) ∧
      Url.parse "http://" = .error .emptyHost :=
  ⟨rfl, by decide, ⟨_, by rfl, by rfl⟩, by rfl⟩

end WebClient

end ApiQuery

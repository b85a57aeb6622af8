import Mathlib.Data.List.TakeWhile
import RouterMetrics.Device.Rest

/-!
# The hosts of devices

The base URL of a device is the text of its hostname between a scheme and a path, read as a URL. It
can be built exactly when the host and the port in that text have no fault (`baseUrl_host`): always
for an address of eight groups (`hostFault?_of_v6`), and for any other hostname without characters
that divide a URL exactly when it is a host (`hostFault?_of_plain`).
-/

namespace RouterMetrics.Rest

open Net Net.Url

/-! ## The host and the port in a URL -/

/-- The host and the port at the head of a text: before the path, and behind a user. -/
def hostPart (cs : List Char) : List Char :=
  ((cs.takeWhile fun c => !endsAuthority true c).reverse.takeWhile (· != '@')).reverse

/-- What is read of a URL that a hostname is put into, behind all slashes. -/
def urlPart (host : String) : List Char :=
  (host.toList.filter (fun c => !isOneOf "\t\n\r" c) ++ "/rest/".toList).dropWhile (isSlash true)

/-- The text of the host and the port that a hostname writes in a URL. -/
def hostAndPort (hostname : String) : List Char := hostPart (urlPart (hostText hostname))

/-- Why a text writes no host with a port, or no host alone. -/
def hostFault? (cs : List Char) : Option UrlError :=
  let host := hostRun false cs
  if host.isEmpty then some .emptyHost
  else match Host.ofChars host with
    | .error e => some e
    | .ok _ =>
      let number := cs.drop (host.length + 1)
      if number.all Char.isDigit && Text.numberOf number < 1 <<< 16 then none else some .port

/-- Controls and spaces at the ends of a text do not count, and others stay. -/
theorem significant_eq {text : String} {a b : Char} {mid : List Char}
    (h : text.toList = a :: (mid ++ [b])) (ha : isEdge a = false) (hb : isEdge b = false) :
    significant text = text.toList.filter fun c => !isOneOf "\t\n\r" c := by
  have hstart : text.toList.dropWhile isEdge = text.toList := by
    rw [h, List.dropWhile_cons_of_neg (by simp [ha])]
  have hend : text.toList.reverse.dropWhile isEdge = text.toList.reverse := by
    rw [h, ← List.cons_append, List.reverse_append, List.reverse_singleton, List.singleton_append,
      List.dropWhile_cons_of_neg (by simp [hb])]
  rw [significant, hstart, hend, List.reverse_reverse]

/-- The text of a base URL without its scheme. -/
def withoutScheme (host : String) : List Char :=
  ':' :: '/' :: '/' :: (host.toList.filter (fun c => !isOneOf "\t\n\r" c) ++ "/rest/".toList)

theorem significant_http (host : String) :
    significant ("http" ++ "://" ++ host ++ "/rest/") = "http".toList ++ withoutScheme host := by
  have hlist : ("http" ++ "://" ++ host ++ "/rest/").toList =
      'h' :: ("ttp://".toList ++ host.toList ++ "/rest".toList ++ ['/']) := by simp
  rw [significant_eq hlist rfl rfl]
  simp [withoutScheme, isOneOf]

theorem significant_https (host : String) :
    significant ("https" ++ "://" ++ host ++ "/rest/") = "https".toList ++ withoutScheme host := by
  have hlist : ("https" ++ "://" ++ host ++ "/rest/").toList =
      'h' :: ("ttps://".toList ++ host.toList ++ "/rest".toList ++ ['/']) := by simp
  rw [significant_eq hlist rfl rfl]
  simp [withoutScheme, isOneOf]

/-- A base URL is read from behind the slashes of its scheme. -/
theorem ofText?_base {scheme : String} (hscheme : scheme = "http" ∨ scheme = "https")
    (host : String) :
    Url.ofText? (scheme ++ "://" ++ host ++ "/rest/") =
      some (afterSlashes scheme (urlPart host)) := by
  rcases hscheme with rfl | rfl
  · rw [Url.ofText?, significant_http]
    rfl
  · rw [Url.ofText?, significant_https]
    rfl

/-- The characters of an authority are those before one that ends it. -/
theorem backslash_not_mem_whole {cs : List Char} {c : Char}
    (h : c ∈ cs.takeWhile fun c => !endsAuthority true c) : c ≠ '\\' := by
  rintro rfl
  have hends := List.mem_takeWhile_imp h
  exact absurd hends (by decide)

/-- A backslash does not end the number of a port where there is none. -/
theorem portNumber_eq (cs : List Char) (n : Nat) :
    (((hostPart cs).drop n).drop 1).takeWhile (· != '\\') = (hostPart cs).drop (n + 1) := by
  rw [List.drop_drop]
  refine List.takeWhile_eq_self_iff.mpr fun c hc => ?_
  have hmem := List.mem_reverse.mp (List.mem_of_mem_drop hc)
  have hwhole := List.mem_reverse.mp ((List.takeWhile_sublist _).subset hmem)
  simpa using backslash_not_mem_whole hwhole

/-- **An authority of a URL of the web is read when its host and port have no fault.** -/
theorem readAuthority_web {scheme : String} (hscheme : isSpecial scheme = true) (cs : List Char) :
    (∀ e, hostFault? (hostPart cs) = some e → readAuthority scheme cs = .error e) ∧
      (hostFault? (hostPart cs) = none → ∃ a, readAuthority scheme cs = .ok a) := by
  have hnumber := portNumber_eq cs (hostRun false (hostPart cs)).length
  unfold hostPart at hnumber ⊢
  simp only [readAuthority, hscheme, if_true, Bool.true_or, Bool.and_true, hnumber]
  generalize cs.takeWhile (fun c => !endsAuthority true c) = whole
  generalize (whole.reverse.takeWhile (· != '@')).reverse = hp
  cases hempty : (hostRun false hp).isEmpty with
  | true =>
    simp only [hostFault?, hempty, if_true]
    exact ⟨fun e he => by cases he; rfl, fun h => nomatch h⟩
  | false =>
    cases hhost : Host.ofChars (hostRun false hp) with
    | error e =>
      simp only [hostFault?, hempty, hhost, Bool.false_eq_true, if_false]
      exact ⟨fun e he => by cases he; rfl, fun h => nomatch h⟩
    | ok host =>
      simp only [hostFault?, hempty, hhost, Bool.false_eq_true, if_false, readPort]
      generalize hp.drop ((hostRun false hp).length + 1) = number
      cases hport : number.all Char.isDigit && decide (Text.numberOf number < 1 <<< 16) with
      | true =>
        have hgood : (!number.all Char.isDigit || decide (Text.numberOf number ≥ 1 <<< 16)) =
            false := by grind
        simp only [hgood, if_true, Bool.false_eq_true, if_false]
        exact ⟨fun e he => (nomatch he), fun _ => ⟨_, rfl⟩⟩
      | false =>
        have hbad : (!number.all Char.isDigit || decide (Text.numberOf number ≥ 1 <<< 16)) =
            true := by grind
        simp only [hbad, Bool.false_eq_true, if_false, if_true]
        exact ⟨fun e he => by cases he; rfl, fun h => nomatch h⟩

/-- **The base URL of a device fails on the fault of the host and the port in it**, and on nothing
else. -/
theorem baseUrl_host (d : Config.DeviceSettings) :
    (∀ e, hostFault? (hostAndPort d.hostname) = some e → baseUrl d =
        .error (.request ("invalid host '" ++ d.hostname ++ "': " ++ e.message))) ∧
      (hostFault? (hostAndPort d.hostname) = none → ∃ u, baseUrl d = .ok u) := by
  have hscheme : (if d.useSsl then "https" else "http") = "http" ∨
      (if d.useSsl then "https" else "http") = "https" := by
    cases d.useSsl with
    | true => exact .inr rfl
    | false => exact .inl rfl
  unfold baseUrl
  generalize (if d.useSsl then "https" else "http") = scheme at hscheme ⊢
  have hweb : isSpecial scheme = true := by
    rcases hscheme with rfl | rfl
    · rfl
    · rfl
  obtain ⟨hfault, hread⟩ := readAuthority_web hweb (urlPart (hostText d.hostname))
  simp only [ofText?_base hscheme, Option.getD_some, afterSlashes]
  refine ⟨fun e he => ?_, fun h => ?_⟩
  · rw [hfault e he]
    rfl
  · obtain ⟨⟨a, rest⟩, ha⟩ := hread h
    rw [ha]
    exact ⟨_, rfl⟩

/-! ## Hostnames without what divides a URL -/

/-- A character that divides a URL, or that does not count in one. -/
def isDivider (c : Char) : Bool := isOneOf "/\\?#@:\t\n\r" c

theorem hostRun_of_plain {cs : List Char} (h : ∀ c ∈ cs, c ≠ ':') (bracket : Bool) :
    hostRun bracket cs = cs := by
  induction cs generalizing bracket with
  | nil => rfl
  | cons c rest ih =>
    obtain ⟨hc, hrest⟩ := List.forall_mem_cons.mp h
    rw [hostRun, ih hrest, if_neg]
    simp [hc]

/-- A text that nothing divides is all of the host and the port in a URL. -/
theorem hostPart_eq {cs : List Char} (hcs : cs ≠ [])
    (h : ∀ c ∈ cs, endsAuthority true c = false ∧ c ≠ '@') :
    hostPart ((cs ++ "/rest/".toList).dropWhile (isSlash true)) = cs := by
  have hslash : (cs ++ "/rest/".toList).dropWhile (isSlash true) = cs ++ "/rest/".toList := by
    obtain ⟨c, rest, rfl⟩ := List.exists_cons_of_ne_nil hcs
    obtain ⟨hends, -⟩ := h c List.mem_cons_self
    rw [List.cons_append, List.dropWhile_cons_of_neg]
    simp only [endsAuthority, Bool.or_eq_false_iff] at hends
    simp [hends.1]
  have hwhole : (cs ++ "/rest/".toList).takeWhile (fun c => !endsAuthority true c) = cs := by
    rw [List.takeWhile_append_of_pos fun c hc => by simp [(h c hc).1]]
    exact List.append_nil cs
  have huser : cs.reverse.takeWhile (· != '@') = cs.reverse :=
    List.takeWhile_eq_self_iff.mpr fun c hc => by simpa using (h c (List.mem_reverse.mp hc)).2
  rw [hslash, hostPart, hwhole, huser, List.reverse_reverse]

/-- The host and the port that a text writes which keeps all its characters in a URL. -/
theorem hostAndPort_eq {hostname : String} (hempty : (hostText hostname).toList ≠ [])
    (h : ∀ c ∈ (hostText hostname).toList, isOneOf "\t\n\r" c = false ∧
      endsAuthority true c = false ∧ c ≠ '@') :
    hostAndPort hostname = (hostText hostname).toList := by
  have hkept : (hostText hostname).toList.filter (fun c => !isOneOf "\t\n\r" c) =
      (hostText hostname).toList := List.filter_eq_self.mpr fun c hc => by simp [(h c hc).1]
  rw [hostAndPort, urlPart, hkept]
  exact hostPart_eq hempty fun c hc => (h c hc).2

/-- What divides no URL is kept in one. -/
theorem of_not_divider {c : Char} (h : isDivider c = false) :
    isOneOf "\t\n\r" c = false ∧ endsAuthority true c = false ∧ c ≠ '@' ∧ c ≠ ':' := by
  simp only [isDivider, isOneOf, endsAuthority, isSlash] at h ⊢
  simp at h ⊢
  grind

/-- A host without a port has the faults of a host. -/
theorem hostFault?_of_run {cs : List Char} (hempty : cs ≠ []) (hrun : hostRun false cs = cs) :
    hostFault? cs = match Host.ofChars cs with
      | .error e => some e
      | .ok _ => none := by
  have hnumber : cs.drop (cs.length + 1) = [] := List.drop_eq_nil_of_le (Nat.le_succ _)
  simp only [hostFault?, hrun, hnumber, List.isEmpty_eq_false_iff.mpr hempty, Bool.false_eq_true,
    if_false]
  cases Host.ofChars cs with
  | error e => rfl
  | ok host => rfl

/-- A hostname that is no address of eight groups stands without brackets. -/
theorem hostText_of_name {hostname : String}
    (hname : ∀ groups, Address.ofText? hostname ≠ some (.v6 groups)) :
    hostText hostname = hostname := by
  unfold hostText
  split
  case h_1 groups hv6 => exact absurd hv6 (hname groups)
  case h_2 => rfl

/-- **A hostname that nothing divides, and that is no address of eight groups, has the faults of a
host.** -/
theorem hostFault?_of_plain {hostname : String} (hempty : hostname.toList ≠ [])
    (hplain : ∀ c ∈ hostname.toList, isDivider c = false)
    (hname : ∀ groups, Address.ofText? hostname ≠ some (.v6 groups)) :
    hostFault? (hostAndPort hostname) =
      match Host.ofChars hostname.toList with
      | .error e => some e
      | .ok _ => none := by
  have htext := hostText_of_name hname
  have hkept := fun c hc => of_not_divider (hplain c hc)
  rw [← htext] at hempty hkept
  rw [hostAndPort_eq hempty fun c hc => ⟨(hkept c hc).1, (hkept c hc).2.1, (hkept c hc).2.2.1⟩,
    hostFault?_of_run hempty (hostRun_of_plain (fun c hc => (hkept c hc).2.2.2) false), htext]

/-! ## Addresses of eight groups -/

/-- A character of a written address. -/
def isAddressChar (c : Char) : Bool := (Text.hexValue? c).isSome || c == '.' || c == ':'

/-- What is read from a text before the rest of it are characters of an address. -/
def Reads (cs rest : List Char) : Prop :=
  ∃ read, cs = read ++ rest ∧ ∀ c ∈ read, isAddressChar c = true

namespace Reads

variable {cs mid rest : List Char}

theorem refl (cs : List Char) : Reads cs cs := ⟨[], rfl, by simp⟩

theorem trans (h : Reads cs mid) (h' : Reads mid rest) : Reads cs rest := by
  obtain ⟨read, rfl, hread⟩ := h
  obtain ⟨read', rfl, hread'⟩ := h'
  exact ⟨read ++ read', (List.append_assoc ..).symm, fun c hc =>
    (List.mem_append.mp hc).elim (hread c) (hread' c)⟩

theorem cons {c : Char} (hc : isAddressChar c = true) : Reads (c :: cs) cs :=
  ⟨[c], rfl, by simpa using hc⟩

theorem run {p : Char → Bool} (hp : ∀ c, p c = true → isAddressChar c = true) (cs : List Char) :
    Reads cs (cs.drop (cs.takeWhile p).length) :=
  ⟨cs.takeWhile p, (List.prefix_iff_eq_append.mp (List.takeWhile_prefix p)).symm,
    fun c hc => hp c (List.mem_takeWhile_imp hc)⟩

end Reads

theorem isAddressChar_of_digit {c : Char} (h : c.isDigit = true) : isAddressChar c = true := by
  simp [isAddressChar, Text.hexValue?, h]

theorem readByte_reads {cs rest : List Char} {n : Nat} (h : readByte cs = some (n, rest)) :
    Reads cs rest := by
  simp only [readByte] at h
  split at h
  · cases h
  · split at h
    · cases h
    · cases h
      exact .run (fun _ => isAddressChar_of_digit) cs

theorem readPointByte_reads {cs rest : List Char} {n : Nat}
    (h : readPointByte cs = some (n, rest)) : Reads cs rest := by
  unfold readPointByte at h
  split at h
  case h_1 cs => exact (Reads.cons rfl).trans (readByte_reads h)
  case h_2 => cases h

theorem readBytes_reads {cs rest : List Char} {bytes : List Nat}
    (h : readBytes cs = some (bytes, rest)) : Reads cs rest := by
  simp only [readBytes, Option.bind_eq_bind, Option.bind_eq_some_iff, Prod.exists] at h
  obtain ⟨_, _, ha, _, _, hb, _, _, hc, _, _, hd, h⟩ := h
  cases h
  exact ((readByte_reads ha).trans (readPointByte_reads hb)).trans
    ((readPointByte_reads hc).trans (readPointByte_reads hd))

theorem readGroup_reads {cs rest : List Char} {g : Nat} (h : readGroup cs = some (g, rest)) :
    Reads cs rest := by
  simp only [readGroup] at h
  split at h
  · cases h
  · cases h
    exact .run (fun c hc => by simp [isAddressChar, hc]) cs

/-- Where a group starts: at once, or behind a colon. -/
theorem start_reads {first : Bool} {cs mid : List Char}
    (h : (if first then some cs else match cs with
      | ':' :: cs => some cs
      | _ => none) = some mid) : Reads cs mid := by
  split at h
  · cases h
    exact .refl cs
  · split at h
    · cases h
      exact .cons rfl
    · cases h

theorem readGroups_reads (limit : Nat) (first : Bool) (cs : List Char) :
    Reads cs (readGroups limit first cs).2.2 := by
  induction limit generalizing first cs with
  | zero => exact .refl cs
  | succ limit ih =>
    unfold readGroups
    dsimp only
    generalize hstart : (if first then some cs else match cs with
      | ':' :: cs => some cs
      | _ => none) = start
    split
    case h_1 a b c d rest hbytes =>
      split at hbytes
      · cases hbytes
      · obtain ⟨mid, hmid, hbytes⟩ := Option.bind_eq_some_iff.mp hbytes
        exact (start_reads (hstart.trans hmid)).trans (readBytes_reads hbytes)
    case h_2 =>
      split
      case h_1 g rest hgroup =>
        obtain ⟨mid, hmid, hgroup⟩ := Option.bind_eq_some_iff.mp hgroup
        have hread := (start_reads (hstart.trans hmid)).trans (readGroup_reads hgroup)
        exact hread.trans (ih false rest)
      case h_2 => exact .refl cs

theorem readEight_reads {cs rest : List Char} {groups : List Nat}
    (h : readEight cs = some (groups, rest)) : Reads cs rest := by
  have hbefore := readGroups_reads 8 true cs
  simp only [readEight] at h
  split at h
  · cases h
    exact hbefore
  · split at h
    · cases h
    · split at h
      case h_1 after hcolons =>
        cases h
        rw [hcolons] at hbefore
        exact (hbefore.trans ((Reads.cons rfl).trans (.cons rfl))).trans
          (readGroups_reads _ true after)
      case h_2 => cases h

/-- A character of an address does not divide a URL, but for the colon, which stands in brackets. -/
theorem of_isAddressChar {c : Char} (h : isAddressChar c = true) :
    isOneOf "\t\n\r" c = false ∧ endsAuthority true c = false ∧ c ≠ '@' ∧ c ≠ ']' := by
  have hne : ∀ d, isAddressChar d = false → c ≠ d := by
    rintro d hd rfl
    rw [hd] at h
    cases h
  have htab := hne '\t' rfl
  have hline := hne '\n' rfl
  have hreturn := hne '\r' rfl
  have hslash := hne '/' rfl
  have hback := hne '\\' rfl
  have hquery := hne '?' rfl
  have hfragment := hne '#' rfl
  refine ⟨?_, ?_, hne '@' rfl, hne ']' rfl⟩
  · simp [isOneOf, htab, hline, hreturn]
  · simp [endsAuthority, isSlash, hslash, hback, hquery, hfragment]

/-- Colons in brackets do not end a host. -/
theorem hostRun_brackets {cs : List Char} (h : ∀ c ∈ cs, c ≠ ']') :
    hostRun false ('[' :: (cs ++ [']'])) = '[' :: (cs ++ [']']) := by
  have hinner : hostRun true (cs ++ [']']) = cs ++ [']'] := by
    induction cs with
    | nil => rfl
    | cons c rest ih =>
      obtain ⟨hc, hrest⟩ := List.forall_mem_cons.mp h
      have hbracket : (c == '[' || (true && c != ']')) = true := by simp [hc]
      rw [List.cons_append, hostRun, Bool.not_true, Bool.and_false, if_neg Bool.false_ne_true,
        hbracket, ih hrest]
  show '[' :: hostRun true (cs ++ [']']) = _
  rw [hinner]

/-- An address of eight groups is all of its text. -/
theorem readEight_of_v6 {text : String} {groups : List Nat}
    (h : Address.ofText? text = some (.v6 groups)) :
    readEight text.toList = some (groups, []) := by
  simp only [Address.ofText?] at h
  split at h
  · split at h
    · cases h
    · cases h
  · split at h
    case h_1 hread =>
      cases h
      exact hread
    case h_2 => cases h

/-- Eight groups in brackets are a host. -/
theorem ofChars_brackets {cs : List Char} {groups : List Nat}
    (h : readEight cs = some (groups, [])) :
    Host.ofChars ('[' :: (cs ++ [']'])) = .ok (.address (.v6 groups)) := by
  have hbracketed : Host.bracketed? ('[' :: (cs ++ [']'])) =
      some (.ok (.address (.v6 groups))) := by
    simp [Host.bracketed?, h]
  rw [Host.ofChars, hbracketed]

/-- An address of eight groups keeps all its characters in a URL, between brackets. -/
theorem hostText_of_v6 {hostname : String} {groups : List Nat}
    (h : Address.ofText? hostname = some (.v6 groups)) :
    (hostText hostname).toList = '[' :: (hostname.toList ++ [']']) ∧
      (∀ c ∈ (hostText hostname).toList, isOneOf "\t\n\r" c = false ∧
        endsAuthority true c = false ∧ c ≠ '@') ∧
      hostRun false (hostText hostname).toList = (hostText hostname).toList := by
  have hchars : ∀ c ∈ hostname.toList, isAddressChar c = true := by
    obtain ⟨read, hall, hread⟩ := readEight_reads (readEight_of_v6 h)
    rwa [hall, List.append_nil]
  have htext : (hostText hostname).toList = '[' :: (hostname.toList ++ [']']) := by
    simp [hostText, h]
  rw [htext]
  refine ⟨rfl, List.forall_mem_cons.mpr ⟨by decide, List.forall_mem_append.mpr
    ⟨fun c hc => ?_, List.forall_mem_singleton.mpr (by decide)⟩⟩,
    hostRun_brackets fun c hc => (of_isAddressChar (hchars c hc)).2.2.2⟩
  obtain ⟨hspace, hends, huser, -⟩ := of_isAddressChar (hchars c hc)
  exact ⟨hspace, hends, huser⟩

/-- **An address of eight groups has no fault.** -/
theorem hostFault?_of_v6 {hostname : String} {groups : List Nat}
    (h : Address.ofText? hostname = some (.v6 groups)) :
    hostFault? (hostAndPort hostname) = none := by
  obtain ⟨htext, hkept, hrun⟩ := hostText_of_v6 h
  have hempty : (hostText hostname).toList ≠ [] := by simp [htext]
  rw [hostAndPort_eq hempty hkept, hostFault?_of_run hempty hrun, htext,
    ofChars_brackets (readEight_of_v6 h)]

end RouterMetrics.Rest

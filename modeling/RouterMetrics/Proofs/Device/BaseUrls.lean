import RouterMetrics.Proofs.Config.Acceptance
import RouterMetrics.Proofs.Net.Paths

/-!
# Base URLs

The text of a hostname is put between a scheme and a path, and read as a URL. So it writes what
stands before and behind a host as well: a user, a port, levels of a path, a query and a fragment
(`Rest.baseUrl_eq`). The URL is the base of the host alone exactly when the hostname writes none of
these (`Rest.isBase_iff`), and then all paths of the catalog are requested below it
(`Rest.base_urls`).
-/

namespace RouterMetrics

open Net Net.Url

namespace Rest

open Config

variable {cs : List Char} {d : DeviceSettings} {u : Url}

/-! ## Parts of an authority -/

/-- What stands before the path, the query and the fragment. -/
def authority (cs : List Char) : List Char := cs.takeWhile fun c => !endsAuthority true c

/-- The path, the query and the fragment. -/
def behind (cs : List Char) : List Char := cs.dropWhile fun c => !endsAuthority true c

/-- The user before the last at sign. -/
def userPart (cs : List Char) : List Char :=
  (authority cs).take ((authority cs).length - (hostPart cs).length - 1)

/-- The host before a port. -/
def hostChars (cs : List Char) : List Char := hostRun false (hostPart cs)

/-- The port behind a colon. -/
def portPart (cs : List Char) : List Char := (hostPart cs).drop ((hostChars cs).length + 1)

/-- **An authority of a URL of the web is read part by part.** -/
theorem readAuthority_eq_ok {scheme : String} (hscheme : isSpecial scheme = true) {a : Authority}
    {rest : List Char} (h : readAuthority scheme cs = .ok (a, rest)) :
    a.user = String.ofList (userText (userPart cs)) ∧ Host.ofChars (hostChars cs) = .ok a.host ∧
      readPort scheme (portPart cs) = .ok a.port ∧ rest = behind cs := by
  have hnumber : ((hostPart cs).drop (hostChars cs).length |>.drop 1).takeWhile (· != '\\') =
      portPart cs := portNumber_eq cs _
  have hnothing : ((hostPart cs).drop (hostChars cs).length).drop (1 + (portPart cs).length) =
      [] := by
    refine List.drop_eq_nil_of_le ?_
    rw [portPart, List.length_drop, List.length_drop]
    omega
  have hbehind : cs.drop (authority cs).length = behind cs := drop_takeWhile _ cs
  simp only [readAuthority, hscheme, if_true, Bool.true_or, Bool.and_true] at h
  rw [← hostPart, ← hostChars, ← authority, hnumber, hnothing, hbehind, ← userPart] at h
  split at h
  case isTrue => cases h
  case isFalse =>
    simp only [Except.bind_ok] at h
    obtain ⟨host, hhost, port, hport, h⟩ := h
    cases h
    exact ⟨rfl, hhost, hport, rfl⟩

/-- An authority goes up to a character that ends it. -/
theorem head?_behind {c : Char} (h : c ∈ (behind cs).head?) : endsAuthority true c = true := by
  have hfirst := List.head?_dropWhile_not (fun c => !endsAuthority true c) cs
  rw [← behind, Option.mem_def.mp h] at hfirst
  simpa using hfirst

theorem authority_append (cs : List Char) : authority (cs ++ "/rest/".toList) = authority cs := by
  rw [authority, List.takeWhile_append]
  split
  case isTrue hall =>
    have hnone : "/rest/".toList.takeWhile (fun c => !endsAuthority true c) = [] := by decide
    have hself := (List.takeWhile_sublist _).eq_of_length hall
    rw [hnone, List.append_nil, authority, hself]
  case isFalse => rfl

theorem behind_append (cs : List Char) :
    behind (cs ++ "/rest/".toList) = behind cs ++ "/rest/".toList := by
  rw [behind, List.dropWhile_append]
  split
  case isTrue hnone =>
    rw [behind, List.isEmpty_iff.mp hnone]
    rfl
  case isFalse => rfl

theorem hostPart_append (cs : List Char) : hostPart (cs ++ "/rest/".toList) = hostPart cs := by
  show ((authority _).reverse.takeWhile (· != '@')).reverse = _
  rw [authority_append]
  rfl

theorem userPart_append (cs : List Char) : userPart (cs ++ "/rest/".toList) = userPart cs := by
  rw [userPart, authority_append, hostPart_append, userPart]

theorem hostChars_append (cs : List Char) : hostChars (cs ++ "/rest/".toList) = hostChars cs := by
  rw [hostChars, hostPart_append, hostChars]

theorem portPart_append (cs : List Char) : portPart (cs ++ "/rest/".toList) = portPart cs := by
  rw [portPart, hostPart_append, hostChars_append, portPart]

/-! ## What a hostname writes -/

/-- The scheme of a device. -/
def scheme (d : DeviceSettings) : String := if d.useSsl then "https" else "http"

/-- The characters of a hostname that count in a URL, behind all slashes. -/
def written (hostname : String) : List Char :=
  ((hostText hostname).toList.filter fun c => !isOneOf "\t\n\r" c).dropWhile (isSlash true)

theorem urlPart_eq {hostname : String} (h : written hostname ≠ []) :
    urlPart (hostText hostname) = written hostname ++ "/rest/".toList := by
  rw [urlPart, List.dropWhile_append, if_neg (by simpa [written] using h)]
  rfl

/-- A hostname of slashes makes a host of the path. -/
theorem urlPart_of_nil {hostname : String} (h : written hostname = []) :
    urlPart (hostText hostname) = "rest/".toList := by
  rw [urlPart, List.dropWhile_append, if_pos (by simpa [written] using h)]
  rfl

/-- The port of a URL or a device, that of the scheme when there is none. -/
def effectivePort (scheme : String) (port : Option Nat) : Option Nat :=
  port.orElse fun _ => defaultPort? scheme

/-- A URL is read from a text, but for the scheme of a device and a port that is configured. -/
structure ReadFrom (d : DeviceSettings) (cs : List Char) (u : Url) : Prop where
  scheme : u.scheme = scheme d
  user : u.user = String.ofList (userText (userPart cs))
  host : ∃ host, Host.ofChars (hostChars cs) = .ok host ∧ u.host = some host
  port : ∃ port, readPort (Rest.scheme d) (portPart cs) = .ok port ∧
    u.port = d.port.elim port fun p => if defaultPort? (Rest.scheme d) = some p then none else some p
  path : u.path = absolutePath true (divide (behind cs)).1
  query : u.query = (divide (behind cs)).2.1.map (queryText true)
  fragment : u.fragment = (divide (behind cs)).2.2.map fragmentText

/-- **What is built for a device is read from its hostname.** -/
theorem baseUrl_readFrom (built : baseUrl d = .ok u) :
    ReadFrom d (urlPart (hostText d.hostname)) u := by
  have hweb : scheme d = "http" ∨ scheme d = "https" := by
    unfold scheme
    cases d.useSsl with
    | true => exact .inr rfl
    | false => exact .inl rfl
  have hspecial : isSpecial (scheme d) = true := by
    rcases hweb with h | h
    · rw [h]; rfl
    · rw [h]; rfl
  have htext : Url.ofText? (scheme d ++ "://" ++ hostText d.hostname ++ "/rest/") =
      some (afterSlashes (scheme d) (urlPart (hostText d.hostname))) := ofText?_base hweb _
  unfold baseUrl at built
  rw [← scheme] at built
  simp only [htext, Option.getD_some] at built
  cases hafter : afterSlashes (scheme d) (urlPart (hostText d.hostname)) with
  | error e =>
    rw [hafter] at built
    cases built
  | ok base =>
    rw [hafter] at built
    obtain ⟨⟨a, rest⟩, ha, hbase⟩ := Except.bind_ok.mp hafter
    obtain ⟨huser, hhost, hport, hrest⟩ := readAuthority_eq_ok hspecial ha
    cases hbase
    cases built
    rw [hrest]
    refine ⟨?_, ?_, ⟨a.host, hhost, ?_⟩, ⟨a.port, hport, ?_⟩, ?_, ?_, ?_⟩
    all_goals cases d.port with
      | none => simp [withRest, ofScheme, huser, hspecial]
      | some p => simp [withPort, withRest, ofScheme, huser, hspecial]

/-! ## URLs of the host alone -/

/-- The base URL of a device is that of its host, over the scheme and the port that are
configured. -/
structure IsBase (d : DeviceSettings) (u : Url) : Prop where
  user : u.user = ""
  host : ∃ host, Host.ofChars (hostChars (written d.hostname)) = .ok host ∧ u.host = some host
  port : effectivePort (scheme d) u.port = effectivePort (scheme d) d.port
  path : u.path = "/rest/"
  query : u.query = none
  fragment : u.fragment = none

/-- A hostname writes a host alone: more than slashes, no user but an empty one, no port where none
is configured but that of the scheme, no query and no fragment, and no levels of a path that are
left. -/
structure Alone (d : DeviceSettings) : Prop where
  host : written d.hostname ≠ []
  user : userPart (written d.hostname) = [] ∨ userPart (written d.hostname) = [':']
  port : d.port = none → portPart (written d.hostname) = [] ∨
    defaultPort? (scheme d) = some (Text.numberOf (portPart (written d.hostname)))
  path : levels (behind (written d.hostname)) = []
  marks : ∀ c ∈ behind (written d.hostname), c ≠ '?' ∧ c ≠ '#'

theorem percentEncode_eq_nil_iff {encoded : Char → Bool} :
    percentEncode encoded cs = [] ↔ cs = [] := by
  cases cs with
  | nil => simp [percentEncode]
  | cons c rest =>
    have hsome : percentChar encoded c ≠ [] := by
      unfold percentChar
      split
      · obtain ⟨b, bs, hc⟩ := List.exists_cons_of_ne_nil (String.utf8EncodeChar_ne_nil (c := c))
        simp [hc, percentByte]
      · exact List.cons_ne_nil _ _
    simp [percentEncode, hsome]

/-- Only a colon between no name and no password leaves no user. -/
theorem userText_eq_nil_iff : userText cs = [] ↔ cs = [] ∨ cs = [':'] := by
  have hboth : userText cs = [] ↔
      cs.takeWhile (· != ':') = [] ∧ (cs.dropWhile (· != ':')).drop 1 = [] := by
    simp [userText, percentEncode_eq_nil_iff]
  rw [hboth]
  cases cs with
  | nil => simp
  | cons c rest =>
    by_cases hc : c = ':'
    · simp [hc]
    · simp [hc]

/-- A port is that of the scheme when it has no digits, or those of its default. -/
theorem effectivePort_eq_iff {scheme : String} {port : Option Nat}
    (h : readPort scheme cs = .ok port) :
    effectivePort scheme port = effectivePort scheme none ↔
      cs = [] ∨ defaultPort? scheme = some (Text.numberOf cs) := by
  simp only [readPort] at h
  split at h
  case isTrue => cases h
  case isFalse =>
    cases h
    split
    case isTrue hdefault => simpa [effectivePort] using hdefault
    case isFalse hother =>
      have hother : cs ≠ [] ∧ defaultPort? scheme ≠ some (Text.numberOf cs) := by
        simpa using hother
      simpa [effectivePort, hother] using Ne.symm hother.2

/-- A port that is configured is the one that is asked. -/
theorem effectivePort_of_configured (scheme : String) (port : Nat) :
    effectivePort scheme (if defaultPort? scheme = some port then none else some port) =
      effectivePort scheme (some port) := by
  split
  case isTrue h => simp [effectivePort, h]
  case isFalse => rfl

/-- Without a query and a fragment, what stands behind a host is levels of the path. -/
theorem absolutePath_behind (marks : ∀ c ∈ behind cs, c ≠ '?' ∧ c ≠ '#') :
    divide (behind cs ++ "/rest/".toList) = (behind cs ++ "/rest/".toList, none, none) ∧
      absolutePath true (behind cs ++ "/rest/".toList) =
        segmentsText (levels (behind cs)) ++ "/rest/" := by
  constructor
  · exact divide_of_path (List.forall_mem_append.mpr ⟨marks, by simp⟩)
  · refine absolutePath_append fun c hc => ?_
    obtain ⟨hquery, hfragment⟩ := marks c (List.mem_of_mem_head? hc)
    simpa [endsAuthority, hquery, hfragment] using head?_behind hc

/-- A hostname of slashes leaves the path out. -/
theorem IsBase.written_ne_nil (built : baseUrl d = .ok u) (h : IsBase d u) :
    written d.hostname ≠ [] := by
  intro hnil
  have hpath := (baseUrl_readFrom built).path
  rw [h.path, urlPart_of_nil hnil] at hpath
  exact absurd hpath (by decide)

/-- **The base URL is that of the host exactly when the hostname writes it alone.** -/
theorem isBase_iff (built : baseUrl d = .ok u) : IsBase d u ↔ Alone d := by
  by_cases hnil : written d.hostname = []
  · exact iff_of_false (fun h => h.written_ne_nil built hnil) fun h => h.host hnil
  obtain ⟨-, huser, ⟨host, hhost, hu⟩, ⟨port, hport, hasked⟩, hpath, hquery, hfragment⟩ :=
    baseUrl_readFrom built
  rw [urlPart_eq hnil, hostChars_append] at hhost
  rw [urlPart_eq hnil, portPart_append] at hport
  rw [urlPart_eq hnil, userPart_append] at huser
  rw [urlPart_eq hnil, behind_append] at hpath hquery hfragment
  have hnobody : u.user = "" ↔
      userPart (written d.hostname) = [] ∨ userPart (written d.hostname) = [':'] := by
    rw [huser, ← userText_eq_nil_iff, ← String.toList_inj, String.toList_ofList]
    rfl
  have hsame : effectivePort (scheme d) u.port = effectivePort (scheme d) d.port ↔
      (d.port = none → portPart (written d.hostname) = [] ∨
        defaultPort? (scheme d) = some (Text.numberOf (portPart (written d.hostname)))) := by
    rw [hasked]
    cases d.port with
    | none => simpa using effectivePort_eq_iff hport
    | some p => simpa using effectivePort_of_configured (scheme d) p
  have hmarks : u.query = none ∧ u.fragment = none ↔
      ∀ c ∈ behind (written d.hostname), c ≠ '?' ∧ c ≠ '#' := by
    have hall : (divide (behind (written d.hostname) ++ "/rest/".toList)).2 = (none, none) ↔
        ∀ c ∈ behind (written d.hostname), c ≠ '?' ∧ c ≠ '#' := by
      rw [divide_eq_iff, List.forall_mem_append]
      exact and_iff_left (by simp)
    rw [← hall, hquery, hfragment, Option.map_eq_none_iff, Option.map_eq_none_iff, Prod.ext_iff]
  constructor
  · rintro ⟨hnone, -, hport, hrest, hquery, hfragment⟩
    have marks := hmarks.mp ⟨hquery, hfragment⟩
    obtain ⟨hdivide, hbelow⟩ := absolutePath_behind marks
    refine ⟨hnil, hnobody.mp hnone, hsame.mp hport, ?_, marks⟩
    rw [hrest, hdivide, hbelow] at hpath
    exact segmentsText_append_eq_iff.mp hpath.symm
  · rintro ⟨-, hnone, hport, hlevels, marks⟩
    obtain ⟨hdivide, hbelow⟩ := absolutePath_behind marks
    obtain ⟨hquery, hfragment⟩ := hmarks.mpr marks
    refine ⟨hnobody.mpr hnone, ⟨host, hhost, hu⟩, hsame.mpr hport, ?_, hquery, hfragment⟩
    rw [hpath, hdivide, hbelow]
    exact segmentsText_append_eq_iff.mpr hlevels

/-! ## Hostnames that nothing divides -/

/-- A text that keeps all its characters in a URL, and is a host without a port, stands alone. -/
theorem alone_of_kept (hempty : (hostText d.hostname).toList ≠ [])
    (hkept : ∀ c ∈ (hostText d.hostname).toList, isOneOf "\t\n\r" c = false ∧
      endsAuthority true c = false ∧ c ≠ '@')
    (hrun : hostRun false (hostText d.hostname).toList = (hostText d.hostname).toList) :
    Alone d ∧ hostChars (written d.hostname) = (hostText d.hostname).toList := by
  have hwritten : written d.hostname = (hostText d.hostname).toList := by
    have hfilter : (hostText d.hostname).toList.filter (fun c => !isOneOf "\t\n\r" c) =
        (hostText d.hostname).toList := List.filter_eq_self.mpr fun c hc => by simp [(hkept c hc).1]
    obtain ⟨c, rest, hcons⟩ := List.exists_cons_of_ne_nil hempty
    have hends := (hkept c (by simp [hcons])).2.1
    simp only [endsAuthority, Bool.or_eq_false_iff] at hends
    rw [written, hfilter, hcons, List.dropWhile_cons_of_neg (by simp [hends.1])]
  rw [← hwritten] at hempty hkept hrun ⊢
  have hauthority : authority (written d.hostname) = written d.hostname :=
    List.takeWhile_eq_self_iff.mpr fun c hc => by simp [(hkept c hc).2.1]
  have hbehind : behind (written d.hostname) = [] :=
    List.dropWhile_eq_nil_iff.mpr fun c hc => by simp [(hkept c hc).2.1]
  have hhost : hostPart (written d.hostname) = written d.hostname := by
    have huser : (written d.hostname).reverse.takeWhile (· != '@') =
        (written d.hostname).reverse :=
      List.takeWhile_eq_self_iff.mpr fun c hc => by
        simpa using (hkept c (List.mem_reverse.mp hc)).2.2
    show ((authority _).reverse.takeWhile (· != '@')).reverse = _
    rw [hauthority, huser, List.reverse_reverse]
  have hchars : hostChars (written d.hostname) = written d.hostname := by
    rw [hostChars, hhost, hrun]
  refine ⟨⟨hempty, .inl ?_, fun _ => .inl ?_, by rw [hbehind]; rfl, by simp [hbehind]⟩, hchars⟩
  · simp [userPart, hauthority, hhost]
  · rw [portPart, hchars, hhost]
    exact List.drop_eq_nil_of_le (Nat.le_succ _)

/-- **An address of eight groups, and a hostname that nothing divides, stand alone.** -/
theorem alone_of_plain (hempty : d.hostname.toList ≠ [])
    (h : (∃ groups, Address.ofText? d.hostname = some (.v6 groups)) ∨
      ∀ c ∈ d.hostname.toList, isDivider c = false) :
    Alone d ∧ hostChars (written d.hostname) = (hostText d.hostname).toList := by
  by_cases hv6 : ∃ groups, Address.ofText? d.hostname = some (.v6 groups)
  · obtain ⟨groups, hgroups⟩ := hv6
    obtain ⟨htext, hkept, hrun⟩ := hostText_of_v6 hgroups
    exact alone_of_kept (by simp [htext]) hkept hrun
  · have hplain := h.resolve_left hv6
    have htext := hostText_of_name fun groups hgroups => hv6 ⟨groups, hgroups⟩
    have hkept := fun c hc => of_not_divider (hplain c hc)
    rw [← htext] at hempty hkept
    exact alone_of_kept hempty (fun c hc => ⟨(hkept c hc).1, (hkept c hc).2.1, (hkept c hc).2.2.1⟩)
      (hostRun_of_plain (fun c hc => (hkept c hc).2.2.2) false)

/-! ## Requests -/

end Rest

/-- A fetch may put a call, after answers of some kind. -/
inductive Fetch.Puts : Fetch → Call → Prop
  | now {c : Call} {next : List Record → Fetch} : Puts (.call c next) c
  | later {c c' : Call} {next : List Record → Fetch} {rows : List Record} :
      Puts (next rows) c' → Puts (.call c next) c'
  | told {channel : String} {next : Option String → Fetch} {body : Option String} {c : Call} :
      Puts (next body) c → Puts (.release channel next) c

/-- The path that is requested for a call: that of a command stands below the path it is run on. -/
def Call.target (c : Call) : String :=
  match c.verb with
  | .list => c.path
  | .command name => c.path ++ "/" ++ name

namespace Rest

/-- **A call with a plain path is requested below the base.** -/
theorem request_plain {e : Endpoint} (hpath : e.base.path = "/rest/")
    (hweb : e.base.scheme = "http" ∨ e.base.scheme = "https") {c : Call}
    (h : PlainPath c.target.toList) :
    ∃ r, e.request c = .ok r ∧ ∃ query, r.url =
      { e.base with path := "/rest/" ++ c.target, query := query, fragment := none } := by
  have hurl : e.urlOf c.target = .ok
      { e.base with path := "/rest/" ++ c.target, query := none, fragment := none } := by
    obtain ⟨first, rest, hcons, hslash⟩ := h.start
    have hdrop : String.ofList (c.target.toList.dropWhile (· == '/')) = c.target := by
      rw [hcons, List.dropWhile_cons_of_neg (by simpa using hslash), ← hcons, String.ofList_toList]
    rw [Endpoint.urlOf, hdrop, join_plain hpath h]
  have hallowed : (e.base.scheme != "http" && e.base.scheme != "https") = false := by
    rcases hweb with h | h
    · simp [h]
    · simp [h]
  obtain ⟨path, verb, params⟩ := c
  cases verb with
  | list =>
    have hurl : e.urlOf path = _ := hurl
    refine ⟨?made, ?run, ?query, ?url⟩
    case run =>
      simp only [Endpoint.request, hurl, bind, Except.bind, hallowed, Bool.false_eq_true, if_false]
      rfl
    case url => rfl
  | command name =>
    have hurl : e.urlOf (path ++ "/" ++ name) = _ := hurl
    refine ⟨?posted, ?sent, ?kept, ?below⟩
    case sent =>
      simp only [Endpoint.request, hurl, bind, Except.bind, hallowed, Bool.false_eq_true, if_false]
      rfl
    case below => rfl

end Rest

namespace Catalog

/-- All calls of a fetch have plain paths. -/
def PlainSource (f : Fetch) : Prop := ∀ c, f.Puts c → PlainPath c.target.toList

theorem listItems_plain {path : String} (h : PlainPath path.toList)
    (query : List (String × String)) : PlainSource (listItems path query) := by
  rintro c (_ | ⟨⟨⟩⟩)
  exact h

theorem monitor_plain {m : MonitorPath} (h : PlainPath m.path.toList)
    (hcommand : PlainPath (m.path ++ "/" ++ "monitor").toList) : PlainSource m.fetch := by
  rintro c (_ | hlater)
  · exact h
  · dsimp only at hlater
    split at hlater
    · cases hlater
    · rcases hlater with _ | ⟨⟨⟩⟩
      exact hcommand

/-- All calls of a group have plain paths. -/
structure PlainGroup (g : Group) : Prop where
  source : ∀ st ∈ g.stages, PlainSource st.source

theorem single_plain {name : String} {st : Stage} (h : PlainSource st.source) :
    PlainGroup (single name st) :=
  ⟨List.forall_mem_singleton.mpr h⟩

theorem wifi_plain : PlainGroup wifi :=
  ⟨List.forall_mem_cons.mpr ⟨listItems_plain (.of_check rfl) _,
    List.forall_mem_singleton.mpr (monitor_plain (.of_check rfl) (.of_check rfl))⟩⟩

theorem tables_plain {name path suffix : String}
    (h : (firewallTables.all fun t => checkPath (path ++ t).toList) = true) :
    PlainGroup ⟨name, firewallTables.map fun t => firewallTable path t suffix⟩ := by
  refine ⟨fun st hst => ?_⟩
  obtain ⟨table, htable, rfl⟩ := List.mem_map.mp hst
  exact listItems_plain (.of_check (List.all_eq_true.mp h table htable)) _

/-- **The paths of the catalog are plain.** -/
theorem groups_plain : ∀ g ∈ groups, PlainGroup g := by
  unfold groups
  repeat' refine List.forall_mem_cons.mpr ⟨?_, ?_⟩
  -- nearly all groups have one stage; the firewalls and wifi have more
  all_goals first
    | exact single_plain (listItems_plain (.of_check rfl) _)
    | exact single_plain (monitor_plain (.of_check rfl) (.of_check rfl))
    | exact tables_plain rfl
    | exact wifi_plain
    | exact List.forall_mem_nil _

end Catalog

namespace Rest

open Config

variable {d : DeviceSettings} {u : Url}

/-- **What base URLs address.** For valid settings of a device whose base URL can be built: it has
the scheme that is configured, and the port, if there is one. It is that of the host, over the
configured port or that of the scheme, without a user, a query and a fragment and with no other
path, exactly when the hostname writes a host alone. An address of eight groups and every hostname
that nothing divides do so, and are all of the host. And below the base URL of a host every call of
the catalog is requested, at its own path. -/
theorem base_urls {known : String → Bool} (valid : d.check known = .ok ())
    (built : baseUrl d = .ok u) :
    (u.scheme = (if d.useSsl then "https" else "http") ∧
      ∀ port, d.port = some port → effectivePort (scheme d) u.port = some port) ∧
    (IsBase d u ↔ Alone d) ∧
    ((∃ groups, Address.ofText? d.hostname = some (.v6 groups)) ∨
        (∀ c ∈ d.hostname.toList, isDivider c = false) →
      Alone d ∧ hostChars (written d.hostname) = (hostText d.hostname).toList) ∧
    (IsBase d u → ∀ env patience, ∃ e, Endpoint.ofSettings d env patience = .ok e ∧
      ∀ g ∈ Catalog.groups, ∀ st ∈ g.stages, ∀ c, st.source.Puts c → ∃ r, e.request c = .ok r ∧
        ∃ query, r.url = { u with path := "/rest/" ++ c.target, query := query }) := by
  have hread := baseUrl_readFrom built
  refine ⟨⟨hread.scheme, fun port hport => ?_⟩, isBase_iff built,
    alone_of_plain (DeviceSettings.hostname_ne_nil valid), fun hbase env patience => ?_⟩
  · obtain ⟨port', -, hasked⟩ := hread.port
    rw [hasked, hport]
    exact effectivePort_of_configured (scheme d) port
  · refine ⟨_, by rw [Endpoint.ofSettings, built]; rfl, fun g hg st hst c hc => ?_⟩
    have hweb : u.scheme = "http" ∨ u.scheme = "https" := by
      rw [hread.scheme, scheme]
      cases d.useSsl with
      | true => exact .inr rfl
      | false => exact .inl rfl
    obtain ⟨r, hr, query, hurl⟩ := request_plain (e := ⟨u, d.username, d.resolvedPassword env,
      d.socketTimeout.getD patience⟩) hbase.path hweb ((Catalog.groups_plain g hg).source st hst c hc)
    exact ⟨r, hr, query, by rw [hurl, ← hbase.fragment]⟩

/-- A device with an address of eight groups and a port of its own. -/
def vault : DeviceSettings where
  hostname := "fd00::1"
  port := some 8443
  username := "prometheus"
  useSsl := true
  collectors := ["interface"]

/-- Its interfaces are requested below its base URL. -/
theorem base_urls_vault : vault.check Catalog.isKnown = .ok () ∧
    ∃ u e, baseUrl vault = .ok u ∧ IsBase vault u ∧
      Endpoint.ofSettings vault Dict.empty (.ofSeconds 2) = .ok e ∧
      ∃ r, e.request ⟨"interface", .list, textParams []⟩ = .ok r ∧ r.url.path = "/rest/interface" ∧
        r.url.host = some (.address (.v6 [64768, 0, 0, 0, 0, 0, 0, 1])) ∧ r.url.port = some 8443 := by
  have valid : vault.check Catalog.isKnown = .ok () := by decide +kernel
  have haddress : Address.ofText? vault.hostname = some (.v6 [64768, 0, 0, 0, 0, 0, 0, 1]) := by
    decide +kernel
  have hbuilt : baseUrl vault = .ok ⟨"https", "", some (.address (.v6 [64768, 0, 0, 0, 0, 0, 0, 1])),
      some 8443, "/rest/", none, none⟩ := by decide +kernel
  obtain ⟨-, hiff, halone, hrequests⟩ := base_urls valid hbuilt
  have hbase := hiff.mpr (halone (.inl ⟨_, haddress⟩)).1
  obtain ⟨e, he, hall⟩ := hrequests hbase Dict.empty (.ofSeconds 2)
  obtain ⟨r, hr, query, hurl⟩ := hall Catalog.interface List.mem_cons_self _ List.mem_cons_self _
    (Fetch.Puts.now (c := ⟨"interface", .list, textParams []⟩))
  exact ⟨valid, _, e, hbuilt, hbase, he, r, hr, by rw [hurl]; rfl, by rw [hurl], by rw [hurl]⟩

/-- A device whose hostname writes a level of a path behind the host. -/
def cellar : DeviceSettings where
  hostname := "[fd00::1]/admin"
  username := "prometheus"

/-- **A valid hostname may write more than a host**: all that is requested of the device is requested
below another path. -/
theorem cellar_elsewhere : cellar.check Catalog.isKnown = .ok () ∧
    ∃ u, baseUrl cellar = .ok u ∧ u.path = "/admin/rest/" ∧ ¬ IsBase cellar u := by
  have hbuilt : baseUrl cellar = .ok ⟨"http", "", some (.address (.v6 [64768, 0, 0, 0, 0, 0, 0, 1])),
      none, "/admin/rest/", none, none⟩ := by decide +kernel
  exact ⟨by decide +kernel, _, hbuilt, rfl, fun hbase => absurd hbase.path (by simp)⟩

end Rest

end RouterMetrics

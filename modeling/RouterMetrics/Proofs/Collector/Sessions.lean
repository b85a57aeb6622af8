import Mathlib.Algebra.BigOperators.Group.List.Lemmas
import Mathlib.Algebra.BigOperators.Ring.Finset
import Mathlib.Data.List.Perm.Subperm
import RouterMetrics.Catalog
import RouterMetrics.Proofs.Collector.Names

/-!
# Sessions of users

Rows of active users that have one joined key make one session (`Catalog.collapseSessions_eq`). It
has the texts of its first row, the number of its rows and the greatest login text of them
(`Catalog.isSession_merged`). Address, name and service are what a session is meant to be told by.
The key joins them with hyphens, so two of these triples can have one key when a name has a hyphen
in it; there is one session for each triple exactly when that does not happen
(`Catalog.one_session_per_triple_iff`), as it does not without hyphens
(`Catalog.sessionOf_eq_of_sessionKey_eq`).
-/

namespace RouterMetrics

/-! ## Elements in the order of their first appearance -/

section FirstAppearance

variable {α β : Type} [BEq α] [LawfulBEq α]

theorem eraseDups_append_singleton (l : List α) (a : α) :
    (l ++ [a]).eraseDups = if a ∈ l then l.eraseDups else l.eraseDups ++ [a] := by
  rw [List.eraseDups_append]
  by_cases h : a ∈ l
  · simp [List.removeAll, h]
  · simp [List.removeAll, h, List.eraseDups_cons]

theorem nodup_eraseDups (l : List α) : l.eraseDups.Nodup := by
  induction l using List.reverseRecOn with
  | nil => exact List.nodup_nil
  | append_singleton l a ih =>
    rw [eraseDups_append_singleton]
    split
    case isTrue => exact ih
    case isFalse h =>
      refine List.nodup_append.mpr ⟨ih, List.nodup_singleton a, fun b hb c hc heq => h ?_⟩
      rw [← List.mem_singleton.mp hc, ← heq]
      exact List.mem_eraseDups.mp hb

variable [BEq β] [LawfulBEq β]

/-- What is told apart after a change appears in the same order. -/
theorem eraseDups_map {f : α → β} {l : List α} (inj : ∀ a ∈ l, ∀ b ∈ l, f a = f b → a = b) :
    (l.map f).eraseDups = l.eraseDups.map f := by
  induction l using List.reverseRecOn with
  | nil => rfl
  | append_singleton l a ih =>
    have hmem : f a ∈ l.map f ↔ a ∈ l := by
      refine ⟨fun h => ?_, List.mem_map_of_mem⟩
      obtain ⟨b, hb, heq⟩ := List.mem_map.mp h
      rwa [← inj b (List.mem_append_left _ hb) a (List.mem_append_right _ List.mem_cons_self) heq]
    have hrest := ih fun b hb c hc =>
      inj b (List.mem_append_left _ hb) c (List.mem_append_left _ hc)
    rw [List.map_append, List.map_singleton, eraseDups_append_singleton,
      eraseDups_append_singleton, hrest]
    by_cases h : a ∈ l
    · rw [if_pos h, if_pos (hmem.mpr h)]
    · rw [if_neg h, if_neg (mt hmem.mp h), List.map_append, List.map_singleton]

/-- A change after which as many elements appear keeps them apart. -/
theorem inj_of_length_eraseDups {f : α → β} {l : List α}
    (h : (l.map f).eraseDups.length = l.eraseDups.length) :
    ∀ a ∈ l, ∀ b ∈ l, f a = f b → a = b := by
  have hsubset : (l.map f).eraseDups ⊆ l.eraseDups.map f := by
    intro b hb
    obtain ⟨a, ha, rfl⟩ := List.mem_map.mp (List.mem_eraseDups.mp hb)
    exact List.mem_map_of_mem (List.mem_eraseDups.mpr ha)
  have hperm : (l.map f).eraseDups.Perm (l.eraseDups.map f) :=
    ((nodup_eraseDups _).subperm hsubset).perm_of_length_le (by rw [List.length_map, h])
  have hdistinct := hperm.nodup_iff.mp (nodup_eraseDups _)
  exact fun a ha b hb heq => List.inj_on_of_nodup_map hdistinct (List.mem_eraseDups.mpr ha)
    (List.mem_eraseDups.mpr hb) heq

end FirstAppearance

/-- Every element of a list is counted under one of its keys. -/
theorem sum_length_filter {α β : Type} [DecidableEq α] (f : β → α) (l : List β) :
    ((l.map f).eraseDups.map fun k => (l.filter fun b => f b = k).length).sum = l.length := by
  have hcount : ∀ k, (l.filter fun b => f b = k).length = (l.map f).count k := by
    intro k
    rw [List.count_eq_countP, List.countP_map, ← List.countP_eq_length_filter]
    exact List.countP_congr fun b _ => by simp
  have hperm : (l.map f).eraseDups.Perm (l.map f).dedup :=
    (List.perm_ext_iff_of_nodup (nodup_eraseDups _) (List.nodup_dedup _)).mpr fun k => by simp
  simp only [hcount]
  rw [(hperm.map _).sum_eq, List.sum_map_count_dedup_eq_length, List.length_map]

namespace Catalog

variable {r s : Record} {rows : List Record}

/-! ## Rows of one key -/

/-- The session of some rows. -/
def merged : List Record → Record
  | [] => Dict.empty
  | first :: rest => rest.foldl joinSession (openSession first)

theorem merged_append (h : rows ≠ []) (r : Record) :
    merged (rows ++ [r]) = joinSession (merged rows) r := by
  cases rows with
  | nil => exact absurd rfl h
  | cons first rest => simp [merged]

theorem addToSessions_of_new {sessions : List (String × Record)}
    (h : sessionKey r ∉ sessions.map (·.1)) :
    addToSessions r sessions = sessions ++ [(sessionKey r, openSession r)] := by
  induction sessions with
  | nil => rfl
  | cons e rest ih =>
    rw [List.map_cons, List.mem_cons, not_or] at h
    rw [addToSessions, if_neg (Ne.symm h.1), ih h.2, List.cons_append]

theorem addToSessions_of_known {sessions : List (String × Record)}
    (distinct : (sessions.map (·.1)).Nodup) (h : sessionKey r ∈ sessions.map (·.1)) :
    addToSessions r sessions =
      sessions.map fun e => if e.1 = sessionKey r then (e.1, joinSession e.2 r) else e := by
  induction sessions with
  | nil => cases h
  | cons e rest ih =>
    obtain ⟨hnew, hrest⟩ := List.nodup_cons.mp distinct
    rw [addToSessions, List.map_cons]
    by_cases he : e.1 = sessionKey r
    · have hsame : ∀ e' ∈ rest, (if e'.1 = sessionKey r then (e'.1, joinSession e'.2 r) else e') =
          e' := by
        intro e' he'
        refine if_neg fun heq => hnew ?_
        rw [← he] at heq
        exact List.mem_map.mpr ⟨e', he', heq⟩
      rw [if_pos he, if_pos he, List.map_congr_left hsame, List.map_id']
    · have hmem := (List.mem_cons.mp h).resolve_left (Ne.symm he)
      rw [if_neg he, if_neg he, ih hrest hmem]

/-- The sessions of rows, under their keys. -/
theorem foldl_addToSessions (rows : List Record) :
    rows.foldl (fun sessions r => addToSessions r sessions) [] =
      (rows.map sessionKey).eraseDups.map fun key =>
        (key, merged (rows.filter fun r => sessionKey r = key)) := by
  induction rows using List.reverseRecOn with
  | nil => rfl
  | append_singleton rows r ih =>
    have hkeys : ((rows.map sessionKey).eraseDups.map fun key =>
        (key, merged (rows.filter fun r => sessionKey r = key))).map (·.1) =
          (rows.map sessionKey).eraseDups := by
      rw [List.map_map]
      exact List.map_id' _
    -- the rows of another key are the same, and those of the key of `r` are one more
    have hother : ∀ key, key ≠ sessionKey r → ((rows ++ [r]).filter fun r => sessionKey r = key) =
        rows.filter fun r => sessionKey r = key := by
      intro key hkey
      simp [List.filter_append, Ne.symm hkey]
    rw [List.foldl_append, List.foldl_cons, List.foldl_nil, ih, List.map_append, List.map_singleton,
      eraseDups_append_singleton]
    by_cases hknown : sessionKey r ∈ rows.map sessionKey
    · rw [if_pos hknown, addToSessions_of_known (by rw [hkeys]; exact nodup_eraseDups _)
        (by rw [hkeys]; exact List.mem_eraseDups.mpr hknown), List.map_map]
      refine List.map_congr_left fun key _ => ?_
      by_cases hkey : key = sessionKey r
      · obtain ⟨r', hr', hsame⟩ := List.mem_map.mp hknown
        have hsome : (rows.filter fun r' => sessionKey r' = key) ≠ [] :=
          List.ne_nil_of_mem (List.mem_filter.mpr ⟨hr', by simp [hkey, hsame]⟩)
        simp [hkey, List.filter_append, merged_append (hkey ▸ hsome)]
      · rw [hother key hkey]
        simp [hkey]
    · rw [if_neg hknown, addToSessions_of_new (by rwa [hkeys, List.mem_eraseDups]), List.map_append,
        List.map_singleton]
      have hnone : (rows.filter fun r' => sessionKey r' = sessionKey r) = [] :=
        List.filter_eq_nil_iff.mpr fun r' hr' heq =>
          hknown (List.mem_map.mpr ⟨r', hr', of_decide_eq_true heq⟩)
      congr 1
      · refine List.map_congr_left fun key hkey => ?_
        rw [hother key fun heq => hknown (heq ▸ List.mem_eraseDups.mp hkey)]
      · simp [List.filter_append, hnone, merged]

/-- **There is one session for each key**, in the order of their first rows. -/
theorem collapseSessions_eq (rows : List Record) :
    collapseSessions rows = (rows.map sessionKey).eraseDups.map fun key =>
      merged (rows.filter fun r => sessionKey r = key) := by
  rw [collapseSessions, foldl_addToSessions, List.map_map]
  rfl

/-! ## What a session tells -/

/-- The fields of a session. -/
def sessionFields : List String := ["address", "name", "via", "group", "count", "when"]

/-- The session of some rows: the texts of the first one, with a word for an address or a name that
it does not have, their number, and the greatest of their login texts. -/
structure IsSession (rows : List Record) (s : Record) : Prop where
  first : ∃ r, rows.head? = some r ∧
    s.get? "address" = some (.text ((r.text? "address").getD "unknown")) ∧
    s.get? "name" = some (.text ((r.text? "name").getD "unknown")) ∧
    s.get? "via" = some (.text (r.textD "via")) ∧ s.get? "group" = some (.text (r.textD "group"))
  count : s.get? "count" = some (.int rows.length)
  login : ∃ r ∈ rows, s.get? "when" = some (.text (r.textD "when")) ∧
    ∀ r' ∈ rows, r'.textD "when" ≤ r.textD "when"
  only : ∀ k ∉ sessionFields, s.get? k = none

theorem joinSession_get? {known : String} (hwhen : s.get? "when" = some (.text known)) (r : Record)
    (k : String) : (joinSession s r).get? k =
      if k = "count" then some (.int (countOf s + 1))
      else if k = "when" ∧ known < r.textD "when" then some (.text (r.textD "when"))
      else s.get? k := by
  have htext : s.text? "when" = some known := Record.text?_eq_some_iff.mpr hwhen
  rw [joinSession, htext]
  dsimp only
  rw [Dict.get?_insert]
  by_cases hcount : k = "count"
  · rw [if_pos hcount, if_pos hcount.symm]
    by_cases hlater : known < r.textD "when"
    · simp [hlater, countOf, setText, Dict.get?_insert]
    · simp [hlater]
  · rw [if_neg hcount, if_neg (Ne.symm hcount)]
    by_cases hlater : known < r.textD "when"
    · by_cases hk : k = "when"
      · simp [hlater, hk, setText, Dict.get?_insert]
      · simp [hlater, hk, Ne.symm hk, setText, Dict.get?_insert]
    · simp [hlater]

theorem isSession_openSession (r : Record) : IsSession [r] (openSession r) where
  first := ⟨r, rfl, by simp [openSession, Dict.ofList, Dict.get?_insert]⟩
  count := by simp [openSession, Dict.ofList, Dict.get?_insert]
  login := ⟨r, List.mem_cons_self, by simp [openSession, Dict.ofList, Dict.get?_insert], by simp⟩
  only := by
    intro k hk
    refine Dict.ofList_get?_eq_none_iff.mpr ?_
    simp only [sessionFields, List.mem_cons, not_or] at hk
    simp [hk, eq_comm]

/-- **One more row keeps the texts of the first one**, counts itself, and tells its login when that
is the greater text. -/
theorem IsSession.joinSession (h : IsSession rows s) (r : Record) :
    IsSession (rows ++ [r]) (joinSession s r) := by
  obtain ⟨latest, hlatest, hwhen, hgreatest⟩ := h.login
  have hget := joinSession_get? hwhen r
  refine ⟨?_, ?_, ?_, ?_⟩
  · obtain ⟨first, hfirst, htexts⟩ := h.first
    exact ⟨first, by simp [List.head?_append, hfirst], by simpa [hget] using htexts⟩
  · have hcount : countOf s = rows.length := by simp [countOf, h.count]
    simp [hget, hcount]
  · by_cases hlater : latest.textD "when" < r.textD "when"
    · refine ⟨r, by simp, by simp [hget, hlater], ?_⟩
      refine List.forall_mem_append.mpr ⟨fun r' hr' => ?_, by simp⟩
      exact Std.le_trans (hgreatest r' hr') (Std.le_of_lt hlater)
    · refine ⟨latest, by simp [hlatest], by simp [hget, hlater, hwhen], ?_⟩
      exact List.forall_mem_append.mpr ⟨hgreatest, by simpa using Std.not_lt.mp hlater⟩
  · intro k hk
    have hnone := h.only k hk
    simp only [sessionFields, List.mem_cons, not_or] at hk
    simp [hget, hk, hnone]

theorem isSession_merged (h : rows ≠ []) : IsSession rows (merged rows) := by
  induction rows using List.reverseRecOn with
  | nil => exact absurd rfl h
  | append_singleton rows r ih =>
    cases rows with
    | nil => exact isSession_openSession r
    | cons first rest =>
      have hsome : first :: rest ≠ [] := List.cons_ne_nil _ _
      rw [merged_append hsome]
      exact (ih hsome).joinSession r

/-- A session has no login exactly when none of its rows has one. -/
theorem IsSession.login_empty_iff (h : IsSession rows s) :
    s.get? "when" = some (.text "") ↔ ∀ r ∈ rows, r.textD "when" = "" := by
  obtain ⟨latest, hlatest, hwhen, hgreatest⟩ := h.login
  have hempty : s.get? "when" = some (.text "") ↔ latest.textD "when" = "" := by
    rw [hwhen, Option.some.injEq, Json.text.injEq]
  rw [hempty]
  refine ⟨fun heq r hr => ?_, fun hall => hall latest hlatest⟩
  have hle := hgreatest r hr
  rw [heq] at hle
  exact Std.le_antisymm hle (List.not_lt_nil _)

/-! ## Keys and triples -/

/-- What sessions are meant to be told by: address, name and service, empty where there is no
text. -/
def sessionOf (r : Record) : String × String × String :=
  (r.textD "address", r.textD "name", r.textD "via")

/-- A triple with hyphens in between. -/
def hyphened (t : String × String × String) : String := t.1 ++ "-" ++ t.2.1 ++ "-" ++ t.2.2

theorem sessionKey_eq (r : Record) : sessionKey r = hyphened (sessionOf r) := rfl

theorem map_sessionKey (rows : List Record) :
    rows.map sessionKey = (rows.map sessionOf).map hyphened := by
  rw [List.map_map]
  exact List.map_congr_left fun r _ => sessionKey_eq r

theorem filter_sessionKey_ne_nil {key : String} (h : key ∈ (rows.map sessionKey).eraseDups) :
    (rows.filter fun r => sessionKey r = key) ≠ [] := by
  obtain ⟨r, hr, rfl⟩ := List.mem_map.mp (List.mem_eraseDups.mp h)
  exact List.ne_nil_of_mem (List.mem_filter.mpr ⟨hr, by simp⟩)

theorem forall₂_isSession (rows : List Record) :
    List.Forall₂ (fun key s => IsSession (rows.filter fun r => sessionKey r = key) s)
      (rows.map sessionKey).eraseDups (collapseSessions rows) := by
  rw [collapseSessions_eq]
  exact List.forall₂_map_right_iff.mpr (List.forall₂_same.mpr fun _ hkey =>
    isSession_merged (filter_sessionKey_ne_nil hkey))

/-- No row is lost and none is counted twice. -/
theorem sum_countOf (rows : List Record) :
    ((collapseSessions rows).map countOf).sum = rows.length := by
  have hcount : (collapseSessions rows).map countOf =
      ((rows.map sessionKey).eraseDups.map fun key =>
        (rows.filter fun r => sessionKey r = key).length).map Nat.cast := by
    rw [collapseSessions_eq, List.map_map, List.map_map]
    refine List.map_congr_left fun key hkey => ?_
    simp [countOf, (isSession_merged (filter_sessionKey_ne_nil hkey)).count]
  rw [hcount, ← Nat.cast_list_sum, sum_length_filter]

/-- Keys that tell triples apart make one session for each triple. -/
theorem forall₂_isSession_sessionOf
    (inj : ∀ r ∈ rows, ∀ r' ∈ rows, sessionKey r = sessionKey r' → sessionOf r = sessionOf r') :
    List.Forall₂ (fun triple s => IsSession (rows.filter fun r => sessionOf r = triple) s)
      (rows.map sessionOf).eraseDups (collapseSessions rows) := by
  have hkeys : (rows.map sessionKey).eraseDups =
      (rows.map sessionOf).eraseDups.map hyphened := by
    rw [map_sessionKey]
    refine eraseDups_map fun t ht t' ht' heq => ?_
    obtain ⟨r, hr, rfl⟩ := List.mem_map.mp ht
    obtain ⟨r', hr', rfl⟩ := List.mem_map.mp ht'
    rw [← sessionKey_eq, ← sessionKey_eq] at heq
    exact inj r hr r' hr' heq
  have hkeyed := forall₂_isSession rows
  rw [hkeys, List.forall₂_map_left_iff] at hkeyed
  refine ((List.forall₂_and_left _ _).mpr ⟨fun t ht => List.mem_eraseDups.mp ht, hkeyed⟩).imp
    fun t s ⟨ht, h⟩ => ?_
  obtain ⟨r, hr, rfl⟩ := List.mem_map.mp ht
  rw [← sessionKey_eq] at h
  have hrows : (rows.filter fun r' => sessionKey r' = sessionKey r) =
      rows.filter fun r' => sessionOf r' = sessionOf r := by
    refine List.filter_congr fun r' hr' => decide_eq_decide.mpr ⟨inj r' hr' r hr, fun heq => ?_⟩
    rw [sessionKey_eq, heq, ← sessionKey_eq]
  rwa [hrows] at h

/-- **When there is one session per triple.** Rows make one session for each of their keys, in the
order of their first rows, and the sessions count as many rows as there are. They make one for each
triple of address, name and service, each of the rows of its triple, exactly when no two triples
have one key. -/
theorem one_session_per_triple_iff (rows : List Record) :
    List.Forall₂ (fun key s => IsSession (rows.filter fun r => sessionKey r = key) s)
        (rows.map sessionKey).eraseDups (collapseSessions rows) ∧
      ((collapseSessions rows).map countOf).sum = rows.length ∧
      (List.Forall₂ (fun triple s => IsSession (rows.filter fun r => sessionOf r = triple) s)
          (rows.map sessionOf).eraseDups (collapseSessions rows) ↔
        ∀ r ∈ rows, ∀ r' ∈ rows, sessionKey r = sessionKey r' → sessionOf r = sessionOf r') := by
  refine ⟨forall₂_isSession rows, sum_countOf rows, fun h r hr r' hr' heq => ?_,
    forall₂_isSession_sessionOf⟩
  -- as many keys as triples appear, so no key is of two of them
  have hlength : ((rows.map sessionOf).map hyphened).eraseDups.length =
      (rows.map sessionOf).eraseDups.length := by
    rw [← map_sessionKey]
    exact (forall₂_isSession rows).length_eq.trans h.length_eq.symm
  rw [sessionKey_eq, sessionKey_eq] at heq
  exact inj_of_length_eraseDups hlength _ (List.mem_map_of_mem hr) _ (List.mem_map_of_mem hr') heq

/-- A row of the user of that name by that service. -/
def activeUser (name via : String) : Record :=
  Dict.ofList [("address", .text "10.0.0.2"), ("name", .text name), ("via", .text via)]

/-- A user with a hyphen in the name has the session of another one, of another service. -/
theorem one_session_of_two_users :
    let rows := [activeUser "ops-mac" "telnet", activeUser "ops" "mac-telnet"]
    (rows.map sessionOf).eraseDups =
        [("10.0.0.2", "ops-mac", "telnet"), ("10.0.0.2", "ops", "mac-telnet")] ∧
      (collapseSessions rows).map (fun s => (s.textD "name", s.textD "via", countOf s)) =
        [("ops-mac", "telnet", 2)] ∧
      ¬ List.Forall₂ (fun triple s => IsSession (rows.filter fun r => sessionOf r = triple) s)
        (rows.map sessionOf).eraseDups (collapseSessions rows) := by
  intro rows
  refine ⟨by decide, by decide, fun h => ?_⟩
  exact absurd h.length_eq (by decide)

/-! ## Without hyphens -/

/-- The address and the name have no hyphen. -/
def Unhyphened (r : Record) : Prop :=
  '-' ∉ (r.textD "address").toList ∧ '-' ∉ (r.textD "name").toList

/-- What stands before the first hyphen tells where it stands. -/
theorem append_hyphen_inj {a a' b b' : String} (ha : '-' ∉ a.toList) (ha' : '-' ∉ a'.toList)
    (h : a ++ "-" ++ b = a' ++ "-" ++ b') : a = a' ∧ b = b' := by
  have hbefore : ∀ c d : String, '-' ∉ c.toList →
      (c ++ "-" ++ d).toList.takeWhile (· ≠ '-') = c.toList := by
    intro c d hc
    have hall : ∀ x ∈ c.toList, decide (x ≠ '-') = true := by
      intro x hx
      exact decide_eq_true fun heq => hc (heq ▸ hx)
    rw [String.append_assoc, String.toList_append, List.takeWhile_append_of_pos hall]
    simp
  have haa : a = a' := by
    rw [← String.toList_inj, ← hbefore a b ha, h, hbefore a' b' ha']
  subst haa
  refine ⟨rfl, ?_⟩
  have hlists := congrArg String.toList h
  simp only [String.toList_append] at hlists
  exact String.toList_inj.mp (List.append_cancel_left hlists)

/-- **Users without hyphens in their addresses and names have sessions of their own.** -/
theorem sessionOf_eq_of_sessionKey_eq {r r' : Record} (hr : Unhyphened r) (hr' : Unhyphened r')
    (h : sessionKey r = sessionKey r') : sessionOf r = sessionOf r' := by
  have hkey : ∀ r, sessionKey r =
      r.textD "address" ++ "-" ++ (r.textD "name" ++ "-" ++ r.textD "via") := by
    intro r
    simp only [sessionKey, String.append_assoc]
  rw [hkey, hkey] at h
  obtain ⟨ha, hrest⟩ := append_hyphen_inj hr.1 hr'.1 h
  obtain ⟨hn, hv⟩ := append_hyphen_inj hr.2 hr'.2 hrest
  rw [sessionOf, sessionOf, ha, hn, hv]

end Catalog

end RouterMetrics

import Mathlib.Algebra.GroupWithZero.Nat
import Mathlib.Data.List.Induction
import Mathlib.Data.List.Nodup
import RouterMetrics.LoadStats

/-!
# What tallies hold

A tally is a list of rows that is kept as a map: one row for each fingerprint, under the key with
it that came first. What a change does to it is said once (`Tally.change_cases`); all else is read
off from that. The statistics of loads are four tallies of some of these loads each
(`LoadStats.ofLoads_eq`), and a tally of loads has under a key what the loads with its fingerprint
leave there, one after the other (`Tally.ofLoads_get?`).
-/

namespace RouterMetrics

/-- A load that has been counted. -/
structure Counted where
  key : LoadKey
  elapsed : Nat
  outcome : LoadOutcome
  time : Moment

namespace Tally

variable {α : Type} {t : Tally α}

/-- No two keys of a tally have the same fingerprint. -/
def Distinct {α : Type} (t : Tally α) : Prop :=
  t.Pairwise fun a b => a.1.fingerprint ≠ b.1.fingerprint

/-! ## Lookups -/

@[simp] theorem get?_nil (k : LoadKey) : Tally.get? ([] : Tally α) k = none := rfl

theorem get?_cons (e : LoadKey × α) (t : Tally α) (k : LoadKey) :
    Tally.get? (e :: t) k = if e.1.fingerprint = k.fingerprint then some e.2 else t.get? k := by
  by_cases h : e.1.fingerprint = k.fingerprint
  · simp [Tally.get?, h]
  · simp [Tally.get?, h]

theorem get?_append (t t' : Tally α) (k : LoadKey) :
    Tally.get? (t ++ t') k = (t.get? k).or (t'.get? k) := by
  simp only [Tally.get?, List.find?_append]
  cases t.find? fun e => e.1.fingerprint == k.fingerprint with
  | none => rfl
  | some _ => rfl

theorem get?_eq_none_iff {k : LoadKey} :
    t.get? k = none ↔ ∀ e ∈ t, e.1.fingerprint ≠ k.fingerprint := by
  simp [Tally.get?]

/-- A row is found by its key. -/
theorem Distinct.get?_of_mem (h : t.Distinct) {k : LoadKey} {x : α} (hmem : (k, x) ∈ t) :
    t.get? k = some x := by
  induction t with
  | nil => exact absurd hmem List.not_mem_nil
  | cons e rest ih =>
    obtain ⟨hhead, hrest⟩ := List.pairwise_cons.mp h
    rw [get?_cons]
    rcases List.mem_cons.mp hmem with rfl | hmem
    · rw [if_pos rfl]
    · rw [if_neg (hhead _ hmem), ih hrest hmem]

/-- What is found by a key stands in a row, whose key has the same fingerprint. -/
theorem exists_mem_of_get? {k : LoadKey} {x : α} (h : t.get? k = some x) :
    ∃ j, j.fingerprint = k.fingerprint ∧ (j, x) ∈ t := by
  obtain ⟨⟨j, y⟩, hfound, rfl⟩ := Option.map_eq_some_iff.mp h
  exact ⟨j, by simpa using List.find?_some hfound, List.mem_of_find?_eq_some hfound⟩

/-! ## Changes -/

/-- A row whose value is changed when its key has the fingerprint of another key. -/
def changeRow (k : LoadKey) (f : α → α) (e : LoadKey × α) : LoadKey × α :=
  if e.1.fingerprint = k.fingerprint then (e.1, f e.2) else e

@[simp] theorem changeRow_fst (k : LoadKey) (f : α → α) (e : LoadKey × α) :
    (changeRow k f e).1 = e.1 := by
  unfold changeRow
  split
  · rfl
  · rfl

/-- **What a change does**: it changes the row that it finds, or else adds one somewhere. -/
theorem change_cases (t : Tally α) (first : α) (k : LoadKey) (f : α → α) :
    ((∃ e ∈ t, e.1.fingerprint = k.fingerprint) ∧ t.change first k f = t.map (changeRow k f)) ∨
    ((∀ e ∈ t, e.1.fingerprint ≠ k.fingerprint) ∧ ∃ before after, t = before ++ after ∧
      t.change first k f = before ++ (k, f first) :: after) := by
  unfold Tally.change
  split
  case isTrue hold =>
    refine .inl ⟨by simpa using hold, List.map_congr_left fun e _ => ?_⟩
    simp only [changeRow, beq_iff_eq]
  case isFalse hnew =>
    exact .inr ⟨by simpa using hnew, _, _, List.takeWhile_append_dropWhile.symm, rfl⟩

theorem Distinct.change (h : t.Distinct) (first : α) (k : LoadKey) (f : α → α) :
    (t.change first k f).Distinct := by
  obtain ⟨-, heq⟩ | ⟨hnew, before, after, rfl, heq⟩ := change_cases t first k f
  · rw [heq]
    exact List.pairwise_map.mpr (h.imp fun hab => by rwa [changeRow_fst, changeRow_fst])
  · rw [heq]
    -- where the new row goes does not matter
    refine (List.perm_middle.pairwise_iff fun hab => Ne.symm hab).mpr ?_
    exact List.pairwise_cons.mpr ⟨fun e he => (hnew e he).symm, h⟩

theorem get?_map_changeRow (t : Tally α) (k j : LoadKey) (f : α → α) :
    Tally.get? (t.map (changeRow k f)) j =
      if k.fingerprint = j.fingerprint then (t.get? j).map f else t.get? j := by
  induction t with
  | nil => simp
  | cons e rest ih =>
    rw [List.map_cons, get?_cons, changeRow_fst, ih, get?_cons]
    by_cases hj : e.1.fingerprint = j.fingerprint
    · simp only [changeRow, hj, if_true, eq_comm (a := k.fingerprint)]
      split
      · rfl
      · rfl
    · simp only [if_neg hj]

/-- **A change is seen by the keys with the fingerprint of its key**, and by no others. -/
theorem get?_change (t : Tally α) (first : α) (k j : LoadKey) (f : α → α) :
    (t.change first k f).get? j =
      if k.fingerprint = j.fingerprint then some (f ((t.get? j).getD first)) else t.get? j := by
  obtain ⟨⟨e, he, hold⟩, heq⟩ | ⟨hnew, before, after, rfl, heq⟩ := change_cases t first k f
  · rw [heq, get?_map_changeRow]
    split
    case isTrue hj =>
      cases hfound : t.get? j with
      | none => exact absurd (hold.trans hj) (get?_eq_none_iff.mp hfound e he)
      | some x => rfl
    case isFalse => rfl
  · rw [heq, get?_append, get?_cons, get?_append]
    split
    case isTrue hj =>
      have hnone : Tally.get? (before ++ after) j = none :=
        get?_eq_none_iff.mpr fun e he => hj ▸ hnew e he
      obtain ⟨hbefore, hafter⟩ : Tally.get? before j = none ∧ Tally.get? after j = none := by
        simpa [get?_append] using hnone
      rw [hbefore, hafter]
      rfl
    case isFalse => rfl

/-- The keys of a changed tally are those that it had and that of the change. -/
theorem mem_change_key {first : α} {k : LoadKey} {f : α → α} {e : LoadKey × α}
    (h : e ∈ t.change first k f) : e.1 = k ∨ ∃ e' ∈ t, e'.1 = e.1 := by
  obtain ⟨-, heq⟩ | ⟨-, before, after, rfl, heq⟩ := change_cases t first k f
  · rw [heq] at h
    obtain ⟨e', he', rfl⟩ := List.mem_map.mp h
    exact .inr ⟨e', he', (changeRow_fst k f e').symm⟩
  · rw [heq] at h
    rcases List.mem_append.mp h with h | h
    · exact .inr ⟨e, List.mem_append_left _ h, rfl⟩
    · rcases List.mem_cons.mp h with rfl | h
      · exact .inl rfl
      · exact .inr ⟨e, List.mem_append_right _ h, rfl⟩

/-- The sum of the values. -/
def sum (t : Tally Nat) : Nat := (t.map (·.2)).sum

theorem Distinct.sum_map_changeRow {t : Tally Nat} (h : t.Distinct) (k : LoadKey)
    (hold : ∃ e ∈ t, e.1.fingerprint = k.fingerprint) :
    Tally.sum (t.map (changeRow k (· + 1))) = t.sum + 1 := by
  induction t with
  | nil => simp at hold
  | cons e rest ih =>
    obtain ⟨hhead, hrest⟩ := List.pairwise_cons.mp h
    by_cases he : e.1.fingerprint = k.fingerprint
    · -- the row of the key is the first one, so the others stay
      have hsame : rest.map (changeRow k (· + 1)) = rest := by
        refine (List.map_congr_left fun e' he' => ?_).trans (List.map_id rest)
        exact if_neg fun heq => hhead e' he' (he.trans heq.symm)
      simp only [Tally.sum, List.map_cons, List.sum_cons, hsame, changeRow, he, if_true]
      omega
    · have hrow : changeRow k (· + 1) e = e := if_neg he
      have hold' : ∃ e' ∈ rest, e'.1.fingerprint = k.fingerprint := by simpa [he] using hold
      have hsum := ih hrest hold'
      simp only [Tally.sum] at hsum
      simp only [Tally.sum, List.map_cons, List.sum_cons, hsum, hrow]
      omega

/-- **Counting adds one to the sum**, whether or not the key has come before. -/
theorem Distinct.sum_change {t : Tally Nat} (h : t.Distinct) (k : LoadKey) :
    (t.change 0 k (· + 1)).sum = t.sum + 1 := by
  obtain ⟨hold, heq⟩ | ⟨-, before, after, rfl, heq⟩ := change_cases t 0 k (· + 1)
  · rw [heq, h.sum_map_changeRow k hold]
  · simp only [heq, Tally.sum, List.map_append, List.map_cons, List.sum_append, List.sum_cons]
    omega

/-! ## Tallies of loads -/

/-- The tally of loads, each of which changes the value of its key. -/
def ofLoads (first : Counted → α) (f : Counted → α → α) (loads : List Counted) : Tally α :=
  loads.foldl (fun t l => t.change (first l) l.key (f l)) []

/-- What loads leave of a value that each of them changes, if there are any. -/
def left (first : Counted → α) (f : Counted → α → α) (loads : List Counted) : Option α :=
  loads.foldl (fun x l => some (f l (x.getD (first l)))) none

variable {first : Counted → α} {f : Counted → α → α}

theorem ofLoads_concat (loads : List Counted) (l : Counted) :
    ofLoads first f (loads ++ [l]) = (ofLoads first f loads).change (first l) l.key (f l) :=
  List.foldl_concat ..

theorem left_concat (loads : List Counted) (l : Counted) :
    left first f (loads ++ [l]) = some (f l ((left first f loads).getD (first l))) :=
  List.foldl_concat ..

theorem ofLoads_distinct (loads : List Counted) : (ofLoads first f loads).Distinct := by
  induction loads using List.reverseRecOn with
  | nil => exact .nil
  | append_singleton loads l ih =>
    rw [ofLoads_concat]
    exact ih.change (first l) l.key (f l)

/-- **A key finds what the loads with its fingerprint leave.** -/
theorem ofLoads_get? (loads : List Counted) (k : LoadKey) :
    (ofLoads first f loads).get? k =
      left first f (loads.filter fun l => l.key.fingerprint = k.fingerprint) := by
  induction loads using List.reverseRecOn with
  | nil => rfl
  | append_singleton loads l ih =>
    rw [ofLoads_concat, get?_change, ih, List.filter_append]
    split
    case isTrue hk => rw [List.filter_cons_of_pos (by simpa using hk), List.filter_nil, left_concat]
    case isFalse hk =>
      rw [List.filter_cons_of_neg (by simpa using hk), List.filter_nil, List.append_nil]

/-- The keys of a tally are those of its loads. -/
theorem exists_of_mem_ofLoads {loads : List Counted} {e : LoadKey × α}
    (h : e ∈ ofLoads first f loads) : ∃ l ∈ loads, l.key = e.1 := by
  induction loads using List.reverseRecOn generalizing e with
  | nil => exact absurd h List.not_mem_nil
  | append_singleton loads l ih =>
    rw [ofLoads_concat] at h
    rcases mem_change_key h with hkey | ⟨e', he', hkey⟩
    · exact ⟨l, by simp, hkey.symm⟩
    · obtain ⟨l', hl', hkey'⟩ := ih he'
      exact ⟨l', List.mem_append_left _ hl', hkey'.trans hkey⟩

/-- A tally that counts loads has all of them in its sum. -/
theorem sum_ofLoads (loads : List Counted) :
    (ofLoads (fun _ => 0) (fun _ n => n + 1) loads).sum = loads.length := by
  induction loads using List.reverseRecOn with
  | nil => rfl
  | append_singleton loads l ih =>
    rw [ofLoads_concat, (ofLoads_distinct loads).sum_change, ih, List.length_append,
      List.length_singleton]

end Tally

/-! ## Statistics -/

namespace Counted

/-- A load that was not skipped. -/
def ran (l : Counted) : Bool := l.outcome != .skipped

/-- A load that was loaded. -/
def loaded (l : Counted) : Bool := l.outcome == .loaded

/-- A load that failed or panicked. -/
def failed (l : Counted) : Bool := l.outcome == .failed || l.outcome == .panicked

end Counted

namespace LoadStats

/-- The statistics of loads. -/
def ofLoads (start : String) (loads : List Counted) : LoadStats :=
  loads.foldl (fun s l => s.add l.key l.elapsed l.outcome l.time) (.empty start)

theorem ofLoads_concat (start : String) (loads : List Counted) (l : Counted) :
    ofLoads start (loads ++ [l]) =
      (ofLoads start loads).add l.key l.elapsed l.outcome l.time :=
  List.foldl_concat ..

/-- **The statistics are tallies**: of the time over all loads, of those that were loaded and those
that failed, and of the last one over those that were not skipped. -/
theorem ofLoads_eq (start : String) (loads : List Counted) :
    ofLoads start loads =
      { start
        total := loads.countP (·.ran)
        seconds := Tally.ofLoads (fun _ => Decimal.ofInt 0) (fun l x => x + secondsOf l.elapsed)
          loads
        loaded := Tally.ofLoads (fun _ => 0) (fun _ n => n + 1) (loads.filter (·.loaded))
        failed := Tally.ofLoads (fun _ => 0) (fun _ n => n + 1) (loads.filter (·.failed))
        lastRun := Tally.ofLoads (·.time) (fun l _ => l.time) (loads.filter (·.ran)) } := by
  induction loads using List.reverseRecOn with
  | nil => rfl
  | append_singleton loads l ih =>
    rw [ofLoads_concat, ih]
    obtain ⟨key, elapsed, outcome, time⟩ := l
    cases outcome with
    | loaded =>
      simp [add, addTime, addRun, Counted.ran, Counted.loaded, Counted.failed,
        Tally.ofLoads_concat]
    | skipped =>
      simp [add, addTime, Counted.ran, Counted.loaded, Counted.failed, Tally.ofLoads_concat]
    | failed =>
      simp [add, addTime, addRun, Counted.ran, Counted.loaded, Counted.failed,
        Tally.ofLoads_concat]
    | panicked =>
      simp [add, addTime, addRun, Counted.ran, Counted.loaded, Counted.failed,
        Tally.ofLoads_concat]

/-- No two keys of the statistics have the same fingerprint. -/
structure Distinct (s : LoadStats) : Prop where
  seconds : s.seconds.Distinct
  loaded : s.loaded.Distinct
  failed : s.failed.Distinct
  lastRun : s.lastRun.Distinct

theorem ofLoads_distinct (start : String) (loads : List Counted) :
    (ofLoads start loads).Distinct := by
  rw [ofLoads_eq]
  exact ⟨Tally.ofLoads_distinct _, Tally.ofLoads_distinct _, Tally.ofLoads_distinct _,
    Tally.ofLoads_distinct _⟩

end LoadStats

end RouterMetrics

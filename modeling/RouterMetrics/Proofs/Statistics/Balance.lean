import RouterMetrics.Proofs.Statistics.Tallies

/-!
# The statistics balance

Whatever loads are counted, in whichever order, the number of those that were not skipped is the
sum of all numbers of loaded ones and all numbers of failed ones. A key has the account of its own
loads (`LoadStats.loads_balance`): how many were loaded and how many failed, when the last one ended
that was not skipped, and how long all of them took together.

Keys are told by their fingerprints, so this is for loads whose keys have different ones. Where they
have not, the account under a key is that of all loads with its fingerprint.
-/

namespace RouterMetrics

/-- What there is to tell about the loads of a key. -/
structure Account where
  loaded : Nat
  failed : Nat
  lastRun : Option Moment
  seconds : Option Float

/-- The account of loads. -/
def Account.of (loads : List Counted) : Account where
  loaded := loads.countP (·.loaded)
  failed := loads.countP (·.failed)
  lastRun := ((loads.filter (·.ran)).getLast?).map (·.time)
  seconds := if loads = [] then none else
    some ((loads.map fun l => secondsOf l.elapsed).foldl (· + ·) (Decimal.ofInt 0))

/-- Loads whose keys are different have different fingerprints. -/
def ToldApart (loads : List Counted) : Prop :=
  ∀ l ∈ loads, ∀ l' ∈ loads, l.key.fingerprint = l'.key.fingerprint → l.key = l'.key

instance (loads : List Counted) : Decidable (ToldApart loads) :=
  inferInstanceAs (Decidable (∀ l ∈ loads, ∀ l' ∈ loads, _ → _))

namespace LoadStats

/-- An account is what is found under a key. Nothing need stand there for a number that is zero. -/
structure Finds (s : LoadStats) (k : LoadKey) (a : Account) : Prop where
  loaded : (s.loaded.get? k).getD 0 = a.loaded
  failed : (s.failed.get? k).getD 0 = a.failed
  lastRun : s.lastRun.get? k = a.lastRun
  seconds : s.seconds.get? k = a.seconds

/-- An account is what the rows of a key tell. There are none for a number that is zero. -/
structure Tells (s : LoadStats) (k : LoadKey) (a : Account) : Prop where
  loaded : ∀ n, (k, n) ∈ s.loaded ↔ n = a.loaded ∧ 0 < n
  failed : ∀ n, (k, n) ∈ s.failed ↔ n = a.failed ∧ 0 < n
  lastRun : ∀ t, (k, t) ∈ s.lastRun ↔ a.lastRun = some t
  seconds : ∀ x, (k, x) ∈ s.seconds ↔ a.seconds = some x

/-- Statistics have the same rows of a key. -/
structure AgreeOn (s s' : LoadStats) (k : LoadKey) : Prop where
  loaded : ∀ n, (k, n) ∈ s.loaded ↔ (k, n) ∈ s'.loaded
  failed : ∀ n, (k, n) ∈ s.failed ↔ (k, n) ∈ s'.failed
  lastRun : ∀ t, (k, t) ∈ s.lastRun ↔ (k, t) ∈ s'.lastRun
  seconds : ∀ x, (k, x) ∈ s.seconds ↔ (k, x) ∈ s'.seconds

end LoadStats

/-! ## What the loads of a key leave -/

namespace Tally

theorem left_count (loads : List Counted) :
    left (fun _ => 0) (fun _ n => n + 1) loads =
      if 0 < loads.length then some loads.length else none := by
  induction loads using List.reverseRecOn with
  | nil => rfl
  | append_singleton loads l ih =>
    rw [left_concat, ih, List.length_append, List.length_singleton, if_pos (Nat.succ_pos _)]
    split
    case isTrue => rfl
    case isFalse hnone => rw [Nat.eq_zero_of_not_pos hnone, Option.getD_none]

theorem left_count_getD (p : Counted → Bool) (loads : List Counted) :
    (left (fun _ => 0) (fun _ n => n + 1) (loads.filter p)).getD 0 = loads.countP p := by
  rw [left_count, List.countP_eq_length_filter]
  split
  case isTrue => rfl
  case isFalse hnone => exact (Nat.eq_zero_of_not_pos hnone).symm

theorem left_count_eq_some {p : Counted → Bool} {loads : List Counted} {n : Nat} :
    left (fun _ => 0) (fun _ n => n + 1) (loads.filter p) = some n ↔
      n = loads.countP p ∧ 0 < n := by
  rw [left_count, List.countP_eq_length_filter]
  split
  case isTrue hsome =>
    rw [Option.some.injEq]
    constructor
    · rintro rfl
      exact ⟨rfl, hsome⟩
    · exact fun h => h.1.symm
  case isFalse hnone =>
    constructor
    · exact fun h => absurd h.symm (Option.some_ne_none n)
    · rintro ⟨rfl, hpos⟩
      exact absurd hpos hnone

theorem left_time (loads : List Counted) :
    left (·.time) (fun l _ => l.time) loads = loads.getLast?.map (·.time) := by
  induction loads using List.reverseRecOn with
  | nil => rfl
  | append_singleton loads l ih => rw [left_concat, List.getLast?_concat, Option.map_some]

theorem left_seconds (loads : List Counted) :
    left (fun _ => Decimal.ofInt 0) (fun l x => x + secondsOf l.elapsed) loads =
      (Account.of loads).seconds := by
  induction loads using List.reverseRecOn with
  | nil => rfl
  | append_singleton loads l ih =>
    have hne : loads ++ [l] ≠ [] := List.append_ne_nil_of_right_ne_nil _ (List.cons_ne_nil _ _)
    rw [left_concat, ih]
    simp only [Account.of, if_neg hne, List.map_append, List.foldl_append, List.map_cons,
      List.map_nil, List.foldl_cons, List.foldl_nil]
    split
    case isTrue hnil => rw [hnil, Option.getD_none, List.map_nil, List.foldl_nil]
    case isFalse => rw [Option.getD_some]

/-- **The rows of a key hold what its own loads leave**, when the keys are told apart. -/
theorem mem_ofLoads_iff {α : Type} {first : Counted → α} {f : Counted → α → α}
    {loads : List Counted} (h : ToldApart loads) {k : LoadKey} {x : α} :
    (k, x) ∈ ofLoads first f loads ↔ left first f (loads.filter (·.key = k)) = some x := by
  -- for a key that has come, the loads with its fingerprint are its own
  have hown : (∃ l ∈ loads, l.key = k) →
      loads.filter (fun l => l.key.fingerprint = k.fingerprint) = loads.filter (·.key = k) := by
    rintro ⟨l, hl, rfl⟩
    refine List.filter_congr fun l' hl' => ?_
    exact decide_eq_decide.mpr ⟨h l' hl' l hl, congrArg LoadKey.fingerprint⟩
  constructor
  · intro hmem
    rw [← hown (exists_of_mem_ofLoads hmem), ← ofLoads_get?]
    exact (ofLoads_distinct loads).get?_of_mem hmem
  · intro hleft
    have hcame : ∃ l ∈ loads, l.key = k := by
      by_contra hnone
      have hnil : loads.filter (·.key = k) = [] :=
        List.filter_eq_nil_iff.mpr fun l hl heq => hnone ⟨l, hl, of_decide_eq_true heq⟩
      rw [hnil] at hleft
      exact absurd hleft (Option.some_ne_none x).symm
    rw [← hown hcame, ← ofLoads_get?] at hleft
    obtain ⟨j, hj, hmem⟩ := exists_mem_of_get? hleft
    obtain ⟨l, hl, hlkey⟩ := hcame
    obtain ⟨l', hl', hlkey'⟩ := exists_of_mem_ofLoads hmem
    have hsame : j = k := by
      subst hlkey
      cases hlkey'
      exact h l' hl' l hl hj
    exact hsame ▸ hmem

end Tally

theorem ToldApart.of_subset {loads loads' : List Counted} (h : ToldApart loads)
    (hsub : loads' ⊆ loads) : ToldApart loads' :=
  fun l hl l' hl' => h l (hsub hl) l' (hsub hl')

theorem ToldApart.filter {loads : List Counted} (h : ToldApart loads) (p : Counted → Bool) :
    ToldApart (loads.filter p) :=
  h.of_subset (List.filter_subset_self loads)

namespace LoadStats

/-- A load was loaded or it failed, unless it was skipped. -/
theorem countP_ran (loads : List Counted) :
    loads.countP (·.ran) = loads.countP (·.loaded) + loads.countP (·.failed) := by
  induction loads with
  | nil => rfl
  | cons l rest ih =>
    rw [List.countP_cons, List.countP_cons, List.countP_cons, ih]
    have hone : (if l.ran then 1 else 0) =
        (if l.loaded then 1 else 0) + (if l.failed then 1 else 0) := by
      obtain ⟨key, elapsed, outcome, time⟩ := l
      cases outcome with
      | loaded => rfl
      | skipped => rfl
      | failed => rfl
      | panicked => rfl
    omega

/-- What is found under a key is the account of the loads with its fingerprint. -/
theorem ofLoads_finds (start : String) (loads : List Counted) (k : LoadKey) :
    (ofLoads start loads).Finds k
      (Account.of (loads.filter fun l => l.key.fingerprint = k.fingerprint)) := by
  rw [ofLoads_eq]
  constructor
  case loaded =>
    rw [Tally.ofLoads_get?, List.filter_comm, Tally.left_count_getD]
    rfl
  case failed =>
    rw [Tally.ofLoads_get?, List.filter_comm, Tally.left_count_getD]
    rfl
  case lastRun => rw [Tally.ofLoads_get?, Tally.left_time, List.filter_comm, Account.of]
  case seconds => rw [Tally.ofLoads_get?, Tally.left_seconds]

/-- The rows of a key are those of its own loads, when the keys are told apart. -/
theorem ofLoads_tells (start : String) {loads : List Counted} (h : ToldApart loads)
    (k : LoadKey) : (ofLoads start loads).Tells k (Account.of (loads.filter (·.key = k))) := by
  rw [ofLoads_eq]
  constructor
  case loaded =>
    intro n
    rw [Tally.mem_ofLoads_iff (h.filter _), List.filter_comm, Tally.left_count_eq_some]
    rfl
  case failed =>
    intro n
    rw [Tally.mem_ofLoads_iff (h.filter _), List.filter_comm, Tally.left_count_eq_some]
    rfl
  case lastRun =>
    intro t
    rw [Tally.mem_ofLoads_iff (h.filter _), Tally.left_time, List.filter_comm, Account.of]
  case seconds =>
    intro x
    rw [Tally.mem_ofLoads_iff h, Tally.left_seconds]

/-- A load leaves the rows of all other keys, when the keys are told apart. -/
theorem agreeOn_add (start : String) {loads : List Counted} {l : Counted}
    (h : ToldApart (l :: loads)) {k : LoadKey} (hk : k ≠ l.key) :
    AgreeOn ((ofLoads start loads).add l.key l.elapsed l.outcome l.time) (ofLoads start loads)
      k := by
  have hperm : ToldApart (loads ++ [l]) := h.of_subset (by simp)
  have htells := ofLoads_tells start (h.of_subset (List.subset_cons_self l loads)) k
  -- the loads of the key are the same ones
  have htells' := ofLoads_tells start hperm k
  rw [List.filter_append, List.filter_cons_of_neg (by simpa using hk.symm), List.filter_nil,
    List.append_nil, ofLoads_concat] at htells'
  exact
    { loaded := fun n => (htells'.loaded n).trans (htells.loaded n).symm
      failed := fun n => (htells'.failed n).trans (htells.failed n).symm
      lastRun := fun t => (htells'.lastRun t).trans (htells.lastRun t).symm
      seconds := fun x => (htells'.seconds x).trans (htells.seconds x).symm }

/-- **The statistics of loads balance.** Whatever was counted, the number of loads that were not
skipped is the sum of the numbers of loaded ones and of failed ones over all keys, no two rows are
found by one key, and what is found is the account of the loads with the key's fingerprint. When the
keys are told apart, the rows of a key are the account of its own loads, and one more load changes
no row of another key. -/
theorem loads_balance (start : String) (loads : List Counted) :
    ((ofLoads start loads).total =
        (ofLoads start loads).loaded.sum + (ofLoads start loads).failed.sum ∧
      (ofLoads start loads).total = loads.countP (·.ran)) ∧
    (ofLoads start loads).Distinct ∧
    (∀ k, (ofLoads start loads).Finds k
      (Account.of (loads.filter fun l => l.key.fingerprint = k.fingerprint))) ∧
    (ToldApart loads → ∀ k,
      (ofLoads start loads).Tells k (Account.of (loads.filter (·.key = k)))) ∧
    ∀ l, ToldApart (l :: loads) → ∀ k, k ≠ l.key →
      AgreeOn ((ofLoads start loads).add l.key l.elapsed l.outcome l.time) (ofLoads start loads)
        k := by
  refine ⟨?_, ofLoads_distinct start loads, ofLoads_finds start loads,
    fun h k => ofLoads_tells start h k, fun l h k hk => agreeOn_add start h hk⟩
  rw [ofLoads_eq, Tally.sum_ofLoads, Tally.sum_ofLoads, countP_ran, List.countP_eq_length_filter,
    List.countP_eq_length_filter]
  exact ⟨rfl, rfl⟩

/-- Loads of two collectors, of two routers and of none. -/
def watch : List Counted :=
  [⟨.of "interface" (some ⟨"r1", "10.0.0.1"⟩), 250000000, .loaded, 1000⟩,
   ⟨.of "latest_version" none, 0, .panicked, 2000⟩,
   ⟨.of "interface" (some ⟨"r1", "10.0.0.1"⟩), 250000000, .failed, 3000⟩,
   ⟨.of "interface" (some ⟨"r2", "10.0.0.2"⟩), 0, .skipped, 4000⟩,
   ⟨.of "interface" (some ⟨"r1", "10.0.0.1"⟩), 500000000, .skipped, 5000⟩]

/-- Three of them were not skipped. The first router has one loaded and one failed one, which was
the last. That it is loaded once more changes nothing for the update check. -/
theorem loads_balance_watch :
    ToldApart watch ∧ (ofLoads "mtik_exporter" watch).total = 3 ∧
    (ofLoads "mtik_exporter" watch).loaded.sum + (ofLoads "mtik_exporter" watch).failed.sum = 3 ∧
    (ofLoads "mtik_exporter" watch).Tells (.of "interface" (some ⟨"r1", "10.0.0.1"⟩))
      ⟨1, 1, some 3000, some (Decimal.ofInt 0 + secondsOf 250000000 + secondsOf 250000000 +
        secondsOf 500000000)⟩ ∧
    AgreeOn ((ofLoads "mtik_exporter" watch).add (.of "interface" (some ⟨"r1", "10.0.0.1"⟩)) 0
      .loaded 6000) (ofLoads "mtik_exporter" watch) (.of "latest_version" none) := by
  have apart : ToldApart watch := by decide +kernel
  have apart' : ToldApart
      (⟨.of "interface" (some ⟨"r1", "10.0.0.1"⟩), 0, .loaded, 6000⟩ :: watch) := by decide +kernel
  obtain ⟨⟨hsum, htotal⟩, -, -, htells, hagree⟩ := loads_balance "mtik_exporter" watch
  have hcount : (ofLoads "mtik_exporter" watch).total = 3 := htotal
  exact ⟨apart, hcount, hsum.symm.trans hcount, htells apart _,
    hagree _ apart' _ (by decide)⟩

end LoadStats

end RouterMetrics

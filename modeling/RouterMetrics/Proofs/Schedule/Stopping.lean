import RouterMetrics.Proofs.Schedule.Discipline
import RouterMetrics.Proofs.Schedule.Isolation
import RouterMetrics.Proofs.Schedule.Progress
import RouterMetrics.Schedule.Switch

/-!
# Stopping the loop

Whatever is done with the switch, and whenever: a stop that is asked for while no run goes on ends
the loop at that moment, and one that is asked for during a run ends it when that run has ended,
complete. The main statement is `Scheduler.stop_obeyed`.

A round is one `Step`: it ends the loop, goes back to the head because of the switch, or makes a
run. `Passes` is the chain of rounds, and what the statement says of all rounds is shown along it.
-/

namespace RouterMetrics

variable {σ : Type}

/-! ## The switch over time -/

theorem Switch.after_wakes (w : Switch) (act : Act) : (w.after act).wakes = true := by
  cases act with
  | set on => by_cases hreleased : w.released <;> simp [after, wakes, hreleased]
  | release => simp [after, wakes]

/-- Switches that differ in the news at most still do so after an act. -/
theorem Switch.after_news (w : Switch) (news : Bool) (act : Act) :
    ∃ news', { w with news := news }.after act = { w.after act with news := news' } := by
  cases act with
  | set on =>
    by_cases hreleased : w.released
    · exact ⟨news, by simp [after, hreleased]⟩
    · exact ⟨true, by simp [after, hreleased]⟩
  | release => exact ⟨news, rfl⟩

namespace Watch

variable {t u : Moment} {acts : List (Moment × Switch.Act)}

theorem passTo_passTo (h : t ≤ u) (w : Switch) (acts : List (Moment × Switch.Act)) :
    passTo u (passTo t w acts).switch (passTo t w acts).coming = passTo u w acts := by
  induction acts generalizing w with
  | nil => rfl
  | cons first later ih =>
    obtain ⟨v, act⟩ := first
    by_cases hv : v ≤ t
    · rw [passTo, if_pos hv, ih, passTo, if_pos (Int.le_trans hv h)]
    · rw [passTo, if_neg hv]

/-- What is still to come is later. -/
theorem lt_of_coming {w : Switch} {act : Switch.Act} {later : List (Moment × Switch.Act)}
    (h : (passTo t w acts).coming = (u, act) :: later) : t < u := by
  induction acts generalizing w with
  | nil => cases h
  | cons first rest ih =>
    obtain ⟨v, first⟩ := first
    by_cases hv : v ≤ t
    · rw [passTo, if_pos hv] at h
      exact ih h
    · rw [passTo, if_neg hv] at h
      cases h
      exact Int.not_le.mp hv

/-- What the loop has taken notice of does not matter to what the switch asks for. -/
theorem passTo_asks (w : Switch) (news : Bool) :
    (passTo t { w with news := news } acts).switch.asks = (passTo t w acts).switch.asks := by
  induction acts generalizing w news with
  | nil => rfl
  | cons first later ih =>
    obtain ⟨v, act⟩ := first
    obtain ⟨news', hafter⟩ := w.after_news news act
    by_cases hv : v ≤ t
    · rw [passTo, if_pos hv, passTo, if_pos hv, hafter]
      exact ih (w.after act) news'
    · rw [passTo, if_neg hv, passTo, if_neg hv]
      rfl

/-- A switch that wakes the loop goes on to do so until the loop takes notice. -/
theorem passTo_wakes {w : Switch} (h : w.wakes = true) : (passTo t w acts).switch.wakes = true := by
  induction acts generalizing w with
  | nil => exact h
  | cons first later ih =>
    obtain ⟨v, act⟩ := first
    rw [passTo]
    split
    · exact ih (w.after_wakes act)
    · exact h

/-- How often the switch can still send a waiting loop back to its head, at most. -/
def pending (w : Watch) : Nat := w.coming.length + w.switch.news.toNat

theorem pending_passTo_le (w : Switch) : (passTo t w acts).pending ≤ pending ⟨w, acts⟩ := by
  induction acts generalizing w with
  | nil => exact Nat.le_refl _
  | cons first later ih =>
    obtain ⟨v, act⟩ := first
    rw [passTo]
    split
    · have hnews := (w.after act).news.toNat_le
      refine Nat.le_trans (ih _) ?_
      simp only [pending, List.length_cons]
      omega
    · exact Nat.le_refl _

theorem upTo_upTo (w : Watch) (h : t ≤ u) : (w.upTo t).upTo u = w.upTo u := passTo_passTo h _ _

theorem asks_upTo (w : Watch) (h : t ≤ u) : (w.upTo t).asks u = w.asks u := by
  rw [asks, upTo_upTo w h, asks]

theorem asks_noticed (w : Watch) : w.noticed.asks u = w.asks u := passTo_asks _ _

theorem pending_upTo_le (w : Watch) : (w.upTo t).pending ≤ w.pending := pending_passTo_le w.switch

/-- To take notice of news is progress. -/
theorem pending_noticed_lt {w : Watch} (h : (w.upTo t).switch.news = true) :
    (w.upTo t).noticed.pending < w.pending := by
  have hle := w.pending_upTo_le (t := t)
  simp only [pending, noticed, h, Bool.toNat_true, Bool.toNat_false] at hle ⊢
  omega

/-- The loop is woken by what it has not taken notice of, or by what is next done. -/
theorem of_wake? {w : Watch} {now : Moment} (h : t ∈ w.wake? now) :
    w.switch.wakes = true ∧ t = now ∨ ∃ act later, w.coming = (t, act) :: later := by
  unfold wake? at h
  split at h
  case isTrue hwakes => exact .inl ⟨hwakes, (Option.mem_some.mp h).symm⟩
  case isFalse =>
    obtain ⟨⟨v, act⟩, hhead, rfl⟩ := Option.map_eq_some_iff.mp (Option.mem_def.mp h)
    exact .inr ⟨act, w.coming.tail, List.eq_cons_of_mem_head? hhead⟩

theorem le_wake? {w : Watch} {now : Moment} (h : t ∈ (w.upTo now).wake? now) : now ≤ t := by
  rcases of_wake? h with ⟨-, rfl⟩ | ⟨act, later, hcoming⟩
  · exact Int.le_refl _
  · exact Int.le_of_lt (lt_of_coming hcoming)

/-- **A waiting loop that is woken by no value is woken by a stop.** -/
theorem asks_of_wake? {w : Watch} {now : Moment} (h : t ∈ (w.upTo now).wake? now)
    (hnews : ((w.upTo now).upTo t).switch.news = false) : w.asks t = true := by
  have hwakes : ((w.upTo now).upTo t).switch.wakes = true := by
    rcases of_wake? h with ⟨hwakes, -⟩ | ⟨act, later, hcoming⟩
    · exact passTo_wakes hwakes
    · rw [upTo, hcoming, passTo, if_pos (Int.le_refl t)]
      exact passTo_wakes (Switch.after_wakes _ _)
  rw [Switch.wakes, hnews, Bool.false_or] at hwakes
  rw [← asks_upTo w (le_wake? h), asks, Switch.asks, hwakes, Bool.or_true]

/-- **No stop is asked for before a waiting loop is woken.** -/
theorem asks_eq_false_of_wake? {w : Watch} {now : Moment}
    (hon : (w.upTo now).switch.on = false) (hle : now ≤ u)
    (hbefore : ∀ t ∈ (w.upTo now).wake? now, u < t) : w.asks u = false := by
  unfold wake? at hbefore
  split at hbefore
  case isTrue => exact absurd (hbefore now rfl) (Int.not_lt.mpr hle)
  case isFalse hwakes =>
    rw [Switch.wakes, Bool.or_eq_true, not_or, Bool.not_eq_true, Bool.not_eq_true] at hwakes
    have hsame : (w.upTo now).upTo u = w.upTo now := by
      cases hcoming : (w.upTo now).coming with
      | nil => rw [upTo, hcoming, passTo, ← hcoming]
      | cons first later =>
        have hfirst : u < first.1 := hbefore _ (by simp [hcoming])
        rw [upTo, hcoming, passTo, if_neg (Int.not_le.mpr hfirst), ← hcoming]
    rw [← asks_upTo w hle, asks, hsame, Switch.asks, hon, hwakes.2]
    rfl

end Watch

/-! ## Rounds -/

/-- A run goes on at a moment. -/
def Run.GoesOn (e : Surroundings σ) (r : Run σ) (t : Moment) : Prop :=
  r.start e ≤ t ∧ t < r.finish e

instance (e : Surroundings σ) (r : Run σ) (t : Moment) : Decidable (r.GoesOn e t) :=
  inferInstanceAs (Decidable (_ ∧ _))

namespace Scheduler.Guarded

variable {e : Surroundings σ} {g g' g'' : Guarded σ} {r? : Option (Run σ)} {rs : List (Run σ)}
  {t : Moment}

/-- The run that is made in a round, if one is. -/
def made? (e : Surroundings σ) (g : Guarded σ) : Option (Run σ) :=
  match g.move e with
  | .runs _ _ => next? e none g.schedule g.world
  | _ => none

/-- The runs that are made in a number of rounds. -/
def made (e : Surroundings σ) : Nat → Guarded σ → List (Run σ)
  | 0, _ => []
  | n + 1, g => (g.made? e).toList ++ made e n (g.round e)

/-- The loop has jobs. The last run has ended, and the time for the next has not passed. -/
structure Waits (e : Surroundings σ) (g : Guarded σ) : Prop where
  jobs : g.schedule.queue ≠ []
  clock_le : e.clock g.world ≤ g.now
  now_le : ∀ q ∈ g.schedule.queue.head?, g.now ≤ e.clock (e.sleepUntil q.fireAt g.world)

/-- The loop can wait until a moment: the time for the next run has not passed then, and no stop is
asked for before. -/
structure Idle (e : Surroundings σ) (g : Guarded σ) (t : Moment) : Prop where
  now_le : g.now ≤ t
  le_start : ∀ q ∈ g.schedule.queue.head?, t ≤ e.clock (e.sleepUntil q.fireAt g.world)
  quiet : ∀ u, g.now ≤ u → u < t → g.watch.asks u = false

/-- **What a round is**, with the run that it makes, if it makes one, and what is left. -/
inductive Step (e : Surroundings σ) (g : Guarded σ) : Option (Run σ) → Guarded σ → Prop
  | breaks (unsound : g.schedule.isSound = false) :
    Step e g none { g with ending := some .broken }
  | stops (t : Moment) (idle : g.Idle e t) (asks : g.watch.asks t = true) :
    Step e g none { g with watch := g.watch.upTo t, now := t, ending := some .stopped }
  | returns (t : Moment) (idle : g.Idle e t) (news : (g.watch.upTo t).switch.news = true) :
    Step e g none { g with watch := (g.watch.upTo t).noticed, now := t }
  | runs (r : Run σ) (found : r.found = g.schedule) (waiting : r.waiting = g.world)
      (sound : g.schedule.isSound = true) (idle : g.Idle e (r.start e))
      (quiet : g.watch.asks (r.start e) = false) :
    Step e g (some r) { g with
      watch := g.watch.upTo g.now, now := r.finish e, schedule := r.next e, world := r.ended e }

theorem round_of_ended (h : g.ending ≠ none) : g.round e = g ∧ g.made? e = none := by
  have hmove : g.move e = .rests := by
    unfold move
    rw [if_pos (Option.isSome_iff_ne_none.mpr h)]
  simp [round, made?, hmove]

/-- A waiting loop makes a run, or the switch ends the wait. -/
theorem step_await (waits : g.Waits e) {q : QueuedJob} {rest : List QueuedJob}
    (hq : g.schedule.queue = q :: rest) (hsound : g.schedule.isSound = true)
    (hon : (g.watch.upTo g.now).switch.on = false) (hmove : g.move e = g.await e q rest) :
    Step e g (g.made? e) (g.round e) := by
  have hhead : g.schedule.queue.head? = some q := by rw [hq]; rfl
  unfold await at hmove
  cases hwake : ((g.watch.upTo g.now).wake? g.now).filter
      (· ≤ e.clock (e.sleepUntil q.fireAt g.world)) with
  | none =>
    have hlater : ∀ t ∈ (g.watch.upTo g.now).wake? g.now,
        e.clock (e.sleepUntil q.fireAt g.world) < t := by
      intro t ht
      have hnot := Option.filter_eq_none_iff.mp hwake t ht
      exact Int.not_le.mp (of_decide_eq_false (Bool.eq_false_iff.mpr hnot))
    have hquiet : ∀ u, g.now ≤ u → u ≤ e.clock (e.sleepUntil q.fireAt g.world) →
        g.watch.asks u = false := fun u hle hu =>
      Watch.asks_eq_false_of_wake? hon hle fun t ht => Int.lt_of_le_of_lt hu (hlater t ht)
    have hruns : g.move e = .runs q rest := by simp only [hmove, hwake]
    have hnext : next? e none g.schedule g.world = some ⟨g.schedule, g.world, q, rest, hq⟩ := by
      rw [next?_of_cons hq, hsound]
      rfl
    have hnow := waits.now_le q hhead
    simp only [round, made?, hruns, hnext]
    refine .runs ⟨g.schedule, g.world, q, rest, hq⟩ rfl rfl hsound ⟨hnow, ?_, ?_⟩ ?_
    · intro q' hq'
      cases hhead.symm.trans hq'
      exact Int.le_refl _
    · exact fun u hle hlt => hquiet u hle (Int.le_of_lt hlt)
    · exact hquiet _ hnow (Int.le_refl _)
  | some t =>
    obtain ⟨hwoken, hstart⟩ := Option.filter_eq_some_iff.mp hwake
    have hle : g.now ≤ t := Watch.le_wake? hwoken
    have hidle : g.Idle e t := by
      refine ⟨hle, fun q' hq' => ?_, fun u hu hlt => ?_⟩
      · cases hhead.symm.trans hq'
        exact of_decide_eq_true hstart
      · refine Watch.asks_eq_false_of_wake? hon hu fun t' ht' => ?_
        cases hwoken.symm.trans ht'
        exact hlt
    simp only [hwake, Watch.upTo_upTo _ hle] at hmove
    cases hnews : (g.watch.upTo t).switch.news with
    | true =>
      simp only [hnews, if_true] at hmove
      simp only [round, made?, hmove]
      exact .returns t hidle hnews
    | false =>
      simp only [hnews, Bool.false_eq_true, if_false] at hmove
      simp only [round, made?, hmove]
      refine .stops t hidle (Watch.asks_of_wake? hwoken ?_)
      rw [Watch.upTo_upTo _ hle, hnews]

/-- **Every round of a loop that has not ended is a step.** -/
theorem step_round (waits : g.Waits e) (hgoes : g.ending = none) :
    Step e g (g.made? e) (g.round e) := by
  obtain ⟨q, rest, hq⟩ := List.exists_cons_of_ne_nil waits.jobs
  cases hsound : g.schedule.isSound with
  | false =>
    have hmove : g.move e = .breaks := by simp [move, hgoes, hsound]
    simp only [round, made?, hmove]
    exact .breaks hsound
  | true =>
    cases hon : (g.watch.upTo g.now).switch.on with
    | true =>
      have hmove : g.move e = .stops g.now := by simp [move, hgoes, hsound, hon]
      simp only [round, made?, hmove]
      refine .stops g.now ⟨Int.le_refl _, waits.now_le, ?_⟩ ?_
      · exact fun u hle hlt => absurd hlt (Int.not_lt.mpr hle)
      · rw [Watch.asks, Switch.asks, hon, Bool.true_or]
    | false => exact step_await waits hq hsound hon (by simp [move, hgoes, hsound, hon, hq])

/-! ## Chains of rounds -/

/-- A loop that waits still does so after a step. -/
theorem Step.waits (timed : e.Timed) (h : Step e g r? g') (waits : g.Waits e) : g'.Waits e := by
  cases h with
  | breaks => exact ⟨waits.jobs, waits.clock_le, waits.now_le⟩
  | stops t idle => exact ⟨waits.jobs, Int.le_trans waits.clock_le idle.now_le, idle.le_start⟩
  | returns t idle => exact ⟨waits.jobs, Int.le_trans waits.clock_le idle.now_le, idle.le_start⟩
  | runs r found waiting =>
    refine ⟨fun hnil => ?_, Int.le_refl _, fun q _ => ?_⟩
    · have hlength := r.next_length e
      rw [show (r.next e).queue = [] from hnil, found] at hlength
      exact waits.jobs (List.length_eq_zero_iff.mp hlength.symm)
    · show r.finish e ≤ e.clock (e.sleepUntil q.fireAt (r.ended e))
      rw [timed.sleep]
      exact Int.le_max_left ..

/-- Rounds lead from one state of the loop to another. -/
inductive Passes (e : Surroundings σ) : Guarded σ → List (Run σ) → Guarded σ → Prop
  | rests (g : Guarded σ) : Passes e g [] g
  | step {g g' g'' : Guarded σ} {r? : Option (Run σ)} {rs : List (Run σ)} (waits : g.Waits e)
      (goes : g.ending = none) (first : Step e g r? g') (later : Passes e g' rs g'') :
      Passes e g (r?.toList ++ rs) g''

theorem rounds_of_ended (h : g.ending ≠ none) (n : Nat) :
    g.rounds e n = g ∧ g.made e n = [] := by
  obtain ⟨hround, hmade⟩ := round_of_ended (e := e) h
  induction n with
  | zero => exact ⟨rfl, rfl⟩
  | succ n ih => rwa [rounds, made, hround, hmade]

theorem passes_rounds (timed : e.Timed) (waits : g.Waits e) (n : Nat) :
    Passes e g (g.made e n) (g.rounds e n) := by
  induction n generalizing g with
  | zero => exact .rests g
  | succ n ih =>
    by_cases hgoes : g.ending = none
    · have hstep := step_round waits hgoes
      exact .step waits hgoes hstep (ih (hstep.waits timed waits))
    · obtain ⟨hrounds, hmade⟩ := rounds_of_ended (e := e) hgoes (n + 1)
      rw [hrounds, hmade]
      exact .rests g

theorem Passes.waits (timed : e.Timed) (h : Passes e g rs g') (waits : g.Waits e) :
    g'.Waits e := by
  induction h with
  | rests => exact waits
  | step waits _ first _ ih => exact ih (first.waits timed waits)

/-- The runs of rounds lead from loop head to loop head, and nothing else becomes of the schedule
and the surroundings. -/
theorem Passes.leads (h : Passes e g rs g') :
    Leads e g.schedule g.world rs g'.schedule g'.world := by
  induction h with
  | rests g => exact .done ..
  | step _ _ first _ ih =>
    cases first with
    | breaks | stops | returns => exact ih
    | runs r found waiting =>
      rw [← found, ← waiting]
      exact .run r ih

/-- A step does not go back in time, and what the switch asks for later is not changed by it. -/
theorem Step.later (timed : e.Timed) (h : Step e g r? g') :
    g.now ≤ g'.now ∧ ∀ t, g'.now ≤ t → g'.watch.asks t = g.watch.asks t := by
  cases h with
  | breaks => exact ⟨Int.le_refl _, fun _ _ => rfl⟩
  | stops t idle => exact ⟨idle.now_le, fun u hu => Watch.asks_upTo _ hu⟩
  | returns t idle =>
    exact ⟨idle.now_le, fun u hu => (Watch.asks_noticed _).trans (Watch.asks_upTo _ hu)⟩
  | runs r _ _ _ idle =>
    have hfinish : g.now ≤ r.finish e := Int.le_trans idle.now_le (r.start_le_finish timed)
    exact ⟨hfinish, fun u hu => Watch.asks_upTo _ (Int.le_trans hfinish hu)⟩

theorem Passes.now_le (timed : e.Timed) (h : Passes e g rs g') : g.now ≤ g'.now := by
  induction h with
  | rests => exact Int.le_refl _
  | step _ _ first _ ih => exact Int.le_trans (first.later timed).1 ih

/-- **No run starts when a stop is asked for**, or in a schedule that is not sound. -/
theorem Passes.quiet (timed : e.Timed) (h : Passes e g rs g') :
    ∀ r ∈ rs, g.now ≤ r.start e ∧ g.watch.asks (r.start e) = false ∧ r.found.isSound = true := by
  induction h with
  | rests => simp
  | @step g mid last r? rs _ _ first _ ih =>
    obtain ⟨hmid, hasks⟩ := first.later timed
    have hrest : ∀ r ∈ rs, g.now ≤ r.start e ∧ g.watch.asks (r.start e) = false ∧
        r.found.isSound = true := by
      intro r hr
      obtain ⟨hnow, hquiet, hsound⟩ := ih r hr
      exact ⟨Int.le_trans hmid hnow, (hasks _ hnow).symm.trans hquiet, hsound⟩
    cases first with
    | breaks | stops | returns => exact hrest
    | runs r found _ sound idle quiet =>
      exact List.forall_mem_cons.mpr ⟨⟨idle.now_le, quiet, found ▸ sound⟩, hrest⟩

/-- **The loop passes no stop by**, unless a run goes on. -/
theorem Passes.caught (timed : e.Timed) (h : Passes e g rs g') :
    ∀ t, g.now ≤ t → t < g'.now → g.watch.asks t = true → ∃ r ∈ rs, r.GoesOn e t := by
  induction h with
  | rests => exact fun t hle hlt => absurd hlt (Int.not_lt.mpr hle)
  | @step g mid last r? rs _ _ first _ ih =>
    intro t hle hlt hasks
    by_cases hmid : mid.now ≤ t
    · obtain ⟨r, hr, hgoes⟩ := ih t hmid hlt (((first.later timed).2 t hmid).trans hasks)
      exact ⟨r, List.mem_append_right _ hr, hgoes⟩
    · rw [Int.not_le] at hmid
      cases first with
      | breaks => exact absurd hmid (Int.not_lt.mpr hle)
      | stops u idle | returns u idle => simp [idle.quiet t hle hmid] at hasks
      | runs r _ _ _ idle =>
        refine ⟨r, List.mem_cons_self, Int.not_lt.mp fun hbefore => ?_, hmid⟩
        simp [idle.quiet t hle hbefore] at hasks

theorem Passes.of_ended (hended : g.ending ≠ none) (h : Passes e g rs g') : rs = [] ∧ g' = g := by
  cases h with
  | rests => exact ⟨rfl, rfl⟩
  | step _ goes => exact absurd goes hended

/-- **A loop that is stopped is asked to stop**, and one that is broken has an unsound schedule. -/
theorem Passes.ending (timed : e.Timed) (h : Passes e g rs g') (hgoes : g.ending = none) :
    (g'.ending = some .stopped → g.watch.asks g'.now = true) ∧
      (g'.ending = some .broken → g'.schedule.isSound = false) := by
  induction h with
  | rests => simp [hgoes]
  | step _ _ first later ih =>
    have hlater := (first.later timed).2 _ (later.now_le timed)
    cases first with
    | breaks unsound =>
      obtain ⟨-, rfl⟩ := later.of_ended (by simp)
      exact ⟨by simp, fun _ => unsound⟩
    | stops t idle asks =>
      obtain ⟨-, rfl⟩ := later.of_ended (by simp)
      exact ⟨fun _ => asks, by simp⟩
    | returns | runs =>
      obtain ⟨hstopped, hbroken⟩ := ih hgoes
      exact ⟨fun h => hlater.symm.trans (hstopped h), hbroken⟩

/-- **A round that does not end the loop makes a run or takes notice** of what has been done with
the switch. -/
theorem le_made_length (timed : e.Timed) (waits : g.Waits e) (n : Nat)
    (h : (g.rounds e n).ending = none) : n ≤ (g.made e n).length + g.watch.pending := by
  induction n generalizing g with
  | zero => exact Nat.zero_le _
  | succ n ih =>
    have hgoes : g.ending = none := by
      by_contra hended
      rw [(rounds_of_ended hended _).1] at h
      exact hended h
    have hstep := step_round waits hgoes
    have hlater := ih (hstep.waits timed waits) h
    rw [made, List.length_append]
    generalize g.made? e = r? at hstep hlater ⊢
    rw [rounds] at h
    generalize g.round e = g' at hstep hlater h ⊢
    cases hstep with
    | breaks | stops =>
      rw [(rounds_of_ended (by simp) _).1] at h
      cases h
    | returns t idle news =>
      have hpending := Watch.pending_noticed_lt news
      simp only [Option.toList_none, List.length_nil] at hlater ⊢
      omega
    | runs r =>
      have hpending := g.watch.pending_upTo_le (t := g.now)
      simp only [Option.toList_some, List.length_singleton] at hlater ⊢
      omega

/-- Time passes: in the end the loop is stopped, or some run ends later than a moment up to which
the clock can tell when its jobs are due again. -/
theorem stops_or_passes (timed : e.Timed) (waits : g.Waits e) (hgoes : g.ending = none)
    {limit : Moment} (lasting : g.schedule.Lasting limit) :
    ∃ n, (g.rounds e n).ending = some .stopped ∨ ∃ r ∈ g.made e n, limit < r.finish e := by
  -- more rounds than the sum of the times at which jobs are due can grow
  refine ⟨(g.schedule.queue.length * g.schedule.latest - total g.schedule.queue).toNat +
    g.watch.pending + 1, ?_⟩
  generalize hn : (g.schedule.queue.length * g.schedule.latest -
    total g.schedule.queue).toNat + g.watch.pending + 1 = n
  by_contra hnone
  rw [not_or] at hnone
  obtain ⟨hstopped, hpassed⟩ := hnone
  have hpasses := passes_rounds timed waits n
  obtain ⟨hlasting, hlatest, htotal⟩ := hpasses.leads.lasting timed lasting fun r hr =>
    Int.not_lt.mp fun hlt => hpassed ⟨r, hr, hlt⟩
  cases hending : (g.rounds e n).ending with
  | none =>
    have hrounds := le_made_length timed waits n hending
    have hbound := total_le (isSound_iff.mp hlasting.sound)
    rw [hpasses.leads.length_eq, hlatest] at hbound
    generalize (g.schedule.queue.length : Int) * g.schedule.latest = bound at *
    unfold Moment at *
    omega
  | some ending =>
    cases ending with
    | stopped => exact hstopped hending
    | broken =>
      have hunsound := (hpasses.ending timed hgoes).2 hending
      rw [hlasting.sound] at hunsound
      cases hunsound

end Scheduler.Guarded

/-! ## The runs of a loop that is stopped -/

/-- A run is complete: it has tried to connect the device of its job, once, or it has loaded every
collector of the job and recorded each load. -/
def Run.Complete (e : Surroundings σ) (r : Run σ) : Prop :=
  if Scheduler.isDown e r.taken.job (r.begun e) then
    ∃ d, r.taken.job.device = some d ∧ r.deeds e = [.connect d (r.begun e)]
  else
    (r.deeds e).map Deed.subject = r.taken.job.collectors.map (some ·, r.taken.job.device) ∧
      (r.records e).map (·.collector) = r.taken.job.collectors

theorem Run.complete (e : Surroundings σ) (r : Run σ) : r.Complete e := by
  unfold Complete
  split
  case isTrue hdown =>
    obtain ⟨d, hd, hdeeds, -, -⟩ := of_down hdown
    exact ⟨d, hd, hdeeds⟩
  case isFalse hup =>
    rw [Bool.not_eq_true] at hup
    rw [(of_up hup).1, records_of_up hup]
    exact ⟨Scheduler.loadDeeds_subjects .., Scheduler.loadRecords_collectors ..⟩

namespace Scheduler

variable {e : Surroundings σ} {sch sch' : Scheduler} {s s' : σ} {rs : List (Run σ)}
  {stop : Option Moment}

/-- Runs that are made before a stop are those of the loop that ends at that stop. -/
theorem Leads.run_add (h : Leads e sch s rs sch' s')
    (hgo : ∀ r ∈ rs, r.found.isSound = true ∧ stopsBy stop (r.start e) = false) (turns : Nat) :
    Scheduler.run e stop (rs.length + turns) sch s = Scheduler.run e stop turns sch' s' := by
  induction h with
  | done => rw [List.length_nil, Nat.zero_add]
  | run r _ ih =>
    obtain ⟨⟨hsound, hstop⟩, hlater⟩ := List.forall_mem_cons.mp hgo
    have hnext : next? e stop r.found r.waiting = some r := by
      rw [next?_of_cons r.queue_eq, if_neg]
      rw [hsound, Bool.not_true, Bool.false_or]
      exact Bool.eq_false_iff.mp hstop
    rw [List.length_cons, Nat.add_right_comm, run_succ, hnext]
    exact ih hlater

/-- **What a loop under a switch has done** since it started, with the runs that it has made. They
led from the start to where it is now, in schedules that were sound; each is complete and has ended;
none started when a stop was asked for; and the loop has passed no stop by, but for those that were
asked for while a run went on. When it is stopped, it is asked to stop. When it is broken, some job
is due when no clock can tell. -/
structure Obeys (e : Surroundings σ) (w : Watch) (sch : Scheduler) (s : σ) (rs : List (Run σ))
    (g : Guarded σ) : Prop where
  leads : Leads e sch s rs g.schedule g.world
  sound : ∀ r ∈ rs, r.found.isSound = true
  waits : g.Waits e
  complete : ∀ r ∈ rs, r.Complete e
  quiet : ∀ r ∈ rs, w.asks (r.start e) = false
  caught : ∀ t, e.clock s ≤ t → t < g.now → w.asks t = true → ∃ r ∈ rs, r.GoesOn e t
  clock_le : e.clock s ≤ g.now
  finished : ∀ r ∈ rs, e.clock s ≤ r.start e ∧ r.finish e ≤ g.now
  stopped : g.ending = some .stopped → w.asks g.now = true
  broken : g.ending = some .broken → g.schedule.isSound = false

namespace Guarded

theorem start_waits (timed : e.Timed) (hjobs : sch.queue ≠ []) (w : Watch) (s : σ) :
    (start e w sch s).Waits e where
  jobs := hjobs
  clock_le := Int.le_refl _
  now_le := fun q _ => by
    show e.clock s ≤ _
    rw [timed.sleep]
    exact Int.le_max_left ..

theorem obeys (timed : e.Timed) (hjobs : sch.queue ≠ []) (w : Watch) (s : σ) (n : Nat) :
    Obeys e w sch s ((start e w sch s).made e n) ((start e w sch s).rounds e n) := by
  have hwaits := start_waits timed hjobs w s
  have hpasses := passes_rounds timed hwaits n
  have hending := hpasses.ending timed rfl
  exact {
    leads := hpasses.leads
    sound := fun r hr => (hpasses.quiet timed r hr).2.2
    waits := hpasses.waits timed hwaits
    complete := fun r _ => r.complete e
    quiet := fun r hr => (hpasses.quiet timed r hr).2.1
    caught := hpasses.caught timed
    clock_le := hpasses.now_le timed
    finished := fun r hr => ⟨(hpasses.quiet timed r hr).1,
      Int.le_trans (hpasses.leads.finish_le timed r hr) (hpasses.waits timed hwaits).clock_le⟩
    stopped := hending.1
    broken := hending.2 }

end Guarded

namespace Obeys

variable {w : Watch} {g : Guarded σ} {T : Moment}

/-- Before a stop that is not taken back, all runs have started. -/
theorem start_lt (h : Obeys e w sch s rs g) (hstop : ∀ t, w.asks t = true ↔ T ≤ t) :
    ∀ r ∈ rs, r.start e < T := by
  intro r hr
  rw [← Int.not_le, ← hstop, h.quiet r hr]
  exact Bool.false_ne_true

/-- **A stop while no run goes on ends the loop at once.** -/
theorem now_eq_of_idle (h : Obeys e w sch s rs g) (hstop : ∀ t, w.asks t = true ↔ T ≤ t)
    (hended : g.ending = some .stopped) (hidle : ∀ r ∈ rs, ¬ r.GoesOn e T) :
    g.now = max (e.clock s) T := by
  have hnow : max (e.clock s) T ≤ g.now :=
    Int.max_le.mpr ⟨h.clock_le, (hstop _).mp (h.stopped hended)⟩
  refine Int.le_antisymm (Int.not_lt.mp fun hlt => ?_) hnow
  -- a stop that is passed by is asked for during a run, which has started before it
  obtain ⟨r, hr, -, hto⟩ := h.caught _ (Int.le_max_left ..) hlt
    ((hstop _).mpr (Int.le_max_right ..))
  exact hidle r hr ⟨Int.le_of_lt (h.start_lt hstop r hr),
    Int.lt_of_le_of_lt (Int.le_max_right ..) hto⟩

/-- **A stop while a run goes on ends the loop when that run has ended.** -/
theorem now_eq_of_goesOn (timed : e.Timed) (h : Obeys e w sch s rs g)
    (hstop : ∀ t, w.asks t = true ↔ T ≤ t) {r : Run σ} (hr : r ∈ rs) (hgoes : r.GoesOn e T) :
    rs.getLast? = some r ∧ g.now = r.finish e := by
  have hfinish : T ≤ r.finish e := Int.le_of_lt hgoes.2
  have hpairwise := h.leads.pairwise_finish_le timed
  have hbegun := h.start_lt hstop
  obtain ⟨hfrom, hto⟩ := h.finished r hr
  obtain ⟨before, after, rfl⟩ := List.append_of_mem hr
  obtain ⟨-, hafter, hbefore⟩ := List.pairwise_append.mp hpairwise
  have hlast : after = [] := by
    cases after with
    | nil => rfl
    | cons r' after =>
      have hlater := (List.pairwise_cons.mp hafter).1 r' List.mem_cons_self
      exact absurd (hbegun r' (by simp)) (Int.not_lt.mpr (Int.le_trans hfinish hlater))
  subst hlast
  refine ⟨by simp, Int.le_antisymm (Int.not_lt.mp fun hlt => ?_) hto⟩
  obtain ⟨r', hr', -, hover⟩ := h.caught _ (Int.le_trans hfrom (r.start_le_finish timed)) hlt
    ((hstop _).mpr hfinish)
  rcases List.mem_append.mp hr' with hr' | hr'
  · have hearlier := hbefore r' hr' r List.mem_cons_self
    exact absurd (Int.lt_of_lt_of_le hover hearlier) (Int.not_lt.mpr (r.start_le_finish timed))
  · obtain rfl := List.mem_singleton.mp hr'
    exact Int.lt_irrefl _ hover

/-- A loop that is stopped has made the runs of a loop with that stop. -/
theorem run_eq (h : Obeys e w sch s rs g) (hstop : ∀ t, w.asks t = true ↔ T ≤ t)
    (hended : g.ending = some .stopped) {turns : Nat} (hturns : rs.length < turns) :
    run e (some T) turns sch s = (g.schedule, atStop e (some T) g.world) := by
  obtain ⟨left, rfl⟩ := Nat.exists_eq_add_of_lt hturns
  obtain ⟨q, rest, hq⟩ := List.exists_cons_of_ne_nil h.waits.jobs
  have hnow : g.now ≤ e.clock (e.sleepUntil q.fireAt g.world) := h.waits.now_le q (by simp [hq])
  have hlast : next? e (some T) g.schedule g.world = none := by
    rw [next?_of_cons hq, if_pos]
    rw [stopsBy, decide_eq_true (Int.le_trans ((hstop _).mp (h.stopped hended)) hnow),
      Bool.or_true]
  rw [Nat.add_assoc, h.leads.run_add, run_succ, hlast]
  exact fun r hr => ⟨h.sound r hr, decide_eq_false (Int.not_le.mpr (h.start_lt hstop r hr))⟩

end Obeys

/-- **A stop is neither lost nor early.** Take a loop with jobs, in any surroundings, under a switch
with which anything may be done at any moments. After any number of rounds it has done what `Obeys`
says; a round that does not end it makes a run or takes notice of what has been done with the
switch; and once it has ended it does nothing more. When no stop is asked for, the loop is never
stopped, whatever the switch is set to, and makes the runs of a loop without a switch. When a stop
is asked for from some moment on, a loop that starts then or later makes no run. Otherwise the loop
is stopped at that moment if no run goes on, and at the end of the run that goes on if one does,
which is then the last; it has made the runs of the loop `run` with that stop; and it is stopped
for sure, unless the run that goes on ends too late for the clock to tell when a job is due
again. -/
theorem stop_obeyed (timed : e.Timed) (hjobs : sch.queue ≠ []) (s : σ) (w : Watch) :
    let loop := Guarded.start e w sch s
    (∀ n, Obeys e w sch s (loop.made e n) (loop.rounds e n) ∧
      ((loop.rounds e n).ending = none → n ≤ (loop.made e n).length + w.pending) ∧
      ((loop.rounds e n).ending ≠ none → (loop.rounds e n).round e = loop.rounds e n)) ∧
    ((∀ t, e.clock s ≤ t → w.asks t = false) → ∀ n,
      (loop.rounds e n).ending ≠ some .stopped ∧
      run e none (loop.made e n).length sch s =
        ((loop.rounds e n).schedule, (loop.rounds e n).world)) ∧
    ∀ T, (∀ t, w.asks t = true ↔ T ≤ t) →
      (T ≤ e.clock s → ∀ n, loop.made e n = []) ∧
      (∀ n, (loop.rounds e n).ending = some .stopped →
        ((∀ r ∈ loop.made e n, ¬ r.GoesOn e T) →
          (loop.rounds e n).now = max (e.clock s) T) ∧
        (∀ r ∈ loop.made e n, r.GoesOn e T →
          (loop.made e n).getLast? = some r ∧ (loop.rounds e n).now = r.finish e) ∧
        ∀ turns, (loop.made e n).length < turns → run e (some T) turns sch s =
          ((loop.rounds e n).schedule, atStop e (some T) (loop.rounds e n).world)) ∧
      ∀ limit, T ≤ limit → sch.Lasting limit → ∃ n,
        (loop.rounds e n).ending = some .stopped ∨
          ∃ r ∈ loop.made e n, r.GoesOn e T ∧ limit < r.finish e := by
  intro loop
  have hwaits : loop.Waits e := Guarded.start_waits timed hjobs w s
  have hobeys : ∀ n, Obeys e w sch s (loop.made e n) (loop.rounds e n) :=
    Guarded.obeys timed hjobs w s
  refine ⟨fun n => ⟨hobeys n, Guarded.le_made_length timed hwaits n, fun hended =>
    (Guarded.round_of_ended hended).1⟩, fun hnever n => ⟨fun hended => ?_, ?_⟩,
    fun T hstop => ⟨fun hearly n => ?_, fun n hended => ⟨?_, ?_, ?_⟩,
      fun limit hlimit hlasting => ?_⟩⟩
  · have hasks := (hobeys n).stopped hended
    rw [hnever _ (hobeys n).clock_le] at hasks
    cases hasks
  · exact (hobeys n).leads.run_add (fun r hr => ⟨(hobeys n).sound r hr, rfl⟩) 0
  · refine List.eq_nil_iff_forall_not_mem.mpr fun r hr => ?_
    exact absurd ((hobeys n).start_lt hstop r hr)
      (Int.not_lt.mpr (Int.le_trans hearly ((hobeys n).finished r hr).1))
  · exact (hobeys n).now_eq_of_idle hstop hended
  · exact fun r => (hobeys n).now_eq_of_goesOn timed hstop
  · exact fun turns => (hobeys n).run_eq hstop hended
  · obtain ⟨n, hended | ⟨r, hr, hlate⟩⟩ := Guarded.stops_or_passes timed hwaits rfl hlasting
    · exact ⟨n, .inl hended⟩
    · exact ⟨n, .inr ⟨r, hr, ⟨Int.le_of_lt ((hobeys n).start_lt hstop r hr),
        Int.lt_of_le_of_lt hlimit hlate⟩, hlate⟩⟩

/-- The switch is set off while the second run of `mixture` goes on, and on while the third does;
later it is let go of. -/
def signals : Watch where
  switch := ⟨false, false, false⟩
  coming := [(2000000000, .set false), (6000000000, .set true), (10000000000, .release)]

theorem signals_asks (t : Moment) : signals.asks t = true ↔ (6000000000 : Moment) ≤ t := by
  simp only [Watch.asks, Watch.upTo, signals, Watch.passTo, Switch.after, Switch.asks]
  unfold Moment at *
  grind

/-- The third run goes on when the stop comes, and is the last: it ends after seven seconds. -/
theorem stop_obeyed_signals :
    let e := Surroundings.clockwork (.ofSeconds 2) fun d => d = 1
    let sch := (create (.ofSeconds 3) (.ofSeconds 1) (Moment.lastFrom 0)).addAll mixture
    let loop := Guarded.start e signals sch 0
    let third := (loop.made e 6)[2]?
    sch.queue ≠ [] ∧ sch.Lasting (20000000000 : Moment) ∧
      (loop.rounds e 6).ending = some .stopped ∧
      (∀ r ∈ third, r.GoesOn e (6000000000 : Moment) ∧ (loop.made e 6).getLast? = some r ∧
        (loop.rounds e 6).now = r.finish e ∧ r.finish e = (7000000000 : Moment)) ∧
      (run e (some (6000000000 : Moment)) 4 sch 0).1 = (loop.rounds e 6).schedule ∧
      ∃ n, (loop.rounds e n).ending = some .stopped ∨
        ∃ r ∈ loop.made e n, r.GoesOn e (6000000000 : Moment) ∧
          (20000000000 : Moment) < r.finish e := by
  intro e sch loop third
  have timed : e.Timed := Surroundings.clockwork_timed _ _
  have hjobs : sch.queue ≠ [] := by decide
  have hlasting : sch.Lasting (20000000000 : Moment) :=
    ⟨addAll_paced (by decide) (by decide), by decide, by decide, by decide⟩
  have hended : (loop.rounds e 6).ending = some .stopped := by decide
  have hthird : ∀ r ∈ third, r.GoesOn e (6000000000 : Moment) ∧
      r.finish e = (7000000000 : Moment) := by decide
  obtain ⟨-, -, hstops⟩ := stop_obeyed timed hjobs 0 signals
  obtain ⟨-, hends, hsure⟩ := hstops _ signals_asks
  obtain ⟨-, hrunning, hsame⟩ := hends 6 hended
  refine ⟨hjobs, hlasting, hended, fun r hr => ?_, ?_, hsure _ (by decide) hlasting⟩
  · obtain ⟨hgoes, hfinish⟩ := hthird r hr
    obtain ⟨hlast, hnow⟩ := hrunning r (List.mem_of_getElem? hr) hgoes
    exact ⟨hgoes, hlast, hnow, hfinish⟩
  · rw [hsame 4 (by decide)]

end Scheduler

end RouterMetrics

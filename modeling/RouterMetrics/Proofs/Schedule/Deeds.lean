import RouterMetrics.Proofs.Schedule.Runs

/-!
# What a run asks of its surroundings

The surroundings are watched: every attempt to connect and every load that is asked of them is
written down, with the state it finds. Watching changes nothing. A run that finds its device down
makes one attempt to connect and asks for nothing else; any other run loads each collector of its
job once, in the order of the job.
-/

namespace RouterMetrics

variable {σ : Type}

/-- An attempt to connect a device or a load of a collector, with the state it finds. -/
inductive Deed (σ : Type)
  | connect (device : Nat) (found : σ)
  | load (collector : Nat) (device : Option Nat) (found : σ)

/-- The collector that is loaded, if one is. -/
def Deed.collector? : Deed σ → Option Nat
  | .connect _ _ => none
  | .load collector _ _ => some collector

/-- Surroundings that write down what is asked of them, the latest last. -/
def Surroundings.watched (e : Surroundings σ) : Surroundings (σ × List (Deed σ)) where
  clock := fun s => e.clock s.1
  sleepUntil := fun t s => (e.sleepUntil t s.1, s.2)
  connected := fun d s => e.connected d s.1
  connect := fun d s => (e.connect d s.1, s.2 ++ [.connect d s.1])
  load := fun c d s => ((e.load c d s.1).1, (e.load c d s.1).2, s.2 ++ [.load c d s.1])
  record := fun c d n o s => (e.record c d n o s.1, s.2)

/-- What a run asks of its surroundings. -/
def Run.deeds (e : Surroundings σ) (r : Run σ) : List (Deed σ) :=
  (Scheduler.runJob e.watched r.found.reconnectDelay r.taken.job (r.begun e, [])).2.2

namespace Scheduler

/-- The loads of collectors one after another. -/
def loadDeeds (e : Surroundings σ) (device : Option Nat) : List Nat → σ → List (Deed σ)
  | [], _ => []
  | c :: rest, s => .load c device s :: loadDeeds e device rest (loadOne e device s c)

theorem foldl_loadOne_watched (e : Surroundings σ) (device : Option Nat) (collectors : List Nat)
    (s : σ) (log : List (Deed σ)) :
    collectors.foldl (loadOne e.watched device) (s, log) =
      (collectors.foldl (loadOne e device) s, log ++ loadDeeds e device collectors s) := by
  induction collectors generalizing s log with
  | nil => simp [loadDeeds]
  | cons c rest ih =>
    have hone : loadOne e.watched device (s, log) c =
        (loadOne e device s c, log ++ [.load c device s]) := rfl
    rw [List.foldl_cons, hone, ih, List.foldl_cons, loadDeeds, List.append_assoc]
    rfl

/-- Watching changes neither the delay nor the state that a run leaves. -/
theorem runJob_watched (e : Surroundings σ) (reconnectDelay : Duration) (job : Job) (s : σ)
    (log : List (Deed σ)) :
    (runJob e.watched reconnectDelay job (s, log)).1 = (runJob e reconnectDelay job s).1 ∧
      (runJob e.watched reconnectDelay job (s, log)).2.1 = (runJob e reconnectDelay job s).2 := by
  have hdown : isDown e.watched job (s, log) = isDown e job s := rfl
  simp only [runJob, hdown]
  split
  · cases job.device with
    | none => exact ⟨rfl, rfl⟩
    | some d => exact ⟨rfl, rfl⟩
  · exact ⟨rfl, congrArg Prod.fst (foldl_loadOne_watched e job.device job.collectors s log)⟩

theorem loadDeeds_collectors (e : Surroundings σ) (device : Option Nat) (collectors : List Nat)
    (s : σ) : (loadDeeds e device collectors s).map Deed.collector? = collectors.map some := by
  induction collectors generalizing s with
  | nil => rfl
  | cons c rest ih => rw [loadDeeds, List.map_cons, ih, List.map_cons]; rfl

theorem loadDeeds_append (e : Surroundings σ) (device : Option Nat) (before after : List Nat)
    (s : σ) : loadDeeds e device (before ++ after) s = loadDeeds e device before s ++
      loadDeeds e device after (before.foldl (loadOne e device) s) := by
  induction before generalizing s with
  | nil => rfl
  | cons c rest ih => exact congrArg _ (ih (loadOne e device s c))

/-- A load finds what the loads before it have left. -/
theorem mem_loadDeeds {e : Surroundings σ} {device d : Option Nat} {collectors : List Nat} {s : σ}
    {c : Nat} {found : σ} (h : .load c d found ∈ loadDeeds e device collectors s) :
    ∃ before after, collectors = before ++ c :: after ∧ d = device ∧
      found = before.foldl (loadOne e device) s := by
  induction collectors generalizing s with
  | nil => cases h
  | cons c' rest ih =>
    rcases List.mem_cons.mp h with heq | hrest
    · cases heq
      exact ⟨[], rest, rfl, rfl, rfl⟩
    · obtain ⟨before, after, rfl, hd, hfound⟩ := ih hrest
      exact ⟨c' :: before, after, rfl, hd, hfound⟩

/-- A job whose device is down has a device. -/
theorem isDown_device {e : Surroundings σ} {job : Job} {s : σ} (h : isDown e job s = true) :
    ∃ d, job.device = some d := by
  unfold isDown at h
  cases hd : job.device with
  | none => simp [hd] at h
  | some d => exact ⟨d, rfl⟩

end Scheduler

namespace Run

variable {e : Surroundings σ} {r : Run σ}

/-- **A run that finds its device down tries to connect it, once, and loads nothing.** -/
theorem of_down (h : Scheduler.isDown e r.taken.job (r.begun e) = true) :
    ∃ d, r.taken.job.device = some d ∧ r.deeds e = [.connect d (r.begun e)] ∧
      r.ended e = e.connect d (r.begun e) ∧ r.delay e = r.found.reconnectDelay := by
  obtain ⟨d, hd⟩ := Scheduler.isDown_device h
  have hwatched : Scheduler.isDown e.watched r.taken.job (r.begun e, []) = true := h
  refine ⟨d, hd, ?_, ?_, ?_⟩
  · simp only [deeds, Scheduler.runJob, hwatched, hd, if_true]
    rfl
  · simp [ended, Scheduler.runJob, h, hd]
  · simp [delay, Scheduler.runJob, h]

/-- **Any other run loads every collector of its job, in their order.** -/
theorem of_up (h : Scheduler.isDown e r.taken.job (r.begun e) = false) :
    r.deeds e =
        Scheduler.loadDeeds e r.taken.job.device r.taken.job.collectors (r.begun e) ∧
      r.ended e =
        r.taken.job.collectors.foldl (Scheduler.loadOne e r.taken.job.device) (r.begun e) ∧
      r.delay e = r.taken.job.interval := by
  have hwatched : Scheduler.isDown e.watched r.taken.job (r.begun e, []) = false := h
  refine ⟨?_, ?_, ?_⟩
  · simp [deeds, Scheduler.runJob, hwatched, Scheduler.loadAll,
      Scheduler.foldl_loadOne_watched]
  · simp [ended, Scheduler.runJob, h, Scheduler.loadAll]
  · simp [delay, Scheduler.runJob, h]

end Run

end RouterMetrics

import RouterMetrics.Proofs.Device.History

/-!
# Attempts to reach a device are paced

While a device is down an attempt to connect makes a handshake only when the pause that its failures
call for is over. The pause is counted from the reading of the clock before the last failed
handshake, and a clock that was set back counts as one that stood still. So handshakes that fail
one after the other are further and further apart (`Device.reconnect_pacing`).
-/

namespace RouterMetrics

variable {σ : Type}

/-! ## The pause -/

namespace Backoff

variable (b : Backoff)

theorem growth_mono {m n : Nat} (h : m ≤ n) : b.growth m ≤ b.growth n :=
  Nat.div_le_div_right (Nat.mul_le_mul_left _ (Nat.add_le_add_left h _))

theorem initial_le_growth (n : Nat) : b.initial.ns ≤ b.growth n := by
  have hroot : b.growth 0 = b.initial.ns := Nat.mul_div_cancel _ b.divisor_pos
  rw [← hroot]
  exact b.growth_mono (Nat.zero_le n)

theorem delay_ns (n : Nat) : (b.delay n).ns =
    if b.growth n < b.max.ns ∧ b.growth n < 1 <<< 64 then b.growth n else b.max.ns := by
  unfold delay
  split
  case isTrue => rfl
  case isFalse => rfl

/-- More failures never make the pause shorter. -/
theorem delay_mono {m n : Nat} (h : m ≤ n) : (b.delay m).ns ≤ (b.delay n).ns := by
  have hgrowth := b.growth_mono h
  rw [delay_ns, delay_ns]
  split <;> split <;> omega

theorem delay_pos (hinitial : 0 < b.initial.ns) (hmax : 0 < b.max.ns) (n : Nat) :
    0 < (b.delay n).ns := by
  have hgrowth := b.initial_le_growth n
  rw [delay_ns]
  split <;> omega

end Backoff

namespace Connection

variable {b : Backoff} {c : Connection} {now : Moment}

/-- Nothing has to be waited for once the pause is over, or when there was no failure. -/
theorem remaining?_eq_none_iff : c.remaining? b now = none ↔
    ∀ f, c.lastFailure = some f → ((b.delay c.failures).ns : Int) ≤ max 0 (now - f) := by
  cases hlast : c.lastFailure with
  | none => simp [remaining?, hlast]
  | some since =>
    have helapsed : (Moment.elapsed since now : Int) = max 0 (now - since) := by
      unfold Moment.elapsed
      omega
    simp only [remaining?, hlast, Option.some.injEq, forall_eq', ← helapsed, Int.ofNat_le]
    split
    case isTrue h => simpa using h
    case isFalse h => simpa using h

/-- What has to be waited for is what is left of the pause. -/
theorem of_remaining?_eq_some {remaining : Duration} (h : c.remaining? b now = some remaining) :
    ∃ f, c.lastFailure = some f ∧
      (remaining.ns : Int) = (b.delay c.failures).ns - max 0 (now - f) ∧ 0 < remaining.ns := by
  cases hlast : c.lastFailure with
  | none => simp [remaining?, hlast] at h
  | some since =>
    simp only [remaining?, hlast] at h
    split at h
    case isTrue hpassed =>
      cases h
      refine ⟨since, rfl, ?_, Nat.sub_pos_of_lt hpassed⟩
      unfold Moment.elapsed at *
      simp only
      omega
    case isFalse => cases h

theorem refuse?_of_down (h : c.connected = false) :
    c.refuse? b now = (c.remaining? b now).map .suppressed := by
  unfold refuse?
  rw [h]
  rfl

end Connection

namespace Device

/-! ## One attempt -/

/-- An attempt that is not refused makes a handshake at once. -/
theorem sent_connect_of_none {w : World σ} {d : Device} {s : σ}
    (h : d.connection.refuse? d.backoff (w.clock s) = none) :
    ∃ x, d.sent w .connect s = [x] ∧ x.asked = w.clock s := by
  simp [sent, use, connect, World.recorded, h]

theorem sent_connect_eq_nil {w : World σ} {d : Device} {s : σ} {answer : Attempt}
    (h : d.connection.refuse? d.backoff (w.clock s) = some answer) :
    d.sent w .connect s = [] ∧ (d.connect w s).1 = answer ∧ (d.use w .connect s).1 = d := by
  obtain ⟨hsent, huse⟩ := idle_of_refused h
  exact ⟨hsent, by simp [connect, h], by rw [huse]⟩

/-- The handshakes that an attempt makes are those that are not refused. -/
theorem sent_connect_iff {w : World σ} {d : Device} {s : σ} :
    (∃ x, d.sent w .connect s = [x]) ↔
      d.connection.refuse? d.backoff (w.clock s) = none := by
  constructor
  · rintro ⟨x, hx⟩
    cases hrefuse : d.connection.refuse? d.backoff (w.clock s) with
    | none => rfl
    | some answer =>
      rw [(sent_connect_eq_nil hrefuse).1] at hx
      cases hx
  · intro h
    obtain ⟨x, hx, -⟩ := sent_connect_of_none h
    exact ⟨x, hx⟩

/-- **An attempt makes a handshake when the pause is over.** -/
theorem handshake_iff_pause_over {w : World σ} {d : Device} (hdown : d.connection.connected = false)
    (s : σ) : (∃ x, d.sent w .connect s = [x]) ↔
      ∀ f, d.connection.lastFailure = some f →
        (d.currentDelay.ns : Int) ≤ max 0 (w.clock s - f) := by
  rw [sent_connect_iff, Connection.refuse?_of_down hdown, Option.map_eq_none_iff,
    Connection.remaining?_eq_none_iff]
  rfl

/-- An attempt that makes no handshake tells what is left of the pause. -/
theorem suppressed_of_sent_nil {w : World σ} {d : Device} (hdown : d.connection.connected = false)
    {s : σ} (h : d.sent w .connect s = []) :
    ∃ f remaining, d.connection.lastFailure = some f ∧
      (d.connect w s).1 = .suppressed remaining ∧ (d.use w .connect s).1 = d ∧
      (remaining.ns : Int) = d.currentDelay.ns - max 0 (w.clock s - f) ∧ 0 < remaining.ns := by
  have hrefuse : d.connection.refuse? d.backoff (w.clock s) =
      (d.connection.remaining? d.backoff (w.clock s)).map .suppressed :=
    Connection.refuse?_of_down hdown
  cases hremaining : d.connection.remaining? d.backoff (w.clock s) with
  | none =>
    rw [hremaining] at hrefuse
    obtain ⟨x, hx, -⟩ := sent_connect_of_none hrefuse
    rw [h] at hx
    cases hx
  | some remaining =>
    rw [hremaining] at hrefuse
    obtain ⟨f, hf, heq, hpos⟩ := Connection.of_remaining?_eq_some hremaining
    obtain ⟨-, hanswer, hsame⟩ := sent_connect_eq_nil hrefuse
    exact ⟨f, remaining, hf, hanswer, hsame, heq, hpos⟩

/-- **The pause ends when an attempt was told it would**, if the clock was not before the failure
then. -/
theorem pause_ends {w : World σ} {d : Device} (hdown : d.connection.connected = false) {s : σ}
    {f : Moment} {remaining : Duration} (hf : d.connection.lastFailure = some f)
    (heq : (remaining.ns : Int) = d.currentDelay.ns - max 0 (w.clock s - f))
    (hpos : 0 < remaining.ns) (hle : f ≤ w.clock s) (s' : σ) :
    (w.clock s' < Moment.after (w.clock s) remaining →
        ∃ later, (d.connect w s').1 = .suppressed later) ∧
      (w.clock s' = Moment.after (w.clock s) remaining → ∃ x, d.sent w .connect s' = [x]) := by
  have hiff := handshake_iff_pause_over (w := w) hdown s'
  rw [hf] at hiff
  simp only [Option.some.injEq, forall_eq'] at hiff
  unfold Moment.after
  constructor
  · intro hbefore
    have hnone : ¬ ∃ x, d.sent w .connect s' = [x] := by
      rw [hiff]
      unfold Moment at *
      omega
    rcases use_cases w d .connect s' with ⟨hsent, -⟩ | ⟨x, -, hx, -⟩
    · obtain ⟨-, later, -, hanswer, -⟩ := suppressed_of_sent_nil hdown hsent
      exact ⟨later, hanswer⟩
    · exact absurd ⟨x, hx⟩ hnone
  · intro hthen
    rw [hiff]
    unfold Moment at *
    omega

/-! ## Attempts one after another -/

/-- Readings of the clock that are as far apart as failures call for, when so many have been counted
and the last one was at a moment. -/
def Spaced (b : Backoff) : Nat → Option Moment → List Moment → Prop
  | _, _, [] => True
  | failures, since, t :: later =>
    (∀ f, since = some f → ((b.delay failures).ns : Int) ≤ t - f) ∧
      Spaced b (min failureLimit (failures + 1)) (some t) later

/-- The pause before the next handshake when so many have failed since the count was taken. -/
def gap (d : Device) (i : Nat) : Nat :=
  (d.backoff.delay (min failureLimit (d.connection.failures + i + 1))).ns

/-- The gaps never shrink. -/
theorem gap_mono (d : Device) (i : Nat) : d.gap i ≤ d.gap (i + 1) :=
  d.backoff.delay_mono (by omega)

/-- What is spaced is spaced at every place. -/
theorem Spaced.getElem {b : Backoff} {failures : Nat} {since : Option Moment}
    {ts : List Moment} (h : Spaced b failures since ts) (i : Nat) (hi : i + 1 < ts.length) :
    ((b.delay (min failureLimit (failures + i + 1))).ns : Int) ≤ ts[i + 1] - ts[i] := by
  induction ts generalizing failures since i with
  | nil => cases hi
  | cons t later ih =>
    cases i with
    | zero =>
      cases later with
      | nil => simp at hi
      | cons t' later => exact h.2.1 t rfl
    | succ i =>
      have hlater := ih h.2 i (Nat.lt_of_succ_lt_succ hi)
      -- to count on from one failure more comes to the same, also at the limit
      have hcount : min failureLimit (min failureLimit (failures + 1) + i + 1) =
          min failureLimit (failures + (i + 1) + 1) := by omega
      rw [hcount] at hlater
      exact hlater

/-- **Attempts of which none succeeds make handshakes that are spaced.** A handshake changes the
count and the time that the next one is measured by; an attempt that makes none changes nothing. -/
theorem attempts_spaced (w : World σ) {d : Device} (hinitial : 0 < d.backoff.initial.ns)
    (hmax : 0 < d.backoff.max.ns) (attempts : List σ)
    (hfail : ∀ x ∈ d.history w (attempts.map fun s => (.connect, s)), x.failed = true) :
    Spaced d.backoff d.connection.failures d.connection.lastFailure
      ((d.history w (attempts.map fun s => (.connect, s))).map (·.reading)) := by
  induction attempts generalizing d with
  | nil => trivial
  | cons s rest ih =>
    rw [List.map_cons, history] at hfail ⊢
    rcases use_cases w d .connect s with ⟨hsent, huse⟩ | ⟨x, c, hsent, hchange, huse⟩
    · -- an attempt that was suppressed left the device as it was
      rw [hsent, huse] at hfail ⊢
      exact ih hinitial hmax hfail
    · rw [hsent, huse, List.map_singleton, List.singleton_append] at hfail ⊢
      have hnone := sent_connect_iff.mp ⟨x, hsent⟩
      have hdown := Connection.down_of_refuse?_none hnone
      obtain ⟨y, hy, hasked⟩ := sent_connect_of_none hnone
      obtain rfl : x = y := by simpa [hsent] using hy
      have hfailed : x.failed = true := hfail _ List.mem_cons_self
      have hc : c = d.connection.fail x.asked := by
        simp only [Use.incident, hfailed] at hchange
        cases hchange
        rfl
      subst hc
      refine ⟨fun f hf => ?_, ?_⟩
      · -- the pause is longer than no time at all, so the clock is past the failure
        have hover := (handshake_iff_pause_over (w := w) hdown s).mp ⟨x, hsent⟩ f hf
        have hpos := d.backoff.delay_pos hinitial hmax d.connection.failures
        simp only [Use.incident, currentDelay, hasked] at hover ⊢
        omega
      · exact ih (d := { d with connection := d.connection.fail x.asked }) hinitial hmax fun y hy =>
          hfail y (List.mem_cons_of_mem _ hy)

/-! ## Pacing -/

/-- **Reconnect pacing.** While a device is down an attempt makes a handshake exactly when the pause
for its failures has passed since the last of them; else it is told how much of the pause is left,
and from then on, while the clock is not before the failure, attempts are suppressed until that time
is over and no longer. For a policy whose pauses are not empty, handshakes that fail one after the
other are apart by the pause for the failures so far, which never shrinks. -/
theorem reconnect_pacing (w : World σ) (d : Device) :
    (d.connection.connected = false → ∀ s : σ,
      ((∃ x, d.sent w .connect s = [x]) ↔
        ∀ f, d.connection.lastFailure = some f →
          (d.currentDelay.ns : Int) ≤ max 0 (w.clock s - f)) ∧
      (d.sent w .connect s = [] → ∃ f remaining, d.connection.lastFailure = some f ∧
        (d.connect w s).1 = .suppressed remaining ∧
        (remaining.ns : Int) = d.currentDelay.ns - max 0 (w.clock s - f) ∧ 0 < remaining.ns ∧
        (f ≤ w.clock s → ∀ s' : σ,
          let d' := (d.use w .connect s).1
          (w.clock s' < Moment.after (w.clock s) remaining →
              ∃ later, (d'.connect w s').1 = .suppressed later) ∧
            (w.clock s' = Moment.after (w.clock s) remaining →
              ∃ x, d'.sent w .connect s' = [x])))) ∧
    (0 < d.backoff.initial.ns → 0 < d.backoff.max.ns →
      (∀ attempts : List σ,
        let made := d.history w (attempts.map fun s => (.connect, s))
        (∀ x ∈ made, x.failed = true) →
          ∀ i (hi : i + 1 < made.length),
            (d.gap i : Int) ≤ made[i + 1].reading - made[i].reading) ∧
      ∀ i, d.gap i ≤ d.gap (i + 1)) := by
  constructor
  · intro hdown s
    refine ⟨handshake_iff_pause_over hdown s, fun hnone => ?_⟩
    obtain ⟨f, remaining, hf, hanswer, hsame, heq, hpos⟩ := suppressed_of_sent_nil hdown hnone
    refine ⟨f, remaining, hf, hanswer, heq, hpos, fun hle s' => ?_⟩
    rw [hsame]
    exact pause_ends hdown hf heq hpos hle s'
  · intro hinitial hmax
    refine ⟨?_, d.gap_mono⟩
    intro attempts made hfail i hi
    have hspaced := attempts_spaced w hinitial hmax attempts hfail
    have hgap := hspaced.getElem i (by rw [List.length_map]; exact hi)
    rw [List.getElem_map, List.getElem_map] at hgap
    exact hgap

/-- A world in which nothing answers and no time passes by itself. -/
def mute : World Moment where
  clock := id
  sleepUntil := fun t s => max s t
  handshake := fun _ s => (.error .timeout, s)
  call := fun _ _ s => (.error .timeout, s)
  release := fun _ s => (none, s)

/-- A device that waits two minutes after its first failure, and a fifth of that longer after each
one that follows, fifteen minutes at most. -/
def depot : Device :=
  create 0 ⟨"depot", "10.0.0.1"⟩ (.of (.ofSeconds 120) 5 (.ofSeconds 900))

/-- The second of the day that the clock shows. -/
def atSecond (n : Nat) : Moment := Moment.after 0 (.ofSeconds n)

/-- The clock is set back twice. The handshakes are made at once, after 144 seconds to the moment
and after 168 more; in between an attempt at the hundredth second is told to wait for 44 more. -/
theorem reconnect_pacing_depot :
    let attempts := [100, 0, 243, 244, 200, 412].map atSecond
    let made := depot.history mute (attempts.map fun s => (.connect, s))
    let d := depot.after mute [(.connect, atSecond 100)]
    made.map (·.reading) = [100, 244, 412].map atSecond ∧
      (depot.gap 0, depot.gap 1) = (144 * nanosPerSecond, 168 * nanosPerSecond) ∧
      (∀ i (hi : i + 1 < made.length),
        (depot.gap i : Int) ≤ made[i + 1].reading - made[i].reading) ∧
      d.connection.connected = false ∧ d.connection.lastFailure = some (atSecond 100) ∧
      ∃ remaining, (d.connect mute (atSecond 200)).1 = .suppressed remaining ∧
        remaining.ns = 44 * nanosPerSecond ∧
        (∃ later, (d.connect mute (atSecond 243)).1 = .suppressed later) ∧
        ∃ x, d.sent mute .connect (atSecond 244) = [x] := by
  intro attempts made d
  have hpaced := (reconnect_pacing mute depot).2 (by decide) (by decide)
  have hgaps := hpaced.1 attempts (by decide)
  refine ⟨by decide, by decide, hgaps, by decide, by decide, ?_⟩
  have hdown : d.connection.connected = false := by decide
  have hsent : d.sent mute .connect (atSecond 200) = [] := by decide
  obtain ⟨f, remaining, hf, hanswer, heq, -, hlater⟩ :=
    ((reconnect_pacing mute d).1 hdown (atSecond 200)).2 hsent
  obtain rfl : f = atSecond 100 := Option.some.inj (hf.symm.trans (by decide))
  have hremaining : remaining.ns = 44 * nanosPerSecond := by
    have hpause : (d.currentDelay.ns : Int) - max 0 (mute.clock (atSecond 200) - atSecond 100) =
        (44 * nanosPerSecond : Nat) := by decide
    exact Int.ofNat.inj (heq.trans hpause)
  have hend : Moment.after (mute.clock (atSecond 200)) remaining = atSecond 244 := by
    unfold Moment.after
    rw [hremaining]
    decide
  obtain ⟨-, -, -, -, hsame, -⟩ := suppressed_of_sent_nil hdown hsent
  have hthen := hlater (by decide)
  rw [hsame, hend] at hthen
  exact ⟨remaining, hanswer, hremaining, (hthen (atSecond 243)).1 (by decide),
    (hthen (atSecond 244)).2 rfl⟩

end Device

end RouterMetrics

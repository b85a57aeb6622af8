import RouterMetrics.Proofs.Collector.Normalization
import RouterMetrics.Proofs.Collector.Projection
import RouterMetrics.Proofs.Decimal.WholeNumbers
import RouterMetrics.Proofs.Text.Words

/-!
# Releases are told channel by channel

The feed is asked for one channel after another, and every channel has a record made of its own
answer (`Fetch.run_releases`). An answer tells a version and a build time when it is two words, and
else neither (`Release.tells_iff`). A build time that is no whole number of 64 bits becomes null,
so it is passed over and hides no other: the series of a load are the channels in their order
(`Release.channels_told`).
-/

namespace RouterMetrics

variable {σ : Type}

/-! ## Answers -/

namespace Release

/-- What the feed answers to channels that are asked one after another, and what it leaves behind.
An answer is a body, or nothing when it has failed. -/
def answers (w : World σ) : List String → σ → List (Option String) × σ
  | [], s => ([], s)
  | channel :: rest, s =>
    let (body, s) := w.release channel s
    let (bodies, s) := answers w rest s
    (body :: bodies, s)

theorem length_answers (w : World σ) (channels : List String) (s : σ) :
    (answers w channels s).1.length = channels.length := by
  induction channels generalizing s with
  | nil => rfl
  | cons channel rest ih => exact congrArg (· + 1) (ih _)

/-- The two words of a body: version and build time, with white space between them and around them
none or some. -/
def TwoWords (body version built : String) : Prop :=
  ∃ before between behind, body.toList =
      before ++ version.toList ++ between ++ built.toList ++ behind ∧ Text.IsGap before ∧
    Text.IsGap between ∧ Text.IsGap behind ∧ between ≠ [] ∧ Text.IsWord version.toList ∧
    Text.IsWord built.toList

/-- What an answer tells: the words of a body of two, and else that the version is not known. -/
inductive Tells : Option String → String → String → Prop
  | words {body version built : String} : TwoWords body version built →
      Tells (some body) version built
  | other {body : String} : (∀ version built, ¬ TwoWords body version built) →
      Tells (some body) "N/A" ""
  | failed : Tells none "N/A" ""

/-- The version and the build time that are read of an answer. -/
def told (body : Option String) : String × String :=
  (body.bind Value.releaseLine).getD (unknownVersion, "")

/-- The build time of an answer as a whole number of 64 bits. -/
def builtAt (body : Option String) : Option Int := Catalog.wholeNumber? (told body).2.toList

/-- A text writes a whole number of 64 bits: digits, with a sign before them or none. -/
def Writes64 (text : String) (i : Int) : Prop :=
  ∃ n : Decimal.Numeral, Decimal.Integer text.toList n ∧
    i = (if n.negative then -n.mantissa else n.mantissa : Int) ∧ -2 ^ 63 ≤ i ∧ i < 2 ^ 63

variable {body version built : String} {i : Int}

theorem releaseLine_eq_some_iff :
    Value.releaseLine body = some (version, built) ↔ TwoWords body version built := by
  rw [TwoWords, ← Text.words_eq_pair_iff, Value.releaseLine]
  split
  case h_1 v t hwords =>
    simp [hwords, ← String.toList_inj]
  case h_2 hother =>
    exact iff_of_false nofun (hother _ _)

/-- **What is read of an answer is what it tells**, and it tells nothing else. -/
theorem tells_iff {body : Option String} :
    Tells body version built ↔ told body = (version, built) := by
  constructor
  · rintro (⟨hwords⟩ | ⟨hother⟩ | _)
    · rw [told, Option.bind_some, releaseLine_eq_some_iff.mpr hwords]
      rfl
    · have hnone : ∀ words, Value.releaseLine _ ≠ some words := fun words hline =>
        hother _ _ (releaseLine_eq_some_iff.mp hline)
      rw [told, Option.bind_some, Option.eq_none_iff_forall_ne_some.mpr hnone]
      rfl
    · rfl
  · cases body with
    | none =>
      rintro ⟨⟩
      exact .failed
    | some body =>
      rw [told, Option.bind_some]
      cases hline : Value.releaseLine body with
      | some words =>
        rintro rfl
        exact .words (releaseLine_eq_some_iff.mp hline)
      | none =>
        rintro ⟨⟩
        refine .other fun version built hwords => ?_
        rw [releaseLine_eq_some_iff.mpr hwords] at hline
        cases hline

theorem wholeNumber?_eq_some_iff {text : String} :
    Catalog.wholeNumber? text.toList = some i ↔ Writes64 text i := by
  have hlimit : ((1 <<< 63 : Nat) : Int) = 2 ^ 63 := rfl
  unfold Catalog.wholeNumber?
  rw [hlimit]
  rcases hsign : Decimal.spanSign text.toList with ⟨negative, ds⟩
  dsimp only
  rw [Option.ite_none_left_eq_some, Option.ite_none_right_eq_some, Option.some.injEq]
  simp only [Bool.or_eq_true, List.isEmpty_iff, Bool.not_eq_true', not_or, Bool.not_eq_false,
    List.all_eq_true, Bool.and_eq_true, decide_eq_true_eq]
  constructor
  · rintro ⟨⟨hsome, hdigits⟩, hrange, rfl⟩
    exact ⟨_, .digits hsign hsome hdigits, rfl, hrange⟩
  · rintro ⟨n, hinteger, rfl, hrange⟩
    obtain ⟨hsign', hsome, hdigits⟩ := hinteger
    obtain ⟨rfl, rfl⟩ := Prod.mk.inj (hsign.symm.trans hsign')
    exact ⟨⟨hsome, hdigits⟩, hrange, rfl⟩

/-- **A build time is read exactly where a whole number of 64 bits is written.** -/
theorem builtAt_eq_some_iff {body : Option String} :
    builtAt body = some i ↔ Writes64 (told body).2 i :=
  wholeNumber?_eq_some_iff

/-- A version and a build time have no white space in them. -/
theorem isBlank_told (body : Option String) :
    ∀ c ∈ (told body).2.toList, Text.isBlank c = false := by
  have htells : Tells body (told body).1 (told body).2 := tells_iff.mpr rfl
  generalize (told body).1 = version, (told body).2 = built at htells
  cases htells with
  | words hwords =>
    obtain ⟨-, -, -, -, -, -, -, -, -, hbuilt⟩ := hwords
    exact hbuilt.no_blank
  | other => exact nofun
  | failed => exact nofun

end Release

/-! ## Records -/

theorem Fetch.run_releasesAfter (w : World σ) (records : List Record) (channels : List String)
    (d : Option Device) (s : σ) : (releasesAfter records channels).run w d s =
      (.ok (records ++ (channels.zip (Release.answers w channels s).1).map fun a =>
        releaseRecord a.1 a.2), d, (Release.answers w channels s).2) := by
  induction channels generalizing records s with
  | nil => simp [releasesAfter, run, Release.answers]
  | cons channel rest ih =>
    rw [releasesAfter, run]
    exact (ih _ _).trans (by simp [Release.answers])

/-- **The feed is asked for every channel, and each has a record made of its own answer.** -/
theorem Fetch.run_releases (w : World σ) (channels : List String) (d : Option Device) (s : σ) :
    (releases channels).run w d s =
      (.ok ((channels.zip (Release.answers w channels s).1).map fun a => releaseRecord a.1 a.2), d,
        (Release.answers w channels s).2) :=
  run_releasesAfter w [] channels d s

namespace Release

/-- The fields of a channel with its answer. -/
def fields (channel : String) (body : Option String) : List (String × Json) :=
  [("channel", .text channel), ("version", .text (told body).1), ("ts", .text (told body).2)]

theorem releaseRecord_eq (channel : String) (body : Option String) :
    releaseRecord channel body = Dict.ofList (fields channel body) := rfl

theorem get?_releaseRecord_iff {channel k : String} {body : Option String} {v : Json} :
    (releaseRecord channel body).get? k = some v ↔ (k, v) ∈ fields channel body := by
  have distinct : ((fields channel body).map (·.1)).Nodup :=
    show ["channel", "version", "ts"].Nodup by decide
  rw [releaseRecord_eq, Dict.ofList_get?_iff_mem distinct]

/-- The names of the fields are their own normal forms. -/
theorem normalizeKeys_releaseRecord (channel : String) (body : Option String) :
    (releaseRecord channel body).normalizeKeys = releaseRecord channel body := by
  have hsettled : ∀ k ∈ ["channel", "version", "ts"], normalizeKey k = k := by decide
  refine Record.normalizeKeys_of_normal fun e he => hsettled e.1 ?_
  exact List.mem_map_of_mem (f := Prod.fst) (get?_releaseRecord_iff.mp (Dict.mem_toList.mp he))

theorem isDisabled_releaseRecord (channel : String) (body : Option String) :
    (releaseRecord channel body).isDisabled = false := by
  have hnone : (releaseRecord channel body).get? "disabled" = none :=
    Dict.ofList_get?_eq_none_iff.mpr (by simp)
  rw [Record.isDisabled, hnone]
  rfl

/-- What a store keeps of a channel and its answer. -/
structure Kept (channel : String) (body : Option String) (r : Record) : Prop where
  channel : r.get? "channel" = some (.text channel)
  version : r.get? "version" = some (.text (told body).1)
  built : r.get? "ts" = some (((builtAt body).map Json.int).getD .null)

theorem buildTime_told (body : Option String) :
    Catalog.buildTime (some (told body).2) = some (((builtAt body).map Json.int).getD .null) := by
  rw [Catalog.buildTime, Option.bind_some, Text.trim_of_no_blank (isBlank_told body), builtAt]

/-- A store without an identity keeps every channel, with its build time as a number or null. -/
theorem exists_kept {s : Store} (anonymous : s.identity = [])
    (translated : s.translations = [⟨"ts", Catalog.buildTime⟩]) (channel : String)
    (body : Option String) :
    ∃ r, s.normalize (releaseRecord channel body) = some r ∧ Kept channel body r := by
  have hget : ∀ e ∈ fields channel body, (releaseRecord channel body).get? e.1 = some e.2 :=
    fun e he => get?_releaseRecord_iff.mpr he
  simp only [fields, List.forall_mem_cons] at hget
  obtain ⟨hchannel, hversion, hbuilt, -⟩ := hget
  have hprior : Store.priorText (releaseRecord channel body) "ts" = some (told body).2 := by
    rw [Store.priorText, hbuilt]
    rfl
  refine ⟨(releaseRecord channel body).insert "ts" (((builtAt body).map Json.int).getD .null),
    ?_, ?_, ?_, ?_⟩
  · rw [Store.normalize, isDisabled_releaseRecord, if_neg Bool.false_ne_true, anonymous, translated,
      normalizeKeys_releaseRecord]
    simp only [Store.withIdentity, List.foldl_nil, List.foldl_cons, Store.translate, hprior,
      buildTime_told]
  · rw [Dict.get?_insert, if_neg (by decide), hchannel]
  · rw [Dict.get?_insert, if_neg (by decide), hversion]
  · rw [Dict.get?_insert, if_pos rfl]

theorem forall₂_kept {s : Store} (anonymous : s.identity = [])
    (translated : s.translations = [⟨"ts", Catalog.buildTime⟩])
    (asked : List (String × Option String)) (now : Moment) :
    List.Forall₂ (fun a r => Kept a.1 a.2 r) asked
      (s.set (asked.map fun a => releaseRecord a.1 a.2) now).snapshot.records := by
  rw [Store.set]
  induction asked with
  | nil => exact .nil
  | cons a rest ih =>
    obtain ⟨r, hr, hkept⟩ := exists_kept anonymous translated a.1 a.2
    rw [List.map_cons, List.filterMap_cons, hr]
    exact .cons hkept ih

end Release

/-! ## Series -/

namespace Release

variable {channel : String} {body : Option String} {r : Record}

/-- The sample of a channel in the series of versions. -/
def versionSample (channel : String) (body : Option String) : Sample :=
  ⟨[channel, (told body).1], Decimal.ofInt 1⟩

/-- The sample of a channel in the series of build times, if it has one. -/
def builtSample (channel : String) (body : Option String) : Option Sample :=
  (builtAt body).map fun i => ⟨[channel], Decimal.ofInt i⟩

theorem Kept.versionSample (h : Kept channel body r) {d : SeriesDef} (kind : d.kind = .info) :
    Store.sampleOf ["channel", "version"] d r = .ok (some (versionSample channel body)) := by
  rw [Store.sampleOf_constant (.inl kind)]
  simp only [List.map_cons, List.map_nil, h.channel, h.version]
  rfl

theorem Kept.builtSample (h : Kept channel body r) {d : SeriesDef} (measured : d.kind ≠ .info)
    (hfield : d.valueField = some "ts") :
    Store.sampleOf ["channel"] d r = .ok (builtSample channel body) := by
  rw [Store.sampleOf, Store.valueOf_field measured hfield, h.built, Release.builtSample]
  simp only [List.map_cons, List.map_nil, h.channel]
  cases builtAt body with
  | none => rfl
  | some i => rfl

/-- The stage of the feed. -/
def stage (channels : List String) : Stage :=
  (Catalog.latestVersion channels).stages.head (List.cons_ne_nil _ _)

theorem stage_process (channels : List String) (device : Option Device) (rows : List Record) :
    (stage channels).process device rows = rows :=
  List.filterMap_some

/-- The series of versions. -/
def versions : SeriesDef := Catalog.info "latest_routeros" "Latest RouterOS versions"

/-- The series of build times. -/
def builds : SeriesDef :=
  .by ["channel"] (Catalog.gauge "latest_routeros_published"
    "Latest RouterOS version publish timestamp" "ts")

/-- Both series of channels with their answers. -/
def series (asked : List (String × Option String)) : List Series :=
  [⟨.info, versions.name, versions.help, ["channel", "version"],
      asked.map fun a => versionSample a.1 a.2⟩,
    ⟨.gauge, builds.name, builds.help, ["channel"], asked.filterMap fun a => builtSample a.1 a.2⟩]

/-- **No series of the feed fails.** -/
theorem shown_filled (channels : List String) (interval : Duration)
    (asked : List (String × Option String)) (now : Moment) :
    (Collector.filled (stage channels) [] interval
      (asked.map fun a => releaseRecord a.1 a.2) now).shown = series asked := by
  generalize hs : Collector.filled (stage channels) [] interval
    (asked.map fun a => releaseRecord a.1 a.2) now = s
  have hkept : List.Forall₂ (fun a r => Kept a.1 a.2 r) asked s.snapshot.records := by
    rw [← hs]
    exact forall₂_kept rfl rfl asked now
  have hversions : s.emit versions s.snapshot = .ok ⟨.info, versions.name, versions.help,
      ["channel", "version"], asked.map fun a => versionSample a.1 a.2⟩ := by
    have hnames : s.labelNames versions = ["channel", "version"] := by
      rw [← hs]
      rfl
    refine Store.emit_eq_ok_iff.mpr ⟨_, ?_, by rw [hnames]; rfl⟩
    rw [hnames, Store.samplesOf_of_forall₂ (hkept.imp fun a r h => h.versionSample rfl)]
    exact congrArg Except.ok (congrFun List.filterMap_eq_map asked)
  have hbuilds : s.emit builds s.snapshot = .ok ⟨.gauge, builds.name, builds.help, ["channel"],
      asked.filterMap fun a => builtSample a.1 a.2⟩ := by
    have hnames : s.labelNames builds = ["channel"] := by
      rw [← hs]
      rfl
    refine Store.emit_eq_ok_iff.mpr ⟨_, ?_, by rw [hnames]; rfl⟩
    rw [hnames, Store.samplesOf_of_forall₂ (hkept.imp fun a r h => h.builtSample (by decide) rfl)]
  have hseries : s.series = [versions, builds] := by
    rw [← hs]
    rfl
  rw [Store.shown, hseries, List.filterMap_cons, hversions, List.filterMap_cons, hbuilds]
  rfl

/-- Channels are shown until they are too old. -/
theorem collect?_filled (channels : List String) {interval : Duration}
    (fits : (interval.scale? 3).isSome = true) {asked : List (String × Option String)}
    (some_channel : asked ≠ []) {now t : Moment}
    (young : t - now < (interval.ns * 3 / 2 : Nat)) :
    (Collector.filled (stage channels) [] interval
      (asked.map fun a => releaseRecord a.1 a.2) now).collect? t = some (series asked) := by
  have hshown := shown_filled channels interval asked now
  have hkept := (forall₂_kept (s := Store.create [] (stage channels).labels
    (stage channels).translations (stage channels).series interval) rfl rfl asked now).length_eq
  have hfits : ((Collector.filled (stage channels) [] interval
      (asked.map fun a => releaseRecord a.1 a.2) now).interval.scale? 3).isSome = true := fits
  obtain ⟨fresh, hfresh, hshows⟩ := Store.fresh?_iff hfits t
  have hrecords : (Collector.filled (stage channels) [] interval
      (asked.map fun a => releaseRecord a.1 a.2) now).snapshot.records ≠ [] := by
    intro hnone
    rw [Collector.filled] at hnone
    rw [hnone] at hkept
    exact some_channel (List.length_eq_zero_iff.mp hkept)
  obtain rfl : fresh = true := hshows.mpr ⟨hrecords, now, rfl, young⟩
  rw [Store.collect?, hfresh, hshown]
  rfl

/-- **Channels are told one by one.** Asking the feed never fails, and gives one record for every
channel in their order, made of the channel and its own answer alone: the version and the build time
of a body that is two words with white space between them, and else that the version is not known.
While a load of at least one channel is not too old, the series of versions has one sample for every
channel, and the series of build times, which is there as well, has one for exactly the channels
whose build time is a whole number of 64 bits, in their order and with that number as a double. -/
theorem channels_told (w : World σ) (channels : List String) :
    (∀ d s, (answers w channels s).1.length = channels.length ∧
      (releases channels).run w d s =
        (.ok ((channels.zip (answers w channels s).1).map fun a => releaseRecord a.1 a.2), d,
          (answers w channels s).2)) ∧
    (∀ channel body, releaseRecord channel body = Dict.ofList
      [("channel", .text channel), ("version", .text (told body).1), ("ts", .text (told body).2)]) ∧
    (∀ body version built, Tells body version built ↔ told body = (version, built)) ∧
    (∀ body i, builtAt body = some i ↔ Writes64 (told body).2 i) ∧
    ∀ (interval : Duration) (loads : List (Load σ)) (l : Load σ) (t : Moment), channels ≠ [] →
      (interval.scale? 3).isSome = true → t - l.now < (interval.ns * 3 / 2 : Nat) →
      let asked := channels.zip (answers w channels l.found).1
      (((Catalog.latestVersion channels).collector [] interval).after w (loads ++ [l])).collect? t =
        some
          [⟨.info, "latest_routeros", "Latest RouterOS versions", ["channel", "version"],
              asked.map fun a => ⟨[a.1, (told a.2).1], Decimal.ofInt 1⟩⟩,
            ⟨.gauge, "latest_routeros_published", "Latest RouterOS version publish timestamp",
              ["channel"],
              asked.filterMap fun a => (builtAt a.2).map fun i => ⟨[a.1], Decimal.ofInt i⟩⟩] := by
  refine ⟨fun d s => ⟨length_answers w channels s, Fetch.run_releases w channels d s⟩,
    releaseRecord_eq, fun body version built => tells_iff, fun body i => builtAt_eq_some_iff,
    fun interval loads l t some_channel fits young => ?_⟩
  have hlength := length_answers w channels l.found
  have hrun := Fetch.run_releases w channels l.device l.found
  generalize (answers w channels l.found).1 = bodies at hlength hrun ⊢
  have hasked : channels.zip bodies ≠ [] := by
    rw [ne_eq, ← List.length_eq_zero_iff, List.length_zip, hlength, Nat.min_self,
      List.length_eq_zero_iff]
    exact some_channel
  have hgot : l.fetches w (Catalog.latestVersion channels).stages =
      [.ok (l.device, (channels.zip bodies).map fun a => releaseRecord a.1 a.2)] :=
    Collector.fetches_of_ok hrun []
  have hsingle : (Catalog.latestVersion channels).stages = [stage channels] := rfl
  have hstages := Collector.after_single hsingle hgot [] interval loads
  rw [stage_process] at hstages
  rw [Collector.collect?, hstages, List.mapM_cons, collect?_filled channels fits hasked young]
  exact congrArg some (List.append_nil _)

/-- A feed with a good channel, one with a text of three words, one that fails, and one whose build
time is a word. -/
def mirror : World Unit where
  clock := fun _ => 0
  sleepUntil := fun _ s => s
  handshake := fun _ s => (.ok (), s)
  call := fun _ _ s => (.error .timeout, s)
  release := fun channel s =>
    ([("stable", " 7.16.2\t1733140320\n"), ("testing", "7.17 rc 3"),
      ("long-term", "7.12.1 soon")].lookup channel, s)

/-- All channels are shown with a version or without, and one with its build time. -/
theorem channels_told_mirror :
    let channels := ["stable", "testing", "development", "long-term"]
    let l : Load Unit := ⟨Moment.after 0 (.ofSeconds 10), none, ()⟩
    let t := Moment.after 0 (.ofSeconds 5000)
    channels ≠ [] ∧ ((Duration.ofSeconds 3600).scale? 3).isSome = true ∧
      t - l.now < ((Duration.ofSeconds 3600).ns * 3 / 2 : Nat) ∧
      (((Catalog.latestVersion channels).collector [] (.ofSeconds 3600)).after mirror
          [l]).collect? t = some
        [⟨.info, "latest_routeros", "Latest RouterOS versions", ["channel", "version"],
            [⟨["stable", "7.16.2"], Decimal.ofInt 1⟩, ⟨["testing", "N/A"], Decimal.ofInt 1⟩,
              ⟨["development", "N/A"], Decimal.ofInt 1⟩,
              ⟨["long-term", "7.12.1"], Decimal.ofInt 1⟩]⟩,
          ⟨.gauge, "latest_routeros_published", "Latest RouterOS version publish timestamp",
            ["channel"], [⟨["stable"], Decimal.ofInt 1733140320⟩]⟩] := by
  intro channels l t
  have some_channel : channels ≠ [] := List.cons_ne_nil _ _
  have fits : ((Duration.ofSeconds 3600).scale? 3).isSome = true := by decide
  have young : t - l.now < ((Duration.ofSeconds 3600).ns * 3 / 2 : Nat) := by decide
  obtain ⟨-, -, -, -, hshown⟩ := channels_told mirror channels
  exact ⟨some_channel, fits, young,
    (hshown (.ofSeconds 3600) [] l t some_channel fits young).trans (by rfl)⟩

end Release
end RouterMetrics

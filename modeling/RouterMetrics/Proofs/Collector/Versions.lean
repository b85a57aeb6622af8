import Mathlib.Data.List.TakeWhile
import RouterMetrics.Catalog
import RouterMetrics.Proofs.Collector.Normalization
import RouterMetrics.Proofs.Collector.Releases
import RouterMetrics.Proofs.Collector.Snapshots
import RouterMetrics.Proofs.Text.Numerals

/-!
# Versions with their channels

A version stands in one text with its channel in brackets behind it. The text is cut at its last
white space, so whatever stands in the version is found again (`Value.cutAtLastBlank_append`). Of a
channel only the letters before its first hyphen are read (`Value.versionAndChannel_withChannel`),
so a device with a hyphen in its channel is told another channel than the feed's
(`Catalog.versions_told`).
-/

namespace RouterMetrics

/-! ## Texts -/

namespace Value

variable {v c : String} {cs rest : List Char} {x : Char}

/-- A version as it stands in a text: some characters in one line, with no white space at their
ends. -/
structure IsVersion (v : String) : Prop where
  nonempty : v.toList ≠ []
  one_line : '\n' ∉ v.toList
  head : ∀ x ∈ v.toList.head?, Text.isBlank x = false
  last : ∀ x ∈ v.toList.getLast?, Text.isBlank x = false

instance (v : String) : Decidable (IsVersion v) :=
  decidable_of_iff (v.toList ≠ [] ∧ '\n' ∉ v.toList ∧
      v.toList.head?.any Text.isBlank = false ∧ v.toList.getLast?.any Text.isBlank = false)
    ⟨fun ⟨nonempty, one_line, head, last⟩ => ⟨nonempty, one_line,
        (Option.any_eq_false _ _).mp head, (Option.any_eq_false _ _).mp last⟩,
      fun h => ⟨h.nonempty, h.one_line,
        (Option.any_eq_false _ _).mpr h.head, (Option.any_eq_false _ _).mpr h.last⟩⟩

/-- A character of a channel. -/
def isChannelChar (x : Char) : Bool := isSmallLetter x || x == '-'

/-- A channel: small letters, with hyphens between them or none. -/
structure IsChannel (c : String) : Prop where
  nonempty : c.toList ≠ []
  letters : ∀ x ∈ c.toList, isChannelChar x = true
  head : ∀ x ∈ c.toList.head?, isSmallLetter x = true
  last : ∀ x ∈ c.toList.getLast?, isSmallLetter x = true

instance (c : String) : Decidable (IsChannel c) :=
  decidable_of_iff (c.toList ≠ [] ∧ c.toList.all isChannelChar = true ∧
      c.toList.head?.all isSmallLetter = true ∧ c.toList.getLast?.all isSmallLetter = true)
    ⟨fun ⟨nonempty, letters, head, last⟩ => ⟨nonempty, List.all_eq_true.mp letters,
        (Option.all_eq_true _ _).mp head, (Option.all_eq_true _ _).mp last⟩,
      fun h => ⟨h.nonempty, List.all_eq_true.mpr h.letters,
        (Option.all_eq_true _ _).mpr h.head, (Option.all_eq_true _ _).mpr h.last⟩⟩

/-- The text of a version and its channel. -/
def withChannel (v c : String) : String := v ++ " (" ++ c ++ ")"

/-- A channel up to its first hyphen. -/
def stem (c : String) : String := String.ofList (c.toList.takeWhile (· != '-'))

theorem toList_withChannel (v c : String) :
    (withChannel v c).toList = v.toList ++ ' ' :: '(' :: (c.toList ++ [')']) := by
  simp [withChannel]

theorem isBlank_of_isSmallLetter (h : isSmallLetter x = true) : Text.isBlank x = false := by
  rw [isSmallLetter, Bool.and_eq_true, decide_eq_true_eq, decide_eq_true_eq] at h
  have hrange : 97 ≤ x.toNat ∧ x.toNat ≤ 122 := h
  refine Bool.eq_false_iff.mpr fun hblank => ?_
  simp only [Text.isBlank, Text.inRanges, Text.blankRanges, List.any_cons, List.any_nil,
    Bool.or_eq_true, Bool.and_eq_true, decide_eq_true_eq, Bool.or_false] at hblank
  omega

theorem IsChannel.no_blank (h : IsChannel c) : ∀ x ∈ c.toList, Text.isBlank x = false := by
  intro x hx
  rcases Bool.or_eq_true_iff.mp (h.letters x hx) with hletter | hhyphen
  · exact isBlank_of_isSmallLetter hletter
  · rw [beq_iff_eq.mp hhyphen]
    rfl

theorem ne_hyphen_of_isSmallLetter (h : isSmallLetter x = true) : (x != '-') = true := by
  refine bne_iff_ne.mpr ?_
  rintro rfl
  cases h

/-- A channel starts with a letter, so its stem does too. -/
theorem IsChannel.stem_ne (h : IsChannel c) : stem c ≠ "" := by
  obtain ⟨x, rest, hc⟩ := List.exists_cons_of_ne_nil h.nonempty
  have hx : isSmallLetter x = true := h.head x (by rw [hc]; rfl)
  rw [stem, hc, List.takeWhile_cons, if_pos (ne_hyphen_of_isSmallLetter hx)]
  simp

/-- A channel is its stem when it has no hyphen. -/
theorem stem_eq_iff : stem c = c ↔ '-' ∉ c.toList := by
  rw [stem, ← String.toList_inj, String.toList_ofList, List.takeWhile_eq_self_iff]
  constructor
  · intro h hmem
    exact bne_iff_ne.mp (h _ hmem) rfl
  · intro h x hx
    exact bne_iff_ne.mpr fun heq => h (heq ▸ hx)

/-- The letters of a channel are read up to its first hyphen, or to the bracket behind it. -/
theorem takeWhile_isSmallLetter (h : ∀ x ∈ cs, isChannelChar x = true) :
    (cs ++ [')']).takeWhile isSmallLetter = cs.takeWhile (· != '-') := by
  induction cs with
  | nil => rfl
  | cons x rest ih =>
    obtain ⟨hx, hrest⟩ := List.forall_mem_cons.mp h
    rcases Bool.or_eq_true_iff.mp hx with hletter | hhyphen
    · rw [List.cons_append, List.takeWhile_cons, if_pos hletter, List.takeWhile_cons,
        if_pos (ne_hyphen_of_isSmallLetter hletter), ih hrest]
    · rw [beq_iff_eq.mp hhyphen]
      rfl

theorem channelOf_bracketed (h : IsChannel c) :
    channelOf ('(' :: (c.toList ++ [')'])) = c.toList.takeWhile (· != '-') :=
  takeWhile_isSmallLetter h.letters

/-- **A line is cut at the white space that none stands behind**, whatever stands before it. -/
theorem cutAtLastBlank_append (hcs : cs ≠ []) (hx : Text.isBlank x = true)
    (hrest : ∀ y ∈ rest, Text.isBlank y = false) :
    cutAtLastBlank (cs ++ x :: rest) = some (cs, rest) := by
  have hreverse : (cs ++ x :: rest).reverse = rest.reverse ++ x :: cs.reverse := by simp
  have hbehind : ∀ y ∈ rest.reverse, (!Text.isBlank y) = true := fun y hy => by
    rw [hrest y (List.mem_reverse.mp hy), Bool.not_false]
  have hstop : ¬ (!Text.isBlank x) = true := by rw [hx]; exact Bool.false_ne_true
  obtain ⟨first, before, hfirst⟩ :=
    List.exists_cons_of_ne_nil (mt List.reverse_eq_nil_iff.mp hcs)
  rw [cutAtLastBlank, hreverse, List.takeWhile_append_of_pos hbehind,
    List.takeWhile_cons, if_neg hstop, List.dropWhile_append_of_pos hbehind, List.dropWhile_cons,
    if_neg hstop, List.append_nil, List.reverse_reverse, hfirst]
  dsimp only
  rw [← hfirst, List.reverse_reverse]

/-- **A version is read back whole, and its channel up to the first hyphen.** -/
theorem versionAndChannel_withChannel (version : IsVersion v) (channel : IsChannel c) :
    versionAndChannel (withChannel v c) = some (v, stem c) := by
  have hbehind : ∀ x ∈ '(' :: (c.toList ++ [')']), Text.isBlank x = false := by
    simp only [List.forall_mem_cons, List.forall_mem_append, List.not_mem_nil, false_implies,
      implies_true, and_true]
    exact ⟨by decide, channel.no_blank, by decide⟩
  have hline : ∀ x ∈ (withChannel v c).toList, (x != '\n') = true := by
    intro x hx
    refine bne_iff_ne.mpr ?_
    rintro rfl
    rw [toList_withChannel, List.mem_append, List.mem_cons] at hx
    rcases hx with hmem | heq | hmem
    · exact version.one_line hmem
    · cases heq
    · cases hbehind _ hmem
  have hstart : (withChannel v c).toList.dropWhile (· == '\n') = (withChannel v c).toList := by
    refine List.dropWhile_eq_self_iff.mpr fun hlength hfirst => ?_
    exact bne_iff_ne.mp (hline _ (List.getElem_mem hlength)) (beq_iff_eq.mp hfirst)
  have hblank : Text.isBlank ' ' = true := by decide
  have hcut := cutAtLastBlank_append version.nonempty hblank hbehind
  rw [versionAndChannel, hstart, List.span_eq_takeWhile_dropWhile,
    List.takeWhile_eq_self_iff.mpr hline, List.dropWhile_eq_nil_iff.mpr hline]
  dsimp only
  rw [toList_withChannel, hcut, Option.map_some, Text.trim_of_ends version.head version.last,
    channelOf_bracketed channel, String.ofList_toList, stem]

end Value

/-! ## Records -/

namespace Catalog

open Value (IsVersion IsChannel withChannel stem)

variable {v c k : String} {row r : Record}

/-- A row with a version and a channel gets a field for the version and one for the stem of the
channel. -/
theorem splitVersion_of_version (version : IsVersion v) (channel : IsChannel c)
    (h : row.text? "version" = some (withChannel v c)) :
    splitVersion row = setText (setText row "current_version" v) "channel" (stem c) := by
  rw [splitVersion, h, Option.bind_some, Value.versionAndChannel_withChannel version channel]
  exact if_pos (bne_iff_ne.mpr channel.stem_ne)

/-- The fields of a version and its channel. -/
def versionFields : List String := ["current_version", "channel"]

/-- The other fields are those of the row. -/
theorem splitVersion_get?_of_ne (row : Record) (hk : k ∉ versionFields) :
    (splitVersion row).get? k = row.get? k := by
  simp only [versionFields, List.mem_cons, List.not_mem_nil, or_false, not_or] at hk
  unfold splitVersion
  split
  · split
    · simp [setText, Dict.get?_insert, hk, eq_comm]
    · rfl
  · rfl

theorem splitVersion_switchedOff (row : Record) :
    (splitVersion row).SwitchedOff ↔ row.SwitchedOff := by
  rw [Record.SwitchedOff, splitVersion_get?_of_ne row (by decide), Record.SwitchedOff]

/-- The stage of the system cuts the versions of its rows, and translates no field of them. -/
theorem resource_stage : ∃ st, systemResource.stages = [st] ∧
    (∀ device rows, st.process device rows = rows.map splitVersion) ∧
    ∀ t ∈ st.translations, t.field ∉ versionFields :=
  ⟨_, rfl, fun _ rows => congrFun List.filterMap_eq_map rows, by decide⟩

/-- The record that a store keeps of a row. -/
def KeptVersion (s : Store) (row r : Record) : Prop := s.normalize (splitVersion row) = some r

theorem forall₂_keptVersion (s : Store) (rows : List Record) (now : Moment) :
    List.Forall₂ (KeptVersion s) (rows.filter fun row => ¬ row.SwitchedOff)
      (s.set (rows.map splitVersion) now).snapshot.records :=
  s.set_keeps_map splitVersion_switchedOff rows now

/-- What a kept record has in the fields of a version and its channel, where the names of the row
give way. -/
theorem KeptVersion.get? {s : Store} {i : Identity} (kept : KeptVersion s row r)
    (identity : s.identity = i.labels)
    (untranslated : ∀ t ∈ s.translations, t.field ∉ versionFields)
    (version : IsVersion v) (channel : IsChannel c)
    (h : row.text? "version" = some (withChannel v c)) :
    ∀ e ∈ [("current_version", v), ("channel", stem c)], row.GivesWay e.1 →
      r.get? e.1 = some (.text e.2) := by
  have hspared : ∀ k ∈ versionFields, "device_name" ≠ k ∧ "device_address" ≠ k := by decide
  have hnormal : ∀ k ∈ versionFields, normalizeKey k = k := by decide
  intro e he givesWay
  have hfield : e.1 ∈ versionFields := List.mem_map_of_mem (f := Prod.fst) he
  obtain ⟨hname, haddress⟩ := hspared e.1 hfield
  rw [Store.normalize_get?_of_ne kept (identity ▸ i.labels_ne hname haddress)
    fun t ht heq => untranslated t ht (heq ▸ hfield), splitVersion_of_version version channel h]
  have hversion := givesWay.insert (v := .text v) (hnormal "current_version" List.mem_cons_self)
  have hboth := hversion.insert (v := .text (stem c)) (hnormal "channel" (by decide))
  refine hboth.normalizeKeys_get? (hnormal e.1 hfield) ?_
  rcases List.mem_pair.mp he with rfl | rfl
  · simp [Dict.get?_insert]
  · simp [Dict.get?_insert]

/-- **What is told of a version with its channel.** The version is read whole, whatever stands in
it, and the channel up to its first hyphen: so both are read back exactly when the channel has none.
Where the names of the rows give way, the records of the rows with this text that are not switched
off have the version, and the channel up to its first hyphen. That is the channel of the feed's
record exactly when it has no hyphen. -/
theorem versions_told (version : IsVersion v) (channel : IsChannel c) :
    Value.versionAndChannel (withChannel v c) = some (v, stem c) ∧
    (Value.versionAndChannel (withChannel v c) = some (v, c) ↔ '-' ∉ c.toList) ∧
    ∀ (i : Identity) (interval : Duration) (device : Option Device) (rows : List Record)
      (now : Moment), ∀ st ∈ systemResource.stages,
      List.Forall₂
        (fun row r => row.text? "version" = some (withChannel v c) →
          (row.GivesWay "current_version" → r.get? "current_version" = some (.text v)) ∧
          (row.GivesWay "channel" → r.get? "channel" = some (.text (stem c)) ∧
            ∀ body, r.get? "channel" = (releaseRecord c body).get? "channel" ↔ '-' ∉ c.toList))
        (rows.filter fun row => ¬ row.SwitchedOff)
        (Collector.filled st i.labels interval (st.process device rows) now).snapshot.records := by
  have hread := Value.versionAndChannel_withChannel version channel
  refine ⟨hread, ?_, fun i interval device rows now st hst => ?_⟩
  · rw [hread, Option.some.injEq, Prod.mk.injEq, ← Value.stem_eq_iff]
    exact and_iff_right rfl
  · obtain ⟨st', hstages, hprocess, htranslations⟩ := resource_stage
    rw [hstages] at hst
    obtain rfl := List.mem_singleton.mp hst
    rw [hprocess]
    refine (forall₂_keptVersion _ rows now).imp fun row r kept htext => ?_
    have hget := kept.get? rfl htranslations version channel htext
    simp only [List.forall_mem_cons] at hget
    obtain ⟨hversion, hchannel, -⟩ := hget
    refine ⟨hversion, fun givesWay => ⟨hchannel givesWay, fun body => ?_⟩⟩
    have hfeed : (releaseRecord c body).get? "channel" = some (.text c) :=
      Release.get?_releaseRecord_iff.mpr List.mem_cons_self
    rw [hchannel givesWay, hfeed, Option.some.injEq, Json.text.injEq, Value.stem_eq_iff]

/-- The stage of the system. -/
def resourceStage : Stage := systemResource.stages.head (List.cons_ne_nil _ _)

/-- A board with a version text. -/
def board (text : String) : Record :=
  Dict.ofList [("board-name", .text "hEX"), ("version", .text text), ("uptime", .text "1w")]

/-- A version with a blank and brackets in it is told whole. -/
theorem versions_told_board :
    let rows := [board "7.17 [rc 3] (testing)"]
    let s := Collector.filled resourceStage Collector.gateway.identity.labels (.ofSeconds 10)
      (resourceStage.process none rows) 0
    IsVersion "7.17 [rc 3]" ∧ IsChannel "testing" ∧
      Value.versionAndChannel "7.17 [rc 3] (testing)" = some ("7.17 [rc 3]", "testing") ∧
      (∀ row ∈ rows, row.Plain) ∧
      ∃ r, s.snapshot.records = [r] ∧ r.get? "current_version" = some (.text "7.17 [rc 3]") ∧
        r.get? "channel" = some (.text "testing") := by
  intro rows s
  have version : IsVersion "7.17 [rc 3]" := by decide
  have channel : IsChannel "testing" := by decide
  have plain : ∀ row ∈ rows, row.Plain := by decide
  have givesWay : ∀ k ∈ versionFields, (board "7.17 [rc 3] (testing)").GivesWay k := fun k hk =>
    (plain _ List.mem_cons_self).givesWay ((show ∀ k ∈ versionFields, IsSettled k by decide) k hk)
  obtain ⟨hread, -, hrecords⟩ := versions_told version channel
  have hkept := hrecords Collector.gateway.identity (.ofSeconds 10) none rows 0 resourceStage
    (List.head_mem _)
  have hrows : rows.filter (fun row => ¬ row.SwitchedOff) = rows := rfl
  rw [hrows] at hkept
  obtain ⟨r, rest, htold, hrest, hr⟩ := List.forall₂_cons_left_iff.mp hkept
  rw [List.forall₂_nil_left_iff.mp hrest] at hr
  obtain ⟨hversion, hchannel⟩ := htold rfl
  exact ⟨version, channel, hread, plain, r, hr, hversion (givesWay _ (by decide)),
    (hchannel (givesWay _ (by decide))).1⟩

/-- A version of the feed's channel `long-term` is told with a channel `long`. -/
theorem long_term_is_cut :
    let s := Collector.filled resourceStage Collector.gateway.identity.labels (.ofSeconds 10)
      (resourceStage.process none [board "7.16.2 (long-term)"]) 0
    IsVersion "7.16.2" ∧ IsChannel "long-term" ∧
      Value.versionAndChannel (withChannel "7.16.2" "long-term") = some ("7.16.2", "long") ∧
      s.snapshot.records.map (fun r => (r.text? "current_version", r.text? "channel")) =
        [(some "7.16.2", some "long")] ∧
      (releaseRecord "long-term" none).text? "channel" = some "long-term" :=
  ⟨by decide, by decide, by decide, by decide +kernel, by decide⟩

end Catalog

end RouterMetrics

import RouterMetrics.Proofs.Collector.Columns
import RouterMetrics.Proofs.Collector.Normalization

/-!
# Names and halves of queues

A text with a slash in a row of queues becomes two fields, whatever field it stands in. So the two
halves of an amount are counted under names of their own, and a queue is told by its name exactly
when there is no slash in it (`Catalog.queues_told`): a name with a slash is cut as well, and its
label is empty.
-/

namespace RouterMetrics

namespace Catalog

/-! ## Fields with two ways -/

/-- The ending of the field of a half: what goes up is written first. -/
def Half.ending : Half → String
  | .first => "_up"
  | .second => "_down"

variable {row : Record} {field key n : String} {v : Json} {w w' : Half}

/-- A field stays as it is, or becomes one on each way. -/
theorem mem_upAndDown {e : String × Json} : e ∈ upAndDown key v ↔
    (v.asText?.bind (cutAt '/') = none ∧ e = (key, v)) ∨
      ∃ (w : Half) (cut : String × String), v.asText?.bind (cutAt '/') = some cut ∧
        e = (key ++ w.ending, .text (w.of cut)) := by
  unfold upAndDown
  split
  case h_1 up down hcut =>
    rw [hcut, List.mem_cons, List.mem_singleton]
    constructor
    · rintro (rfl | rfl)
      · exact .inr ⟨.first, _, rfl, rfl⟩
      · exact .inr ⟨.second, _, rfl, rfl⟩
    · rintro (⟨hnone, -⟩ | ⟨w, cut, hsome, rfl⟩)
      · cases hnone
      · obtain rfl := Option.some.inj hsome
        cases w with
        | first => exact .inl rfl
        | second => exact .inr rfl
  case h_2 hcut =>
    rw [hcut, List.mem_singleton]
    simp

theorem mem_splitFields {e : String × Json} :
    e ∈ row.toList.flatMap (fun e => upAndDown e.1 e.2) ↔
      ∃ key v, row.get? key = some v ∧ e ∈ upAndDown key v := by
  rw [List.mem_flatMap]
  constructor
  · rintro ⟨⟨key, v⟩, hmem, he⟩
    exact ⟨key, v, Dict.mem_toList.mp hmem, he⟩
  · rintro ⟨key, v, hget, he⟩
    exact ⟨(key, v), Dict.mem_toList.mpr hget, he⟩

/-! ## Names of the fields -/

/-- The last character of an ending. -/
def Half.last : Half → Char
  | .first => 'p'
  | .second => 'n'

theorem getLast?_ending (key : String) (w : Half) :
    (key ++ w.ending).toList.getLast? = some w.last := by
  rw [String.toList_append, List.getLast?_append]
  cases w with
  | first => rfl
  | second => rfl

theorem getLast?_normalizeKey_ending (key : String) (w : Half) :
    (normalizeKey (key ++ w.ending)).toList.getLast? = some w.last := by
  rw [normalizeKey, String.toList_ofList]
  exact getLast?_normalizeName (getLast?_ending key w) (by cases w <;> rfl)

/-- A field of a queue with two ways. -/
def TwoWay (field : String) : Prop := field = "bytes" ∨ field = "queued_bytes" ∨ field = "dropped"

theorem TwoWay.normalizeKey_ending (h : TwoWay field) (w : Half) :
    normalizeKey (field ++ w.ending) = field ++ w.ending := by
  rcases h with rfl | rfl | rfl
  all_goals cases w <;> rfl

/-- **What comes to one way of a field comes to that field without its ending.** -/
theorem TwoWay.eq_of_normalizeKey (h : TwoWay field)
    (hkey : normalizeKey (key ++ w'.ending) = field ++ w.ending) :
    w' = w ∧ normalizeKey key = field := by
  have hlast := getLast?_normalizeKey_ending key w'
  rw [hkey, getLast?_ending, Option.some.injEq] at hlast
  obtain rfl : w' = w := by
    cases w <;> cases w' <;> first | rfl | cases hlast
  refine ⟨rfl, ?_⟩
  have hname := congrArg String.toList hkey
  rw [normalizeKey, String.toList_ofList, String.toList_append, String.toList_append] at hname
  rw [← String.toList_inj, normalizeKey, String.toList_ofList]
  have hfield : field.toList ≠ [] ∧ field.toList.getLast?.any isSeparator = false := by
    rcases h with rfl | rfl | rfl
    all_goals decide
  cases w' with
  | first => exact normalizeName_of_append (by rfl) (by rfl) hfield.1 hfield.2 hname
  | second => exact normalizeName_of_append (by rfl) (by rfl) hfield.1 hfield.2 hname

/-! ## Rows -/

/-- The name of a row is a text, and no other field of it comes to that name. -/
structure Named (row : Record) (n : String) : Prop where
  told : row.get? "name" = some (.text n)
  alone : ∀ e ∈ row.toList, normalizeKey e.1 = "name" → e.1 = "name"

/-- No other field of a row comes to a field with two ways, and none to one of its ways. -/
structure Clear (field : String) (row : Record) : Prop where
  alone : ∀ e ∈ row.toList, normalizeKey e.1 = field → e.1 = field
  free : ∀ w : Half, ∀ e ∈ row.toList, normalizeKey e.1 ≠ field ++ w.ending

/-- The name that a queue is told by: its own, when there is no slash in it. -/
def shownName (n : String) : String := if '/' ∈ n.toList then "" else n

theorem asText?_cut (hget : row.get? key = some v) :
    v.asText?.bind (cutAt '/') = halves '/' key row := by
  rw [halves, Record.text?, hget, Option.bind_some]

theorem exists_text_of_halves {cut : String × String} (h : halves '/' key row = some cut) :
    ∃ text, row.get? key = some (.text text) ∧ cutAt '/' text = some cut := by
  obtain ⟨text, htext, hcut⟩ := Option.bind_eq_some_iff.mp h
  exact ⟨text, Record.text?_eq_some_iff.mp htext, hcut⟩

/-- Under a name that is none of a way a field is kept as it is, when there is no slash in it. -/
theorem splitUpDown_get? (hkey : ∀ w : Half, key.toList.getLast? ≠ some w.last) :
    (splitUpDown row).get? key = if halves '/' key row = none then row.get? key else none := by
  have honly : ∀ e ∈ row.toList.flatMap (fun e => upAndDown e.1 e.2), e.1 = key →
      halves '/' key row = none ∧ row.get? key = some e.2 := by
    rintro e he rfl
    obtain ⟨key', v, hget, he⟩ := mem_splitFields.mp he
    rcases mem_upAndDown.mp he with ⟨hnone, rfl⟩ | ⟨w, cut, -, rfl⟩
    · exact ⟨(asText?_cut hget).symm.trans hnone, hget⟩
    · exact absurd (getLast?_ending key' w) (hkey w)
  rw [splitUpDown]
  split
  case isFalse hsome =>
    exact Dict.ofList_get?_eq_none_iff.mpr fun e he heq => hsome (honly e he heq).1
  case isTrue hnone =>
    cases hget : row.get? key with
    | none =>
      refine Dict.ofList_get?_eq_none_iff.mpr fun e he heq => ?_
      rw [(honly e he heq).2] at hget
      cases hget
    | some v =>
      have hcut := (asText?_cut hget).trans hnone
      refine Dict.ofList_get?_of_unique
        (mem_splitFields.mpr ⟨key, v, hget, mem_upAndDown.mpr (.inl ⟨hcut, rfl⟩)⟩) ?_
      rintro ⟨_, v'⟩ he rfl
      have hsame := (honly _ he rfl).2
      rw [hget] at hsame
      rw [Option.some.inj hsame]

/-- A row is switched off by a text without a slash. -/
theorem switchedOff_splitUpDown : (splitUpDown row).SwitchedOff ↔ row.SwitchedOff := by
  have hkey : ∀ w : Half, "disabled".toList.getLast? ≠ some w.last := by
    rintro (_ | _)
    all_goals decide
  have hcut : ∀ cut, halves '/' "disabled" row = some cut → ¬ row.SwitchedOff := by
    rintro cut hcut (hget | hget)
    all_goals
      obtain ⟨text, htext, hcut⟩ := exists_text_of_halves hcut
      rw [htext] at hget
      cases hget
    cases hcut
  rw [Record.SwitchedOff, splitUpDown_get? hkey]
  cases h : halves '/' "disabled" row with
  | none => exact Iff.rfl
  | some cut => simpa using hcut cut h

/-- **The name is kept when there is no slash in it**, and no field stands for it otherwise. -/
theorem Named.splitUpDown (h : Named row n) :
    (splitUpDown row).normalizeKeys.get? "name" =
      if '/' ∈ n.toList then none else some (.text n) := by
  have honly : ∀ e ∈ row.toList.flatMap (fun e => upAndDown e.1 e.2), normalizeKey e.1 = "name" →
      '/' ∉ n.toList ∧ e = ("name", .text n) := by
    intro e he hnormal
    obtain ⟨key, v, hget, he⟩ := mem_splitFields.mp he
    rcases mem_upAndDown.mp he with ⟨hnone, rfl⟩ | ⟨w, cut, -, rfl⟩
    · obtain rfl := h.alone (key, v) (Dict.mem_toList.mpr hget) hnormal
      obtain rfl := Option.some.inj (hget.symm.trans h.told)
      exact ⟨cutAt_eq_none_iff.mp hnone, rfl⟩
    · have hlast := getLast?_normalizeKey_ending key w
      rw [hnormal] at hlast
      cases w <;> cases hlast
  split
  case isTrue hslash =>
    exact Record.normalizeKeys_get?_of_none fun e he hnormal => (honly e he hnormal).1 hslash
  case isFalse hnone =>
    refine Record.normalizeKeys_get?_of_unique (mem_splitFields.mpr ⟨"name", .text n, h.told, ?_⟩)
      (by decide) fun e he hnormal => (honly e he hnormal).2
    exact mem_upAndDown.mpr (.inl ⟨cutAt_eq_none_iff.mpr hnone, rfl⟩)

/-- **The halves of a field are kept under the names of its ways.** -/
theorem Clear.splitUpDown (h : Clear field row) (twoWay : TwoWay field) (w : Half) :
    (splitUpDown row).normalizeKeys.get? (field ++ w.ending) =
      (halfOf '/' w field row).map .text := by
  have honly : ∀ e ∈ row.toList.flatMap (fun e => upAndDown e.1 e.2),
      normalizeKey e.1 = field ++ w.ending →
        ∃ cut, halves '/' field row = some cut ∧ e = (field ++ w.ending, .text (w.of cut)) := by
    intro e he hnormal
    obtain ⟨key, v, hget, he⟩ := mem_splitFields.mp he
    rcases mem_upAndDown.mp he with ⟨-, rfl⟩ | ⟨w', cut, hcut, rfl⟩
    · exact absurd hnormal (h.free w (key, v) (Dict.mem_toList.mpr hget))
    · obtain ⟨rfl, hkey⟩ := twoWay.eq_of_normalizeKey hnormal
      obtain rfl := h.alone (key, v) (Dict.mem_toList.mpr hget) hkey
      exact ⟨cut, (asText?_cut hget).symm.trans hcut, rfl⟩
  rw [halfOf]
  cases hcut : halves '/' field row with
  | none =>
    refine Record.normalizeKeys_get?_of_none fun e he hnormal => ?_
    obtain ⟨cut, hsome, -⟩ := honly e he hnormal
    rw [hcut] at hsome
    cases hsome
  | some cut =>
    obtain ⟨text, hget, htext⟩ := exists_text_of_halves hcut
    refine Record.normalizeKeys_get?_of_unique (mem_splitFields.mpr ⟨field, _, hget, ?_⟩)
      (twoWay.normalizeKey_ending w) fun e he hnormal => ?_
    · exact mem_upAndDown.mpr (.inr ⟨w, cut, htext, rfl⟩)
    · obtain ⟨cut', hsome, rfl⟩ := honly e he hnormal
      rw [Option.some.inj (hsome.symm.trans hcut)]

/-! ## Samples -/

/-- The record that a store keeps of a row. -/
def KeptQueue (s : Store) (row r : Record) : Prop := s.normalize (splitUpDown row) = some r

theorem forall₂_keptQueue (s : Store) (rows : List Record) (now : Moment) :
    List.Forall₂ (KeptQueue s) (rows.filter fun row => ¬ row.SwitchedOff)
      (s.set (rows.map splitUpDown) now).snapshot.records :=
  s.set_keeps_map (fun _ => switchedOff_splitUpDown) rows now

/-- The first label of a sample is the name that the queue of its row is told by. -/
def TellsName (names : List String) (row : Record) (y : Sample) : Prop :=
  ∀ n, Named row n → names.head? = some "name" ∧ y.labels.head? = some (shownName n)

/-- Names without a slash tell queues apart. -/
theorem TellsName.labels_ne {names : List String} {row' : Record} {y y' : Sample} {n' : String}
    (h : TellsName names row y) (h' : TellsName names row' y') (named : Named row n)
    (named' : Named row' n') (hslash : '/' ∉ n.toList) (hslash' : '/' ∉ n'.toList) (hne : n ≠ n') :
    y.labels ≠ y'.labels := by
  intro heq
  have hsame := (h n named).2.symm.trans (heq ▸ (h' n' named').2)
  rw [shownName, shownName, if_neg hslash, if_neg hslash'] at hsame
  exact hne (Option.some.inj hsame)

/-- The stage of simple queues: its rows are split, and nothing is translated. -/
theorem queue_stage : ∃ st, queueSimple.stages = [st] ∧ st.translations = [] ∧
    st.labels.head? = some "name" ∧ (∀ device rows, st.process device rows = rows.map splitUpDown) ∧
    ∀ d ∈ st.series, (d.kind = .info ∧ d.valueField = none ∧ d.labelFields = none) ∨
      (d.kind ≠ .info ∧ d.labelFields = some ["name"] ∧
        ∃ field w, TwoWay field ∧ d.valueField = some (field ++ Half.ending w)) := by
  refine ⟨_, rfl, rfl, rfl, fun device rows => congrFun List.filterMap_eq_map rows, ?_⟩
  refine List.forall_mem_cons.mpr ⟨.inl ⟨rfl, rfl, rfl⟩, ?_⟩
  have hcounter : ∀ d field (w : Half), TwoWay field → d = byName (counter d.name d.help
      (field ++ w.ending)) → d.kind ≠ .info ∧ d.labelFields = some ["name"] ∧
        ∃ field w, TwoWay field ∧ d.valueField = some (field ++ Half.ending w) := by
    intro d field w twoWay hd
    rw [hd]
    exact ⟨nofun, rfl, field, w, twoWay, rfl⟩
  simp only [List.forall_mem_cons]
  exact ⟨.inr (hcounter _ "bytes" .first (.inl rfl) rfl),
    .inr (hcounter _ "bytes" .second (.inl rfl) rfl),
    .inr (hcounter _ "queued_bytes" .first (.inr (.inl rfl)) rfl),
    .inr (hcounter _ "queued_bytes" .second (.inr (.inl rfl)) rfl),
    .inr (hcounter _ "dropped" .first (.inr (.inr rfl)) rfl),
    .inr (hcounter _ "dropped" .second (.inr (.inr rfl)) rfl), nofun⟩

section Kept

variable {s : Store} {i : Identity} {r : Record} (identity : s.identity = i.labels)
  (translations : s.translations = [])

include identity translations

theorem KeptQueue.get? (h : KeptQueue s row r) (hname : "device_name" ≠ key)
    (haddress : "device_address" ≠ key) :
    r.get? key = (splitUpDown row).normalizeKeys.get? key :=
  Store.normalize_get?_of_ne h (identity ▸ i.labels_ne hname haddress) (translations ▸ nofun)

/-- A kept record tells its queue by the name of the row. -/
theorem KeptQueue.label_name (h : KeptQueue s row r) (named : Named row n) :
    Json.label (r.get? "name") = shownName n := by
  rw [h.get? identity translations (by decide) (by decide), named.splitUpDown, shownName]
  split
  case isTrue => rfl
  case isFalse => rfl

theorem KeptQueue.labels_eq (h : KeptQueue s row r) (named : Named row n) :
    (["name", "device_name", "device_address"].map fun k => Json.label (r.get? k)) =
      [shownName n, i.name, i.address] := by
  have hidentity : ∀ e ∈ i.labels, r.get? e.1 = some (.text e.2) := by
    rw [← identity]
    exact Store.normalize_identity (identity ▸ i.labels_distinct) (translations ▸ nofun) h
  have hname : Json.label (r.get? "device_name") = i.name :=
    congrArg Json.label (hidentity _ List.mem_cons_self)
  have haddress : Json.label (r.get? "device_address") = i.address :=
    congrArg Json.label (hidentity _ (List.mem_cons_of_mem _ List.mem_cons_self))
  rw [List.map_cons, List.map_cons, List.map_singleton,
    h.label_name identity translations named, hname, haddress]

/-- And it has the halves of the fields with two ways. -/
theorem KeptQueue.column (h : KeptQueue s row r) (twoWay : TwoWay field)
    (clear : Clear field row) (w : Half) :
    Store.Column (field ++ w.ending) (halfOf '/' w field) row r := by
  have hne : "device_name" ≠ field ++ w.ending ∧ "device_address" ≠ field ++ w.ending := by
    rcases twoWay with rfl | rfl | rfl
    all_goals cases w <;> decide
  rw [Store.Column, h.get? identity translations hne.1 hne.2, clear.splitUpDown twoWay]

end Kept

/-- **What is told of simple queues.** Every sample of a series is of a row that is not switched
off, in their order. Its first label is the name of the row when there is no slash in it and is
empty otherwise, so rows with different names without a slash have different labels. When no other
field of the rows comes to a field with two ways or to one of its ways, the counter of a way fails
exactly when a row has a half there that is no number, and else counts the halves of all rows that
have one. -/
theorem queues_told (i : Identity) (interval : Duration) (device : Option Device)
    (rows : List Record) (now : Moment) {st : Stage} (hst : st ∈ queueSimple.stages)
    {d : SeriesDef} (hd : d ∈ st.series) :
    let on := rows.filter fun row => ¬ row.SwitchedOff
    let s := Collector.filled st i.labels interval (st.process device rows) now
    (∀ x, s.emit d s.snapshot = .ok x → ∃ shown, shown.Sublist on ∧
      List.Forall₂ (TellsName x.labelNames) shown x.samples ∧
      (shown.zip x.samples).Pairwise fun p q => ∀ n n', Named p.1 n → Named q.1 n' →
        '/' ∉ n.toList → '/' ∉ n'.toList → n ≠ n' → p.2.labels ≠ q.2.labels) ∧
    (d.kind = .info ∨ ∃ field w, TwoWay field ∧ d.valueField = some (field ++ Half.ending w)) ∧
    (∀ field w, TwoWay field → d.valueField = some (field ++ Half.ending w) →
      (∀ row ∈ on, Clear field row) →
        ((∃ e, s.emit d s.snapshot = .error e) ↔
          ∃ row ∈ on, ∃ text, halfOf '/' w field row = some text ∧ Json.textNumber text = none) ∧
        ∀ x, s.emit d s.snapshot = .ok x →
          List.Forall₂ (fun row y => (halfOf '/' w field row).bind Json.textNumber = some y.value ∧
              ∀ n, Named row n → y.labels = [shownName n, i.name, i.address])
            (on.filter fun row => (halfOf '/' w field row).isSome) x.samples) := by
  intro on s
  obtain ⟨st', hstages, htranslations, hlabels, hprocess, hseries⟩ := queue_stage
  rw [hstages] at hst
  obtain rfl := List.mem_singleton.mp hst
  have hkept : List.Forall₂ (KeptQueue s) on s.snapshot.records := by
    have hset := forall₂_keptQueue s rows now
    rwa [← hprocess device rows] at hset
  refine ⟨fun x hx => ?_, (hseries d hd).imp (·.1) (·.2.2), ?_⟩
  · obtain ⟨shown, hshown, hlabelled⟩ := Store.samples_labelled hkept hx
    have hfirst : x.labelNames.head? = some "name" := by
      obtain ⟨samples, -, rfl⟩ := Store.emit_eq_ok_iff.mp hx
      rw [Store.labelNames]
      rcases hseries d hd with ⟨-, -, hfields⟩ | ⟨-, hfields, -⟩
      · rw [hfields, Option.getD_none, List.head?_append, show s.defaultLabels = st.labels from rfl,
          hlabels, Option.some_or]
      · rw [hfields]
        rfl
    have hnames : List.Forall₂ (TellsName x.labelNames) shown x.samples := by
      refine hlabelled.imp ?_
      rintro row y ⟨r, hr, hy⟩ n named
      rw [hy, List.head?_map, hfirst, Option.map_some, hr.label_name rfl htranslations named]
      exact ⟨rfl, rfl⟩
    refine ⟨shown, hshown, hnames, ?_⟩
    obtain ⟨-, hall⟩ := List.forall₂_iff_zip.mp hnames
    exact List.pairwise_of_forall_mem_list fun p hp q hq n n' => (hall hp).labels_ne (hall hq)
  · intro field w twoWay hd' clear
    obtain ⟨measured, hfields, -⟩ := (hseries d hd).resolve_left fun h => by
      rw [h.2.1] at hd'
      cases hd'
    have hclear := (List.forall₂_and_left _ _).mpr ⟨clear, hkept⟩
    have hcolumn : ∀ row r, Clear field row ∧ KeptQueue s row r →
        Store.Column (field ++ w.ending) (halfOf '/' w field) row r := fun row r h =>
      h.2.column rfl htranslations twoWay h.1 w
    refine ⟨Store.emit_fails_iff_of_column hclear hcolumn measured hd', fun x hx => ?_⟩
    refine (Store.samples_of_column hclear hcolumn measured hd' hx).imp ?_
    rintro row y ⟨hvalue, r, ⟨-, hr⟩, hy⟩
    refine ⟨hvalue, fun n named => ?_⟩
    obtain ⟨samples, -, rfl⟩ := Store.emit_eq_ok_iff.mp hx
    rw [hy, Store.labelNames, hfields]
    exact hr.labels_eq rfl htranslations named

/-- A queue with the bytes that went either way. -/
def queue (name bytes : String) : Record :=
  Dict.ofList [("name", .text name), ("bytes", .text bytes), ("max-limit", .text "1M/5M"),
    ("queued-bytes", .text "0/0")]

/-- The stage of simple queues. -/
def queueStage : Stage := queueSimple.stages.head (List.cons_ne_nil _ _)

/-- What queues have received. -/
def queueDownloads : SeriesDef :=
  byName (counter "queue_simple_bytes_download" "Number of download processed bytes" "bytes_down")

/-- Two queues count what they received under their names, and a third one has no such name. -/
theorem queues_told_lab :
    let rows := [queue "guests" "10/20", queue "staff" "30/40", queue "lab/1" "50/60"]
    let s := Collector.filled queueStage Collector.gateway.identity.labels (.ofSeconds 10)
      (queueStage.process none rows) 0
    (∀ row ∈ rows, Clear "bytes" row) ∧ ∃ x, s.emit queueDownloads s.snapshot = .ok x ∧
      x.samples.map (·.labels) = ["guests", "staff", ""].map ([·, "gateway", "10.0.0.1"]) ∧
      List.Forall₂ (fun row y =>
          (halfOf '/' .second "bytes" row).bind Json.textNumber = some y.value) rows x.samples := by
  intro rows s
  have clear : ∀ row ∈ rows, Clear "bytes" row := by
    refine List.forall_mem_cons.mpr ⟨⟨by decide, ?_⟩, List.forall_mem_cons.mpr ⟨⟨by decide, ?_⟩,
      List.forall_mem_singleton.mpr ⟨by decide, ?_⟩⟩⟩
    all_goals rintro (_ | _) <;> decide
  obtain ⟨-, -, hcounted⟩ := queues_told Collector.gateway.identity (.ofSeconds 10) none rows 0
    (show queueStage ∈ queueSimple.stages from List.head_mem _)
    (show queueDownloads ∈ queueStage.series by decide)
  obtain ⟨-, hsamples⟩ := hcounted "bytes" .second (.inl rfl) rfl clear
  have hlabels : (s.emit queueDownloads s.snapshot).toOption.map (·.samples.map (·.labels)) =
      some (["guests", "staff", ""].map ([·, "gateway", "10.0.0.1"])) := by decide +kernel
  cases hx : s.emit queueDownloads s.snapshot with
  | error e =>
    rw [hx] at hlabels
    cases hlabels
  | ok x =>
    rw [hx] at hlabels
    exact ⟨clear, x, rfl, Option.some.inj hlabels, (hsamples x hx).imp fun _ _ h => h.1⟩

/-- Two queues with a slash in their names have the same labels. -/
theorem slashed_names_lost :
    let rows := [queue "office/guests" "10/20", queue "office/staff" "30/40"]
    let c := (queueSimple.collector Collector.gateway.identity.labels (.ofSeconds 10)).after
      Collector.dictated [Collector.answered 10 [.ok rows]]
    Named rows[0] "office/guests" ∧ Named rows[1] "office/staff" ∧
      ((c.collect? (Moment.after 0 (.ofSeconds 12))).map fun series =>
          ((series.filter fun x => x.name = "queue_simple_bytes_upload").map fun x =>
            x.samples.map fun y => (y.labels, y.value))) =
        some [[(["", "gateway", "10.0.0.1"], Decimal.ofInt 10),
          (["", "gateway", "10.0.0.1"], Decimal.ofInt 30)]] := by
  intro rows c
  exact ⟨⟨rfl, by decide⟩, ⟨rfl, by decide⟩, by decide +kernel⟩

end Catalog

end RouterMetrics

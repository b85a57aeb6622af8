import RouterMetrics.Proofs.Collector.Columns
import RouterMetrics.Proofs.Collector.OptionalFields
import RouterMetrics.Proofs.Decimal.WholeNumbers

/-!
# Bytes of clients

What a client has sent and received is told in one text, with a comma between the two. A row without
such a text is left out, and no other row is lost with it. But a row is kept whatever stands before
and behind its comma, and when that is no number it fails the series for all
(`Catalog.clients_told`).
-/

namespace RouterMetrics

namespace Catalog

variable {device : Option Device} {row raw r : Record} {k : String} {h : Half}

/-! ## Rows -/

/-- The field that a half of a client's bytes is counted in. -/
def Half.counter : Half → String
  | .first => "tx_bytes"
  | .second => "rx_bytes"

/-- The other fields of a client are those of its row. -/
theorem clientOf_get?_of_ne (hraw : clientOf device row = some raw) (hk : k ∉ clientFields) :
    raw.get? k = row.get? k := by
  obtain ⟨cut, -, rfl⟩ := Option.map_eq_some_iff.mp hraw
  simp only [clientFields, List.mem_cons, List.not_mem_nil, or_false, not_or] at hk
  simp [withLease, setText, Dict.get?_insert, hk, eq_comm]

/-- A client has either half of its bytes. -/
theorem clientOf_get?_counter (hraw : clientOf device row = some raw) (h : Half) :
    raw.get? h.counter = (halfOf ',' h "bytes" row).map .text := by
  obtain ⟨cut, hcut, rfl⟩ := Option.map_eq_some_iff.mp hraw
  rw [halfOf, hcut]
  cases h with
  | first => simp [withLease, setText, Dict.get?_insert, Half.counter, Half.of]
  | second => simp [withLease, setText, Dict.get?_insert, Half.counter, Half.of]

theorem isSettled_counter (h : Half) : IsSettled h.counter := by
  cases h <;> decide

/-- **It keeps them where the names of the row give way.** -/
theorem clientOf_normalizeKeys_get? (hraw : clientOf device row = some raw)
    (givesWay : row.GivesWay h.counter) :
    raw.normalizeKeys.get? h.counter = (halfOf ',' h "bytes" row).map .text := by
  have hget := clientOf_get?_counter hraw h
  obtain ⟨cut, hcut, rfl⟩ := Option.map_eq_some_iff.mp hraw
  rw [halfOf, hcut] at hget ⊢
  -- the fields that a client gets are their own normal forms
  have hnormal : ∀ k ∈ clientFields, normalizeKey k = k := by decide
  simp only [clientFields, List.forall_mem_cons] at hnormal
  obtain ⟨htx, hrx, hname, hcomment, haddress, -⟩ := hnormal
  have hbytes := (givesWay.insert (v := .text cut.1) htx).insert (v := .text cut.2) hrx
  exact (((hbytes.insert hname).insert hcomment).insert haddress).normalizeKeys_get?
    (isSettled_counter h).1 hget

/-! ## Numbers -/

/-- The bytes of a row are two whole numbers with a comma between them. -/
def BytesOf (row : Record) (counts : Half → Decimal.Numeral) : Prop :=
  ∃ cut : String × String, row.text? "bytes" = some (cut.1 ++ "," ++ cut.2) ∧
    ∀ h : Half, Decimal.Integer (h.of cut).toList (counts h)

variable {counts : Half → Decimal.Numeral}

/-- They are cut between the numbers. -/
theorem BytesOf.halfOf (bytes : BytesOf row counts) (h : Half) :
    ∃ text, halfOf ',' h "bytes" row = some text ∧ Decimal.Integer text.toList (counts h) := by
  obtain ⟨cut, htext, hcounts⟩ := bytes
  have hcomma : ',' ∉ cut.1.toList := by
    intro hmem
    rcases (hcounts .first).mem hmem with heq | heq | heq
    all_goals cases heq
  have hcut : halves ',' "bytes" row = some cut := by
    rw [halves, htext]
    exact cutAt_append hcomma
  exact ⟨h.of cut, by rw [Catalog.halfOf, hcut, Option.map_some], hcounts h⟩

theorem BytesOf.number (bytes : BytesOf row counts) (h : Half) :
    (Catalog.halfOf ',' h "bytes" row).bind Json.textNumber = some (counts h).toFloat := by
  obtain ⟨text, htext, hinteger⟩ := bytes.halfOf h
  rw [htext]
  exact hinteger.textNumber

/-! ## Samples -/

/-- The record that a store keeps of a row. -/
def KeptClient (s : Store) (device : Option Device) (row r : Record) : Prop :=
  ∃ raw, clientOf device row = some raw ∧ s.normalize raw = some r

theorem forall₂_keptClient (s : Store) (device : Option Device) (rows : List Record)
    (now : Moment) : List.Forall₂ (KeptClient s device)
      (rows.filter fun row => ¬ row.SwitchedOff ∧ (halves ',' "bytes" row).isSome)
      (s.set (rows.filterMap (clientOf device)) now).snapshot.records := by
  have same : ∀ row raw, clientOf device row = some raw → (raw.SwitchedOff ↔ row.SwitchedOff) :=
    fun _ _ hraw => clientOf_switchedOff hraw
  have hkept := s.set_keeps_made same rows now
  simp only [clientOf_isSome] at hkept
  exact hkept

/-- A kept record has the halves of the bytes of its row. -/
theorem KeptClient.column {s : Store} {i : Identity} (kept : KeptClient s device row r)
    (identity : s.identity = i.labels) (untranslated : ∀ t ∈ s.translations, t.field ≠ h.counter)
    (givesWay : row.GivesWay h.counter) :
    Store.Column h.counter (Catalog.halfOf ',' h "bytes") row r := by
  obtain ⟨raw, hraw, hnormal⟩ := kept
  have hne : "device_name" ≠ h.counter ∧ "device_address" ≠ h.counter := by
    cases h <;> decide
  rw [Store.Column, Store.normalize_get?_of_ne hnormal (identity ▸ i.labels_ne hne.1 hne.2)
    untranslated, clientOf_normalizeKeys_get? hraw givesWay]

/-- The stage of clients cuts their bytes, and counts either half in a series. -/
theorem client_stage : ∃ st, wifiClients.stages = [st] ∧
    (∀ device rows, st.process device rows = rows.filterMap (clientOf device)) ∧
    (∀ t ∈ st.translations, ∀ h : Half, t.field ≠ h.counter) ∧
    ∀ h : Half, ∃ d ∈ st.series, d.name = "wifi_clients_" ++ h.counter ∧ d.kind ≠ .info ∧
      d.valueField = some h.counter := by
  refine ⟨_, rfl, fun device rows => ?_, ?_, ?_⟩
  · exact List.filterMap_congr fun row _ => splitClientBytes_kept device row
  · rintro t ht (_ | _)
    all_goals revert t; decide
  · rintro (_ | _)
    · exact ⟨_, List.mem_cons_of_mem _ List.mem_cons_self, rfl, nofun, rfl⟩
    · exact ⟨_, List.mem_cons_of_mem _ (List.mem_cons_of_mem _ List.mem_cons_self), rfl, nofun,
        rfl⟩

/-- **What is told of the bytes of clients.** The rows that are not switched off and have bytes with
a comma are shown, and no others. When the names of the rows give way, the series of a half of the
bytes fails exactly when that half of a shown row is no number. Else it has a sample of every shown
row, in their order, with its number and with the labels of the record of that row. Two whole
numbers with a comma between them are bytes of a shown row, and are the numbers of its halves. -/
theorem clients_told (i : Identity) (interval : Duration) (device : Option Device)
    (rows : List Record) (now : Moment) {st : Stage} (hst : st ∈ wifiClients.stages) (h : Half)
    (givesWay : ∀ row ∈ rows, row.GivesWay h.counter) :
    let shown := rows.filter fun row => ¬ row.SwitchedOff ∧ (halves ',' "bytes" row).isSome
    let s := Collector.filled st i.labels interval (st.process device rows) now
    ∃ d ∈ st.series, d.name = "wifi_clients_" ++ h.counter ∧
      ((∃ e, s.emit d s.snapshot = .error e) ↔
        ∃ row ∈ shown, ∃ text, halfOf ',' h "bytes" row = some text ∧
          Json.textNumber text = none) ∧
      (∀ x, s.emit d s.snapshot = .ok x →
        List.Forall₂ (fun row y => (halfOf ',' h "bytes" row).bind Json.textNumber = some y.value ∧
          Store.LabelledBy (KeptClient s device) x.labelNames row y) shown x.samples) ∧
      ∀ row ∈ rows, ∀ counts, BytesOf row counts → (¬ row.SwitchedOff → row ∈ shown) ∧
        (halfOf ',' h "bytes" row).bind Json.textNumber = some (counts h).toFloat := by
  intro shown s
  obtain ⟨st', hstages, hprocess, htranslations, hseries⟩ := client_stage
  rw [hstages] at hst
  obtain rfl := List.mem_singleton.mp hst
  have hkept : List.Forall₂ (KeptClient s device) shown s.snapshot.records := by
    have hset := forall₂_keptClient s device rows now
    rwa [← hprocess device rows] at hset
  have hshown : ∀ row ∈ shown, row.GivesWay h.counter := fun row hrow =>
    givesWay row (List.mem_of_mem_filter hrow)
  have hclients := (List.forall₂_and_left _ _).mpr ⟨hshown, hkept⟩
  have hcolumn : ∀ row r, row.GivesWay h.counter ∧ KeptClient s device row r →
      Store.Column h.counter (halfOf ',' h "bytes") row r := fun row r hrow =>
    hrow.2.column rfl (fun t ht => htranslations t ht h) hrow.1
  obtain ⟨d, hd, hname, measured, hfield⟩ := hseries h
  refine ⟨d, hd, hname, Store.emit_fails_iff_of_column hclients hcolumn measured hfield,
    fun x hx => ?_, fun row hrow counts bytes => ⟨fun hon => ?_, bytes.number h⟩⟩
  · have hall : (shown.filter fun row => (halfOf ',' h "bytes" row).isSome) = shown := by
      refine List.filter_eq_self.mpr fun row hrow => ?_
      rw [halfOf, Option.isSome_map]
      exact (of_decide_eq_true (List.mem_filter.mp hrow).2).2
    have hsamples := Store.samples_of_column hclients hcolumn measured hfield hx
    rw [hall] at hsamples
    refine hsamples.imp ?_
    rintro row y ⟨hvalue, r, ⟨-, hr⟩, hy⟩
    exact ⟨hvalue, r, hr, hy⟩
  · obtain ⟨text, htext, -⟩ := bytes.halfOf h
    obtain ⟨cut, hcut, -⟩ := Option.map_eq_some_iff.mp htext
    exact List.mem_filter.mpr ⟨hrow, decide_eq_true ⟨hon, by rw [hcut]; rfl⟩⟩

/-- The stage of clients. -/
def clientStage : Stage := wifiClients.stages.head (List.cons_ne_nil _ _)

/-- A client with its bytes. -/
def wifiClient (mac bytes : String) : Record :=
  Dict.ofList [("mac-address", .text mac), ("bytes", .text bytes), ("uptime", .text "1m")]

/-- Two clients are counted, and one whose bytes have no comma hides neither. -/
theorem clients_told_porch :
    let rows := [wifiClient "AA:01" "100,200", wifiClient "AA:02" "garbled",
      wifiClient "AA:03" "7,8"]
    let s := Collector.filled clientStage Collector.gateway.identity.labels (.ofSeconds 10)
      (clientStage.process none rows) 0
    (∀ row ∈ rows, row.GivesWay "rx_bytes") ∧
      ∃ d ∈ clientStage.series, d.name = "wifi_clients_rx_bytes" ∧
        ∃ x, s.emit d s.snapshot = .ok x ∧ List.Forall₂
          (fun row y => (halfOf ',' .second "bytes" row).bind Json.textNumber = some y.value)
          [wifiClient "AA:01" "100,200", wifiClient "AA:03" "7,8"] x.samples := by
  intro rows s
  have plain : ∀ row ∈ rows, row.Plain := by decide
  have givesWay : ∀ row ∈ rows, row.GivesWay "rx_bytes" := fun row hrow =>
    (plain row hrow).givesWay (isSettled_counter .second)
  obtain ⟨d, hd, hname, hfails, hsamples, -⟩ := clients_told Collector.gateway.identity
    (.ofSeconds 10) none rows 0 (show clientStage ∈ wifiClients.stages from List.head_mem _) .second
    givesWay
  refine ⟨givesWay, d, hd, hname, ?_⟩
  cases hx : s.emit d s.snapshot with
  | error e =>
    obtain ⟨row, hrow, text, htext, hnumber⟩ := hfails.mp ⟨e, hx⟩
    have hnumbers : ∀ row ∈ rows.filter fun row =>
        ¬ row.SwitchedOff ∧ (halves ',' "bytes" row).isSome,
        ((halfOf ',' .second "bytes" row).bind Json.textNumber).isSome = true := by
      decide +kernel
    have hsome := hnumbers row hrow
    rw [htext, Option.bind_some, hnumber] at hsome
    cases hsome
  | ok x => exact ⟨x, rfl, (hsamples x hx).imp fun _ _ hy => hy.1⟩

/-- A client with letters before its comma takes what the other one has sent with it. -/
theorem garbled_count_hides_others :
    let rows := [wifiClient "AA:01" "100,200", wifiClient "AA:02" "abc,5"]
    let c := (wifiClients.collector Collector.gateway.identity.labels (.ofSeconds 10)).after
      Collector.dictated [Collector.answered 10 [.ok rows]]
    (∃ counts, BytesOf rows[0] counts) ∧ (¬ ∃ counts, BytesOf rows[1] counts) ∧
      ((c.collect? (Moment.after 0 (.ofSeconds 12))).map fun series =>
          ((series.filter fun x => x.name ∈ ["wifi_clients_tx_bytes", "wifi_clients_rx_bytes"]).map
            fun x => (x.name, x.samples.map (·.value)))) =
        some [("wifi_clients_rx_bytes", [Decimal.ofInt 200, Decimal.ofInt 5])] := by
  intro rows c
  refine ⟨⟨fun | .first => ⟨false, 100, 0⟩ | .second => ⟨false, 200, 0⟩, ("100", "200"), by decide,
    ?_⟩, ?_, by decide +kernel⟩
  · have hsign : ∀ text ∈ ["100", "200"],
        Decimal.spanSign text.toList = (false, text.toList) := by decide
    rintro (_ | _)
    · exact .digits (hsign "100" (by decide)) (by decide) (List.all_eq_true.mp rfl)
    · exact .digits (hsign "200" (by decide)) (by decide) (List.all_eq_true.mp rfl)
  · rintro ⟨counts, bytes⟩
    have hnumber := bytes.number .first
    have hnone : (halfOf ',' .first "bytes" rows[1]).bind Json.textNumber = none := by
      decide +kernel
    rw [hnone] at hnumber
    cases hnumber

end Catalog

end RouterMetrics

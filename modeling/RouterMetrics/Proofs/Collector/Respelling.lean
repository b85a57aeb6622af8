import RouterMetrics.Proofs.Collector.Alike
import RouterMetrics.Proofs.Collector.Columns
import RouterMetrics.Proofs.Collector.Leases

/-!
# Where the catalog asks for texts

The rules of the catalog look at rows before they are stored, and ask some of their fields for a
text, which is not there when a device answers a flag or a number as such. `Catalog.asks` tells
these fields, and the values that are taken otherwise than their text. Whatever else of a row is
spelled otherwise, its rule makes the same of it (`RowRule.Steady`), the sessions that it belongs to
are the same (`Catalog.collapseSessions_congr`), and so is the lease that it is
(`Catalog.sameLease_normalizeKeys`).
-/

namespace RouterMetrics

/-! ## Rows that are spelled otherwise -/

namespace Record

/-- Two rows have the same fields, of which some are spelled otherwise. Those that are asked for
keep their value. -/
def Respelled (asked : String → Json → Bool) (r r' : Record) : Prop :=
  List.Forall₂ (fun e e' => e'.1 = e.1 ∧ e.2.Respelled e'.2 ∧ (asked e.1 e.2 → e'.2 = e.2))
    r.toList r'.toList

/-- The same by what is looked up under a name. -/
def Spelt (asked : String → Json → Bool) : Record → Record → Prop :=
  Agree (fun _ => True) fun k v v' => v.Respelled v' ∧ (asked k v → v' = v)

/-- Two rows are read alike under all names that a series can have. -/
def SameRow : Record → Record → Prop := Alike fun k => Json.isName (normalizeKey k)

variable {asked : String → Json → Bool} {r r' : Record} {k : String}

theorem Respelled.spelt (h : Respelled asked r r') : Spelt asked r r' := by
  intro k _
  have hfind : ∀ l l' : List (String × Json),
      List.Forall₂ (fun e e' => e'.1 = e.1 ∧ e.2.Respelled e'.2 ∧ (asked e.1 e.2 → e'.2 = e.2))
        l l' →
      Option.Rel (fun v v' => v.Respelled v' ∧ (asked k v → v' = v)) (Assoc.find? k l)
        (Assoc.find? k l') := by
    intro l l' hl
    induction hl with
    | nil => exact .none
    | @cons e e' l l' he _ ih =>
      obtain ⟨hname, hvalue, hkept⟩ := he
      rw [Assoc.find?_cons, Assoc.find?_cons, hname]
      split
      case isTrue hk => exact .some ⟨hvalue, hk ▸ hkept⟩
      case isFalse => exact ih
  exact hfind r.toList r'.toList h

namespace Spelt

/-- What becomes of a field: it keeps its value, or it gets the spelling of one that is not
asked for. -/
theorem get? (h : Spelt asked r r') (k : String) : r'.get? k = r.get? k ∨
    ∃ v s, r.get? k = some v ∧ r'.get? k = some (.text s) ∧ v.Spelled s ∧ asked k v = false := by
  rcases Agree.get? h (k := k) trivial with ⟨hnone, hnone'⟩ | ⟨v, v', hget, hget', hv, hkept⟩
  · exact .inl (hnone'.trans hnone.symm)
  · cases hasked : asked k v with
    | true => exact .inl (by rw [hget, hget', hkept hasked])
    | false =>
      cases hv with
      | same => exact .inl (hget'.trans hget.symm)
      | text hs => exact .inr ⟨v, _, hget, hget', hs, hasked⟩

theorem get?_eq (h : Spelt asked r r') (hk : ∀ v, asked k v = true) : r'.get? k = r.get? k := by
  rcases h.get? k with heq | ⟨v, s, -, -, -, hasked⟩
  · exact heq
  · rw [hk v] at hasked
    cases hasked

/-- A spelling is a text where there was none. -/
theorem text? (h : Spelt asked r r') (k : String) : r'.text? k = r.text? k ∨
    ∃ v s, v.Spelled s ∧ asked k v = false ∧ r.text? k = none ∧ r'.text? k = some s := by
  rw [Record.text?, Record.text?]
  rcases h.get? k with heq | ⟨v, s, hget, hget', hs, hasked⟩
  · rw [heq]
    exact .inl rfl
  · rw [hget, hget']
    exact .inr ⟨v, s, hs, hasked, hs.asText?, rfl⟩

theorem text?_eq (h : Spelt asked r r') (hk : ∀ v, asked k v = true) :
    r'.text? k = r.text? k := by
  rw [Record.text?, Record.text?, h.get?_eq hk]

/-- A flag that is asked for when it is true has the text of it in both or in none. -/
theorem isTrue_eq (h : Spelt asked r r') (hk : ∀ v, asked k v = Json.isTrue (some v)) :
    (r'.text? k == some "true") = (r.text? k == some "true") := by
  rcases h.text? k with heq | ⟨v, s, hs, hasked, hnone, hsome⟩
  · rw [heq]
  · rw [hk, hs.isTrue] at hasked
    rw [hnone, hsome, Option.some_beq_some, hasked]
    rfl

/-- A flag with a default is the same when the other truth value is asked for. -/
theorem flag_eq (h : Spelt asked r r') (default : String)
    (hk : ∀ v, asked k v = (Json.isTrue (some v) != (default == "true"))) :
    ((r'.text? k).getD default == "true") = ((r.text? k).getD default == "true") := by
  rcases h.text? k with heq | ⟨v, s, hs, hasked, hnone, hsome⟩
  · rw [heq]
  · rw [hk, hs.isTrue, bne_eq_false_iff_eq] at hasked
    rw [hnone, hsome, Option.getD_some, Option.getD_none, hasked]

/-- Whatever is asked for, the fields are read alike. -/
theorem alike (h : Spelt asked r r') (P : String → Prop) : r.Alike P r' := by
  refine Agree.imp h (fun _ _ => trivial) fun k v v' _ hv => ?_
  cases hv.1 with
  | same => exact Json.Same.refl v
  | text hs => exact hs.same

end Spelt

theorem Respelled.sameRow (h : Respelled asked r r') : SameRow r r' := h.spelt.alike _

end Record

/-! ## Leases -/

/-- Two leases tell the same of one hardware address. -/
structure SameLease (lease lease' : Record) : Prop where
  mac : lease'.text? "mac_address" = lease.text? "mac_address"
  told : Catalog.LeaseInfo.of (some lease') = Catalog.LeaseInfo.of (some lease)

/-- Two devices differ only in the spelling of their leases. -/
structure Device.Alike (d d' : Device) : Prop where
  settings : d' = { d with leases := d'.leases }
  leases : List.Forall₂ SameLease d.leases d'.leases

theorem find?_sameLease {leases leases' : List Record} (h : List.Forall₂ SameLease leases leases')
    (mac : String) :
    Catalog.LeaseInfo.of (leases'.find? fun l => l.text? "mac_address" == some mac) =
      Catalog.LeaseInfo.of (leases.find? fun l => l.text? "mac_address" == some mac) := by
  induction h with
  | nil => rfl
  | @cons lease lease' _ _ hfirst _ ih =>
    rw [List.find?_cons, List.find?_cons, hfirst.mac]
    cases lease.text? "mac_address" == some mac with
    | true => exact hfirst.told
    | false => exact ih

namespace Catalog

variable {d d' : Device} {r r' : Record} {asked : String → Json → Bool}

theorem leaseOf_alike (hd : d.Alike d') (mac : r'.text? "mac-address" = r.text? "mac-address") :
    LeaseInfo.of (leaseOf (some d') r') = LeaseInfo.of (leaseOf (some d) r) := by
  unfold leaseOf
  rw [mac]
  cases r.text? "mac-address" with
  | none => rfl
  | some mac => exact find?_sameLease hd.leases mac

theorem setText_alike {P : String → Prop} (h : r.Alike P r') (field text : String) :
    (setText r field text).Alike P (setText r' field text) :=
  h.insert fun _ => Json.Same.refl _

theorem withLease_alike {P : String → Prop}
    (told : LeaseInfo.of (leaseOf (some d') r') = LeaseInfo.of (leaseOf (some d) r))
    (h : r.Alike P r') : (withLease (some d) r).Alike P (withLease (some d') r') := by
  rw [withLease, withLease, told]
  exact setText_alike (setText_alike (setText_alike h _ _) _ _) _ _

/-! ## What is asked for -/

/-- An interface that is said to run. -/
def asksRunning (field : String) (v : Json) : Bool := field == "running" && Json.isTrue (some v)

/-- An item by its identifiers. -/
def asksItem (field : String) (_ : Json) : Bool := field == ".id" || field == "id"

/-- An item by its identifiers, and the flags that would have it idle. -/
def asksIdle (field : String) (v : Json) : Bool :=
  asksItem field v || field == "running" && !Json.isTrue (some v) ||
    field == "disabled" && Json.isTrue (some v)

/-- A row by its hardware address. -/
def asksAddress (field : String) (_ : Json) : Bool := field == "mac-address"

/-- A lease by its hardware address, what is told of it, and that it is dynamic. -/
def asksLease (field : String) (v : Json) : Bool :=
  ["mac_address", "host_name", "comment", "address"].contains field ||
    field == "dynamic" && Json.isTrue (some v)

/-- A number of lost packets that leaves the round trips. -/
def asksLoss (field : String) (v : Json) : Bool :=
  field == "loss-percent" &&
    (Decimal.readNumber (Json.label (some v)).toList).any fun x => !(x > lossLimit)

/-- A device by its user. -/
def asksUser (field : String) (_ : Json) : Bool := field == "user"

/-- The fields of a session. -/
def sessionTexts : List String := ["address", "name", "via", "when", "group"]

/-- A session by its fields. -/
def asksSession (field : String) (_ : Json) : Bool := sessionTexts.contains field

/-- What is asked for a text in the items of a path. -/
def askedPaths : List (String × (String → Json → Bool)) :=
  [("interface", asksRunning), ("interface/ethernet", asksIdle),
   ("interface/ethernet/poe", asksIdle), ("interface/wifi", asksItem), ("ip/arp", asksAddress),
   ("ipv6/neighbor", asksAddress), ("interface/bridge/host", asksAddress),
   ("interface/wifi/registration-table", asksAddress),
   ("ip/dhcp-server/lease", fun field => asksLease (normalizeKey field)),
   ("tool/netwatch", asksLoss), ("ip/kid-control/device", asksUser), ("user/active", asksSession)]

/-- Whether a field with a value is asked for its text, in the answer to a call. -/
def asks (c : Call) : String → Json → Bool :=
  if c.verb = .list then (Assoc.find? c.path askedPaths).getD fun _ _ => false
  else fun _ _ => false

/-- A field that is asked for under no path is asked for in no answer. -/
theorem asks_eq_false {field : String} {v : Json} (free : ∀ e ∈ askedPaths, e.2 field v = false)
    (c : Call) : asks c field v = false := by
  rw [asks]
  split
  case isFalse => rfl
  case isTrue =>
    cases hfound : Assoc.find? c.path askedPaths with
    | none => rfl
    | some asked =>
      obtain ⟨e, he, rfl⟩ := Option.map_eq_some_iff.mp hfound
      exact free e (List.mem_of_find?_eq_some he)

end Catalog

/-! ## Rules for rows -/

/-- A rule makes the same of a row and of one that is spelled otherwise, up to spellings. -/
def RowRule.Steady (asked : String → Json → Bool) (rule : RowRule) : Prop :=
  ∀ ⦃d d' r r'⦄, Device.Alike d d' → Record.Respelled asked r r' →
    Option.Rel Record.SameRow (rule (some d) r).toOption.join (rule (some d') r').toOption.join

namespace Catalog

variable {d d' : Device} {r r' : Record} {asked : String → Json → Bool}

theorem steady_rowRule {f : Option Device → Record → Record}
    (h : ∀ ⦃d d' r r'⦄, Device.Alike d d' → Record.Respelled asked r r' →
      Record.SameRow (f (some d) r) (f (some d') r')) : (rowRule f).Steady asked :=
  fun _ _ _ _ hd hr => .some (h hd hr)

theorem steady_onlyRows {p : Record → Bool}
    (h : ∀ ⦃r r'⦄, Record.Respelled asked r r' → p r' = p r) : (onlyRows p).Steady asked := by
  intro d d' r r' hd hr
  rw [onlyRows, onlyRows, h hr]
  cases p r with
  | true => exact .some hr.sameRow
  | false => exact .none

theorem steady_all : RowRule.Steady asked fun _ r => .ok (some r) :=
  fun _ _ _ _ _ hr => .some hr.sameRow

/-- A flag that is not asked for says that an interface does not run, however it is spelled. -/
theorem steady_isRunning : (onlyRows isRunning).Steady asksRunning := by
  refine steady_onlyRows fun r r' hr => ?_
  exact hr.spelt.isTrue_eq fun v => by simp [asksRunning]

theorem steady_hasUser : (onlyRows hasUser).Steady asksUser := by
  refine steady_onlyRows fun r r' hr => ?_
  rw [hasUser, hasUser, Record.textD, Record.textD, hr.spelt.text?_eq fun v => by simp [asksUser]]

/-- A row keeps its hardware address, and so it has a lease that says the same. -/
theorem leaseOf_respelled (hd : d.Alike d') (hr : Record.Respelled asksAddress r r') :
    LeaseInfo.of (leaseOf (some d') r') = LeaseInfo.of (leaseOf (some d) r) :=
  leaseOf_alike hd (hr.spelt.text?_eq fun v => by simp [asksAddress])

theorem steady_withLease : (rowRule withLease).Steady asksAddress :=
  steady_rowRule fun _ _ _ _ hd hr =>
    withLease_alike (leaseOf_respelled hd hr) hr.sameRow

theorem steady_withLeaseKind : (rowRule withLeaseKind).Steady asksAddress := by
  refine steady_rowRule fun d d' r r' hd hr => ?_
  have htold := leaseOf_respelled hd hr
  rw [withLeaseKind, withLeaseKind, htold]
  exact setText_alike (withLease_alike htold hr.sameRow) _ _

/-- A spelling is no version with a channel. -/
theorem steady_splitVersion : (rowRule fun _ => splitVersion).Steady asked := by
  refine steady_rowRule fun d d' r r' _ hr => ?_
  have hversion : (r'.text? "version").bind Value.versionAndChannel =
      (r.text? "version").bind Value.versionAndChannel := by
    rcases hr.spelt.text? "version" with heq | ⟨v, s, hs, -, hnone, hsome⟩
    · rw [heq]
    · rw [hnone, hsome]
      exact hs.versionAndChannel
  rw [splitVersion, splitVersion, hversion]
  split
  case h_1 =>
    split
    · exact setText_alike (setText_alike hr.sameRow _ _) _ _
    · exact hr.sameRow
  case h_2 => exact hr.sameRow

/-- A name that is no text folds no reading, and its spelling one that no series reads. -/
theorem steady_foldReading : (rowRule fun _ => foldReading).Steady asked := by
  refine steady_rowRule fun d d' r r' _ hr => ?_
  have hvalue := (hr.spelt.alike fun _ => True).getD (k := "value") trivial .null
  rw [foldReading, foldReading]
  rcases hr.spelt.text? "name" with heq | ⟨v, s, hs, -, hnone, hsome⟩
  · rw [heq]
    cases r.text? "name" with
    | none => exact hr.sameRow
    | some name => exact Record.Agree.insert hr.sameRow fun _ => hvalue
  · rw [hnone, hsome]
    intro k hk
    -- the reading is folded now, but under a name that no series reads
    have hother : s ≠ k := by
      rintro rfl
      rw [hs.isName_normalizeKey] at hk
      cases hk
    rw [Dict.get?_insert, if_neg hother]
    exact hr.sameRow k hk

/-- All packets are more than the limit. -/
theorem lossLimit_lt_all : decide ((100.0 : Float) > lossLimit) = true := by decide +kernel

/-- A number of lost packets that is not asked for is above the limit, and so is none at all. -/
theorem steady_dropLossy : (rowRule fun _ => dropLossy).Steady asksLoss := by
  refine steady_rowRule fun d d' r r' _ hr => ?_
  have htype : (r'.text? "type" == some "icmp") = (r.text? "type" == some "icmp") := by
    rcases hr.spelt.text? "type" with heq | ⟨v, s, hs, -, hnone, hsome⟩
    · rw [heq]
    · have hicmp : s ≠ "icmp" := by
        cases hs with
        | bool b => cases b <;> decide
        | int i => exact Json.intChars_ne rfl
      rw [hnone, hsome, Option.some_beq_some, beq_eq_false_iff_ne.mpr hicmp]
      rfl
  have hloss : decide (lossOf r' > lossLimit) = decide (lossOf r > lossLimit) := by
    rw [lossOf, lossOf]
    rcases hr.spelt.text? "loss-percent" with heq | ⟨v, s, hs, hasked, hnone, hsome⟩
    · rw [heq]
    · rw [hnone, hsome, Option.bind_some, Option.bind_none, Option.getD_none]
      rw [asksLoss, hs.label, BEq.rfl, Bool.true_and] at hasked
      -- without a text all packets count as lost, and so do they with a text that is no number
      cases hnumber : Decimal.readNumber s.toList with
      | none => rfl
      | some x =>
        rw [hnumber, Option.any_some, Bool.not_eq_false'] at hasked
        rw [Option.getD_some, hasked]
        exact lossLimit_lt_all.symm
  rw [dropLossy, dropLossy, htype, hloss]
  split
  · exact Record.Agree.filterKeys hr.sameRow _
  · exact hr.sameRow

/-- A client without bytes, or with bytes that are no text, is left out, and so is one with the
spelling of such bytes. -/
theorem steady_splitClientBytes : RowRule.Steady asksAddress splitClientBytes := by
  intro d d' r r' hd hr
  unfold splitClientBytes
  rcases hr.spelt.text? "bytes" with heq | ⟨v, s, hs, -, hnone, hsome⟩
  · rw [heq]
    cases r.text? "bytes" with
    | none => exact .none
    | some bytes =>
      dsimp only
      cases cutAt ',' bytes with
      | none => exact .none
      | some cut =>
        refine .some (withLease_alike ?_ (setText_alike (setText_alike hr.sameRow _ _) _ _))
        rw [leaseOf_setText (by decide), leaseOf_setText (by decide),
          leaseOf_setText (by decide), leaseOf_setText (by decide), leaseOf_respelled hd hr]
  · have hcut : cutAt ',' s = none := cutAt_eq_none_iff.mpr fun hc => (hs.plain _ hc).2.2 rfl
    rw [hnone, hsome]
    dsimp only
    rw [hcut]
    exact .none

/-- There is no slash in a spelling, so the field is kept in one piece. -/
theorem upAndDown_alike {field : String} {v v' : Json} (h : Json.Respelled v v') :
    List.Forall₂ (fun e e' => e'.1 = e.1 ∧ Json.Same e.2 e'.2) (upAndDown field v)
      (upAndDown field v') := by
  cases h with
  | same => exact List.forall₂_same.mpr fun e _ => ⟨rfl, Json.Same.refl _⟩
  | @text s hs =>
    have hcut : cutAt '/' s = none := cutAt_eq_none_iff.mpr fun hc => (hs.plain _ hc).2.1 rfl
    have hwhole : upAndDown field v = [(field, v)] := by rw [upAndDown, hs.asText?]; rfl
    have htext : upAndDown field (.text s) = [(field, .text s)] := by
      rw [upAndDown, show (Json.text s).asText? = some s from rfl, Option.bind_some, hcut]
    rw [hwhole, htext]
    exact .cons ⟨rfl, hs.same⟩ .nil

theorem ofList_alike {P : String → Prop} {l l' : List (String × Json)}
    (h : List.Forall₂ (fun e e' => e'.1 = e.1 ∧ Json.Same e.2 e'.2) l l') :
    Record.Alike P (Dict.ofList l) (Dict.ofList l') := by
  refine List.rel_foldl ?_ (Record.Agree.refl (fun _ => Json.Same.refl) _) h
  rintro r r' hr ⟨field, v⟩ ⟨field', v'⟩ ⟨hfield, hv⟩
  cases hfield
  exact hr.insert fun _ => hv

theorem steady_splitUpDown : (rowRule fun _ => splitUpDown).Steady asked := by
  refine steady_rowRule fun d d' r r' _ hr => ?_
  rw [splitUpDown, splitUpDown]
  refine ofList_alike (List.rel_flatMap hr ?_)
  rintro ⟨field, v⟩ ⟨field', v'⟩ ⟨hfield, hv, -⟩
  cases hfield
  exact upAndDown_alike hv

/-! ## Rows put together -/

/-- A row that keeps the texts of its session is added to the same sessions. -/
theorem addToSessions_congr (same : ∀ field ∈ sessionTexts, r'.text? field = r.text? field)
    (sessions : List (String × Record)) : addToSessions r' sessions = addToSessions r sessions := by
  have htext : ∀ field ∈ sessionTexts, r'.textD field = r.textD field := fun field hfield =>
    congrArg (Option.getD · "") (same field hfield)
  have hkey : sessionKey r' = sessionKey r := by
    rw [sessionKey, sessionKey, htext "address" (by decide), htext "name" (by decide),
      htext "via" (by decide)]
  have hopen : openSession r' = openSession r := by
    rw [openSession, openSession, same "address" (by decide), same "name" (by decide),
      htext "via" (by decide), htext "when" (by decide), htext "group" (by decide)]
  have hjoin : ∀ session, joinSession session r' = joinSession session r := fun session => by
    rw [joinSession, joinSession, htext "when" (by decide)]
  induction sessions with
  | nil => rw [addToSessions, addToSessions, hkey, hopen]
  | cons first rest ih =>
    rw [addToSessions, addToSessions, hkey, hjoin, ih]

theorem collapseSessions_congr {rows rows' : List Record}
    (h : List.Forall₂ (Record.Respelled asksSession) rows rows') :
    collapseSessions rows' = collapseSessions rows := by
  have hfold : ∀ sessions : List (String × Record),
      rows'.foldl (fun sessions r => addToSessions r sessions) sessions =
        rows.foldl (fun sessions r => addToSessions r sessions) sessions := by
    induction h with
    | nil => exact fun _ => rfl
    | @cons r r' _ _ hr _ ih =>
      intro sessions
      have hsame : ∀ field ∈ sessionTexts, r'.text? field = r.text? field := fun field hfield =>
        hr.spelt.text?_eq fun v => List.contains_iff_mem.mpr hfield
      rw [List.foldl_cons, List.foldl_cons, addToSessions_congr hsame, ih]
  rw [collapseSessions, collapseSessions, hfold]

/-! ## Rows that are leases -/

/-- A row of the lease table that keeps what it is asked for tells the same lease. -/
theorem sameLease_normalizeKeys
    (h : Record.Respelled (fun field => asksLease (normalizeKey field)) r r') :
    SameLease r.normalizeKeys r'.normalizeKeys := by
  have hlease : Record.Spelt asksLease r.normalizeKeys r'.normalizeKeys :=
    Record.Agree.normalizeKeys (P := fun _ => True) h.spelt
  have htext : ∀ field ∈ ["mac_address", "host_name", "comment", "address"],
      r'.normalizeKeys.text? field = r.normalizeKeys.text? field := fun field hfield =>
    hlease.text?_eq fun v => by rw [asksLease, List.contains_iff_mem.mpr hfield, Bool.true_or]
  have hkind := hlease.isTrue_eq (k := "dynamic") fun v => by simp [asksLease]
  refine ⟨htext _ (by decide), ?_⟩
  rw [LeaseInfo.of, LeaseInfo.of, Record.textD, Record.textD, Record.textD, Record.textD,
    Record.textD, Record.textD, hkind, htext "host_name" (by decide), htext "comment" (by decide),
    htext "address" (by decide)]

end Catalog

end RouterMetrics

import Mathlib.Data.List.Forall2
import PanelForms.Proofs.Field.WireStable
import PanelForms.Proofs.Session.Seeding

/-!
# Saving and reloading

The records that a session sends are themselves records, which a new session can load.  It then
sends the same: every value of a known field is its own wire form, and all else is sent as it is.

Main results:

- Theorem `Session.wireModels_eq_ok_iff`: what is sent, record by record and field by field.
- Definition `Session.Reloaded`: what a session that loaded the records owes to the one that sent
  them.
- Theorem `save_reload_stable`: encoding is settled after one step, for every field type and for
  every session.
-/

namespace PanelForms

/-! ## Related entries -/

namespace Entries

variable {α β : Type} {Rel : String → α → β → Prop} {es : Entries α} {fs : Entries β}

/-- Entry by entry the names are equal and the values are related. -/
abbrev Related (Rel : String → α → β → Prop) (es : Entries α) (fs : Entries β) : Prop :=
  List.Forall₂ (fun e f => f.1 = e.1 ∧ Rel e.1 e.2 f.2) es fs

/-- Related entries have the same names, in the same order. -/
theorem Related.names_eq (h : Related Rel es fs) : fs.map (·.1) = es.map (·.1) := by
  induction h with
  | nil => rfl
  | cons hhead _ ih => rw [List.map_cons, List.map_cons, hhead.1, ih]

/-- What is related to ascending entries ascends. -/
theorem Related.ascending (h : Related Rel es fs) (hes : Ascending es) : Ascending fs := by
  have hnames : (es.map (·.1)).Pairwise (· < ·) := List.pairwise_map.2 hes
  rw [← h.names_eq] at hnames
  exact List.pairwise_map.1 hnames

/-- Related entries hold related values under every name, or none. -/
theorem Related.get? (h : Related Rel es fs) (name : String) :
    (get? name es = none ∧ get? name fs = none) ∨
      ∃ a b, get? name es = some a ∧ get? name fs = some b ∧ Rel name a b := by
  induction h with
  | nil => exact Or.inl ⟨rfl, rfl⟩
  | @cons e f es fs hhead hrest ih =>
    obtain ⟨n, a⟩ := e
    obtain ⟨m, b⟩ := f
    obtain ⟨rfl, hrel⟩ : m = n ∧ Rel n a b := hhead
    by_cases hname : m = name
    · subst hname
      exact Or.inr ⟨a, b, by simp [Entries.get?], by simp [Entries.get?], hrel⟩
    · simpa [Entries.get?, hname] using ih

/-- If related values can be read back, so can all entries at once. -/
theorem Related.filterMap {γ : Type} {Rel' : String → γ → β → Prop} {read : β → Option γ}
    (h : Related Rel es fs)
    (hread : ∀ name a b, Rel name a b → ∃ c, read b = some c ∧ Rel' name c b) :
    Related Rel' (fs.filterMap fun f => (read f.2).map fun c => (f.1, c)) fs := by
  induction h with
  | nil => exact .nil
  | cons hhead _ ih =>
    obtain ⟨c, hc, hrel⟩ := hread _ _ _ hhead.2
    rw [List.filterMap_cons, hc]
    exact .cons ⟨rfl, hhead.1 ▸ hrel⟩ ih

end Entries

namespace Session

variable {s t : Session}

/-! ## What is sent -/

/-- The canonical records without their revisions. -/
def records (s : Session) : Dict ModelRecord :=
  s.store.models.map fun _ stored => stored.record

theorem get?_records (s : Session) (model : String) :
    s.records.get? model = s.store.record? model :=
  Dict.get?_map _ _ _

/-- The fields of a record and what is sent for them. -/
abbrev SendsFields (s : Session) (model : String) (fields wire : Entries Json) : Prop :=
  Entries.Related (fun name v w => s.encodeField ⟨model, name⟩ v = .ok w) fields wire

/-- The value that is sent for a record. -/
def SendsRecord (s : Session) (model : String) (record : ModelRecord) (w : Json) : Prop :=
  ∃ wire, s.SendsFields model record.entries wire ∧ w = .object wire

/-- The fields of a model are encoded exactly if the value of each of them can be sent. -/
theorem encodeFields_eq_ok_iff {model : String} {fields wire : Entries Json} :
    s.encodeFields model fields = .ok wire ↔ s.SendsFields model fields wire := by
  unfold SendsFields
  induction fields generalizing wire with
  | nil => simp [encodeFields, eq_comm]
  | cons e rest ih =>
    obtain ⟨name, v⟩ := e
    simp only [encodeFields, Except.bind_eq_ok_iff, ih, List.forall₂_cons_left_iff]
    constructor
    · rintro ⟨w, hw, others, hothers, ⟨⟩⟩
      exact ⟨(name, w), others, ⟨rfl, hw⟩, hothers, rfl⟩
    · rintro ⟨⟨_, w⟩, others, ⟨rfl, hw⟩, hothers, rfl⟩
      exact ⟨w, hw, others, hothers, rfl⟩

/-- The records are encoded exactly if each of them can be sent. -/
theorem encodeRecords_eq_ok_iff {models : Entries StoredModel} {wire : Entries Json} :
    s.encodeRecords models = .ok wire ↔
      Entries.Related s.SendsRecord (Entries.mapValues (fun _ stored => stored.record) models)
        wire := by
  induction models generalizing wire with
  | nil => simp [encodeRecords, Entries.mapValues, eq_comm]
  | cons e rest ih =>
    obtain ⟨name, stored⟩ := e
    simp only [encodeRecords, Except.bind_eq_ok_iff, encodeFields_eq_ok_iff, ih,
      Entries.mapValues, List.map_cons, List.forall₂_cons_left_iff]
    constructor
    · rintro ⟨fields, hfields, others, hothers, ⟨⟩⟩
      exact ⟨(name, .object fields), others, ⟨rfl, fields, hfields, rfl⟩, hothers, rfl⟩
    · rintro ⟨⟨_, w⟩, others, ⟨rfl, fields, hfields, rfl⟩, hothers, rfl⟩
      exact ⟨fields, hfields, others, hothers, rfl⟩

/-- What is sent, record by record and field by field. -/
theorem wireModels_eq_ok_iff {wire : Entries Json} :
    s.wireModels = .ok wire ↔ Entries.Related s.SendsRecord s.records.entries wire :=
  encodeRecords_eq_ok_iff

/-! ## Reloading -/

/-- What is sent for a value is sent as it is. -/
theorem encodeField_encodeField {r : FieldRef} {v w : Json} (h : s.encodeField r v = .ok w) :
    s.encodeField r w = .ok w := by
  unfold encodeField at h ⊢
  split
  · next d hfield =>
    rw [hfield] at h
    exact Except.mapError_eq_ok_iff.2
      (FieldType.encode_encode (Except.mapError_eq_ok_iff.1 h))
  · rfl

/-- What was sent is sent again as it is: encoding is stable on its results. -/
theorem SendsFields.again {model : String} {fields wire : Entries Json}
    (h : s.SendsFields model fields wire) : s.SendsFields model wire wire := by
  induction h with
  | nil => exact .nil
  | cons hhead _ ih =>
    obtain ⟨hname, hsends⟩ := hhead
    exact .cons ⟨rfl, hname ▸ encodeField_encodeField hsends⟩ ih

/-- A field that the schema does not have is sent as it is. -/
theorem SendsFields.get?_eq {model name : String} {fields wire : Entries Json}
    (h : s.SendsFields model fields wire) (hunknown : s.schema.field? ⟨model, name⟩ = none) :
    Entries.get? name wire = Entries.get? name fields := by
  rcases Entries.Related.get? h name with ⟨hnone, hwirenone⟩ | ⟨v, w, hv, hw, hsent⟩
  · rw [hnone, hwirenone]
  · have hsame : s.encodeField ⟨model, name⟩ v = .ok v := by
      simp [encodeField, hunknown]
    rw [hsame] at hsent
    cases hsent
    rw [hv, hw]

/-- What is sent for a record is read as a record, which is sent the same. -/
theorem SendsRecord.read {model : String} {record : ModelRecord} {w : Json}
    (h : s.SendsRecord model record w) :
    ∃ read, w.record? = some read ∧ s.SendsFields model record.entries read.entries ∧
      s.SendsRecord model read w := by
  obtain ⟨wire, hsends, rfl⟩ := h
  have hentries : (Dict.ofList wire).entries = wire :=
    Dict.entries_ofList (hsends.ascending record.ascending)
  exact ⟨Dict.ofList wire, rfl, hentries.symm ▸ hsends, wire, hentries.symm ▸ hsends.again, rfl⟩

/-- What a session `t` that has loaded what `s` sends owes to `s`. -/
structure Reloaded (s t : Session) (wire : Entries Json) : Prop where
  /-- It sends the same. -/
  sends : t.wireModels = .ok wire
  /-- It has the same models. -/
  models : t.store.models.names = s.store.models.names
  /-- They have the same fields. -/
  fields : ∀ model, (t.store.record? model).map Dict.names = (s.store.record? model).map Dict.names
  /-- Fields that the schema does not have are unchanged. -/
  unknownFields : ∀ r, s.schema.field? r = none → t.store.fieldValue? r = s.store.fieldValue? r
  /-- Models that the schema does not have are unchanged. -/
  unknownModels : ∀ model, s.schema.models.get? model = none →
    t.store.record? model = s.store.record? model

section reload

variable {wire : Entries Json}

/-- The new session holds what is read of what was sent. -/
theorem record?_reload (hwire : s.wireModels = .ok wire) (id : SessionId) (model : String) :
    (s.store.record? model = none ∧
        ((new id s.schema).loadModels wire).store.record? model = none) ∨
      ∃ record read, s.store.record? model = some record ∧
        ((new id s.schema).loadModels wire).store.record? model = some read ∧
        s.SendsFields model record.entries read.entries := by
  have hsends := wireModels_eq_ok_iff.1 hwire
  -- A new session holds nothing, so only what was sent is found.
  have hloaded : ((new id s.schema).loadModels wire).store.record? model =
      documented wire model := by
    rw [record?_loadModels (hsends.ascending s.records.ascending)]
    exact Option.or_none
  rw [hloaded, ← get?_records]
  rcases hsends.get? model with ⟨hnone, hwirenone⟩ | ⟨record, w, hrecord, hw, hsent⟩
  · exact Or.inl ⟨hnone, by rw [documented, hwirenone, Option.bind_none]⟩
  · obtain ⟨read, hread, hfields, -⟩ := hsent.read
    exact Or.inr ⟨record, read, hrecord, by rw [documented, hw, Option.bind_some, hread], hfields⟩

/-- A session that loads what was sent would send the same. -/
theorem sends_reload (hwire : s.wireModels = .ok wire) (id : SessionId) :
    Entries.Related s.SendsRecord ((new id s.schema).loadModels wire).records.entries wire := by
  have hsends := wireModels_eq_ok_iff.1 hwire
  have hascending := hsends.ascending s.records.ascending
  have hrecords : ((new id s.schema).loadModels wire).records =
      ⟨recordsOf wire, ascending_recordsOf hascending⟩ := by
    refine Dict.ext_get? fun model => ?_
    rw [get?_records, record?_loadModels hascending]
    exact Option.or_none.trans (get?_recordsOf hascending model).symm
  rw [hrecords]
  exact hsends.filterMap fun name record w hsent =>
    let ⟨read, hread, _, hagain⟩ := hsent.read
    ⟨read, hread, hagain⟩

/-- A session that has loaded what another one sends has the same models and fields, and sends the
same. -/
theorem reloaded (hwire : s.wireModels = .ok wire) (id : SessionId) :
    Reloaded s ((new id s.schema).loadModels wire) wire := by
  have hagain := sends_reload hwire id
  have hread := record?_reload hwire id
  have hschema : ((new id s.schema).loadModels wire).schema = s.schema := schema_replaceModels _ _
  generalize (new id s.schema).loadModels wire = t at hagain hread hschema ⊢
  refine { sends := ?_, models := ?_, fields := ?_, unknownFields := ?_, unknownModels := ?_ }
  · have hencode : t.encodeField = s.encodeField := by
      funext r v
      rw [encodeField, encodeField, hschema]
    have hsame : t.SendsRecord = s.SendsRecord := by
      unfold SendsRecord SendsFields
      rw [hencode]
    rw [wireModels_eq_ok_iff, hsame]
    exact hagain
  · have hnames := hagain.names_eq.symm.trans (wireModels_eq_ok_iff.1 hwire).names_eq
    exact (Dict.names_map _ _).symm.trans (hnames.trans (Dict.names_map _ _))
  · intro model
    rcases hread model with ⟨hnone, hnone'⟩ | ⟨record, read, hrecord, hread, hsends⟩
    · rw [hnone, hnone']
    · rw [hrecord, hread, Option.map_some, Option.map_some]
      exact congrArg some hsends.names_eq
  · rintro ⟨model, name⟩ hunknown
    rcases hread model with ⟨hnone, hnone'⟩ | ⟨record, read, hrecord, hread, hsends⟩
    · simp only [ModelStore.fieldValue?, hnone, hnone']
    · simp only [ModelStore.fieldValue?, hrecord, hread, Option.bind_some]
      exact hsends.get?_eq hunknown
  · intro model hunknown
    rcases hread model with ⟨hnone, hnone'⟩ | ⟨record, read, hrecord, hread, hsends⟩
    · rw [hnone, hnone']
    · rw [hrecord, hread]
      refine congrArg some (Dict.ext_get? fun name => hsends.get?_eq ?_)
      rw [Schema.field?, hunknown, Option.bind_none]

end reload
end Session

/-- Encoding is settled after one step: what is sent for a value is sent as it is, and accepted if
the value was.  So a new session that loads what another one sends has the same models and fields,
and sends the same. -/
theorem save_reload_stable :
    (∀ (t : FieldType) (v wire : Json), t.encode v = .ok wire →
      t.encode wire = .ok wire ∧ (t.validates v = true → t.validates wire = true)) ∧
    ∀ (s : Session) (wire : Entries Json), s.wireModels = .ok wire → ∀ id,
      s.Reloaded ((Session.new id s.schema).loadModels wire) wire :=
  ⟨fun _ _ _ h => ⟨FieldType.encode_encode h, FieldType.validates_encode h⟩,
    fun _ _ hwire id => Session.reloaded hwire id⟩

/-- A schema of one model, a beam with a field of each kind that changes what it sends. -/
def Schema.beam : Schema where
  models := Dict.ofList [("beam", Dict.ofList [
    ("count", ⟨"Count", ⟨.integer, true⟩, none, none⟩),
    ("current", ⟨"Current", ⟨.float, true⟩, none, none⟩),
    ("on", ⟨"On", ⟨.boolean, true⟩, none, none⟩)])]
  views := []

/-- A beam as it was entered, with a note that the schema does not know. -/
def Session.beamEntered : Session :=
  (Session.new ⟨1⟩ .beam).loadModels [("beam", .object [
    ("count", .string " 007 "), ("current", .string "2.50"), ("note", .string "2.50"),
    ("on", .bool true)])]

/-- What is sent for the beam. -/
def beamWire : Entries Json :=
  [("beam", .object [("count", .ofInt 7),
    ("current", .number (.float ⟨false, 1024 * Number.binadeSize + 1125899906842624, by decide⟩)),
    ("note", .string "2.50"), ("on", .string "1")])]

/-- The values that were entered are sent as the wire values of the beam. -/
theorem wireModels_beamEntered : Session.beamEntered.wireModels = .ok beamWire :=
  Except.toOption_eq_some_iff.1 (by decide +kernel)

/-- A flag that is written as text is sent as that text, and still saving and reloading is
stable. -/
theorem save_reload_stable_beam :
    FieldType.encode ⟨.boolean, true⟩ (.string "1") = .ok (.string "1") ∧
      Session.beamEntered.Reloaded ((Session.new ⟨2⟩ .beam).loadModels beamWire) beamWire :=
  ⟨(save_reload_stable.1 ⟨.boolean, true⟩ (.bool true) (.string "1") rfl).1,
    save_reload_stable.2 Session.beamEntered beamWire wireModels_beamEntered ⟨2⟩⟩

end PanelForms

import PanelForms.Proofs.Backend.Attempts
import PanelForms.Proofs.Session.Seeding

/-!
# Loading a simulation

A load makes three calls, reads the document that the last one gets, and puts its records into
the session.  Everything that can fail comes before the session is touched, so a load that fails
leaves the session as it was, and one that does not has done all of its work.

Main results:

- Definition `Simulation.FetchedVia`: the calls that got a document.
- Theorem `Simulation.fetch_eq_ok`: a document comes from these calls alone.
- Definitions `Simulation.Adopted` and `Simulation.Loaded`: all that a load owes.
- Theorem `Simulation.load_all_or_nothing`: a load owes the session nothing or all of it.
-/

namespace PanelForms
namespace Simulation

/-! ## The calls -/

variable {client : Client} {policy : RetryPolicy} {b b' : Backend} {s : Session}
  {simulation : Simulation} {models document : Entries Json}

/-- An attempt succeeds exactly if the run of the policy does. -/
theorem attempt_eq_ok_iff {α : Type} {call : Call α} {a : α} :
    attempt policy call b = (.ok a, b') ↔
      (policy.run call .never b).result = .ok a ∧ (policy.run call .never b).state = b' := by
  rw [attempt, Prod.mk.injEq, Except.mapError_eq_ok_iff]

/-- An attempt that succeeds has sent its request as often as the policy says. -/
theorem gets_of_attempt {α : Type} {call : Call α} {request : Request}
    (hsends : call.Sends request) {a : α} (h : attempt policy call b = (.ok a, b')) :
    policy.Gets call request b a b' := by
  obtain ⟨hresult, rfl⟩ := attempt_eq_ok_iff.1 h
  exact RetryPolicy.gets_of_run hsends hresult

/-- The request that logs in. -/
def loginRequest (client : Client) : Request :=
  .get (endpointPath ["auth-guest-login", client.appName])

/-- The request for the simulations of the application. -/
def listRequest (client : Client) : Request :=
  .post "/simulation-list" (.object [("simulationType", .string client.appName)])

/-- The request for the document of a simulation. -/
def sourceRequest (client : Client) (id : String) : Request :=
  .get (endpointPath ["simulation", client.appName, id, "0", "source"])

/-- The document of the simulation that is listed first was got by a login, a listing and a
request for it, each attempted as often as the retry rule asks for. -/
def FetchedVia (client : Client) (policy : RetryPolicy) (b : Backend) (id : String)
    (document : Entries Json) (b' : Backend) : Prop :=
  ∃ b₁ b₂ first others,
    policy.Gets client.guestLogin (loginRequest client) b () b₁ ∧
    policy.Gets client.simulationList (listRequest client) b₁ (first :: others) b₂ ∧
    first.member? "simulationId" = some (.string id) ∧
    policy.Gets (client.simulationSource id 0) (sourceRequest client id) b₂ (.object document) b'

/-- The simulation that is loaded is the first one of the list, by its identifier. -/
theorem firstId_eq_ok {list : List Json} {id : String} (h : firstId list = .ok id) :
    ∃ first others, list = first :: others ∧
      first.member? "simulationId" = some (.string id) := by
  cases list with
  | nil => cases h
  | cons first others =>
    refine ⟨first, others, rfl, ?_⟩
    simp only [firstId] at h
    split at h
    · next found hfound =>
      cases h
      obtain ⟨v, hv, hstring⟩ := Option.bind_eq_some_iff.1 hfound
      cases v <;> cases hstring
      exact hv
    · cases h

/-- The models of a simulation are the object under that name in its document. -/
theorem models?_eq_some_iff :
    simulation.models? = some models ↔
      Entries.get? "models" simulation.document = some (.object models) := by
  unfold models?
  split
  · next members hmembers => simp [hmembers]
  · next hother => exact ⟨nofun, fun h => (hother models h).elim⟩

/-- The id that a document is given leaves its records alone. -/
theorem models?_ofDocument {id : String} :
    (ofDocument id document).models? = some models ↔
      Entries.get? "models" document = some (.object models) := by
  have hne : ("simulationId" : String) ≠ "models" := by decide
  rw [models?_eq_some_iff, ofDocument, Entries.get?_insert, if_neg hne]

/-- A source that is accepted is a document with models. -/
theorem ofSource_eq_ok {id : String} {source : Json}
    (h : ofSource id source = .ok (simulation, models)) :
    ∃ document, source = .object document ∧ simulation = ofDocument id document ∧
      Entries.get? "models" document = some (.object models) := by
  cases source with
  | object document =>
    simp only [ofSource] at h
    split at h
    · next found hfound =>
      cases h
      exact ⟨document, rfl, rfl, models?_ofDocument.1 hfound⟩
    · cases h
  | _ => cases h

/-- A document comes from the three calls alone, and it has records. -/
theorem fetch_eq_ok (h : fetch client policy b = (.ok (simulation, models), b')) :
    ∃ document, FetchedVia client policy b simulation.id document b' ∧
      simulation = ofDocument simulation.id document ∧
      Entries.get? "models" document = some (.object models) := by
  -- Every call that fails ends the fetch, which leaves one way through.
  unfold fetch at h
  split at h
  · cases h
  next b₁ hlogin =>
  split at h
  · cases h
  next list b₂ hlist =>
  split at h
  · cases h
  next id hid =>
  split at h
  · cases h
  next source b₃ hsource =>
  obtain ⟨hread, rfl⟩ := Prod.mk.inj h
  obtain ⟨document, rfl, rfl, hmodels⟩ := ofSource_eq_ok hread
  obtain ⟨first, others, rfl, hfirst⟩ := firstId_eq_ok hid
  exact ⟨document, ⟨b₁, b₂, first, others,
    gets_of_attempt ((Call.sends_bytes _).bindResult _) hlogin,
    gets_of_attempt (Call.sends_json _ _) hlist, hfirst,
    gets_of_attempt (Call.sends_json _ _) hsource⟩, rfl, hmodels⟩

/-- What was fetched has sorted members. -/
theorem FetchedVia.canonical {id : String} (h : FetchedVia client policy b id document b') :
    (Json.object document).Canonical := by
  obtain ⟨_, _, _, _, _, _, _, n, _, hsucceeds, _⟩ := h
  exact hsucceeds.canonical

/-! ## The session -/

/-- What a session `t` holds that was `s` before it adopted the records of a document. -/
structure Adopted (models : Entries Json) (s t : Session) : Prop where
  /-- A record of the document is stored as it was received. -/
  received : ∀ model members, (model, Json.object members) ∈ models →
    ∃ record : ModelRecord, t.store.record? model = some record ∧
      record.toJson = .object members
  /-- Where the document has no record, whatever else it may have, the session keeps the one it
  had or takes the defaults. -/
  kept : ∀ model, (∀ members, (model, Json.object members) ∉ models) →
    t.store.record? model = s.leftFor model
  /-- The models of the schema are stored and have fresh editing states for their records. -/
  seeded : ∀ model fields, s.schema.models.get? model = some fields →
    ∃ record, t.store.record? model = some record ∧
      Dict.get? t.forms model = some (.ofRecord (some record) fields)
  /-- No edit is left. -/
  untouched : ∀ r state, t.forms.field? r = some state → state.touched = false
  /-- Models that the schema does not have get no editing states. -/
  outside : ∀ model, s.schema.models.get? model = none → Dict.get? t.forms model = none

/-- A model that the document holds is read as the record of its members. -/
theorem documented_of_mem (h : (Json.object models).Canonical) {model : String}
    {members : Entries Json} (hmem : (model, Json.object members) ∈ models) :
    ∃ record : ModelRecord, Session.documented models model = some record ∧
      record.toJson = .object members := by
  obtain ⟨hascending, hvalues⟩ := Json.canonical_object_iff.1 h
  have hmembers := (Json.canonical_object_iff.1 (hvalues _ hmem)).1
  refine ⟨Dict.ofList members, ?_, ?_⟩
  · rw [Session.documented, Entries.get?_eq_some_of_mem hascending hmem]
    rfl
  · rw [ModelRecord.toJson, Dict.entries_ofList hmembers]

/-- A model that the document does not hold as an object has no record in it. -/
theorem documented_eq_none {model : String}
    (hnone : ∀ members, (model, Json.object members) ∉ models) :
    Session.documented models model = none := by
  rw [Session.documented, Option.bind_eq_none_iff]
  intro v hv
  cases v with
  | object members => exact (hnone members (Entries.mem_of_get?_eq_some hv)).elim
  | _ => rfl

/-- Fields that were seeded from a record are untouched. -/
theorem touched_of_field?_ofRecord {forms : FormState} {r : FieldRef} {state : FieldState}
    {record : Option ModelRecord} {fields : ModelSchema}
    (hforms : Dict.get? forms r.model = some (.ofRecord record fields))
    (hstate : forms.field? r = some state) : state.touched = false := by
  rw [FormState.field?, hforms, Option.bind_some, ModelFormState.get?_ofRecord] at hstate
  obtain ⟨d, -, rfl⟩ := Option.map_eq_some_iff.1 hstate
  rfl

/-- Adopting a document does exactly what it should to the records and the forms. -/
theorem adopted_adopt (hmodels : (Json.object models).Canonical) (hcoherent : s.Coherent) :
    Adopted models s (adopt models s) := by
  have hascending := (Json.canonical_object_iff.1 hmodels).1
  have hforms := get?_forms_adopt hascending hcoherent
  refine { received := ?_, kept := ?_, seeded := ?_, untouched := ?_, outside := ?_ }
  · intro model members hmem
    obtain ⟨record, hrecord, hjson⟩ := documented_of_mem hmodels hmem
    exact ⟨record, by rw [record?_adopt hascending, hrecord, Option.some_or], hjson⟩
  · intro model hnone
    rw [record?_adopt hascending, documented_eq_none hnone, Option.none_or]
  · intro model fields hfields
    have hstored := contains_adopt hascending (Dict.contains_eq_true_iff.2 ⟨fields, hfields⟩)
    rw [Session.contains_eq_isSome_record?] at hstored
    obtain ⟨record, hrecord⟩ := Option.isSome_iff_exists.1 hstored
    exact ⟨record, hrecord, by rw [hforms, hfields, hrecord, Option.map_some]⟩
  · intro r state hstate
    cases hfields : s.schema.models.get? r.model with
    | some fields =>
      have hseeded := hforms r.model
      rw [hfields] at hseeded
      exact touched_of_field?_ofRecord hseeded hstate
    | none =>
      obtain ⟨states, hstates⟩ :=
        Dict.contains_eq_true_iff.1 (FormState.contains_of_field? hstate)
      rw [hforms, hfields] at hstates
      cases hstates
  · intro model hfields
    rw [hforms, hfields, Option.map_none]

/-! ## The load -/

/-- All that a load owes that gets a document with records. -/
structure Loaded (client : Client) (policy : RetryPolicy) (s : Session) (b : Backend)
    (document models : Entries Json) (simulation : Simulation) (t : Session) (b' : Backend) :
    Prop where
  /-- The document was got by the calls that are due, under the id that was listed. -/
  fetched : FetchedVia client policy b simulation.id document b'
  /-- It is kept as it was received, with its id. -/
  kept : simulation = ofDocument simulation.id document
  /-- The records are those of the document. -/
  records : Entries.get? "models" document = some (.object models)
  /-- The session has adopted the records. -/
  adopted : Adopted models s t
  /-- What would be sent back has the records of the session, the id, and all else as it was
  received. -/
  saved : ∀ body, saveBody simulation t = .ok body → ∃ wire members,
    t.wireModels = .ok wire ∧ body = .object members ∧
    Entries.get? "models" members = some (.object wire) ∧
    Entries.get? "simulationId" members = some (.string simulation.id) ∧
    ∀ name, name ≠ "models" → name ≠ "simulationId" →
      Entries.get? name members = Entries.get? name document

/-- The body of a save is the document of the simulation with the encoded models in the place of its
own. -/
theorem saveBody_eq_ok {t : Session} {body : Json} (h : saveBody simulation t = .ok body) :
    ∃ wire, t.wireModels = .ok wire ∧
      body = .object (Entries.insert "models" (.object wire) simulation.document) := by
  unfold saveBody at h
  split at h
  · cases h
  · next wire hwire =>
    cases h
    exact ⟨wire, hwire, rfl⟩

/-- The members of what is sent back for a document. -/
theorem get?_saved {id name : String} {wire : Entries Json} :
    Entries.get? name (Entries.insert "models" (.object wire) (ofDocument id document).document) =
      if name = "models" then some (.object wire)
      else if name = "simulationId" then some (.string id) else Entries.get? name document := by
  simp only [ofDocument, Entries.get?_insert, eq_comm]

/-- A fetch that succeeds leads to a full load. -/
theorem loaded_adopt (hcoherent : s.Coherent)
    (h : fetch client policy b = (.ok (simulation, models), b')) :
    ∃ document, Loaded client policy s b document models simulation (adopt models s) b' := by
  obtain ⟨document, hfetched, hkept, hrecords⟩ := fetch_eq_ok h
  have hcanonical : (Json.object models).Canonical := hfetched.canonical.of_get? hrecords
  refine ⟨document, hfetched, hkept, hrecords, adopted_adopt hcanonical hcoherent, ?_⟩
  intro body hbody
  obtain ⟨wire, hwire, rfl⟩ := saveBody_eq_ok hbody
  refine ⟨wire, _, hwire, rfl, ?_⟩
  rw [hkept]
  refine ⟨get?_saved, get?_saved, fun name hmodels hid => ?_⟩
  rw [get?_saved, if_neg hmodels, if_neg hid]

/-- A load fails exactly if it gets no document, and leaves the session then. -/
theorem load_eq_error_iff {e : SimulationError} {t : Session} :
    load client policy s b = (.error e, t, b') ↔
      fetch client policy b = (.error e, b') ∧ t = s := by
  unfold load
  split
  next error after hfetch =>
    rw [hfetch]
    constructor
    · rintro ⟨⟩
      exact ⟨rfl, rfl⟩
    · rintro ⟨⟨⟩, rfl⟩
      rfl
  next hfetch => simp [hfetch]

/-- A load goes through exactly if it gets a document, whose records the session then adopts. -/
theorem load_eq_ok_iff {t : Session} :
    load client policy s b = (.ok simulation, t, b') ↔
      ∃ models, fetch client policy b = (.ok (simulation, models), b') ∧ t = adopt models s := by
  unfold load
  split
  next hfetch => simp [hfetch]
  next found models after hfetch =>
    rw [hfetch]
    constructor
    · rintro ⟨⟩
      exact ⟨models, rfl, rfl⟩
    · rintro ⟨_, ⟨⟩, rfl⟩
      rfl

/-- A load that fails leaves the session as it was, whatever failed and whatever the session
holds, and a load that goes through has made the calls that are due and done all its work. -/
theorem load_all_or_nothing {p : Panels} (hp : p.ReachableVia Panels.OwnBinding) (client : Client)
    (policy : RetryPolicy) (b : Backend) :
    (∀ e t b', load client policy p.session b = (.error e, t, b') → t = p.session) ∧
      ∀ simulation t b', load client policy p.session b = (.ok simulation, t, b') →
        ∃ document models,
          Loaded client policy p.session b document models simulation t b' := by
  refine ⟨fun _ _ _ h => (load_eq_error_iff.1 h).2, fun simulation t b' h => ?_⟩
  obtain ⟨models, hfetch, rfl⟩ := load_eq_ok_iff.1 h
  obtain ⟨document, hloaded⟩ := loaded_adopt (Panels.own_of_reachable hp).coherent hfetch
  exact ⟨document, models, hloaded⟩

/-- A backend with one simulation. -/
def deskBackend (document : Entries Json) : Backend :=
  ((Backend.empty.script (.get, "/auth-guest-login/desk") [.ok (.json .null)]).script
    (.post, "/simulation-list") [.ok (.json (.array [.object [("simulationId", .string "s")]]))]
    ).script (.get, "/simulation/desk/s/0/source") [.ok (.json (.object document))]

/-- The records of a document: one for the memo, one that no form edits, and a value that is no
record. -/
def deskModels : Entries Json :=
  [("memo", .object [("title", .string "sent")]), ("notes", .ofInt 3), ("plot", .object [])]

/-- A document with these records. -/
def deskDocument : Entries Json :=
  [("models", .object deskModels), ("version", .string "1")]

/-- A load succeeds as soon as its fetch does. -/
theorem load_eq_ok_of_fetch (h : (fetch client policy b).1.toOption = some (simulation, models))
    (s : Session) :
    load client policy s b = (.ok simulation, adopt models s, (fetch client policy b).2) :=
  load_eq_ok_iff.2 ⟨models, Prod.ext (Except.toOption_eq_some_iff.1 h) rfl, rfl⟩

/-- The document of the desk is loaded in full. -/
theorem load_deskDocument (s : Session) :
    load ⟨"desk"⟩ .none s (deskBackend deskDocument) =
      (.ok (ofDocument "s" deskDocument), adopt deskModels s,
        (fetch ⟨"desk"⟩ .none (deskBackend deskDocument)).2) :=
  load_eq_ok_of_fetch (by decide +kernel) s

/-- Without any answer a load gets no further than the login. -/
theorem load_unanswered (s : Session) :
    ∃ e, (load ⟨"desk"⟩ .none s Backend.empty).1 = .error e :=
  ⟨_, rfl⟩

/-- A load from an empty backend leaves the edited session alone, and a load of the document of the
desk adopts it in full. -/
theorem load_all_or_nothing_titleEdited :
    (load ⟨"desk"⟩ .none (Panels.desk.run Panels.titleEdited).session Backend.empty).2.1 =
        (Panels.desk.run Panels.titleEdited).session ∧
      ∃ document models, Loaded ⟨"desk"⟩ .none (Panels.desk.run Panels.titleEdited).session
        (deskBackend deskDocument) document models (ofDocument "s" deskDocument)
        (adopt deskModels (Panels.desk.run Panels.titleEdited).session)
        (fetch ⟨"desk"⟩ .none (deskBackend deskDocument)).2 := by
  obtain ⟨e, he⟩ := load_unanswered (Panels.desk.run Panels.titleEdited).session
  constructor
  · exact (load_all_or_nothing Panels.reachable_titleEdited _ _ _).1 e _ _ (Prod.ext he rfl)
  · exact (load_all_or_nothing Panels.reachable_titleEdited _ _ _).2 _ _ _ (load_deskDocument _)

end Simulation
end PanelForms

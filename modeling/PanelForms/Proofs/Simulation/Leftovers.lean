import PanelForms.Proofs.Simulation.Load

/-!
# What a load leaves of the session before it

A load stores the records of a document, and fills in defaults where the session then has no
record.  A record that the session held before counts as one, so a model that the document lacks
keeps it, and the session after the load tells which simulation was loaded before.  This module
says exactly when it does.

Main results:

- Definition `Session.LeavesNothing`: a session holds nothing that a document would not replace.
- Theorem `Simulation.holdsOnly_adopt_iff`: when only the document decides.
- Theorem `Simulation.agree_adopt_iff`: when two sessions end alike.
- Theorem `Simulation.load_leaves`: both, for loads into any two sessions over one schema.
-/

namespace PanelForms
namespace Session

/-- The session holds exactly the records of a document, and the defaults of the models of the
schema that the document has no record for. -/
def HoldsOnly (models : Entries Json) (t : Session) : Prop :=
  ∀ model, t.store.record? model =
    (documented models model).or (t.schema.defaultModel? model)

/-- For a model that the document has no record for, the session holds the defaults or nothing. -/
def LeavesNothing (models : Entries Json) (s : Session) : Prop :=
  ∀ model, documented models model = none →
    s.store.record? model = none ∨ s.store.record? model = s.schema.defaultModel? model

/-- Two sessions have equal records and equal editing states. -/
structure Agree (t u : Session) : Prop where
  records : ∀ model, t.store.record? model = u.store.record? model
  forms : t.forms = u.forms

/-- What is left for a model is what its defaults make exactly if nothing else is stored. -/
theorem leftFor_eq_default_iff {s : Session} {model : String} :
    s.leftFor model = s.schema.defaultModel? model ↔
      s.store.record? model = none ∨ s.store.record? model = s.schema.defaultModel? model := by
  rw [leftFor]
  cases s.store.record? model <;> simp

end Session

namespace Simulation

open Session

variable {s s' : Session} {models : Entries Json}

/-- Only the document decides exactly if the session left nothing. -/
theorem holdsOnly_adopt_iff (h : Entries.Ascending models) :
    (adopt models s).HoldsOnly models ↔ s.LeavesNothing models := by
  simp only [HoldsOnly, LeavesNothing, record?_adopt h, schema_adopt, ← leftFor_eq_default_iff]
  refine forall_congr' fun model => ?_
  cases documented models model <;> simp

/-- Two sessions over one schema end alike exactly if they had the same left for every model that
the document has no record for. -/
theorem agree_adopt_iff (h : Entries.Ascending models) (hs : s.Coherent) (hs' : s'.Coherent)
    (hschema : s'.schema = s.schema) :
    (adopt models s).Agree (adopt models s') ↔
      ∀ model, documented models model = none → s.leftFor model = s'.leftFor model := by
  have hrecords : (∀ model, (adopt models s).store.record? model =
      (adopt models s').store.record? model) ↔
        ∀ model, documented models model = none → s.leftFor model = s'.leftFor model := by
    simp only [record?_adopt h]
    refine forall_congr' fun model => ?_
    cases documented models model <;> simp
  refine ⟨fun hagree => hrecords.1 hagree.records, fun hleft => ?_⟩
  have hsame := hrecords.2 hleft
  refine ⟨hsame, Dict.ext_get? fun model => ?_⟩
  -- Editing states are seeded from the records, so they are alike if the records are.
  rw [get?_forms_adopt h hs, get?_forms_adopt h hs', hschema, hsame]

/-- A load that succeeds leaves the session with the adopted document. -/
theorem adopts_of_load {client : Client} {policy : RetryPolicy} {b b' : Backend}
    {simulation : Simulation} {t : Session}
    (h : load client policy s b = (.ok simulation, t, b')) :
    ∃ models, simulation.models? = some models ∧ Entries.Ascending models ∧
      t = adopt models s := by
  obtain ⟨models, hfetch, rfl⟩ := load_eq_ok_iff.1 h
  obtain ⟨document, hfetched, hkept, hrecords⟩ := fetch_eq_ok hfetch
  refine ⟨models, ?_, ?_, rfl⟩
  · rw [hkept]
    exact models?_ofDocument.2 hrecords
  · exact (Json.canonical_object_iff.1 (hfetched.canonical.of_get? hrecords)).1

/-- Let one simulation be loaded into two sessions over one schema, whatever they held before.
Every model has the record of the document, and where the document has none, what its session had
left for it.  So the document alone decides what a session holds exactly if that session left
nothing, and the two end alike exactly if they left the same. -/
theorem load_leaves {p q : Panels} (hp : p.ReachableVia Panels.OwnBinding)
    (hq : q.ReachableVia Panels.OwnBinding) (hschema : q.session.schema = p.session.schema)
    {client client' : Client} {policy policy' : RetryPolicy} {b b' c c' : Backend}
    {simulation : Simulation} {t u : Session}
    (ht : load client policy p.session b = (.ok simulation, t, b'))
    (hu : load client' policy' q.session c = (.ok simulation, u, c')) :
    ∃ models, simulation.models? = some models ∧
      (∀ model, t.store.record? model =
        (documented models model).or (p.session.leftFor model)) ∧
      (t.HoldsOnly models ↔ p.session.LeavesNothing models) ∧
      (t.Agree u ↔ ∀ model, documented models model = none →
        p.session.leftFor model = q.session.leftFor model) := by
  obtain ⟨models, hmodels, hascending, rfl⟩ := adopts_of_load ht
  obtain ⟨models', hmodels', -, rfl⟩ := adopts_of_load hu
  obtain rfl : models' = models := Option.some.inj (hmodels'.symm.trans hmodels)
  have hcoherent := (Panels.own_of_reachable hp).coherent
  have hcoherent' := (Panels.own_of_reachable hq).coherent
  exact ⟨models', hmodels, record?_adopt hascending _, holdsOnly_adopt_iff hascending,
    agree_adopt_iff hascending hcoherent hcoherent' hschema⟩

/-- The load replaces the edited memo, and leaves what the session had for all models that the
document does not hold. -/
theorem load_leaves_titleEdited :
    ∃ models, (ofDocument "s" deskDocument).models? = some models ∧
      (∀ model, (adopt deskModels (Panels.desk.run Panels.titleEdited).session).store.record? model
        = (documented models model).or
          ((Panels.desk.run Panels.titleEdited).session.leftFor model)) ∧
      ((adopt deskModels (Panels.desk.run Panels.titleEdited).session).HoldsOnly models ↔
        (Panels.desk.run Panels.titleEdited).session.LeavesNothing models) ∧
      ((adopt deskModels (Panels.desk.run Panels.titleEdited).session).Agree
          (adopt deskModels Panels.desk.session) ↔
        ∀ model, documented models model = none →
          (Panels.desk.run Panels.titleEdited).session.leftFor model =
            Panels.desk.session.leftFor model) :=
  load_leaves Panels.reachable_titleEdited (.fresh Panels.fresh_desk) rfl
    (load_deskDocument _) (load_deskDocument _)

/-- A document without any record. -/
def blankDocument : Entries Json :=
  [("models", .object [])]

/-- A document without models is loaded and leaves the session as its defaults make it. -/
theorem load_blankDocument (s : Session) :
    load ⟨"desk"⟩ .none s (deskBackend blankDocument) =
      (.ok (ofDocument "s" blankDocument), adopt [] s,
        (fetch ⟨"desk"⟩ .none (deskBackend blankDocument)).2) :=
  load_eq_ok_of_fetch (by decide +kernel) s

/-- A load leaks what the session held: the memo that was stored before stays where the document
has none. -/
theorem not_every_load_clean :
    ¬ ∀ p q : Panels, p.ReachableVia Panels.OwnBinding → q.ReachableVia Panels.OwnBinding →
      q.session.schema = p.session.schema → ∀ client policy b simulation t u b' c',
      load client policy p.session b = (.ok simulation, t, b') →
      load client policy q.session b = (.ok simulation, u, c') →
        (∀ models, simulation.models? = some models → t.HoldsOnly models) ∧ t.Agree u := by
  intro hall
  obtain ⟨-, hagree⟩ := hall _ _ Panels.reachable_titleEdited (.fresh Panels.fresh_desk) rfl
    _ _ _ _ _ _ _ _ (load_blankDocument _) (load_blankDocument _)
  have hkept : (adopt [] (Panels.desk.run Panels.titleEdited).session).store.record? "memo" =
      some (.memo "old" "text") := by decide +kernel
  have hdefaults : (adopt [] Panels.desk.session).store.record? "memo" = some Dict.empty := by
    decide +kernel
  have hsame := hagree.records "memo"
  rw [hkept, hdefaults] at hsame
  exact absurd hsame (by decide)

end Simulation
end PanelForms

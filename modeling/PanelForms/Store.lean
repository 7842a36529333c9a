import PanelForms.FieldRef
import PanelForms.Json.Basic

/-!
# The store of canonical models

A store holds the committed record of every model.  Every replacement is stamped with a revision
greater than all before it, of whatever model, and announced to every subscription that is still
held.

Main definitions:

- `Revision`, `ModelChange`, `ModelStore`.
- `ModelStore.update`: replace a record.
- `ModelStore.selectValues`: the values that several references read.
- `ModelStore.subscribe`, `ModelStore.drop`, `ModelStore.receive`: announcements.
-/

namespace PanelForms

/-- A stamp of a replacement; zero stands for a model that was never stored. -/
structure Revision where
  number : Nat
  deriving DecidableEq

namespace Revision

/-- The revision of a model that was never stored. -/
def none : Revision := ⟨0⟩

/-- How a revision is shown. -/
def text (r : Revision) : String :=
  "rev" ++ toString r.number

end Revision

/-- The announcement of a replacement. -/
structure ModelChange where
  model : String
  revision : Revision
  deriving DecidableEq

/-- A record with the stamp of the replacement that wrote it. -/
structure StoredModel where
  record : ModelRecord
  revision : Revision
  deriving DecidableEq

/-- The announcements a subscriber has not received yet, and whether it still wants any. -/
structure Subscription where
  held : Bool
  waiting : List ModelChange
  deriving DecidableEq

/-- The committed records, the number of the last stamp, and the subscriptions in the order they
were made. -/
structure ModelStore where
  models : Dict StoredModel
  lastStamp : Nat
  subscriptions : List Subscription

namespace Subscription

/-- Announce a change to a subscription that is still held. -/
def announce (change : ModelChange) (s : Subscription) : Subscription :=
  if s.held then { s with waiting := s.waiting ++ [change] } else s

end Subscription

namespace ModelStore

/-- A store without models. -/
def empty : ModelStore :=
  ⟨Dict.empty, 0, []⟩

/-- The revision of the next replacement. -/
def nextRevision (s : ModelStore) : Revision :=
  ⟨s.lastStamp + 1⟩

/-- Replace a record and announce it.  The new revision is `s.nextRevision`. -/
def update (s : ModelStore) (model : String) (record : ModelRecord) : ModelStore where
  models := s.models.insert model ⟨record, s.nextRevision⟩
  lastStamp := s.lastStamp + 1
  subscriptions := s.subscriptions.map (·.announce ⟨model, s.nextRevision⟩)

/-- The record of a model. -/
def record? (s : ModelStore) (model : String) : Option ModelRecord :=
  (s.models.get? model).map (·.record)

/-- Whether a model is stored. -/
def contains (s : ModelStore) (model : String) : Bool :=
  s.models.contains model

/-- The revision of a model. -/
def revision (s : ModelStore) (model : String) : Revision :=
  ((s.models.get? model).map (·.revision)).getD .none

/-- The value of a field, if its model and the field in it exist. -/
def fieldValue? (s : ModelStore) (r : FieldRef) : Option Json :=
  (s.record? r.model).bind fun record => record.get? r.field

/-- The values of several fields, null where there is none. -/
def selectValues (s : ModelStore) (refs : List FieldRef) : List Json :=
  refs.map fun r => (s.fieldValue? r).getD .null

/-- The records and their revisions in order of names. -/
def snapshot (s : ModelStore) : List (String × StoredModel) :=
  s.models.entries

/-- Make a subscription; its place in the list names it. -/
def subscribe (s : ModelStore) : ModelStore :=
  { s with subscriptions := s.subscriptions ++ [⟨true, []⟩] }

/-- Whether a subscription is still held. -/
def holds (s : ModelStore) (i : Nat) : Bool :=
  s.subscriptions[i]?.any (·.held)

/-- Give a subscription up, with all that waits for it. -/
def drop (s : ModelStore) (i : Nat) : ModelStore :=
  { s with subscriptions := s.subscriptions.modify i fun _ => ⟨false, []⟩ }

/-- The announcements that wait for a subscription, if it is still held. -/
def waiting? (s : ModelStore) (i : Nat) : Option (List ModelChange) :=
  s.subscriptions[i]?.bind fun sub => if sub.held then some sub.waiting else none

/-- The store after a subscriber has taken all that waits for it. -/
def receive (s : ModelStore) (i : Nat) : ModelStore :=
  { s with subscriptions := s.subscriptions.modify i fun sub => { sub with waiting := [] } }

/-- The record of a model after an update. -/
theorem record?_update (s : ModelStore) (model other : String) (record : ModelRecord) :
    (s.update model record).record? other =
      if model = other then some record else s.record? other := by
  by_cases h : model = other <;> simp [record?, update, Dict.get?_insert, h]

/-- The revision of a model after an update. -/
theorem revision_update (s : ModelStore) (model other : String) (record : ModelRecord) :
    (s.update model record).revision other =
      if model = other then s.nextRevision else s.revision other := by
  by_cases h : model = other <;> simp [revision, update, Dict.get?_insert, h]

/-- The value of a field after an update. -/
theorem fieldValue?_update (s : ModelStore) (model : String) (record : ModelRecord)
    (r : FieldRef) :
    (s.update model record).fieldValue? r =
      if model = r.model then record.get? r.field else s.fieldValue? r := by
  by_cases h : model = r.model <;> simp [fieldValue?, record?_update, h]

/-- A replacement is announced to every subscription that is held, after all that waits. -/
theorem waiting?_update (s : ModelStore) (model : String) (record : ModelRecord) (i : Nat) :
    (s.update model record).waiting? i =
      (s.waiting? i).map (· ++ [⟨model, s.nextRevision⟩]) := by
  simp only [waiting?, update, List.getElem?_map]
  cases s.subscriptions[i]? with
  | none => rfl
  | some sub => by_cases h : sub.held = true <;> simp [Subscription.announce, h]

end ModelStore
end PanelForms

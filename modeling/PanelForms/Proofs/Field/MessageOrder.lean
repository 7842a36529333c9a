import Mathlib.Data.List.Permutation
import PanelForms.Field.Validation
import PanelForms.Proofs.Text.Substitution

/-!
# The order of message parameters

The parameters of a rejection come out of a table in no particular order, and each is filled into
the whole text that the ones before it have left.  A message has its parameters put in just as they
are, in every order, unless the text of one of them holds the placeholder of another: only a choice
field can be in this situation, with a value or an allowed list that looks like a template.

Main results:

- Definitions `Text.Mentions` and `Rejection.Reexpands`: a text that holds a placeholder, and a
  rejection of which one parameter holds the placeholder of another.
- Theorems `Text.TwoPart.fill_forwards` and `Text.TwoPart.fill_backwards`: a template of two
  placeholders filled in either order.
- Theorem `FieldType.message_verbatim_iff`: the messages that are the same in every order, with
  every parameter put in once and as it is.
-/

namespace PanelForms

namespace Text

/-! ## Templates of one placeholder -/

/-- A template that starts with its only placeholder has the text of the parameter put in as it
is. -/
theorem fill_one {template key : String} {rest : List Char}
    (htemplate : template.toList = (placeholder key).toList ++ rest) (hrest : '\x7b' ∉ rest)
    (v : String) : fillTemplate template [(key, v)] = fillOnce template [(key, v)] := by
  have hreplaced : replaceFrom (placeholder key).toList v.toList 0 rest = rest :=
    replaceFrom_of_no_occurrence fun hoccurs =>
      hrest (hoccurs.subset (by simp [toList_placeholder]))
  have hfilled : fillOnceFrom [(key, v)] 0 rest = rest := by
    have hall := fillOnceFrom_append [(key, v)] hrest []
    rwa [fillOnceFrom_nil, List.append_nil] at hall
  show replaceAll _ _ template = _
  rw [← String.toList_inj, toList_replaceAll, fillOnce, String.toList_ofList, htemplate,
    replaceFrom_at_occurrence _ (placeholder_ne_nil key), fillOnceFrom_first, hreplaced, hfilled]

/-! ## Templates of two placeholders -/

/-- A text holds the placeholder of a parameter. -/
def Mentions (text key : String) : Prop :=
  (placeholder key).toList <:+: text.toList

instance (text key : String) : Decidable (Mentions text key) :=
  inferInstanceAs (Decidable ((placeholder key).toList <:+: text.toList))

/-- A template of two placeholders.  What stands between them has no brace and starts with a blank,
which the second placeholder does not have, and neither placeholder holds the other. -/
structure TwoPart (template first second : String) (between : List Char) : Prop where
  template_eq : template.toList =
    (placeholder first).toList ++ (' ' :: between ++ (placeholder second).toList)
  unbraced : '\x7b' ∉ ' ' :: between
  unblank : ' ' ∉ (placeholder second).toList
  first_apart : ¬ Mentions (placeholder second) first
  second_apart : ¬ Mentions (placeholder first) second

namespace TwoPart

variable {template first second : String} {between : List Char}
  (h : TwoPart template first second between) (v w : String)

include h

/-- The words between the two placeholders hold no brace. -/
theorem between_unbraced : '\x7b' ∉ between :=
  fun hmem => h.unbraced (List.mem_cons_of_mem _ hmem)

/-- The first placeholder filled first: the replacement of the second one also runs over the text
of the first. -/
theorem fill_forwards :
    (fillTemplate template [(first, v), (second, w)]).toList =
      replaceFrom (placeholder second).toList w.toList 0 v.toList ++
        (' ' :: between ++ w.toList) := by
  have hfirst : replaceFrom (placeholder first).toList v.toList 0 template.toList =
      v.toList ++ (' ' :: between ++ (placeholder second).toList) := by
    rw [h.template_eq, replaceFrom_at_occurrence _ (placeholder_ne_nil first),
      replaceFrom_placeholder_append first h.unbraced, replaceFrom_of_no_occurrence h.first_apart]
  show (replaceAll _ _ (replaceAll _ _ template)).toList = _
  rw [toList_replaceAll, toList_replaceAll, hfirst, List.cons_append,
    replaceFrom_append_cons (placeholder_ne_nil second) h.unblank 0 _ _ (Nat.zero_le _),
    replaceFrom_placeholder_append second h.between_unbraced, replaceFrom_placeholder]
  rfl

/-- The second placeholder filled first: the replacement of the first one also runs over the text
of the second. -/
theorem fill_backwards :
    (fillTemplate template [(second, w), (first, v)]).toList =
      v.toList ++
        (' ' :: between ++ replaceFrom (placeholder first).toList v.toList 0 w.toList) := by
  have hsecond : replaceFrom (placeholder second).toList w.toList 0 template.toList =
      (placeholder first).toList ++ (' ' :: between ++ w.toList) := by
    rw [h.template_eq, List.cons_append,
      replaceFrom_append_cons (placeholder_ne_nil second) h.unblank 0 _ _ (Nat.zero_le _),
      replaceFrom_of_no_occurrence h.second_apart,
      replaceFrom_placeholder_append second h.between_unbraced, replaceFrom_placeholder]
    rfl
  show (replaceAll _ _ (replaceAll _ _ template)).toList = _
  rw [toList_replaceAll, toList_replaceAll, hsecond,
    replaceFrom_at_occurrence _ (placeholder_ne_nil first),
    replaceFrom_placeholder_append first h.unbraced]

/-- Both placeholders filled at once. -/
theorem fillOnce_eq :
    (fillOnce template [(first, v), (second, w)]).toList =
      v.toList ++ (' ' :: between ++ w.toList) := by
  have hlast : fillOnceFrom [(first, v), (second, w)] 0 (placeholder second).toList =
      w.toList := by
    have hsecond := @fillOnceFrom_second second (first, v) w [] []
    rw [List.append_nil, fillOnceFrom_nil, List.append_nil] at hsecond
    exact hsecond fun hstarts => h.first_apart hstarts.isInfix
  rw [fillOnce, String.toList_ofList, h.template_eq, fillOnceFrom_first,
    fillOnceFrom_append _ h.unbraced, hlast]

/-- The first placeholder filled first puts both texts in as they are exactly if the first text does
not hold the second placeholder, or the second text is this placeholder. -/
theorem fill_forwards_eq_iff :
    fillTemplate template [(first, v), (second, w)] =
        fillOnce template [(first, v), (second, w)] ↔
      ¬ Mentions v second ∨ w = placeholder second := by
  rw [← String.toList_inj, h.fill_forwards, h.fillOnce_eq, List.append_cancel_right_eq,
    replaceFrom_eq_self_iff (placeholder_ne_nil second), String.toList_inj]
  rfl

/-- The second placeholder filled first: the same the other way round. -/
theorem fill_backwards_eq_iff :
    fillTemplate template [(second, w), (first, v)] =
        fillOnce template [(first, v), (second, w)] ↔
      ¬ Mentions w first ∨ v = placeholder first := by
  rw [← String.toList_inj, h.fill_backwards, h.fillOnce_eq, List.append_cancel_left_eq,
    List.append_cancel_left_eq, replaceFrom_eq_self_iff (placeholder_ne_nil first),
    String.toList_inj]
  rfl

/-- Every order puts both texts in as they are exactly if neither of them holds the placeholder of
the other and is changed by the other's text. -/
theorem verbatim_iff :
    (∀ params, params.Perm [(first, v), (second, w)] →
        fillTemplate template params = fillOnce template [(first, v), (second, w)]) ↔
      (¬ Mentions v second ∨ w = placeholder second) ∧
        (¬ Mentions w first ∨ v = placeholder first) := by
  rw [← h.fill_forwards_eq_iff, ← h.fill_backwards_eq_iff]
  simp only [List.perm_pair, forall_eq_or_imp, forall_eq]

end TwoPart
end Text

/-! ## Rejections -/

namespace Rejection

/-- The text of one parameter holds the placeholder of another one, whose text is not just that
placeholder. -/
def Reexpands (r : Rejection) : Prop :=
  ∃ p ∈ r.params, ∃ other ∈ r.params, other.1 ≠ p.1 ∧ Text.Mentions p.2 other.1 ∧
    other.2 ≠ Text.placeholder other.1

/-- Every order puts the texts of all parameters in as they are. -/
def Verbatim (r : Rejection) : Prop :=
  ∀ params, params.Perm r.params →
    Text.fillTemplate r.template params = Text.fillOnce r.template r.params

/-- The message about a choice names the value first and then the allowed ones. -/
theorem twoPart_choice (text : String) (allowed : List String) :
    Text.TwoPart (choice text allowed).template "value" "allowed" "is not one of ".toList :=
  ⟨by rw [template]; decide, by decide, by decide, by decide, by decide⟩

/-- The message about a shape names the kind first and then the shape that was found. -/
theorem twoPart_shape (kind found : String) :
    Text.TwoPart (shape kind found).template "kind" "shape" "field cannot hold a ".toList :=
  ⟨by rw [template]; decide, by decide, by decide, by decide, by decide⟩

/-- The message of a choice field with everything put in as it is. -/
theorem fillOnce_choice (text : String) (allowed : List String) :
    Text.fillOnce (choice text allowed).template (choice text allowed).params =
      text ++ " is not one of " ++ String.intercalate ", " allowed := by
  rw [← String.toList_inj, params, (twoPart_choice text allowed).fillOnce_eq, String.toList_append,
    String.toList_append, List.append_assoc]
  rfl

/-- With two parameters, a message expands again exactly if the text of one holds the placeholder
of the other, whose text is not just that placeholder. -/
theorem reexpands_pair_iff {r : Rejection} {first second v w : String}
    (hparams : r.params = [(first, v), (second, w)]) (hne : first ≠ second) :
    r.Reexpands ↔ (Text.Mentions v second ∧ w ≠ Text.placeholder second) ∨
      (Text.Mentions w first ∧ v ≠ Text.placeholder first) := by
  simp [Reexpands, hparams, hne, hne.symm]

/-- A message with one parameter, whose template goes on without placeholders, holds its value
verbatim unless it expands again. -/
theorem verbatim_single_iff {r : Rejection} {key v : String} (rest : List Char)
    (hparams : r.params = [(key, v)])
    (htemplate : r.template.toList = (Text.placeholder key).toList ++ rest)
    (hrest : '\x7b' ∉ rest) : r.Verbatim ↔ ¬ r.Reexpands := by
  refine iff_of_true ?_ (by simp [Reexpands, hparams])
  intro params hperm
  rw [hparams, List.perm_singleton] at hperm
  rw [hperm, hparams, Text.fill_one htemplate hrest]

/-- A message with two parameters in a row holds both verbatim unless one of them expands again. -/
theorem verbatim_pair_iff {r : Rejection} {first second v w : String} {between : List Char}
    (hparams : r.params = [(first, v), (second, w)]) (hne : first ≠ second)
    (htemplate : Text.TwoPart r.template first second between) :
    r.Verbatim ↔ ¬ r.Reexpands := by
  rw [reexpands_pair_iff hparams hne, Verbatim, hparams, htemplate.verbatim_iff]
  tauto

/-- The messages of a rejection have all texts put in as they are, in every order, exactly if no
parameter holds the placeholder of another one. -/
theorem verbatim_iff (r : Rejection) : r.Verbatim ↔ ¬ r.Reexpands := by
  cases r with
  | required =>
    refine iff_of_true ?_ (by simp [Reexpands, params])
    intro order hperm
    rw [List.perm_nil.mp hperm, Text.fillOnce, params, Text.fillOnceFrom_no_params,
      String.ofList_toList]
    rfl
  | integer text =>
    exact verbatim_single_iff " is not an integer".toList rfl (by rw [template]; decide) (by decide)
  | float text =>
    exact verbatim_single_iff " is not a number".toList rfl (by rw [template]; decide) (by decide)
  | boolean text =>
    exact verbatim_single_iff " is not a boolean".toList rfl (by rw [template]; decide) (by decide)
  | choice text allowed => exact verbatim_pair_iff rfl (by decide) (twoPart_choice text allowed)
  | shape kind found => exact verbatim_pair_iff rfl (by decide) (twoPart_shape kind found)

end Rejection

/-! ## Rejections of values -/

namespace FieldType

variable {t : FieldType} {v : Json} {r : Rejection}

/-- Text is never rejected for its shape. -/
theorem checkText_ne_shape (v : Json) (text kind found : String) :
    t.checkText v text ≠ some (.shape kind found) := by
  intro h
  unfold checkText at h
  split at h
  · cases h
  · cases h
  · cases h
  · split at h <;> cases h
  · split at h <;> cases h
  · split at h <;> cases h
  · split at h <;> cases h

/-- A value of the wrong shape is rejected with the names of the field's kind and of its shape. -/
theorem check_eq_shape {kind found : String} (h : t.check v = some (.shape kind found)) :
    kind = t.kind.name ∧ found = v.shapeName := by
  have hmissing : t.checkMissing ≠ some (.shape kind found) := by
    unfold checkMissing
    split <;> simp
  unfold check at h
  split at h
  · split at h
    · exact absurd h hmissing
    · cases h
      exact ⟨rfl, rfl⟩
  · split at h
    · exact absurd h hmissing
    · exact absurd h (checkText_ne_shape v _ kind found)

/-- A value of the wrong shape is rejected with names that hold no placeholder. -/
theorem not_reexpands_shape {kind found : String} (h : t.check v = some (.shape kind found)) :
    ¬ (Rejection.shape kind found).Reexpands := by
  obtain ⟨rfl, rfl⟩ := check_eq_shape h
  have hkind : ¬ Text.Mentions t.kind.name "shape" := by
    cases t.kind <;> rw [FieldKind.name] <;> decide
  have hfound : ¬ Text.Mentions v.shapeName "kind" := by
    unfold Json.shapeName
    split <;> decide
  rw [Rejection.reexpands_pair_iff rfl (by decide), not_or]
  exact ⟨fun hmentions => hkind hmentions.1, fun hmentions => hfound hmentions.1⟩

/-- The messages of a rejected value are the same in every order, with every parameter put in once
and as it is, exactly if no parameter holds the placeholder of another one.  Only a choice field can
reject a value otherwise. -/
theorem message_verbatim_iff (h : t.check v = some r) :
    ((∀ params, params.Perm r.params →
        Text.fillTemplate r.template params = Text.fillOnce r.template r.params) ↔
      ¬ r.Reexpands) ∧
    (r.Reexpands ↔ ∃ text allowed, r = .choice text allowed ∧
      ((Text.Mentions text "allowed" ∧
          String.intercalate ", " allowed ≠ Text.placeholder "allowed") ∨
        (Text.Mentions (String.intercalate ", " allowed) "value" ∧
          text ≠ Text.placeholder "value"))) := by
  refine ⟨r.verbatim_iff, ?_⟩
  cases r with
  | required => simp [Rejection.Reexpands, Rejection.params]
  | integer text => simp [Rejection.Reexpands, Rejection.params]
  | float text => simp [Rejection.Reexpands, Rejection.params]
  | boolean text => simp [Rejection.Reexpands, Rejection.params]
  | choice text allowed =>
    rw [Rejection.reexpands_pair_iff rfl (by decide)]
    simp
  | shape kind found =>
    refine iff_of_false (not_reexpands_shape h) ?_
    rintro ⟨text, allowed, hchoice, -⟩
    cases hchoice

/-- A required field that allows the given texts, each shown as it is. -/
def choiceOf (allowed : List String) : FieldType :=
  ⟨.choice (allowed.map fun text => ⟨text, text⟩), true⟩

/-- Texts without a brace: both orders give the message that is expected. -/
theorem message_verbatim_iff_plainChoice :
    (choiceOf ["a", "b"]).check (.string "c") = some (.choice "c" ["a", "b"]) ∧
      ∀ params, params.Perm (Rejection.choice "c" ["a", "b"]).params →
        Text.fillTemplate (Rejection.choice "c" ["a", "b"]).template params =
          "c is not one of a, b" := by
  have hcheck : (choiceOf ["a", "b"]).check (.string "c") = some (.choice "c" ["a", "b"]) := by
    decide
  obtain ⟨hverbatim, hchoice⟩ := message_verbatim_iff hcheck
  have hplain : ¬ (Rejection.choice "c" ["a", "b"]).Reexpands := by
    rw [hchoice]
    rintro ⟨text, allowed, hr, hmentions⟩
    cases hr
    exact absurd hmentions (by decide)
  refine ⟨hcheck, fun params hperm => ?_⟩
  rw [hverbatim.mpr hplain params hperm, Rejection.fillOnce_choice]
  decide

/-- A value that looks like the message of its own rejection. -/
def echoValue : String :=
  "\x7bvalue\x7d is not one of \x7ballowed\x7d\x7bvalue\x7d"

/-- An allowed text that looks like the message of a rejection. -/
def echoAllowed : String :=
  "\x7ballowed\x7d\x7bvalue\x7d is not one of \x7ballowed\x7d"

/-- Not every message is the same in both orders, and not every message that is has its parameters
put in as they are: `echoValue` and `echoAllowed` are expanded again whichever comes first. -/
theorem not_every_message_verbatim :
    ((choiceOf ["a"]).check (.string "\x7ballowed\x7d") =
          some (.choice "\x7ballowed\x7d" ["a"]) ∧
        Text.fillTemplate (Rejection.choice "\x7ballowed\x7d" ["a"]).template
          [("value", "\x7ballowed\x7d"), ("allowed", "a")] = "a is not one of a" ∧
        Text.fillTemplate (Rejection.choice "\x7ballowed\x7d" ["a"]).template
          [("allowed", "a"), ("value", "\x7ballowed\x7d")] =
            "\x7ballowed\x7d is not one of a") ∧
      ((choiceOf [echoAllowed]).check (.string echoValue) = some (.choice echoValue [echoAllowed]) ∧
        ∀ params, params.Perm (Rejection.choice echoValue [echoAllowed]).params →
          Text.fillTemplate (Rejection.choice echoValue [echoAllowed]).template params ≠
            echoValue ++ " is not one of " ++ echoAllowed) ∧
      ¬ ∀ (t : FieldType) (v : Json) (r : Rejection), t.check v = some r →
        ∀ params, params.Perm r.params →
          Text.fillTemplate r.template params = Text.fillOnce r.template r.params := by
  have hcheck : (choiceOf ["a"]).check (.string "\x7ballowed\x7d") =
      some (.choice "\x7ballowed\x7d" ["a"]) := by
    decide
  refine ⟨⟨hcheck, by decide, by decide⟩, ⟨by decide, ?_⟩, fun h => ?_⟩
  · intro params hperm
    have htemplate := Rejection.twoPart_choice echoValue [echoAllowed]
    have hverbatim := Rejection.fillOnce_choice echoValue [echoAllowed]
    rw [String.intercalate_singleton] at hverbatim
    rw [← hverbatim, ne_eq]
    rcases List.perm_pair.mp hperm with rfl | rfl
    · exact (htemplate.fill_forwards_eq_iff _ _).not.mpr (by decide)
    · exact (htemplate.fill_backwards_eq_iff _ _).not.mpr (by decide)
  · have hforwards := h _ _ _ hcheck _ (List.Perm.refl _)
    exact absurd hforwards (by decide)

end FieldType
end PanelForms

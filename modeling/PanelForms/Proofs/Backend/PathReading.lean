import Mathlib.Tactic.SplitIfs
import PanelForms.Backend.Endpoint

/-!
# Reading a path back

Whoever receives a path splits it at the separators and decodes the pieces.  This module says what
is read from the path of some names: a list of names that is built up name by name, as the path is
built up character by character.  Percent-encoding itself loses nothing.  What does not come back
is what `Endpoint.append` treats in another way: a name that is a dot or two dots, and a name with
a character that is dropped.

Main results:

- Definition `Endpoint.readPath`: the names that are read from a path.
- Definition `Endpoint.settle`: the names that are left of those a path is made of.
- Theorem `Endpoint.decode_flatMap_encodeByte`: encoded bytes are read back.
- Theorem `Endpoint.endpointPath_eq_render`: a path is the rendering of the names that are left.
- Theorem `Endpoint.Standing.readPath_render`: the names of a rendering are read back.
- Theorem `Endpoint.endpointPath_inj`: two paths are equal exactly if the same names are left.
- Theorem `Endpoint.keeps_names_iff`: the names come back, each in its place, exactly if all are
  intact.
-/

namespace PanelForms
namespace Endpoint

/-! ## Bytes and their encoding -/

/-- What holds of the 256 bytes holds of every byte. -/
private theorem byte_induction {P : UInt8 → Prop} (h : ∀ k : Fin 256, P (UInt8.ofFin k))
    (b : UInt8) : P b :=
  h b.toFin

/-- A byte that is written as it is stands for itself. -/
theorem utf8EncodeChar_of_isPlain (b : UInt8) :
    isPlain b = true → String.utf8EncodeChar (Char.ofNat b.toNat) = [b] :=
  byte_induction (P := fun b => isPlain b = true → String.utf8EncodeChar (Char.ofNat b.toNat) = [b])
    (by decide +kernel) b

/-- No byte is written with a separator. -/
theorem slash_not_mem_encodeByte (b : UInt8) : '/' ∉ encodeByte b :=
  byte_induction (P := fun b => '/' ∉ encodeByte b) (by decide +kernel) b

/-- A percent sign is not written as it is. -/
theorem ne_percent_of_isPlain (b : UInt8) : isPlain b = true → Char.ofNat b.toNat ≠ '%' :=
  byte_induction (P := fun b => isPlain b = true → Char.ofNat b.toNat ≠ '%') (by decide +kernel) b

/-- A character other than a percent sign stands for its own bytes. -/
theorem decode_cons_of_ne {c : Char} (h : c ≠ '%') (rest : List Char) :
    decode (c :: rest) = (decode rest).map (String.utf8EncodeChar c ++ ·) := by
  rw [decode]
  · rw [if_neg h]
  · intro high low tail hc
    exact absurd hc h

/-- An encoded byte is read back, whatever follows it. -/
theorem decode_encodeByte_append (b : UInt8) (rest : List Char) :
    decode (encodeByte b ++ rest) = (decode rest).map (b :: ·) := by
  unfold encodeByte
  split
  · next hplain =>
    rw [List.singleton_append, decode_cons_of_ne (ne_percent_of_isPlain b hplain),
      utf8EncodeChar_of_isPlain b hplain]
    rfl
  · have hhigh : b.toNat / 16 < 16 := by
      have := b.toNat_lt
      omega
    have hlow : b.toNat % 16 < 16 := Nat.mod_lt _ (by decide)
    rw [List.cons_append, List.cons_append, List.singleton_append, decode,
      Hex.value?_upperDigit hhigh, Hex.value?_upperDigit hlow]
    have hbyte := Hex.byte_of_digits b
    cases decode rest with
    | none => rfl
    | some others => exact congrArg (fun x => some (x :: others)) hbyte

/-- Encoded bytes are read back. -/
theorem decode_flatMap_encodeByte (bytes : List UInt8) :
    decode (bytes.flatMap encodeByte) = some bytes := by
  induction bytes with
  | nil => rfl
  | cons b rest ih =>
    rw [List.flatMap_cons, decode_encodeByte_append, ih]
    rfl

/-! ## Names and their encoding -/

/-- The name that a piece of a path stands for; none if its bytes are no text. -/
def readSegment (piece : List Char) : Option String := do
  let bytes ← decode piece
  String.fromUTF8? bytes.toByteArray

/-- The bytes of a text are read as that text. -/
theorem fromUTF8?_flatMap (text : List Char) :
    String.fromUTF8? (text.flatMap String.utf8EncodeChar).toByteArray =
      some (String.ofList text) := by
  have hvalid : (text.flatMap String.utf8EncodeChar).toByteArray.IsValidUTF8 :=
    ByteArray.isValidUTF8_utf8Encode
  rw [String.fromUTF8?, dif_pos hvalid]
  exact congrArg some (String.toByteArray_inj.mp String.toByteArray_ofList.symm)

/-- The kept characters of a name are read back from its encoding. -/
theorem readSegment_encodeSegment (name : String) :
    readSegment (encodeSegment name) = some (String.ofList (kept name)) := by
  unfold readSegment encodeSegment
  rw [decode_flatMap_encodeByte]
  exact fromUTF8?_flatMap (kept name)

/-- No encoded name holds a separator. -/
theorem slash_not_mem_encodeSegment (name : String) : '/' ∉ encodeSegment name := by
  intro hmem
  obtain ⟨b, -, hb⟩ := List.mem_flatMap.mp hmem
  exact slash_not_mem_encodeByte b hb

/-- A name that the path setter takes as it is. -/
structure Intact (name : String) : Prop where
  not_here : name ≠ "."
  not_up : name ≠ ".."
  nothing_dropped : ∀ c ∈ name.toList, isDropped c = false

/-- The names that a path keeps are those that are no dots and hold no character that is dropped. -/
theorem intact_iff {name : String} :
    Intact name ↔ name ≠ "." ∧ name ≠ ".." ∧ (name.toList.all fun c => !isDropped c) = true := by
  simp only [List.all_eq_true, Bool.not_eq_true']
  exact ⟨fun h => ⟨h.not_here, h.not_up, h.nothing_dropped⟩, fun h => ⟨h.1, h.2.1, h.2.2⟩⟩

instance (name : String) : Decidable (Intact name) :=
  decidable_of_iff' _ intact_iff

/-- All characters of an intact name are kept. -/
theorem Intact.kept_eq {name : String} (h : Intact name) : kept name = name.toList := by
  apply List.filter_eq_self.mpr
  intro c hc
  simp [h.nothing_dropped c hc]

/-- An intact name is read back from its encoding. -/
theorem Intact.readSegment_encodeSegment {name : String} (h : Intact name) :
    readSegment (encodeSegment name) = some name := by
  rw [Endpoint.readSegment_encodeSegment, h.kept_eq, String.ofList_toList]

/-- Only the empty name is written as nothing. -/
theorem Intact.encodeSegment_eq_nil_iff {name : String} (h : Intact name) :
    encodeSegment name = [] ↔ name = "" := by
  constructor
  · intro hnil
    have hread := h.readSegment_encodeSegment
    rw [hnil] at hread
    exact (Option.some.inj hread).symm
  · rintro rfl
    rfl

/-- What is kept of a name holds no character that is dropped. -/
theorem kept_isDropped {name : String} {c : Char} (h : c ∈ kept name) : isDropped c = false := by
  simpa using (List.mem_filter.mp h).2

/-- The kept characters of a name are an intact name, unless they are one or two dots. -/
theorem intact_ofList_kept {name : String} (hhere : kept name ≠ ['.'])
    (hup : kept name ≠ ['.', '.']) : Intact (String.ofList (kept name)) where
  not_here := fun h => hhere (by rw [← String.toList_ofList (l := kept name), h]; rfl)
  not_up := fun h => hup (by rw [← String.toList_ofList (l := kept name), h]; rfl)
  nothing_dropped c hc := kept_isDropped (by simpa using hc)

theorem intact_empty : Intact "" :=
  ⟨by decide, by decide, nofun⟩

/-! ## Drives -/

/-- A text without a percent sign stands for itself. -/
theorem readSegment_of_no_percent {text : List Char} (h : '%' ∉ text) :
    readSegment text = some (String.ofList text) := by
  have hbytes : decode text = some (text.flatMap String.utf8EncodeChar) := by
    induction text with
    | nil => rfl
    | cons c rest ih =>
      rw [List.mem_cons, not_or] at h
      rw [decode_cons_of_ne (Ne.symm h.1), ih h.2]
      rfl
  unfold readSegment
  rw [hbytes]
  exact fromUTF8?_flatMap text

/-- The two characters of a drive. -/
theorem isDrive_iff {text : List Char} :
    isDrive text = true ↔
      ∃ letter mark, text = [letter, mark] ∧ letter.isAlpha = true ∧ (mark = ':' ∨ mark = '|') := by
  constructor
  · intro h
    unfold isDrive at h
    split at h
    · next letter mark => exact ⟨letter, mark, rfl, by simpa using h⟩
    · cases h
  · rintro ⟨letter, mark, rfl, hletter, hmark⟩
    simpa [isDrive, hletter] using hmark

/-- A letter is written as it is. -/
theorem encode_of_isAlpha {c : Char} (h : c.isAlpha = true) :
    (String.utf8EncodeChar c).flatMap encodeByte = [c] := by
  have key : ∀ k : Fin 128, (Char.ofNat k).isAlpha = true →
      (String.utf8EncodeChar (Char.ofNat k)).flatMap encodeByte = [Char.ofNat k] := by
    decide +kernel
  have hascii : c.toNat < 128 := by
    have hrange : (decide (c.val ≥ 'A'.val ∧ c.val ≤ 'Z'.val) ||
        (decide (c.val ≥ 'a'.val) && decide (c.val ≤ 'z'.val))) = true := h
    simp only [Bool.or_eq_true, Bool.and_eq_true, decide_eq_true_eq, UInt32.le_iff_toNat_le]
      at hrange
    have hval : c.val.toNat = c.toNat := rfl
    have hupper : 'Z'.val.toNat = 90 := rfl
    have hlower : 'z'.val.toNat = 122 := rfl
    omega
  have hc : Char.ofNat c.toNat = c := Char.ofNat_toNat c
  simpa only [hc] using key ⟨c.toNat, hascii⟩ (by simpa only [hc] using h)

/-- The encoding of an intact name is a drive exactly if the name is one. -/
theorem Intact.isDrive_encodeSegment {name : String} (h : Intact name) :
    isDrive (encodeSegment name) = isDrive name.toList := by
  rw [Bool.eq_iff_iff]
  constructor
  · intro hdrive
    have hpercent : '%' ∉ encodeSegment name := by
      obtain ⟨letter, mark, htext, hletter, hmark⟩ := isDrive_iff.mp hdrive
      simp only [htext, List.mem_cons, List.not_mem_nil, or_false, not_or]
      constructor
      · rintro rfl
        exact absurd hletter (by decide)
      · rintro rfl
        revert hmark
        decide
    have hname : name = String.ofList (encodeSegment name) := by
      apply Option.some.inj
      rw [← h.readSegment_encodeSegment, readSegment_of_no_percent hpercent]
    rw [hname, String.toList_ofList]
    exact hdrive
  · intro hdrive
    obtain ⟨letter, mark, htext, hletter, hmark⟩ := isDrive_iff.mp hdrive
    have hmark' : (String.utf8EncodeChar mark).flatMap encodeByte = [mark] := by
      cases hmark with
      | inl hcolon => rw [hcolon]; decide
      | inr hbar => rw [hbar]; decide
    have hencoded : encodeSegment name = [letter, mark] := by
      rw [encodeSegment, h.kept_eq, htext]
      simp only [List.flatMap_cons, List.flatMap_nil, List.append_nil, List.flatMap_append,
        encode_of_isAlpha hletter, hmark', List.singleton_append]
    rw [hencoded, ← htext]
    exact hdrive

/-! ## The names that are left -/

/-- The names without the last one, which ends with a separator; a drive stays. -/
def above (names : List String) : List String :=
  match names.getLast? with
  | none => [""]
  | some last => if isDrive last.toList then names ++ [""] else names.dropLast ++ [""]

/-- The names that stay before the next one.  The root has one empty name, which the next name
replaces. -/
def before (names : List String) : List String :=
  if names = [""] then [] else names

/-- The names that are left when one more arrives. -/
def arrive (names : List String) (name : String) : List String :=
  if name = "." ∨ name = ".." then names
  else if kept name = ['.'] then before names ++ [""]
  else if kept name = ['.', '.'] then above (before names)
  else before names ++ [String.ofList (kept name)]

/-- The names that are left of those a path is made of. -/
def settle (names : List String) : List String :=
  names.foldl arrive [""]

/-- Some names that can be read back from a path. -/
structure Standing (names : List String) : Prop where
  nonempty : names ≠ []
  intact : ∀ name ∈ names, Intact name

theorem standing_root : Standing [""] :=
  ⟨by simp, by simpa using intact_empty⟩

/-- Intact names stand, whatever intact name comes last. -/
theorem standing_concat {names : List String} (hnames : ∀ name ∈ names, Intact name)
    {name : String} (h : Intact name) : Standing (names ++ [name]) where
  nonempty := by simp
  intact other hother := by
    rcases List.mem_append.mp hother with hmem | hmem
    · exact hnames other hmem
    · rwa [List.mem_singleton.mp hmem]

/-- Going up leaves names that stand. -/
theorem standing_above {names : List String} (h : ∀ name ∈ names, Intact name) :
    Standing (above names) := by
  unfold above
  split
  · exact standing_root
  · split
    · exact standing_concat h intact_empty
    · exact standing_concat (fun name hname => h name (List.dropLast_subset names hname))
        intact_empty

/-- All names but the last one are intact. -/
theorem Standing.before {names : List String} (h : Standing names) :
    ∀ name ∈ before names, Intact name := by
  intro name hname
  unfold Endpoint.before at hname
  split at hname
  · cases hname
  · exact h.intact name hname

/-- Whatever arrives, the names that are left can be read back. -/
theorem Standing.arrive {names : List String} (h : Standing names) (name : String) :
    Standing (arrive names name) := by
  unfold Endpoint.arrive
  split_ifs with hskip hhere hup
  · exact h
  · exact standing_concat h.before intact_empty
  · exact standing_above h.before
  · exact standing_concat h.before (intact_ofList_kept hhere hup)

/-- Names that stand still stand after any arrivals. -/
theorem standing_foldl {names : List String} (h : Standing names) (arrivals : List String) :
    Standing (arrivals.foldl Endpoint.arrive names) := by
  induction arrivals generalizing names with
  | nil => exact h
  | cons name rest ih => exact ih (h.arrive name)

/-- What is left of any names stands. -/
theorem standing_settle (names : List String) : Standing (settle names) :=
  standing_foldl standing_root names

/-! ## Paths as renderings -/

/-- The path of names that stand: each one behind its separator. -/
def render (names : List String) : List Char :=
  names.flatMap fun name => '/' :: encodeSegment name

theorem render_append (names others : List String) :
    render (names ++ others) = render names ++ render others :=
  List.flatMap_append

theorem render_singleton (name : String) : render [name] = '/' :: encodeSegment name := by
  simp [render]

theorem render_root : render [""] = ['/'] := by
  decide

/-- Only the root is a path of one character. -/
theorem Standing.length_render_eq_one_iff {names : List String} (h : Standing names) :
    (render names).length = 1 ↔ names = [""] := by
  constructor
  · intro hlength
    match names, h with
    | [name], h =>
      rw [render_singleton, List.length_cons, Nat.add_eq_right, List.length_eq_zero_iff,
        (h.intact name (by simp)).encodeSegment_eq_nil_iff] at hlength
      rw [hlength]
    | first :: second :: rest, _ =>
      simp [render] at hlength
  · rintro rfl
    rw [render_root]
    rfl

/-- What follows the last separator is cut off. -/
theorem upToSeparator_append (path : List Char) {tail : List Char} (h : '/' ∉ tail) :
    upToSeparator (path ++ '/' :: tail) = path ++ ['/'] := by
  have hall : ∀ c ∈ tail.reverse, decide (c ≠ '/') = true := by
    intro c hc
    simpa using fun he : c = '/' => h (he ▸ List.mem_reverse.mp hc)
  unfold upToSeparator
  rw [List.reverse_append, List.reverse_cons, List.append_assoc,
    List.dropWhile_append_of_pos hall]
  simp

/-- The parent of a path that ends with a separator. -/
theorem parent_render {names : List String} (h : ∀ name ∈ names, Intact name) :
    parent (render (names ++ [""])) = render (above names) := by
  have hbody : (render (names ++ [""])).dropLast = render names := by
    rw [render_append, render_root, List.dropLast_concat]
  unfold parent
  rw [hbody]
  cases List.eq_nil_or_concat names with
  | inl hnil => rw [hnil]; decide
  | inr hconcat =>
    obtain ⟨front, last, hnames⟩ := hconcat
    rw [List.concat_eq_append] at hnames
    have hlast : Intact last := h last (by simp [hnames])
    have hrender : render names = render front ++ '/' :: encodeSegment last := by
      rw [hnames, render_append, render_singleton]
    have hup : upToSeparator (render names) = render (front ++ [""]) := by
      rw [hrender, upToSeparator_append _ (slash_not_mem_encodeSegment last), render_append,
        render_root]
    have hdrop : (render names).drop (upToSeparator (render names)).length =
        encodeSegment last := by
      rw [hup, hrender, render_append, render_root, List.length_append]
      simp
    have hnonempty : (render names).isEmpty = false := by
      rw [hrender]
      simp
    have habove : above names = if isDrive last.toList then names ++ [""] else front ++ [""] := by
      simp [above, hnames]
    simp only [hdrop, hnonempty, hlast.isDrive_encodeSegment, habove, Bool.false_or]
    split
    · rfl
    · exact hup

/-- How a path grows by a name that is not skipped. -/
theorem append_of_not_skipped (path : List Char) {name : String}
    (h : ¬ (name = "." ∨ name = "..")) :
    append path name =
      let base := if path.length = 1 then path else path ++ ['/']
      if kept name = ['.'] then base
      else if kept name = ['.', '.'] then parent base
      else base ++ encodeSegment name := by
  unfold append
  rw [if_neg h]
  simp only
  generalize kept name = text
  split
  · rfl
  · rfl
  · next hhere hup => rw [if_neg hhere, if_neg hup]

/-- One more name on a path is one more arrival. -/
theorem Standing.append_render {names : List String} (h : Standing names) (name : String) :
    append (render names) name = render (Endpoint.arrive names name) := by
  by_cases hskip : name = "." ∨ name = ".."
  · rw [append, Endpoint.arrive, if_pos hskip, if_pos hskip]
  · rw [append_of_not_skipped _ hskip, Endpoint.arrive, if_neg hskip]
    -- The name is written behind a separator, which is the rendering of one more empty name.
    have hbase : (if (render names).length = 1 then render names else render names ++ ['/']) =
        render (Endpoint.before names ++ [""]) := by
      unfold Endpoint.before
      by_cases hroot : names = [""]
      · rw [if_pos (h.length_render_eq_one_iff.mpr hroot), if_pos hroot, hroot, List.nil_append]
      · rw [if_neg (mt h.length_render_eq_one_iff.mp hroot), if_neg hroot, render_append,
          render_root]
    simp only [hbase]
    split_ifs with hhere hup
    · rfl
    · exact parent_render h.before
    · have hencoded : encodeSegment (String.ofList (kept name)) = encodeSegment name := by
        rw [encodeSegment, (intact_ofList_kept hhere hup).kept_eq, String.toList_ofList,
          encodeSegment]
      rw [render_append, render_root, render_append, render_singleton, hencoded,
        List.append_assoc, List.singleton_append]

/-- Each step on the written path is a step on the list of names, so the names stand for the path
throughout. -/
theorem Standing.foldl_append_render {names : List String} (h : Standing names)
    (arrivals : List String) :
    arrivals.foldl append (render names) = render (arrivals.foldl Endpoint.arrive names) := by
  induction arrivals generalizing names with
  | nil => rfl
  | cons name rest ih =>
    rw [List.foldl_cons, List.foldl_cons, h.append_render]
    exact ih (h.arrive name)

/-- A path is the rendering of the names that are left. -/
theorem endpointPath_eq_render (names : List String) :
    endpointPath names = String.ofList (render (settle names)) :=
  congrArg String.ofList (render_root ▸ standing_root.foldl_append_render names)

/-! ## Reading -/

/-- The names that are read from a path; none if it does not start with a separator or if a piece
of it does not stand for a name. -/
def readPath (path : String) : Option (List String) :=
  match path.toList with
  | '/' :: rest => (rest.splitOn '/').mapM readSegment
  | _ => none

/-- A path is its encoded names with separators in between, and one in front. -/
theorem render_cons (first : String) (rest : List String) :
    render (first :: rest) = '/' :: ['/'].intercalate ((first :: rest).map encodeSegment) := by
  induction rest generalizing first with
  | nil => simp [render]
  | cons second rest ih =>
    have hsplit : render (first :: second :: rest) =
        '/' :: (encodeSegment first ++ render (second :: rest)) := by
      simp [render]
    rw [hsplit, ih, List.map_cons, List.map_cons, List.map_cons, List.intercalate_cons_cons]
    simp

/-- Intact names are read back one by one. -/
theorem mapM_readSegment {names : List String} (h : ∀ name ∈ names, Intact name) :
    (names.map encodeSegment).mapM readSegment = some names := by
  induction names with
  | nil => rfl
  | cons name rest ih =>
    rw [List.map_cons, List.mapM_cons, (h name (by simp)).readSegment_encodeSegment,
      ih fun other hother => h other (by simp [hother])]
    rfl

/-- The names of a rendering are read back. -/
theorem Standing.readPath_render {names : List String} (h : Standing names) :
    readPath (String.ofList (render names)) = some names := by
  match names, h with
  | first :: rest, h =>
    have hslash : ∀ piece ∈ (first :: rest).map encodeSegment, '/' ∉ piece := by
      intro piece hpiece
      obtain ⟨name, -, rfl⟩ := List.mem_map.mp hpiece
      exact slash_not_mem_encodeSegment name
    unfold readPath
    rw [String.toList_ofList, render_cons]
    simp only
    rw [List.splitOn_intercalate _ hslash (by simp)]
    exact mapM_readSegment h.intact

/-- Two paths are equal exactly if the same names are left of both. -/
theorem endpointPath_inj {names others : List String} :
    endpointPath names = endpointPath others ↔ settle names = settle others := by
  constructor
  · intro h
    rw [endpointPath_eq_render, endpointPath_eq_render] at h
    apply Option.some.inj
    rw [← (standing_settle names).readPath_render, h, (standing_settle others).readPath_render]
  · intro h
    rw [endpointPath_eq_render, endpointPath_eq_render, h]

/-! ## Which names come back -/

/-- An intact name is put behind the names that stay. -/
theorem Intact.arrive_eq {name : String} (h : Intact name) (names : List String) :
    arrive names name = before names ++ [name] := by
  have hhere : kept name ≠ ['.'] := by
    rw [h.kept_eq]
    exact fun he => h.not_here (String.toList_inj.mp he)
  have hup : kept name ≠ ['.', '.'] := by
    rw [h.kept_eq]
    exact fun he => h.not_up (String.toList_inj.mp he)
  rw [arrive, if_neg (not_or.mpr ⟨h.not_here, h.not_up⟩), if_neg hhere, if_neg hup, h.kept_eq,
    String.ofList_toList]

/-- Intact names are put one behind the other. -/
theorem foldl_arrive_intact {first : String} (hfirst : first ≠ "") {arrivals : List String}
    (h : ∀ name ∈ arrivals, Intact name) (names : List String) :
    arrivals.foldl arrive (first :: names) = first :: (names ++ arrivals) := by
  induction arrivals generalizing names with
  | nil => simp
  | cons name rest ih =>
    have hstay : before (first :: names) = first :: names :=
      if_neg fun he => hfirst (List.cons.inj he).1
    rw [List.foldl_cons, (h name (by simp)).arrive_eq, hstay, List.cons_append,
      ih fun other hother => h other (by simp [hother])]
    simp

/-- Exactly the intact names are left as they are. -/
theorem settle_eq_self_iff {first : String} (rest : List String) (hfirst : first ≠ "") :
    settle (first :: rest) = first :: rest ↔ ∀ name ∈ first :: rest, Intact name := by
  constructor
  · intro h
    rw [← h]
    exact (standing_settle _).intact
  · intro h
    show rest.foldl arrive (arrive [""] first) = first :: rest
    rw [(h first (by simp)).arrive_eq]
    exact foldl_arrive_intact hfirst (fun name hname => h name (by simp [hname])) []

/-- What is read from a path are the names that are left; they are the names that it is made of
exactly if all of these are intact; and two paths are equal exactly if the same names are left. -/
theorem keeps_names_iff {first : String} (rest : List String) (hfirst : first ≠ "") :
    readPath (endpointPath (first :: rest)) = some (settle (first :: rest)) ∧
      (readPath (endpointPath (first :: rest)) = some (first :: rest) ↔
        ∀ name ∈ first :: rest, Intact name) ∧
      ∀ others, endpointPath (first :: rest) = endpointPath others ↔
        settle (first :: rest) = settle others := by
  have hread : readPath (endpointPath (first :: rest)) = some (settle (first :: rest)) := by
    rw [endpointPath_eq_render]
    exact (standing_settle _).readPath_render
  refine ⟨hread, ?_, fun others => endpointPath_inj⟩
  rw [hread, Option.some.injEq]
  exact settle_eq_self_iff rest hfirst

/-- A name with a separator in it comes back and climbs over nothing. -/
theorem keeps_names_iff_climbingName :
    "simulation" ≠ "" ∧
      readPath (endpointPath ["simulation", "srw", "../admin", "0", "source"]) =
        some ["simulation", "srw", "../admin", "0", "source"] := by
  have h := @keeps_names_iff "simulation" ["srw", "../admin", "0", "source"] (by decide)
  exact ⟨by decide, h.2.1.mpr (by decide)⟩

/-- Not every name comes back: two dots are skipped, and a tab is dropped, so that two different
names have the same path. -/
theorem not_every_name_kept :
    readPath (endpointPath ["simulation", "srw", "..", "0", "source"]) =
        some ["simulation", "srw", "0", "source"] ∧
      endpointPath ["file-list", "srw", "unused", "a\tb"] =
        endpointPath ["file-list", "srw", "unused", "ab"] ∧
      ¬ ∀ (first : String) (rest : List String), first ≠ "" →
        readPath (endpointPath (first :: rest)) = some (first :: rest) := by
  have hclimb : readPath (endpointPath ["simulation", "srw", "..", "0", "source"]) =
      some ["simulation", "srw", "0", "source"] := by
    rw [endpointPath_eq_render, (standing_settle _).readPath_render]
    decide
  refine ⟨hclimb, by decide, fun h => ?_⟩
  have hkept := h "simulation" ["srw", "..", "0", "source"] (by decide)
  rw [hclimb] at hkept
  exact absurd hkept (by decide)

end Endpoint
end PanelForms

/-
# Gazetteer.Proofs.Dataset.Reload -- writing a dataset and loading it again

A dataset is written in one form and a document is read in another: fields that must be there in
the one may be missing in the other, a group has a kind in the one and free text in the other. Yet
what is written can be read as a document, the one that `Dataset.document` says, and it comes to the
dataset again.

That holds of every dataset in normal form, and loading gives no other.
-/
import Gazetteer.Dataset.Loading
import Gazetteer.Proofs.Dataset.NormalForm
import Gazetteer.Proofs.Json.RoundTrip

namespace Gazetteer

open Json (IsSpace Spells)

/-! ## The document that a dataset is written as -/

/-- A language as it is written. -/
def Language.entry (l : Language) : LanguageEntry :=
  ⟨l.code, l.name, l.nativeName, some l.rtl, l.script⟩

/-- A group as it is written; its kind is a code. -/
def Group.entry (g : Group) : GroupEntry :=
  ⟨g.id, g.name, g.kind.code, g.description, g.members⟩

/-- A dataset as it is written. -/
def Dataset.document (d : Dataset) : Document :=
  ⟨d.countries, d.languages.map Language.entry, d.groups.map Group.entry⟩

theorem Language.normal_entry {l : Language} (h : HasContent l.script) : l.entry.normal = l := by
  rw [LanguageEntry.normal, entry, h.nonBlank?_eq]
  rfl

/-- The code of a kind tells the kind. -/
theorem GroupKind.ofCode_code (k : GroupKind) : GroupKind.ofCode k.code = k := by
  cases k <;> decide

theorem Group.normal_entry {g : Group} (h : HasContent g.description) : g.entry.normal = g := by
  rw [GroupEntry.normal, entry, h.nonBlank?_eq, GroupKind.ofCode_code]

/-- The document of a dataset in normal form comes to the dataset. -/
theorem Dataset.IsNormal.toDataset?_document {d : Dataset} (h : d.IsNormal) :
    d.document.toDataset? none = some d := by
  have hcountries : ∀ c ∈ d.countries, c.normal = id c := fun c hc => (h.countries c hc).normal_eq
  have hlanguages : ∀ l ∈ d.languages, (LanguageEntry.normal ∘ Language.entry) l = id l :=
    fun l hl => Language.normal_entry (h.languages l hl)
  have hgroups : ∀ g ∈ d.groups, (GroupEntry.normal ∘ Group.entry) g = id g :=
    fun g hg => Group.normal_entry (h.groups g hg)
  have hnormal : d.document.normal = d := by
    rw [Document.normal, document, List.map_map, List.map_map, List.map_congr_left hcountries,
      List.map_congr_left hlanguages, List.map_congr_left hgroups, List.map_id, List.map_id,
      List.map_id]
  show (if d.document.normal.countries.isEmpty then none else some d.document.normal) = some d
  rw [hnormal, if_neg (by simpa using h.countries_ne_nil)]

/-! ## Both are the same JSON -/

theorem Json.Form.toJson_list {α : Type} (f : Json.Form α) (as : List α) :
    (Json.Form.list f).toJson as = .array (as.map f.toJson) := by
  show Json.array ((as.map f.toData).map fun v => f.shape.encode v) = _
  rw [List.map_map]
  rfl

/-- A value with a name is written as its name. -/
theorem Json.Form.toJson_label {α : Type} [DecidableEq α] {all : List α}
    {complete : ∀ a, a ∈ all} {name : α → Text} (a : α) :
    (Json.Form.label all complete name).toJson a = .text (name a) := by
  have hindex : all.idxOf a < all.length := List.idxOf_lt_length_of_mem (complete a)
  have hname : (all.map name).get ⟨all.idxOf a, by rwa [List.length_map]⟩ = name a := by
    rw [List.get_eq_getElem, List.getElem_map, List.getElem_idxOf]
  exact congrArg Json.text hname

theorem Group.toJson_entry (g : Group) :
    GroupEntry.form.toJson g.entry = Group.form.toJson g := by
  -- A dataset has kinds where a document has texts.
  have hkind : GroupKind.form.toJson g.kind = .text g.kind.code := Json.Form.toJson_label g.kind
  show _ = Json.object [("id", .text g.id), ("name", .text g.name),
    ("type", GroupKind.form.toJson g.kind),
    ("description", (Json.Form.nullable .text).toJson g.description),
    ("members", (Json.Form.list .text).toJson g.members)]
  rw [hkind]
  rfl

/-- A dataset and its document are written alike. -/
theorem Dataset.toJson_document (d : Dataset) :
    Document.form.toJson d.document = Dataset.form.toJson d := by
  -- The two forms of a country differ only in what may be left out, which writing does not see.
  have hcountries : (Json.Form.list Country.entryForm).toJson d.countries
      = (Json.Form.list Country.form).toJson d.countries := by
    rw [Json.Form.toJson_list, Json.Form.toJson_list]
    rfl
  have hlanguages : (Json.Form.list LanguageEntry.form).toJson (d.languages.map Language.entry)
      = (Json.Form.list Language.form).toJson d.languages := by
    rw [Json.Form.toJson_list, Json.Form.toJson_list, List.map_map]
    rfl
  have hgroups : (Json.Form.list GroupEntry.form).toJson (d.groups.map Group.entry)
      = (Json.Form.list Group.form).toJson d.groups := by
    rw [Json.Form.toJson_list, Json.Form.toJson_list, List.map_map]
    exact congrArg Json.array (List.map_congr_left fun g _ => Group.toJson_entry g)
  show Json.object [("countries", (Json.Form.list Country.entryForm).toJson d.countries),
      ("languages", (Json.Form.list LanguageEntry.form).toJson (d.languages.map Language.entry)),
      ("groups", (Json.Form.list GroupEntry.form).toJson (d.groups.map Group.entry))]
    = Dataset.form.toJson d
  rw [hcountries, hlanguages, hgroups]
  rfl

/-! ## Loading what is written -/

/-- The text of a document is loaded as the document, however it is spaced. -/
theorem Dataset.ofStream_toJson (d : Document) {t : Text}
    (ht : Spells (Document.form.toJson d) t) (filter : Document.Filter) :
    Dataset.ofStream (.ofBytes (Text.utf8 t)) filter = Dataset.ofDocument d filter := by
  have hsound : Document.form.shape.isSound = true := by decide
  have hfits : Document.form.shape.Fits (Document.form.toData d) :=
    Json.Shape.fits_of_isCountFree _ (by decide) _
  have hdecode : Document.form.decode (.ofBytes (Text.utf8 ([] ++ t ++ []))) = .ok d :=
    Json.Form.decode_toJson hsound hfits ht Json.isSpace_nil Json.isSpace_nil
  rw [List.nil_append, List.append_nil] at hdecode
  rw [ofStream, hdecode]

theorem Dataset.ofText_toJson (d : Document) {t : Text} (ht : Spells (Document.form.toJson d) t) :
    Dataset.ofText t = Dataset.ofDocument d none :=
  Dataset.ofStream_toJson d ht none

/-- A dataset in normal form is loaded again from what it is written as. -/
theorem Dataset.IsNormal.ofText_toJson {d : Dataset} (h : d.IsNormal) {t : Text}
    (ht : Spells (Dataset.form.toJson d) t) : Dataset.ofText t = .ok d := by
  rw [← Dataset.toJson_document] at ht
  rw [Dataset.ofText_toJson d.document ht, ofDocument, h.toDataset?_document]

/-! ## Every way to load -/

/-- The datasets that are loaded: from the text of a document, from a stream, or from what was
opened under a path. -/
inductive Dataset.Loaded : Dataset → Prop where
  | text {t : Text} {d : Dataset} (h : Dataset.ofText t = .ok d) : Loaded d
  | stream {s : Storage.Stream} {filter : Document.Filter} {d : Dataset}
    (h : Dataset.ofStream s filter = .ok d) : Loaded d
  | opened {path : Text} {opened : Except Storage.OpenFailure Storage.Opened}
    {filter : Document.Filter} {d : Dataset} (h : Dataset.ofOpened path opened filter = .ok d) :
    Loaded d

theorem Dataset.isNormal_of_ofDocument {document : Document} {filter : Document.Filter}
    {d : Dataset} (h : Dataset.ofDocument document filter = .ok d) : d.IsNormal := by
  unfold ofDocument at h
  split at h
  · rename_i dataset hdataset
    obtain rfl := Except.ok.inj h
    exact Document.isNormal_of_toDataset? hdataset
  · exact absurd h (by simp)

theorem Dataset.isNormal_of_ofStream {s : Storage.Stream} {filter : Document.Filter} {d : Dataset}
    (h : Dataset.ofStream s filter = .ok d) : d.IsNormal := by
  unfold ofStream at h
  split at h
  · exact isNormal_of_ofDocument h
  · exact absurd h (by simp)

/-- Whatever is loaded is in normal form. -/
theorem Dataset.Loaded.isNormal {d : Dataset} (h : d.Loaded) : d.IsNormal := by
  cases h with
  | text h => exact isNormal_of_ofStream h
  | stream h => exact isNormal_of_ofStream h
  | @opened path opened filter _ h =>
    cases opened with
    | ok o => exact isNormal_of_ofStream h
    | error reason => exact absurd h (by simp [ofOpened])

/-- **Normal form and reload fixpoint.** Whatever is loaded, by whichever way and filter, has a
country and is in normal form; and written down, compactly or over lines, it is loaded again as it
is. -/
theorem Dataset.reload {d : Dataset} (h : d.Loaded) :
    d.countries ≠ []
      ∧ (∀ c ∈ d.countries, (∀ t ∈ c.optionalTexts, HasContent t)
        ∧ (∀ code ∈ [c.alpha2, c.alpha3], Text.Trimmed code ∧ ∀ x ∈ code, x.isLower = false)
        ∧ ∀ lines ∈ c.addressFormat, lines ≠ [] ∧ ∀ l ∈ lines, Text.Trimmed l)
      ∧ (∀ l ∈ d.languages, HasContent l.script)
      ∧ (∀ g ∈ d.groups, HasContent g.description)
      ∧ Dataset.ofText (Dataset.form.toJson d).compact = .ok d
      ∧ Dataset.ofText ((Dataset.form.toJson d).pretty 0) = .ok d := by
  have hnormal : d.IsNormal := h.isNormal
  refine ⟨hnormal.countries_ne_nil, fun c hc => ?_, hnormal.languages, hnormal.groups,
    hnormal.ofText_toJson (Json.spells_compact _), hnormal.ofText_toJson (Json.spells_pretty _ 0)⟩
  have hcountry : c.IsNormal := hnormal.countries c hc
  refine ⟨hcountry.optionalTexts, fun code hcode => ?_, hcountry.addressFormat⟩
  have hcodes : IsCode code := by
    simp only [List.mem_cons, List.not_mem_nil, or_false] at hcode
    rcases hcode with rfl | rfl
    · exact hcountry.alpha2
    · exact hcountry.alpha3
  exact ⟨hcodes.trimmed, hcodes.notLower⟩

/-- A document that is not in normal form, what it is loaded as, and that this is loaded again. -/
theorem Dataset.reload_untidy :
    let written : Country :=
      { alpha2 := " ch ", alpha3 := "che", name := "Switzerland", flag := some " ",
        addressFormat := some [" ", "CH-\t"] }
    let country : Country :=
      { alpha2 := "CH", alpha3 := "CHE", name := "Switzerland",
        addressFormat := some ["", "CH-"] }
    let document : Document :=
      { countries := [written],
        groups := [{ id := "EU", name := "European Union", kind := "some union" }] }
    let d : Dataset :=
      { countries := [country], languages := [],
        groups := [⟨"EU", "European Union", .other, none, []⟩] }
    Dataset.ofText (Document.form.toJson document).compact = .ok d
      ∧ d.Loaded
      ∧ Dataset.ofText (Dataset.form.toJson d).compact = .ok d := by
  intro written country document d
  have hload : Dataset.ofText (Document.form.toJson document).compact = .ok d := by
    rw [Dataset.ofText_toJson document (Json.spells_compact _)]
    rfl
  have hloaded : d.Loaded := .text hload
  obtain ⟨-, -, -, -, hcompact, -⟩ := Dataset.reload hloaded
  exact ⟨hload, hloaded, hcompact⟩

end Gazetteer

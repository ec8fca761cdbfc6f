/-
# Gazetteer.Proofs.Country.Normalization -- what normal form changes for the engines

Loading makes blank texts absent and trims template lines. None of it can be seen in a formatted
address, a phone number, a postal code or an amount: each engine takes a blank text for no text by
itself, an empty template for none, and renders a line as its trimmed form. The one exception is a
currency symbol that is white space, which an amount would show.
-/
import Gazetteer.Country.Currency
import Gazetteer.Dataset.Document
import Gazetteer.Proofs.Address.ListedFields

namespace Gazetteer

/-! ## Absent and blank texts -/

theorem nonBlank?_nonBlank? (t : Option Text) :
    Text.nonBlank? (Text.nonBlank? t) = Text.nonBlank? t := by
  rw [Text.nonBlank?, Text.nonBlank?, Option.filter_filter]
  simp only [Bool.and_self]

/-- A blank pattern accepts as much as none. -/
theorem accepts_nonBlank? [Pattern.SizeLimit] (stored : Option Text) (input : Text) :
    Pattern.accepts (Text.nonBlank? stored) input = Pattern.accepts stored input := by
  rw [Pattern.accepts, nonBlank?_nonBlank?, Pattern.accepts]

/-- A blank mask is no mask. -/
theorem bind_ofText?_nonBlank? (mask : Option Text) :
    (Text.nonBlank? mask).bind Phone.Mask.ofText? = mask.bind Phone.Mask.ofText? := by
  cases mask with
  | none => rfl
  | some t =>
    cases ht : Text.isBlank t with
    | false => rw [Text.nonBlank?, Option.filter_some_pos (by simp [ht])]
    | true => simp [Text.nonBlank?, Phone.Mask.ofText?, ht]

/-- A text that is empty unless it has content can be left out when it is blank. -/
theorem getD_nonBlank? {t : Option Text} (h : ∀ s ∈ t, s ≠ [] → Text.isBlank s = false) :
    (Text.nonBlank? t).getD [] = t.getD [] := by
  cases t with
  | none => rfl
  | some s =>
    cases s with
    | nil => rfl
    | cons c s =>
      have hblank : Text.isBlank (c :: s) = false := h _ rfl (List.cons_ne_nil c s)
      rw [Text.nonBlank?, Option.filter_some_pos (by simp [hblank])]

/-! ## Templates -/

namespace Address

/-- The normal form of a template that has lines. -/
theorem normalTemplate_cons (line : Text) (lines : List Text) :
    normalTemplate (some (line :: lines)) = some ((line :: lines).map Text.trim) := rfl

theorem renderLines_normalTemplate (parts : Components) (template : Option (List Text)) :
    renderLines parts (normalTemplate template) = renderLines parts template := by
  match template with
  | none => rfl
  | some [] => rfl
  | some (line :: lines) =>
    have hlines : ((line :: lines).map Text.trim).map (Template.renderLine parts.value)
        = (line :: lines).map (Template.renderLine parts.value) := by
      rw [List.map_map]
      refine List.map_congr_left fun l _ => ?_
      rw [Function.comp_apply, Template.renderLine_trim]
    rw [normalTemplate_cons, renderLines_of_ne_nil parts (by simp),
      renderLines_of_ne_nil parts (List.cons_ne_nil line lines), hlines]

theorem requiredFields_normalTemplate (template : Option (List Text)) :
    requiredFields (normalTemplate template) = requiredFields template := by
  have hfields : substitutedFields ((normalTemplate template).getD [])
      = substitutedFields (template.getD []) := by
    match template with
    | none => rfl
    | some [] => rfl
    | some (line :: lines) =>
      rw [normalTemplate_cons, Option.getD_some, Option.getD_some, substitutedFields,
        substitutedFields, List.flatMap_map]
      simp only [Template.substitutionKeys_trim]
  rw [requiredFields, requiredFields, hfields]

end Address

/-! ## The engines -/

/-- A number is the same whether blank conventions are left out or not. -/
theorem Phone.analyze_nonBlank? [Pattern.SizeLimit] (input : Text) (c : Phone.Conventions) :
    Phone.analyze input
        ⟨Text.nonBlank? c.mask, Text.nonBlank? c.pattern, Text.nonBlank? c.callingCode⟩
      = Phone.analyze input c := by
  simp only [Phone.analyze, Phone.validate, bind_ofText?_nonBlank?, nonBlank?_nonBlank?,
    accepts_nonBlank?]
  rfl

theorem Currency.partsWith_normal {c : Country}
    (hsymbol : ∀ s ∈ c.currencySymbol, s ≠ [] → Text.isBlank s = false) (amount : Binary64)
    (format : Currency.Format) :
    Currency.partsWith amount c.normal format = Currency.partsWith amount c format := by
  have hshown : c.normal.symbol = c.symbol := getD_nonBlank? hsymbol
  have hcurrency : Text.nonBlank? c.normal.currency = Text.nonBlank? c.currency :=
    nonBlank?_nonBlank? c.currency
  rw [Currency.partsWith, Currency.partsWith, hcurrency, hshown]

/-- **Normal form is invisible to the engines.** Whatever stands in a record, its normal form gives
the same addresses, required fields, phone numbers, postal codes and placeholders; and the same
amounts too, unless the currency symbol is white space. -/
theorem Country.normal_engines [Pattern.SizeLimit] (c : Country) :
    (∀ parts, c.normal.addressLines parts = c.addressLines parts)
      ∧ (∀ parts, c.normal.address parts = c.address parts)
      ∧ c.normal.requiredFields = c.requiredFields
      ∧ c.normal.phonePlaceholder = c.phonePlaceholder
      ∧ (∀ input allowPart, c.normal.formatPhone input allowPart = c.formatPhone input allowPart)
      ∧ (∀ input, c.normal.validatePhone input = c.validatePhone input)
      ∧ (∀ input, c.normal.analyzePhone input = c.analyzePhone input)
      ∧ (∀ input, c.normal.validatePostalCode input = c.validatePostalCode input)
      ∧ c.normal.postalPlaceholder = c.postalPlaceholder
      ∧ ((∀ s ∈ c.currencySymbol, s ≠ [] → Text.isBlank s = false) → ∀ amount format,
        Currency.formatWith amount c.normal format = Currency.formatWith amount c format
          ∧ Currency.parts amount c.normal = Currency.parts amount c) := by
  have hlines : ∀ parts, c.normal.addressLines parts = c.addressLines parts :=
    fun parts => Address.renderLines_normalTemplate parts c.addressFormat
  refine ⟨hlines, fun parts => ?_, Address.requiredFields_normalTemplate c.addressFormat, ?_,
    fun input allowPart => ?_, accepts_nonBlank? c.phoneRegexp,
    fun input => Phone.analyze_nonBlank? input c.phone, accepts_nonBlank? c.postalCodeRegexp, ?_,
    fun hsymbol amount format => ⟨?_, Currency.partsWith_normal hsymbol amount {}⟩⟩
  · exact congrArg (Option.map (Text.joined ['\n'])) (hlines parts)
  · exact congrArg (Option.map Phone.Mask.placeholder) (bind_ofText?_nonBlank? c.phoneFormat)
  · have hmask : c.normal.phoneFormat = Text.nonBlank? c.phoneFormat := rfl
    rw [formatPhone, formatPhone, Phone.format, Phone.format, hmask, bind_ofText?_nonBlank?]
  · rw [postalPlaceholder, postalPlaceholder]
    exact congrArg _ (nonBlank?_nonBlank? c.postalCodeFormat)
  · rw [Currency.formatWith, Currency.formatWith, Currency.partsWith_normal hsymbol]

/-- A record in disorder, rendered as its normal form is. With white space for a symbol the amounts
differ. -/
theorem Country.normal_engines_untidy :
    let parts : Address.Components := .ofPairs [(.city, " Recife "), (.stateCode, "PE")]
    let amount : Binary64 := .ofBits 0x4004000000000000
    let c : Country :=
      { currency := some " brl ", currencySymbol := some "R$", phoneFormat := some " ",
        phoneCountryCode := some "+55", postalCodeRegexp := some "",
        addressFormat := some ["\t{{city}} - {{state_code}} ", " "] }
    let blank : Country := { c with currencySymbol := some " " }
    c.normal ≠ c
      ∧ c.normal.addressLines parts = some (["Recife - PE"] : List Text)
      ∧ c.normal.validatePostalCode "50030-230" = c.validatePostalCode "50030-230"
      ∧ (∀ s ∈ c.currencySymbol, s ≠ [] → Text.isBlank s = false)
      ∧ Currency.formatWith amount c.normal {} = "R$2.50"
      ∧ Currency.formatWith amount blank.normal {} ≠ Currency.formatWith amount blank {} := by
  intro parts amount c blank
  obtain ⟨hlines, -, -, -, -, -, -, hpostal, -, hamount⟩ := Country.normal_engines c
  have hsymbol : ∀ s ∈ c.currencySymbol, s ≠ [] → Text.isBlank s = false := by decide
  refine ⟨by decide, ?_, hpostal _, hsymbol, ?_, by decide⟩
  · rw [hlines]
    decide +kernel
  · rw [(hamount hsymbol amount {}).1]
    decide +kernel

end Gazetteer

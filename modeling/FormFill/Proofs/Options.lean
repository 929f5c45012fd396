import FormFill.Options
import FormFill.Proofs.Schema.Checked
import Mathlib.Tactic.CasesM

namespace FormFill

open Schema

/-- A text in a document, null where there is none. -/
def Json.ofText? : Option String → Json
  | some text => .str text
  | none => .null

def JitterWindow.document (window : JitterWindow) : Json :=
  .obj [("below", .int window.below), ("above", .int window.above)]

def IdentifierOptions.document (options : IdentifierOptions) : Json :=
  .obj [("lastSkuFile", .ofText? options.file), ("start", .ofText? options.start),
    ("recordKey", .str options.recordKey)]

theorem IdentifierOptions.read_document (options : IdentifierOptions) : read options.document = .valid options := by
  obtain ⟨file, start, recordKey⟩ := options
  cases file <;> cases start <;> rfl

namespace RunOptions

/-- The members of a document that gives all options, each under its first spelling. -/
def members (options : RunOptions) : Members :=
  [("waitUntil", .str options.waitUntil.name), ("slowMoMs", .int options.slowMotion),
    ("typingDelayMs", .int options.typingDelay), ("betweenFieldsDelayMs", .int options.betweenFieldsDelay),
    ("typingJitter", options.typingJitter.document), ("fieldJitter", options.fieldJitter.document),
    ("scrollTimeoutMs", .int options.scrollTimeout), ("waitForSelector", .ofText? options.readySelector),
    ("waitForSelectorTimeoutMs", .int options.readyTimeout),
    ("pauseForManualStart", .bool options.pauseForManualStart), ("pauseBeforeFillMs", .int options.pauseBeforeFill),
    ("clickDraft", .bool options.clickDraft), ("clickSaveProgress", .bool options.clickSaveProgress),
    ("pauseAfterDraftMs", .int options.pauseAfterDraft), ("pauseForReview", .bool options.pauseForReview),
    ("userDataDir", .ofText? options.userDataDir), ("sku", options.identifiers.document),
    ("grantClipboard", .bool options.grantClipboard), ("continueOnError", .bool options.continueOnError)]

/-- The options are what some document gives. -/
def Accepted (options : RunOptions) : Prop :=
  ∃ document, read document = .valid options

/-- No delay is negative. All other times of a run are natural numbers in any case. -/
structure Permitted (options : RunOptions) : Prop where
  slowMotion : 0 ≤ options.slowMotion
  typingDelay : 0 ≤ options.typingDelay
  betweenFieldsDelay : 0 ≤ options.betweenFieldsDelay

theorem readDelay_int {delay : Int} (permitted : 0 ≤ delay) : readDelay (.int delay) = .valid delay := by
  obtain ⟨delay, rfl⟩ := Int.eq_ofNat_of_zero_le permitted
  rfl

theorem ofMembers_members {options : RunOptions} (permitted : options.Permitted) :
    ofMembers options.members = .valid options := by
  have delay (part : Attribute Int) (key : String) {value : Int} (permitted : 0 ≤ value)
      (reads : part.of options.members = (readDelay (.int value)).under (.key key)) :
      part.of options.members = .valid value := by
    rw [reads, readDelay_int permitted]
    rfl
  have slowMotion := delay slowMotionAttribute "slowMoMs" permitted.slowMotion rfl
  have typingDelay := delay typingDelayAttribute "typingDelayMs" permitted.typingDelay rfl
  have betweenFieldsDelay := delay betweenFieldsDelayAttribute "betweenFieldsDelayMs" permitted.betweenFieldsDelay rfl
  have waitUntil : waitUntilAttribute.of options.members = .valid options.waitUntil := by
    unfold members
    cases options.waitUntil <;> rfl
  have readySelector : readySelectorAttribute.of options.members = .valid options.readySelector := by
    unfold members
    cases options.readySelector <;> rfl
  have userDataDir : userDataDirAttribute.of options.members = .valid options.userDataDir := by
    unfold members
    cases options.userDataDir <;> rfl
  have identifiers : identifiersAttribute.of options.members = .valid options.identifiers := by
    have reads : identifiersAttribute.of options.members =
        (IdentifierOptions.read options.identifiers.document).under (.key "sku") := rfl
    rw [reads, IdentifierOptions.read_document]
    rfl
  unfold ofMembers
  rw [waitUntil, slowMotion, typingDelay, betweenFieldsDelay, readySelector, userDataDir, identifiers]
  rfl

theorem of_readDelay {spellings : List String} {members : Members} {delay : Int}
    (given : (⟨spellings, readDelay, some 0⟩ : Attribute Int).of members = .valid delay) : 0 ≤ delay := by
  cases used : usedKey? members spellings with
  | none =>
    rw [Attribute.of_unused used rfl] at given
    cases given
    exact Int.le_refl 0
  | some key =>
    rw [Attribute.of_used used, Checked.under_eq_valid] at given
    obtain ⟨count, -, rfl⟩ := Checked.map_eq_valid.mp given
    exact Int.natCast_nonneg count

theorem permitted_of_ofMembers {members : Members} {options : RunOptions}
    (accepted : ofMembers members = .valid options) : options.Permitted := by
  simp only [ofMembers, Checked.also, Checked.apply_eq_valid, Checked.map_eq_valid, Checked.valid.injEq] at accepted
  casesm* ∃ _, _, _ ∧ _
  subst_vars
  have slowMotion := of_readDelay ‹slowMotionAttribute.of members = _›
  have typingDelay := of_readDelay ‹typingDelayAttribute.of members = _›
  have betweenFieldsDelay := of_readDelay ‹betweenFieldsDelayAttribute.of members = _›
  exact ⟨slowMotion, typingDelay, betweenFieldsDelay⟩

/-- A document gives the options just where none of their delays is negative. -/
theorem accepted_iff_permitted {options : RunOptions} : options.Accepted ↔ options.Permitted := by
  constructor
  · rintro ⟨document, accepted⟩
    cases document with
    | obj members => exact permitted_of_ofMembers accepted
    | _ => cases accepted
  · intro permitted
    exact ⟨.obj options.members, ofMembers_members permitted⟩

end RunOptions

theorem firstSet_nonneg_iff (given : Option Int) {option preset : Int} (unsigned : 0 ≤ option)
    (unsignedPreset : 0 ≤ preset) : 0 ≤ firstSet given option preset ↔ ∀ delay ∈ given.toList, 0 ≤ delay := by
  cases given with
  | some delay => simp [firstSet]
  | none =>
    have fallback : 0 ≤ firstSet none option preset := by
      unfold firstSet
      dsimp only
      split
      · exact unsigned
      · exact unsignedPreset
    simp [fallback]

/-- None of the delays of a cautious run is negative. -/
structure SafePresets.Permitted (presets : SafePresets) : Prop where
  slowMotion : 0 ≤ presets.slowMotion
  typingDelay : 0 ≤ presets.typingDelay
  betweenFieldsDelay : 0 ≤ presets.betweenFieldsDelay

/-- The delays that are given for one run. -/
def Overrides.delays (overrides : Overrides) : List Int :=
  overrides.slowMotion.toList ++ overrides.typingDelay.toList ++ overrides.betweenFieldsDelay.toList

theorem RunOptions.override_permitted_iff {presets : SafePresets} {options : RunOptions} (shipped : presets.Permitted)
    (permitted : options.Permitted) (overrides : Overrides) :
    (options.override presets overrides).Permitted ↔ ∀ delay ∈ overrides.delays, 0 ≤ delay := by
  have preset {value : Int} (unsigned : 0 ≤ value) : 0 ≤ if overrides.safe then value else 0 := by
    split
    · exact unsigned
    · exact Int.le_refl 0
  have slowMotion := firstSet_nonneg_iff overrides.slowMotion permitted.slowMotion (preset shipped.slowMotion)
  have typingDelay := firstSet_nonneg_iff overrides.typingDelay permitted.typingDelay (preset shipped.typingDelay)
  have betweenFieldsDelay := firstSet_nonneg_iff overrides.betweenFieldsDelay permitted.betweenFieldsDelay
    (preset shipped.betweenFieldsDelay)
  rw [Overrides.delays, List.forall_mem_append, List.forall_mem_append, ← slowMotion, ← typingDelay,
    ← betweenFieldsDelay]
  constructor
  · intro ⟨slow, typing, between⟩
    exact ⟨⟨slow, typing⟩, between⟩
  · intro ⟨⟨slow, typing⟩, between⟩
    exact ⟨slow, typing, between⟩

end FormFill

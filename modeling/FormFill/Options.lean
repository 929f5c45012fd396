import FormFill.Schema.Attribute

namespace FormFill

/-- How far a drawn delay may lie below and above its base. -/
structure JitterWindow where
  below : Nat
  above : Nat
deriving DecidableEq, Repr

/-- Where identifiers come from and where they go. -/
structure IdentifierOptions where
  file : Option String
  start : Option String
  recordKey : String
deriving DecidableEq, Repr

/-- The states of a page that its opening can wait for. -/
inductive WaitUntil where
  | load
  | domContentLoaded
  | networkIdle
  | commit
deriving DecidableEq, Repr

def WaitUntil.name : WaitUntil → String
  | .load => "load"
  | .domContentLoaded => "domcontentloaded"
  | .networkIdle => "networkidle"
  | .commit => "commit"

/-- The settings of a run. Times are in milliseconds. -/
structure RunOptions where
  waitUntil : WaitUntil
  slowMotion : Int
  typingDelay : Int
  betweenFieldsDelay : Int
  typingJitter : JitterWindow
  fieldJitter : JitterWindow
  scrollTimeout : Nat
  readySelector : Option String
  readyTimeout : Nat
  pauseForManualStart : Bool
  pauseBeforeFill : Nat
  clickDraft : Bool
  clickSaveProgress : Bool
  pauseAfterDraft : Nat
  pauseForReview : Bool
  userDataDir : Option String
  identifiers : IdentifierOptions
  grantClipboard : Bool
  continueOnError : Bool
deriving DecidableEq, Repr

open Schema

/-- The members of an object that is to be of some kind. -/
def membersOf (kind : String) : Json → Checked Members
  | .obj members => .valid members
  | _ => .fail (.notObject kind)

namespace JitterWindow

def belowAttribute : Attribute Nat := .required ["below"] readNat
def aboveAttribute : Attribute Nat := .required ["above"] readNat

def read (value : Json) : Checked JitterWindow :=
  (membersOf "JitterWindow" value).andThen fun members =>
    ((Checked.valid JitterWindow.mk).apply (belowAttribute.of members)
      |>.apply (aboveAttribute.of members)).also
      (refuseUnknown members [belowAttribute.spellings, aboveAttribute.spellings])

end JitterWindow

namespace IdentifierOptions

/-- A start value may be given as a whole number, but not as a truth value. -/
def readStart : Json → Checked (Option String)
  | .bool _ => .fail (.rejected "start must be a string or an integer")
  | .int n => .valid (some (toString n))
  | other => readOptional readText other

def fileAttribute : Attribute (Option String) := .optional ["lastSkuFile", "last_sku_file"]
def startAttribute : Attribute (Option String) := ⟨["start"], readStart, some none⟩
def recordKeyAttribute : Attribute String := ⟨["recordKey", "record_key"], readText, some "sku"⟩

def default : IdentifierOptions := ⟨none, none, "sku"⟩

def read (value : Json) : Checked IdentifierOptions :=
  (membersOf "IdentifierOptions" value).andThen fun members =>
    ((Checked.valid IdentifierOptions.mk).apply (fileAttribute.of members)
      |>.apply (startAttribute.of members)
      |>.apply (recordKeyAttribute.of members)).also
      (refuseUnknown members
        [fileAttribute.spellings, startAttribute.spellings, recordKeyAttribute.spellings])

end IdentifierOptions

namespace RunOptions

def waitUntilChoices : List (String × WaitUntil) :=
  [WaitUntil.load, .domContentLoaded, .networkIdle, .commit].map fun choice =>
    (choice.name, choice)

/-- A time that a run may set anew. -/
def readDelay (value : Json) : Checked Int :=
  (readNat value).map Int.ofNat

def waitUntilAttribute : Attribute WaitUntil :=
  ⟨["waitUntil", "wait_until"], readAmong true waitUntilChoices, some .domContentLoaded⟩
def slowMotionAttribute : Attribute Int := ⟨["slowMoMs", "slow_mo_ms"], readDelay, some 0⟩
def typingDelayAttribute : Attribute Int :=
  ⟨["typingDelayMs", "typing_delay_ms"], readDelay, some 0⟩
def betweenFieldsDelayAttribute : Attribute Int :=
  ⟨["betweenFieldsDelayMs", "between_fields_delay_ms"], readDelay, some 0⟩
def typingJitterAttribute : Attribute JitterWindow :=
  ⟨["typingJitter", "typing_jitter"], JitterWindow.read, some ⟨40, 60⟩⟩
def fieldJitterAttribute : Attribute JitterWindow :=
  ⟨["fieldJitter", "field_jitter"], JitterWindow.read, some ⟨120, 220⟩⟩
def scrollTimeoutAttribute : Attribute Nat :=
  .count ["scrollTimeoutMs", "scroll_timeout_ms"] 2000
def readySelectorAttribute : Attribute (Option String) :=
  .optional ["waitForSelector", "wait_for_selector"]
def readyTimeoutAttribute : Attribute Nat :=
  .count ["waitForSelectorTimeoutMs", "wait_for_selector_timeout_ms"] 120000
def pauseForManualStartAttribute : Attribute Bool :=
  .flag ["pauseForManualStart", "pause_for_manual_start"] false
def pauseBeforeFillAttribute : Attribute Nat :=
  .count ["pauseBeforeFillMs", "pause_before_fill_ms"] 0
def clickDraftAttribute : Attribute Bool := .flag ["clickDraft", "click_draft"] false
def clickSaveProgressAttribute : Attribute Bool :=
  .flag ["clickSaveProgress", "click_save_progress"] false
def pauseAfterDraftAttribute : Attribute Nat :=
  .count ["pauseAfterDraftMs", "pause_after_draft_ms"] 0
def pauseForReviewAttribute : Attribute Bool :=
  .flag ["pauseForReview", "pause_for_review"] false
def userDataDirAttribute : Attribute (Option String) :=
  .optional ["userDataDir", "user_data_dir"]
def identifiersAttribute : Attribute IdentifierOptions :=
  ⟨["sku"], IdentifierOptions.read, some .default⟩
def grantClipboardAttribute : Attribute Bool := .flag ["grantClipboard", "grant_clipboard"] true
def continueOnErrorAttribute : Attribute Bool :=
  .flag ["continueOnError", "continue_on_error"] false

def spellings : List (List String) :=
  [waitUntilAttribute.spellings, slowMotionAttribute.spellings, typingDelayAttribute.spellings,
   betweenFieldsDelayAttribute.spellings, typingJitterAttribute.spellings,
   fieldJitterAttribute.spellings, scrollTimeoutAttribute.spellings,
   readySelectorAttribute.spellings, readyTimeoutAttribute.spellings,
   pauseForManualStartAttribute.spellings, pauseBeforeFillAttribute.spellings,
   clickDraftAttribute.spellings, clickSaveProgressAttribute.spellings,
   pauseAfterDraftAttribute.spellings, pauseForReviewAttribute.spellings,
   userDataDirAttribute.spellings, identifiersAttribute.spellings,
   grantClipboardAttribute.spellings, continueOnErrorAttribute.spellings]

def ofMembers (members : Members) : Checked RunOptions :=
  ((Checked.valid RunOptions.mk).apply (waitUntilAttribute.of members)
    |>.apply (slowMotionAttribute.of members)
    |>.apply (typingDelayAttribute.of members)
    |>.apply (betweenFieldsDelayAttribute.of members)
    |>.apply (typingJitterAttribute.of members)
    |>.apply (fieldJitterAttribute.of members)
    |>.apply (scrollTimeoutAttribute.of members)
    |>.apply (readySelectorAttribute.of members)
    |>.apply (readyTimeoutAttribute.of members)
    |>.apply (pauseForManualStartAttribute.of members)
    |>.apply (pauseBeforeFillAttribute.of members)
    |>.apply (clickDraftAttribute.of members)
    |>.apply (clickSaveProgressAttribute.of members)
    |>.apply (pauseAfterDraftAttribute.of members)
    |>.apply (pauseForReviewAttribute.of members)
    |>.apply (userDataDirAttribute.of members)
    |>.apply (identifiersAttribute.of members)
    |>.apply (grantClipboardAttribute.of members)
    |>.apply (continueOnErrorAttribute.of members)).also (refuseUnknown members spellings)

def read (value : Json) : Checked RunOptions :=
  (membersOf "RunOptions" value).andThen ofMembers

def default : RunOptions :=
  { waitUntil := .domContentLoaded, slowMotion := 0, typingDelay := 0, betweenFieldsDelay := 0,
    typingJitter := ⟨40, 60⟩, fieldJitter := ⟨120, 220⟩, scrollTimeout := 2000,
    readySelector := none, readyTimeout := 120000, pauseForManualStart := false,
    pauseBeforeFill := 0, clickDraft := false, clickSaveProgress := false, pauseAfterDraft := 0,
    pauseForReview := false, userDataDir := none, identifiers := .default, grantClipboard := true,
    continueOnError := false }

end RunOptions

/-- The delays of a cautious run. -/
structure SafePresets where
  slowMotion : Int
  typingDelay : Int
  betweenFieldsDelay : Int
deriving DecidableEq, Repr

/-- Settings given for one run only. -/
structure Overrides where
  safe : Bool
  slowMotion : Option Int
  typingDelay : Option Int
  betweenFieldsDelay : Option Int
  userDataDir : Option String
deriving DecidableEq, Repr

/-- What is given for the run, be it zero, else the option unless it is zero, else the preset. -/
def firstSet (override : Option Int) (option preset : Int) : Int :=
  match override with
  | some value => value
  | none => if option ≠ 0 then option else preset

def RunOptions.override (presets : SafePresets) (overrides : Overrides) (options : RunOptions) :
    RunOptions :=
  let preset (value : Int) : Int := if overrides.safe then value else 0
  { options with
    slowMotion := firstSet overrides.slowMotion options.slowMotion (preset presets.slowMotion)
    typingDelay := firstSet overrides.typingDelay options.typingDelay (preset presets.typingDelay)
    betweenFieldsDelay :=
      firstSet overrides.betweenFieldsDelay options.betweenFieldsDelay
        (preset presets.betweenFieldsDelay)
    userDataDir := (overrides.userDataDir.filter (· ≠ "")).or options.userDataDir }

end FormFill

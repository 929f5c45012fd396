import FormFill.Browser.World

namespace FormFill

/-- The delays of a run, how far drawn ones may stray, and how long scrolling may take. -/
structure Timing where
  typingDelay : Int
  betweenFieldsDelay : Int
  typingBelow : Int
  typingAbove : Int
  fieldBelow : Int
  fieldAbove : Int
  scrollTimeout : Int
deriving DecidableEq, Repr

namespace Timing

def default : Timing :=
  { typingDelay := 0, betweenFieldsDelay := 0, typingBelow := 40, typingAbove := 60,
    fieldBelow := 120, fieldAbove := 220, scrollTimeout := 2000 }

def ofOptions (options : RunOptions) : Timing :=
  { typingDelay := options.typingDelay, betweenFieldsDelay := options.betweenFieldsDelay,
    typingBelow := options.typingJitter.below, typingAbove := options.typingJitter.above,
    fieldBelow := options.fieldJitter.below, fieldAbove := options.fieldJitter.above,
    scrollTimeout := options.scrollTimeout }

/-- A delay near a base: zero for a base that is not positive, never negative. -/
def jitter (base below above : Int) : Act Int :=
  if base ≤ 0 then return 0 else Act.draw (max 0 (base - below)) (base + above)

def typingJitter (timing : Timing) (base : Option Int) : Act Int :=
  jitter (base.getD timing.typingDelay) timing.typingBelow timing.typingAbove

def fieldJitter (timing : Timing) (base : Option Int) : Act Int :=
  jitter (base.getD timing.betweenFieldsDelay) timing.fieldBelow timing.fieldAbove

/-- The delay between two keys. -/
def keystrokeDelay (timing : Timing) (suppressed : Bool) : Act Int :=
  if suppressed then return 0 else timing.typingJitter none

/-- The milliseconds from which on a pause is too long: in seconds, they are beyond the largest double. -/
def pauseBound : Nat := 1000 * (1 <<< 1024 - 1 <<< 970)

def pause (milliseconds : Int) : Act Unit :=
  if milliseconds ≤ 0 then return ()
  else if milliseconds < pauseBound then Act.note (.sleep milliseconds)
  else throw .overlongPause

def log (level : LogLevel) (event : String) (values : Members) : Act Unit :=
  Act.log level "timing_engine" event values

/-- Waits between two fields and gives the delay. -/
def betweenFields (timing : Timing) : Act Int := do
  let delay ← timing.fieldJitter none
  if delay ≠ 0 then
    log .debug "Pausing between fields" [("delay_ms", .int delay)]
    pause delay
  return delay

/-- Scrolls the first match into view; a failure is only a warning. -/
def scrollIntoView (timing : Timing) (handle : Handle) (fieldName : String) (skip : Bool) :
    Act Bool :=
  if skip then return false
  else
    Act.catchBrowser
      (do
        Act.perform (.element handle.first (.scrollIntoView timing.scrollTimeout))
        return true)
      fun error => do
        log .warning "Could not scroll to field"
          [("field", .str fieldName), ("error", .str error.text)]
        return false

def bottomScript : String := "() => window.scrollTo(0, document.body.scrollHeight)"

/-- The time a page is given to settle at its bottom. -/
def settleTime : Nat := 500

/-- Scrolls to the bottom of the page; a failure is only a warning. -/
def scrollPageBottom : Act Bool :=
  Act.catchBrowser
    (do
      Act.call (.evaluate bottomScript none)
      Act.call (.waitForTimeout settleTime)
      return true)
    fun error => do
      log .warning "Could not scroll page to bottom" [("error", .str error.text)]
      return false

end Timing
end FormFill

import FormFill.Browser.World

namespace FormFill.Failure

/-- What a failure says; undecodable bytes and a person who breaks off say nothing. -/
def message : Failure → String
  | .browser error => error.text
  | .pageNotReady selector timeout =>
    s!"Page not ready: {String.ofList (Text.quoted selector.toList)} did not appear within {timeout} ms"
  | .fieldFailed outcome _ =>
    let reason := outcome.reason.getD "None"
    s!"Field {String.ofList (Text.quoted outcome.field.toList)} failed: {reason}"
  | .undecodable | .brokenOff => ""
  | .unencodable fault => fault.message
  | .nulInPath => "embedded null byte"
  | .numeral fault => fault.message
  | .file fault => fault.message
  | .emptyWindow low high =>
    s!"empty range for randrange() ({low}, {high + 1}, {high + 1 - low})"
  | .overlongPause => "integer division result too large for a float"
  | .address fault => fault.message
  | .console text => text
  | .logging fault => fault.message

end FormFill.Failure

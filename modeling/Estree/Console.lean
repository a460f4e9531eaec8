import Estree.Dict

/-!
# Consoles

What a program knows of the console it was started from: the environment variables, and whether its
output goes to a terminal. From this it follows whether text is written in colours.
-/

namespace Estree

/-- A console. -/
structure Console where
  /-- The environment variables. -/
  environment : Dict String := []
  /-- Does the output go to a terminal? -/
  outputIsTerminal : Bool := false
  /-- Do the messages go to a terminal? -/
  messagesAreTerminal : Bool := false

/-- When colours are wanted. -/
inductive ColorMode where
  /-- If the console seems fit for them. -/
  | auto
  /-- Always. -/
  | always
  /-- Never. -/
  | never
  deriving DecidableEq, Repr

/-- The mode with the given name. -/
def ColorMode.ofName? : String → Option ColorMode
  | "auto" => some .auto
  | "always" => some .always
  | "never" => some .never
  | _ => none

namespace Console

/-- Is a variable set? -/
def hasVariable (c : Console) (name : String) : Bool := (c.environment.get? name).isSome

/-- Does the terminal call itself dumb? -/
def isDumb (c : Console) : Bool := c.environment.get? "TERM" = some "dumb"

/-- Are colours wanted for text that goes to a terminal or elsewhere? -/
def wantsColor (c : Console) (mode : ColorMode) (isTerminal : Bool) : Bool :=
  match mode with
  | .always => true
  | .never => false
  | .auto =>
    !c.hasVariable "NO_COLOR" && (c.hasVariable "FORCE_COLOR" || (!c.isDumb && isTerminal))

/-- Can colours be written? A terminal has to be named that is not dumb, and nothing must speak
against colours. -/
def allowsColor (c : Console) : Bool :=
  c.hasVariable "TERM" && !c.isDumb && !c.hasVariable "NO_COLOR"

end Console

/-- Whether colours are written to an output. -/
inductive ColorChoice where
  /-- If the console allows them. -/
  | auto
  /-- Never. -/
  | never
  deriving DecidableEq, Repr

/-- The name of a choice. -/
def ColorChoice.name : ColorChoice → String
  | .auto => "Auto"
  | .never => "Never"

/-- Are escape sequences written? -/
def ColorChoice.escapes (c : Console) : ColorChoice → Bool
  | .auto => c.allowsColor
  | .never => false

/-- How results are written. -/
structure OutputSettings where
  /-- Are colours wanted? -/
  useColor : Bool := true
  /-- Are hidden children counted? -/
  hiddenCounts : Bool := true

/-- Whether colours are written. -/
def OutputSettings.colorChoice (s : OutputSettings) : ColorChoice :=
  if s.useColor then .auto else .never

/-! ### Log messages -/

/-- The environment variable that tells which log messages are shown. -/
def logVariable : String := "ESWALK_LOG"

/-- Which log messages are shown if the variable says nothing. -/
def logDirective (verbose : Bool) : String := if verbose then "eswalk=debug" else "warn"

end Estree

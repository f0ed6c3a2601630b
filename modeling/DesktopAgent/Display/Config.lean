import DesktopAgent.Agent.Config
import DesktopAgent.Text.Blank
import DesktopAgent.Text.Numeral

/-!
The settings of a virtual display and what they are when the environment says nothing.
-/

namespace DesktopAgent.Display

open DesktopAgent.Text

/-- A program and its arguments. -/
abbrev Argv := List String

/-- A span of time, in nanoseconds. -/
abbrev Span := Nat

def Span.ofMilliseconds (count : Nat) : Span := count * 1000000

def Span.milliseconds (span : Span) : Nat := span / 1000000

/-- The settings of a display: its name and size, the programs that serve it, where pictures are
kept, and how long things may take. An empty window manager or browser is not launched. The place of
the pictures is a path in Unicode, which is therefore the same as the text that shows it. -/
structure Config where
  display : String
  width : UInt32
  height : UInt32
  framebuffer : Argv
  windowManager : Argv
  browser : Argv
  probe : Argv
  capture : Argv
  input : Argv
  screenshotDir : String
  startTimeout : Span
  pollInterval : Span
  windowManagerSettle : Span
  browserSettle : Span
  actionSettle : Span
  typingDelayMs : UInt64
deriving DecidableEq, Repr

namespace Config

def dimensions (config : Config) : Dimensions := ⟨config.width, config.height⟩

/-- Reads a size from the variable of a name; blanks around it do not count. -/
def sizeOf? (environment : Environment) (name : String) : Option UInt32 :=
  (environment name).bind fun text => Numeral.toUInt32? (trim text.toList)

/-- The settings for an environment: `CUA_DISPLAY`, `CUA_DISPLAY_WIDTH`, `CUA_DISPLAY_HEIGHT` and
`TMPDIR` may change them. A size that is no number is passed over. -/
def ofEnvironment (environment : Environment) : Config where
  display := (environment "CUA_DISPLAY").getD ":99"
  width := (sizeOf? environment "CUA_DISPLAY_WIDTH").getD 1024
  height := (sizeOf? environment "CUA_DISPLAY_HEIGHT").getD 768
  framebuffer := ["Xvfb"]
  windowManager := ["openbox"]
  browser := ["firefox", "--no-remote"]
  probe := ["xset", "q"]
  capture := ["scrot"]
  input := ["xdotool"]
  screenshotDir := (environment "TMPDIR").getD "/tmp"
  startTimeout := .ofMilliseconds 5000
  pollInterval := .ofMilliseconds 200
  windowManagerSettle := .ofMilliseconds 500
  browserSettle := .ofMilliseconds 2000
  actionSettle := .ofMilliseconds 1000
  typingDelayMs := 50

end Config

end DesktopAgent.Display

import SuiteEngine.Config.Settings
import SuiteEngine.Failure

/-!
# How browsers are started
-/

namespace SuiteEngine.Browser

/-- How browsers are started. -/
structure Launch where
  browser : String
  headless : Bool
  /-- The milliseconds allowed for a command. -/
  actionTimeout : Int
  /-- The milliseconds allowed for going to an address. -/
  navigationTimeout : Int

/-- How browsers are started unless told otherwise. -/
def Launch.usual : Launch :=
  { browser := "chromium", headless := true, actionTimeout := 15000, navigationTimeout := 30000 }

/-- How browsers are started for a configuration. -/
def Launch.ofConfig (c : Config) : Launch :=
  { browser := c.browser.name, headless := c.browser.headless
    actionTimeout := c.execution.actionTimeout, navigationTimeout := c.execution.navigationTimeout }

/-- Refuses a browser that is not supported. -/
def Launch.checked (l : Launch) : Except Failure Launch :=
  if Config.browsers.contains l.browser then .ok l
  else .error ⟨.other "ValueError", "Unsupported browser '" ++ l.browser ++ "'."⟩

end SuiteEngine.Browser

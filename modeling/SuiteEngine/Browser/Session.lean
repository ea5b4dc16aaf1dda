import SuiteEngine.Browser.Launch
import SuiteEngine.Failure
import SuiteEngine.Host.Page
import SuiteEngine.Http.Message
import SuiteEngine.Text.Case

/-!
# A session with a browser

A session starts a browser, opens one page in it, and closes the browser however the session ends.
`session` gives what happens in one, in order, with how it ends.
-/

namespace SuiteEngine.Browser

/-!
## What a browser is told

What is done on a page comes to one command for the browser each. A command goes to the page, to an
element of it, or to an expectation about either; its options have the browser's names.

* `Command.ofCall`, `Command.ofShot`: the command for a call and for a picture.
* `Command.failure`: the failure that a refusal of the browser is. The browser's own refusals become
  failures of the host, except for the commands that no activity is told for.
* `Command.settle`: what a page makes of a reply of the browser.
-/

open Host (Options PageCall Shot)

/-- What a command goes to. -/
inductive Receiver where
  | page
  | element (selector : String)
  /-- An expectation about an element, or else about the page. -/
  | expectation (selector : Option String)

/-- A command for the browser. -/
structure Command where
  receiver : Receiver
  method : String
  arguments : List Value
  options : Options
  /-- What a refusal is said to have happened in. -/
  activity : Option String

/-- Whether a character is a capital letter of the Latin alphabet. -/
def isCapital (c : Char) : Bool := 'A' ≤ c && c ≤ 'Z'

/-- Puts an underscore before each capital letter. -/
def splitWords : List Char → List Char
  | [] => []
  | c :: rest => if isCapital c then '_' :: c :: splitWords rest else c :: splitWords rest

/-- The browser's name of an option: its words in small letters with underscores between them. -/
def optionName (name : String) : String :=
  match name.toList with
  | [] => ""
  | c :: rest => Text.lower (String.ofList (c :: splitWords rest))

/-- Binds an option; one of this name that is there already takes the new value in its place. -/
def setOption : Options → String → Value → Options
  | [], k, v => [(k, v)]
  | (k', v') :: rest, k, v => if k' = k then (k, v) :: rest else (k', v') :: setOption rest k v

/-- Options under the browser's names. -/
def browserOptions (o : Options) : Options :=
  o.foldl (fun acc (k, v) => setOption acc (optionName k) v) []

namespace Command

/-- A command that goes to the page. -/
def toPage (activity method : String) (arguments : List Value) (o : Options) : Command :=
  { receiver := .page, method, arguments, options := browserOptions o, activity := some activity }

/-- A command that goes to an element. -/
def toElement (activity method selector : String) (arguments : List Value) (o : Options) : Command :=
  { receiver := .element selector, method, arguments, options := browserOptions o
    activity := some activity }

/-- An expectation. -/
def expecting (selector : Option String) (method : String) (arguments : List Value) (o : Options) :
    Command :=
  { receiver := .expectation selector, method, arguments, options := browserOptions o
    activity := none }

/-- What a page evaluates to scroll. -/
def scrollScript : String := "([x, y]) => window.scrollTo(x, y)"

/-- The command for a call. -/
def ofCall : PageCall → Command
  | .goto url o => toPage ("goto " ++ url) "goto" [.str url] o
  | .click s o => toElement ("click " ++ s) "click" s [] o
  | .fill s t o => toElement ("fill " ++ s) "fill" s [.str t] o
  | .selectOption s t o => toElement ("select " ++ s) "select_option" s [.str t] o
  | .check s o => toElement ("check " ++ s) "check" s [] o
  | .uncheck s o => toElement ("uncheck " ++ s) "uncheck" s [] o
  | .hover s o => toElement ("hover " ++ s) "hover" s [] o
  | .press s k o => toElement ("press " ++ k ++ " on " ++ s) "press" s [.str k] o
  | .scrollIntoView s o => toElement ("scroll to " ++ s) "scroll_into_view_if_needed" s [] o
  | .scrollTo x y =>
    toPage ("scroll to (" ++ x.text ++ ", " ++ y.text ++ ")") "evaluate"
      [.str scrollScript, .list [x, y]] []
  | .setInputFile s f o => toElement ("upload to " ++ s) "set_input_files" s [.str f] o
  | .setInputFiles s fs o =>
    toElement ("upload to " ++ s) "set_input_files" s [.list (fs.map .str)] o
  | .evaluate e => toPage "evaluate" "evaluate" [.str e] []
  | .waitForTimeout ms =>
    { receiver := .page, method := "wait_for_timeout", arguments := [ms], options := []
      activity := none }
  | .waitForSelector s o => toPage ("wait for " ++ s) "wait_for_selector" [.str s] o
  | .waitForUrl url o => toPage ("wait for URL " ++ url) "wait_for_url" [.str url] o
  | .expectVisible s o => expecting (some s) "to_be_visible" [] o
  | .expectHidden s o => expecting (some s) "to_be_hidden" [] o
  | .expectText s t o => expecting (some s) "to_contain_text" [.str t] o
  | .expectValue s t o => expecting (some s) "to_have_value" [.str t] o
  | .expectUrl url o => expecting none "to_have_url" [.str url] o
  | .expectTitle t o => expecting none "to_have_title" [.str t] o
  | .expectCount s n o => expecting (some s) "to_have_count" [.int n] o
  | .setViewport w h =>
    { receiver := .page, method := "set_viewport_size"
      arguments := [.obj [("width", w), ("height", h)]], options := [], activity := none }

/-- The command for a picture. -/
def ofShot : Shot → Command
  | .view => toPage "screenshot" "screenshot" [] [("full_page", .bool false)]
  | .fullPage => toPage "screenshot" "screenshot" [] [("full_page", .bool true)]
  | .element s => toElement ("screenshot " ++ s) "screenshot" s [] []

end Command

/-- Why a command was not carried out. -/
inductive Refusal where
  /-- The browser did not get to it in time. -/
  | late (message : String)
  /-- The browser refused it for another reason. -/
  | refused (message : String)
  /-- Something else went wrong. -/
  | other (f : Failure)

/-- The failure that a refusal of the browser itself is. -/
def Refusal.bare : Refusal → Failure
  | late message => ⟨.other "TimeoutError", message⟩
  | refused message => ⟨.other "Error", message⟩
  | other f => f

/-- The failure that a refusal of a command is. -/
def Command.failure (c : Command) (r : Refusal) : Failure :=
  match c.activity, r with
  | some activity, .late message => ⟨.timeout, activity ++ ": " ++ message⟩
  | some activity, .refused message => ⟨.action, activity ++ ": " ++ message⟩
  | _, r => r.bare

/-- What a page makes of a reply of the browser to a command. -/
def Command.settle {α : Type} (c : Command) (reply : Except Refusal α) : Except Failure α :=
  reply.mapError c.failure

/-! ## Sessions -/

/-- What happens in a session. -/
inductive SessionEvent where
  | started
  | launched (browser : String) (headless : Bool)
  | contextOpened (baseUrl : Option String) (headers : Option Http.Headers)
  /-- A limit is set, in milliseconds. -/
  | limitSet (method : String) (milliseconds : Int)
  | pageOpened
  | commanded (c : Command)
  | browserClosed
  | stopped

/-- The failure that a refusal to launch is. -/
def Launch.failure (l : Launch) : Refusal → Failure
  | .late message => ⟨.action, "Unable to launch " ++ l.browser ++ ": " ++ message⟩
  | .refused message => ⟨.action, "Unable to launch " ++ l.browser ++ ": " ++ message⟩
  | .other f => f

/-- The events before the commands of a session. -/
def Launch.opening (l : Launch) (baseUrl : String) (headers : Http.Headers) : List SessionEvent :=
  [.contextOpened (if baseUrl == "" then none else some baseUrl)
      (if headers.isEmpty then none else some headers),
    .limitSet "set_default_timeout" l.actionTimeout,
    .limitSet "set_default_navigation_timeout" l.navigationTimeout, .pageOpened]

/-- What happens in a session that gives some commands, and the failure it ends with: that of the
launch, or that of the commands. -/
def session (l : Launch) (baseUrl : String) (headers : Http.Headers) (launching : Option Refusal)
    (commands : List Command) (ending : Option Failure) : List SessionEvent × Option Failure :=
  match launching with
  | some r => ([.started, .launched l.browser l.headless, .stopped], some (l.failure r))
  | none =>
    (.started :: .launched l.browser l.headless :: l.opening baseUrl headers ++
      commands.map .commanded ++ [.browserClosed, .stopped], ending)

end SuiteEngine.Browser

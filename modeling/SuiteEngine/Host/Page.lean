import SuiteEngine.Document.Inspect

/-!
# What can be done on a page

A `PageCall` is one thing done on an open page, a `Shot` a picture taken of it. Both have a name and
arguments, under which they are recorded.
-/

namespace SuiteEngine.Host

/-- Options of a call, by name. -/
abbrev Options := List (String × Value)

/-- One thing done on a page. -/
inductive PageCall where
  | goto (url : String) (options : Options)
  | click (selector : String) (options : Options)
  | fill (selector text : String) (options : Options)
  | selectOption (selector text : String) (options : Options)
  | check (selector : String) (options : Options)
  | uncheck (selector : String) (options : Options)
  | hover (selector : String) (options : Options)
  | press (selector key : String) (options : Options)
  | scrollIntoView (selector : String) (options : Options)
  | scrollTo (x y : Value)
  | setInputFile (selector file : String) (options : Options)
  | setInputFiles (selector : String) (files : List String) (options : Options)
  | evaluate (expression : String)
  | waitForTimeout (milliseconds : Value)
  | waitForSelector (selector : String) (options : Options)
  | waitForUrl (url : String) (options : Options)
  | expectVisible (selector : String) (options : Options)
  | expectHidden (selector : String) (options : Options)
  | expectText (selector text : String) (options : Options)
  | expectValue (selector text : String) (options : Options)
  | expectUrl (url : String) (options : Options)
  | expectTitle (title : String) (options : Options)
  | expectCount (selector : String) (count : Int) (options : Options)
  | setViewport (width height : Value)

/-- A picture taken of a page: of what is in view, of all of it, or of one element. -/
inductive Shot where
  | view
  | fullPage
  | element (selector : String)

namespace PageCall

/-- The name of a call and its arguments. -/
def record : PageCall → String × List Value
  | goto url o => ("goto", [.str url, .obj o])
  | click s o => ("click", [.str s, .obj o])
  | fill s t o => ("fill", [.str s, .str t, .obj o])
  | selectOption s t o => ("select_option", [.str s, .str t, .obj o])
  | check s o => ("check", [.str s, .obj o])
  | uncheck s o => ("uncheck", [.str s, .obj o])
  | hover s o => ("hover", [.str s, .obj o])
  | press s k o => ("press", [.str s, .str k, .obj o])
  | scrollIntoView s o => ("scroll_into_view", [.str s, .obj o])
  | scrollTo x y => ("scroll_to", [x, y])
  | setInputFile s f o => ("set_input_files", [.str s, .str f, .obj o])
  | setInputFiles s fs o => ("set_input_files", [.str s, .list (fs.map .str), .obj o])
  | evaluate e => ("evaluate", [.str e])
  | waitForTimeout ms => ("wait_for_timeout", [ms])
  | waitForSelector s o => ("wait_for_selector", [.str s, .obj o])
  | waitForUrl url o => ("wait_for_url", [.str url, .obj o])
  | expectVisible s o => ("expect_visible", [.str s, .obj o])
  | expectHidden s o => ("expect_hidden", [.str s, .obj o])
  | expectText s t o => ("expect_text", [.str s, .str t, .obj o])
  | expectValue s t o => ("expect_value", [.str s, .str t, .obj o])
  | expectUrl url o => ("expect_url", [.str url, .obj o])
  | expectTitle t o => ("expect_title", [.str t, .obj o])
  | expectCount s n o => ("expect_count", [.str s, .int n, .obj o])
  | setViewport w h => ("set_viewport", [w, h])

/-- The name of a call. -/
def name (c : PageCall) : String := c.record.1

/-- The arguments of a call. -/
def arguments (c : PageCall) : List Value := c.record.2

/-- The call that is recorded under a name with these arguments. -/
def ofRecord? (name : String) (arguments : List Value) : Option PageCall :=
  match name, arguments with
  | "goto", [.str url, .obj o] => some (goto url o)
  | "click", [.str s, .obj o] => some (click s o)
  | "fill", [.str s, .str t, .obj o] => some (fill s t o)
  | "select_option", [.str s, .str t, .obj o] => some (selectOption s t o)
  | "check", [.str s, .obj o] => some (check s o)
  | "uncheck", [.str s, .obj o] => some (uncheck s o)
  | "hover", [.str s, .obj o] => some (hover s o)
  | "press", [.str s, .str k, .obj o] => some (press s k o)
  | "scroll_into_view", [.str s, .obj o] => some (scrollIntoView s o)
  | "scroll_to", [x, y] => some (scrollTo x y)
  | "set_input_files", [.str s, .str f, .obj o] => some (setInputFile s f o)
  | "set_input_files", [.str s, fs, .obj o] =>
    fs.items?.map fun fs => setInputFiles s (fs.map Value.text) o
  | "evaluate", [.str t] => some (evaluate t)
  | "wait_for_timeout", [ms] => some (waitForTimeout ms)
  | "wait_for_selector", [.str s, .obj o] => some (waitForSelector s o)
  | "wait_for_url", [.str url, .obj o] => some (waitForUrl url o)
  | "expect_visible", [.str s, .obj o] => some (expectVisible s o)
  | "expect_hidden", [.str s, .obj o] => some (expectHidden s o)
  | "expect_text", [.str s, .str t, .obj o] => some (expectText s t o)
  | "expect_value", [.str s, .str t, .obj o] => some (expectValue s t o)
  | "expect_url", [.str url, .obj o] => some (expectUrl url o)
  | "expect_title", [.str t, .obj o] => some (expectTitle t o)
  | "expect_count", [.str s, .int n, .obj o] => some (expectCount s n o)
  | "set_viewport", [w, h] => some (setViewport w h)
  | _, _ => none

end PageCall

namespace Shot

/-- The name under which taking a picture is recorded. -/
def name : String := "screenshot"

/-- Whether the picture is of all of the page. -/
def isFull : Shot → Bool
  | fullPage => true
  | _ => false

/-- The element that the picture is of. -/
def selector? : Shot → Option String
  | element s => some s
  | _ => none

end Shot

end SuiteEngine.Host

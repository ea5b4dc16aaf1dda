import SuiteEngine.Boundary.Number

/-!
# Values that software tends to get wrong

Named texts and numbers, and addresses for electronic mail with the verdict on each.
-/

namespace SuiteEngine.Boundary

/-- The largest integer such that it and its successor are both floats. -/
def maxSafeInteger : Int := Int.pow 2 53 - 1

/-- A text of `n` filler characters. -/
def filler (n : Nat) : String := "".pushn 'a' n

/-- Letters of a script without spaces, and pictures. -/
def unicodeSample : String := "日本語テスト 🎉🚀"

/-- Markup that runs code where it is shown unescaped. -/
def markupSample : String := "<script>alert(\"xss\")</script>"

/-- A text that ends a quoted text in a query and adds a command. -/
def querySample : String := "' OR 1=1; DROP TABLE users; --"

/-- The named texts. -/
def strings : List (String × String) := [
  ("empty", ""),
  ("single_char", "a"),
  ("max_ascii", filler 255),
  ("long_string", filler 10000),
  ("unicode", unicodeSample),
  ("emoji", "😀😂🤣😍🥰"),
  ("html_injection", markupSample),
  ("sql_injection", querySample),
  ("null_byte", "hello\x00world"),
  ("newlines", "line1\nline2\rline3\r\nline4"),
  ("tabs", "col1\tcol2\tcol3"),
  ("whitespace_only", "   \t\n  "),
  ("special_chars", "!@#$%^&*()_+-=[]\x7b\x7d|;:'\"<>?,./~\x60"),
  ("rtl_text", "\u202eright-to-left"),
  ("backslash", "path\\to\\file"),
  ("url_encoded", "%3Cscript%3Ealert(1)%3C/script%3E")]

/-- The named numbers. -/
def numbers : List (String × Bound) := [
  ("zero", .int 0),
  ("one", .int 1),
  ("negative_one", .int (-1)),
  ("max_safe", .int maxSafeInteger),
  ("min_safe", .int (-maxSafeInteger)),
  ("max_float", .float (Float.ofBits 0x7FEFFFFFFFFFFFFF)),
  ("min_float", .float (Float.ofBits 1)),
  ("infinity", .float (1.0 / 0.0)),
  ("negative_infinity", .float (-1.0 / 0.0)),
  ("nan", .float (0.0 / 0.0)),
  ("epsilon", .float (Float.ofBits 0x3CB0000000000000))]

/-- A name, an address and whether it is one. -/
structure EmailSample where
  label : String
  address : String
  valid : Bool

/-- The addresses. -/
def emailSamples : List EmailSample := [
  ⟨"valid email", "user@example.com", true⟩,
  ⟨"no @", "userexample.com", false⟩,
  ⟨"double @", "user@@example.com", false⟩,
  ⟨"no domain", "user@", false⟩,
  ⟨"no local", "@example.com", false⟩,
  ⟨"spaces", "user @example.com", false⟩,
  ⟨"unicode domain", "user@例え.jp", true⟩]

end SuiteEngine.Boundary

import SuiteEngine.Document.Display
import SuiteEngine.Files.Tree
import SuiteEngine.Json.Print

/-!
# Attachments

What is recorded while a case runs: a name, a kind of content and the content. The attachments of one
attempt are a list in the order of their capture.
-/

namespace SuiteEngine.Report

/-- A recorded content. -/
structure Attachment where
  name : String
  contentType : String
  payload : Files.Content

/-- The kind of content of a JSON text. -/
def jsonType : String := "application/json"

/-- The kind of content of a plain text. -/
def textType : String := "text/plain"

/-- The kind of content of a picture. -/
def pictureType : String := "image/png"

namespace Attachment

/-- The suffix of a file that holds the attachment. -/
def extension (a : Attachment) : String :=
  if a.contentType == jsonType then ".json"
  else if a.contentType == textType then ".txt"
  else if a.contentType == pictureType then ".png"
  else ".bin"

/-- A value as an attachment. -/
def json (name : String) (v : Value) : Attachment :=
  { name, contentType := jsonType, payload := .ofText (Json.render .indented v.jsonable) }

/-- A text as an attachment. -/
def text (name s : String) : Attachment := { name, contentType := textType, payload := .ofText s }

/-- A picture as an attachment. -/
def picture (name : String) (c : Files.Content) : Attachment :=
  { name, contentType := pictureType, payload := c }

/-- The last attachment with a name. -/
def named? (attachments : List Attachment) (name : String) : Option Attachment :=
  attachments.reverse.find? fun a => a.name == name

end Attachment

end SuiteEngine.Report

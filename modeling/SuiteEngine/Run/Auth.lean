import SuiteEngine.Config.Settings
import SuiteEngine.Document.Path
import SuiteEngine.Host.Program
import SuiteEngine.Http.Message
import SuiteEngine.Text.Base64

/-!
# The headers that authenticate a suite

Each strategy obtains the headers that all requests of a suite carry; only one of them sends a request
for that. `authenticate` gives the headers or says why there are none.
-/

namespace SuiteEngine.Run

open Host (Fallible)
open Config (Auth)

/-- The headers of a suite, and the token in them if one was issued. -/
structure Grant where
  headers : Http.Headers
  token : Option String

/-- The kind of failure that the lack of headers is. -/
def authKind : Failure.Kind := .other "AuthenticationError"

/-- The failure that the lack of headers is. -/
def authFailure (message : String) : Failure := ⟨authKind, message⟩

/-- Where a token is looked for in an answer, in this order. -/
def tokenPaths : List String := ["token", "data.token", "access_token", "data.access_token"]

/-- The text at a path, unless it is empty. -/
def filledText? (body : Value) (path : String) : Option String :=
  (body.deepGet path).str?.filter (· != "")

/-- The first token in an answer. -/
def token? (body : Value) : Option String := tokenPaths.findSome? (filledText? body)

/-- The name of the header that carries credentials. -/
def authorization : String := "Authorization"

/-- The text of a header with a token. -/
def bearer (token : String) : String := "Bearer " ++ token

/-- The headers from the answer to the request for a token. -/
def grantOf (response : Http.Response) : Except Failure Grant :=
  if !response.isSuccess then
    .error (authFailure ("Auth request failed: " ++ response.status.text))
  else match token? response.body with
    | some token => .ok { headers := [(authorization, bearer token)], token := some token }
    | none => .error (authFailure "Could not extract token from auth response")

/-- The request for a token. -/
def tokenRequest (url : String) (credentials : List (String × String)) : Http.Request :=
  { method := "POST", url, headers := []
    body := .obj (credentials.map fun c => (c.1, .str c.2)), timeout := none }

/-- Headers with a token, which is asked for with the credentials. -/
def bearerGrant (a : Auth) (baseUrl : String) (send : Http.Request → Fallible Http.Response) :
    Fallible Grant := do
  match a.tokenEndpoint.filter (· != ""), a.credentials with
  | some endpoint, c :: cs =>
    let url := Http.buildUrl baseUrl endpoint []
    let response ← tryCatch (send (tokenRequest url (c :: cs))) fun f =>
      throw (if f.isHost then
        authFailure ("Auth request to " ++ url ++ " failed: " ++ f.message) else f)
    Fallible.ofAnswer (pure (grantOf response))
  | _, _ => throw (authFailure "Bearer strategy requires token_endpoint and credentials")

/-- A credential that is not empty. -/
def filledCredential? (a : Auth) (name : String) : Option String :=
  (a.credential? name).filter (· != "")

/-- Headers with a name and a password. -/
def basicGrant (a : Auth) : Except Failure Grant :=
  match filledCredential? a "username", filledCredential? a "password" with
  | some name, some password =>
    let letters := String.ofList (Text.base64 (Text.encode (name ++ ":" ++ password)))
    .ok { headers := [(authorization, "Basic " ++ letters)], token := none }
  | _, _ => .error (authFailure "Basic strategy requires username and password in credentials")

/-- Headers with a key, which the settings name or else the credentials. -/
def keyGrant (a : Auth) : Except Failure Grant :=
  match (a.apiKey.filter (· != "")).or (filledCredential? a "apiKey") with
  | some key =>
    let header := if a.headerName == "" then Config.defaultKeyHeader else a.headerName
    .ok { headers := [(header, key)], token := none }
  | none => .error (authFailure "api-key strategy requires api_key or credentials.apiKey")

/-- The headers that authenticate a suite, with `send` for the request that may be needed. -/
def authenticate (a : Auth) (baseUrl : String) (send : Http.Request → Fallible Http.Response) :
    Fallible Grant :=
  match a.strategy with
  | .bearer => bearerGrant a baseUrl send
  | .basic => Fallible.ofAnswer (pure (basicGrant a))
  | .apiKey => Fallible.ofAnswer (pure (keyGrant a))
  | .none => return { headers := [], token := none }

end SuiteEngine.Run

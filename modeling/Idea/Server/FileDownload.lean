import Mathlib.Data.Rat.Floor
import Mathlib.Logic.Equiv.List
import Idea.FileBrowser.DownloadArchive
import Idea.Model.Texts
import Idea.Server.AccessTokens
import Idea.System.Run

/-! # Downloads

A file is downloaded by a user with a bearer token, or with a temporary token that was issued for
the file a few seconds before. Tokens are signed with a secret, so the ones that verify are those
that were signed.
-/

namespace Idea.FileDownload

open FileBrowser (DownloadHost ZipArchive checkAccess downloadFiles)

structure TempPayload where
  username : Option String
  file : Option String
  exp : Option ℤ
  iat : Option ℤ
  purpose : Option String
  deriving DecidableEq

/-- Tokens that are signed with the secret of the cluster. -/
structure Jwt where
  encode : TempPayload → String
  /-- The claims of a token whose signature is right. -/
  verified : String → Option TempPayload
  verified_encode : ∀ payload, verified (encode payload) = some payload

/-- The token service, if there is one, gives the user of an access token at a time. -/
structure Server where
  tokenService : Option (String → ℚ → Except Raised (Option String))
  jwt : Jwt
  baseUrl : String
  urlEncode : String → String

structure Request where
  authorization : Option String
  /-- The parameters of the query, each with its values. -/
  args : String → List String
  /-- The file in the body. -/
  bodyFile : Option String

/-- When a request is served, and what a user finds on the disk then. -/
structure Moment where
  now : ℚ
  host : String → DownloadHost

inductive Content where
  | file (path : String) (bytes : List UInt8)
  | archive (path : String) (zip : ZipArchive)

inductive Response where
  | failure (errorCode : String) (message : Option String)
  | url (downloadUrl : String)
  | stream (content : Content)
  | serverError

namespace Server

variable (self : Server)

def getAuthorizationHeader (request : Request) : Option (String × String) :=
  if isEmptyString request.authorization then none
  else
    match (request.authorization.getD "").toList.splitOn ' ' with
    | [tokenType, token] => some (String.ofList tokenType, String.ofList token)
    | _ => none

/-- `get_username`; any exception means that there is no user. -/
def getUsername (request : Request) (now : ℚ) : Option String :=
  match self.tokenService with
  | none => none
  | some getUsername =>
    match getAuthorizationHeader request with
    | none => none
    | some (tokenType, token) =>
      if isEmptyString (some tokenType) then none
      else if tokenType ≠ "Bearer" then none
      else if isEmptyString (some token) then none
      else
        match getUsername token now with
        | .error _ => none
        | .ok username => username

/-- `jwt.decode`, with its checks of the times. -/
def decode (token : String) (now : ℚ) : Except AccessTokens.JwtError TempPayload :=
  match self.jwt.verified token with
  | none => .error (.invalidToken "Signature verification failed")
  | some payload =>
    if payload.iat.any fun (iat : ℤ) => now < iat then
      .error (.invalidToken "The token is not yet valid (iat)")
    else if payload.exp.any fun (exp : ℤ) => exp ≤ now then .error .expiredSignature
    else .ok payload

def tempPayload (username file : String) (now : ℚ) : TempPayload where
  username := some username
  file := some file
  exp := some (now.floor + 5)
  iat := some now.floor
  purpose := some "file_download"

def raisedFailure : Raised → Response
  | .soca errorCode message => .failure errorCode (some message)
  | _ => .failure ErrorCodes.GENERAL_ERROR none

/-- `generate_download_url_route`, with the claims that it signs. -/
def generateDownloadUrl (request : Request) (moment : Moment) : Response × Option TempPayload :=
  let username := self.getUsername request moment.now
  -- The refusal is logged with the path of the file, which is not read yet.
  if isEmptyString username then (.serverError, none)
  else if isEmptyString request.bodyFile then
    (.failure ErrorCodes.INVALID_PARAMS (some "file parameter is required"), none)
  else
    let filePath := request.bodyFile.getD ""
    let host := moment.host (username.getD "")
    match host.access filePath (host.isDir filePath) true false with
    | .error e => (raisedFailure e, none)
    | .ok () =>
      let payload := tempPayload (username.getD "") filePath moment.now
      (.url (self.baseUrl ++ "/api/v1/download?file=" ++ self.urlEncode filePath ++
        "&temp_token=" ++ self.jwt.encode payload), some payload)

def sendFile (host : DownloadHost) (downloadFile : String) : Response :=
  if !host.pathExists downloadFile then
    .failure FileBrowser.FILE_NOT_FOUND (some ("File not found: " ++ downloadFile))
  else if host.isDir downloadFile then
    match downloadFiles host [downloadFile] with
    | .error e =>
      .failure ErrorCodes.GENERAL_ERROR
        (some ("Failed to create directory archive: " ++ host.str e))
    | .ok zip => .stream (.archive downloadFile zip)
  else
    match host.getsize downloadFile with
    | .error _ => .serverError
    | .ok _ =>
      match host.readBytes downloadFile with
      | .error _ => .serverError
      | .ok bytes => .stream (.file downloadFile bytes)

def download (request : Request) (moment : Moment) (username : String) : Response :=
  let downloadFile := (request.args "file").head?
  if isEmptyString downloadFile then
    .failure ErrorCodes.INVALID_PARAMS (some "file parameter is required")
  else
    let file := downloadFile.getD ""
    match (moment.host username).access file false true false with
    | .error (.soca errorCode message) => .failure errorCode (some message)
    | .error _ => .serverError
    | .ok () => sendFile (moment.host username) file

end Server

inductive Call where
  | generate (request : Request) (moment : Moment)
  | download (request : Request) (moment : Moment)
  | sign (payload : TempPayload)

/-- The temporary token of a request, if its signature is right, was signed before. -/
def Unforged (server : Server) (signed : List TempPayload) (request : Request) : Prop :=
  ∀ token ∈ request.args "temp_token", ∀ payload, server.jwt.verified token = some payload →
    payload ∈ signed

/-- The claims that were signed so far. Other parties may sign tokens for other purposes. -/
inductive Step (server : Server) : List TempPayload → Call → List TempPayload → Prop
  | generate {signed : List TempPayload} (request : Request) (moment : Moment) :
      Step server signed (.generate request moment)
        (signed ++ (server.generateDownloadUrl request moment).2.toList)
  | download {signed : List TempPayload} (request : Request) (moment : Moment)
      (h : Unforged server signed request) :
      Step server signed (.download request moment) signed
  | sign {signed : List TempPayload} (payload : TempPayload)
      (h : payload.purpose ≠ some "file_download") :
      Step server signed (.sign payload) (signed ++ [payload])

section Requests

variable {server : Server} {request : Request} {moment : Moment} {user path : String} {now : ℚ}
  {content : Content}

end Requests

section Histories

variable {server : Server} {t : List (Edge (List TempPayload) Call)} {signed : List TempPayload}

end Histories

namespace TempPayload

def codes (text : String) : List ℕ := text.toList.map Char.toNat

def numbers (payload : TempPayload) :
    Option (List ℕ) × Option (List ℕ) × Option ℤ × Option ℤ × Option (List ℕ) :=
  (payload.username.map codes, payload.file.map codes, payload.exp, payload.iat,
    payload.purpose.map codes)

end TempPayload

end Idea.FileDownload

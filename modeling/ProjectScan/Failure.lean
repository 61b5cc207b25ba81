import ProjectScan.Address.Site
import ProjectScan.Json.Reader
import ProjectScan.Text.Utf8

/-!
Everything that can go wrong, by its cause. A failure has a class, by whose name it is known in
diagnostics, and a message.
-/

namespace ProjectScan

/-- The failures of the transport, all of which are worth another attempt. -/
inductive TransportKind where
  | connection
  | timeout
  | certificate
  | other
  deriving DecidableEq, Repr

def TransportKind.name : TransportKind → String
  | .connection => "ConnectionError"
  | .timeout => "ReadTimeout"
  | .certificate => "SSLError"
  | .other => "RequestException"

inductive FaultKind where
  | run
  | value
  | key
  | interrupt
  | named (name : String)
  deriving DecidableEq, Repr

def FaultKind.name : FaultKind → String
  | .run => "RuntimeError"
  | .value => "ValueError"
  | .key => "KeyError"
  | .interrupt => "KeyboardInterrupt"
  | .named name => name

inductive Misfit where
  | notIterable (found : Json.Kind)
  | noFields (found : Json.Kind)
  | noLength (found : Json.Kind)
  | noSlices
  | noAddress (found : Json.Kind)
  /-- A pattern for names that is no text. -/
  | noPattern
  /-- A number to be compared that is none. -/
  | noNumber
  deriving DecidableEq, Repr

/-- Containers are refused as addresses before anything is read from them. -/
def isContainer : Json.Kind → Bool
  | .list | .object => true
  | _ => false

def Misfit.name : Misfit → String
  | .noFields _ => "AttributeError"
  | .noAddress found => if isContainer found then "TypeError" else "AttributeError"
  | _ => "TypeError"

def Misfit.message : Misfit → String
  | .notIterable found => "'" ++ found.name ++ "' object is not iterable"
  | .noFields found => "'" ++ found.name ++ "' object has no attribute 'get'"
  | .noLength found => "object of type '" ++ found.name ++ "' has no len()"
  | .noSlices => "unhashable type: 'slice'"
  | .noAddress found =>
      if isContainer found then "unhashable type: '" ++ found.name ++ "'"
      else "'" ++ found.name ++ "' object has no attribute 'decode'"
  | .noPattern => "unhashable type: 'list'"
  | .noNumber => "'<' not supported between instances of 'list' and 'int'"

inductive DiskFault where
  | missing
  | denied
  | exists
  | notDirectory
  | isDirectory
  | nameTooLong
  | nullCharacter
  deriving DecidableEq, Repr

def DiskFault.name : DiskFault → String
  | .missing => "FileNotFoundError"
  | .denied => "PermissionError"
  | .exists => "FileExistsError"
  | .notDirectory => "NotADirectoryError"
  | .isDirectory => "IsADirectoryError"
  | .nameTooLong => "OSError"
  | .nullCharacter => "ValueError"

def DiskFault.message (path : String) : DiskFault → String
  | .missing => "[Errno 2] No such file or directory: " ++ Text.quoted path
  | .denied => "[Errno 13] Permission denied: " ++ Text.quoted path
  | .exists => "[Errno 17] File exists: " ++ Text.quoted path
  | .notDirectory => "[Errno 20] Not a directory: " ++ Text.quoted path
  | .isDirectory => "[Errno 21] Is a directory: " ++ Text.quoted path
  | .nameTooLong => "[Errno 36] File name too long: " ++ Text.quoted path
  | .nullCharacter => "embedded null byte"

inductive Bound where
  | pageSize
  | maxPages
  | timeout
  | maxRetries
  | limit
  deriving DecidableEq, Repr

def Bound.name : Bound → String
  | .pageSize => "page_size"
  | .maxPages => "max_pages"
  | .timeout => "timeout"
  | .maxRetries => "max_retries"
  | .limit => "limit"

inductive SettingFault where
  /-- A variable that must hold a whole number. -/
  | notWhole (name value : String)
  /-- The traits are no JSON text that can be read. -/
  | traitsText (fault : Json.Fault)
  /-- The traits are no list. -/
  | traitsNoList
  | noServerUrl
  | serverUrl (url reason : String)
  | logLevel (name : String)
  deriving DecidableEq, Repr

def SettingFault.message : SettingFault → String
  | .notWhole name value => name ++ " must be an integer, got " ++ Text.quoted value
  | .traitsText (.tooDeep excess) => excess.message
  | .traitsText fault => "GERRIT_TRAITS is not valid JSON: " ++ fault.message
  | .traitsNoList => "GERRIT_TRAITS must be a JSON list"
  | .noServerUrl => "server_url is required"
  | .serverUrl url reason => "server_url " ++ Text.quoted url ++ " is invalid: " ++ reason
  | .logLevel name => "Unknown log level " ++ Text.quoted name

inductive Failure where
  /-- The address of a server does not resolve. -/
  | address (url : Option String) (fault : Address.SiteFault)
  /-- A scan's own address does not resolve. -/
  | resolution (cause : Failure)
  /-- No client could be made for an endpoint. -/
  | noClient (apiUri : String) (cause : Failure)
  /-- The first page of a listing failed. -/
  | noListing (baseUrl : String) (cause : Failure)
  /-- A page could not be fetched. -/
  | pageFetch (page : Int) (cause : Failure)
  /-- A page came with a status that is no success. -/
  | pageStatus (page status : Int)
  /-- A page is no object. -/
  | pageShape (page status : Int)
  /-- An entry of a page is no object. -/
  | pageEntry (page status : Int) (name : String)
  /-- The server still reports more projects after the last page that may be fetched. -/
  | pageLimit (maxPages : Int)
  /-- A scan was cancelled between two projects. -/
  | cancelled (projectsSeen : Nat)
  /-- A request to a client that is closed. -/
  | clientClosed
  /-- The last attempt of a request failed. -/
  | exhausted (url : String) (attempts : Nat) (last : Failure)
  | transport (kind : TransportKind) (message : String)
  | outside (kind : FaultKind) (message : String)
  /-- A project submitted to a session that is not open. -/
  | sessionClosed
  | tooSmall (bound : Bound)
  | setting (fault : SettingFault)
  /-- A pause of less than no time. -/
  | negativePause
  /-- A pause of so much less than no time that no clock counts it. -/
  | pauseOutOfRange
  /-- A pause whose length is no finite number. -/
  | endlessPause
  | misfit (what : Misfit)
  /-- A credential record without some of its fields. -/
  | missingFields (index : Nat) (fields : List String)
  /-- A credential file that holds something else than a list. -/
  | notAList (path : String)
  | json (fault : Json.Fault)
  | bytes (defect : Text.Utf8Defect)
  | disk (path : String) (fault : DiskFault)
  deriving DecidableEq, Repr

namespace Failure

def name : Failure → String
  | .address _ _ => "MalformedEndpoint"
  | .resolution _ => "ResolutionFailure"
  | .noClient _ _ | .noListing _ _ => "ConnectionFailure"
  | .pageFetch _ _ | .pageStatus _ _ | .pageShape _ _ | .pageEntry _ _ _ => "PageFetchFailure"
  | .pageLimit _ => "PaginationLimitExceeded"
  | .cancelled _ => "ScanCancelled"
  | .clientClosed | .exhausted _ _ _ => "GerritClientError"
  | .transport kind _ => kind.name
  | .outside kind _ => kind.name
  | .sessionClosed => "RuntimeError"
  | .json (.tooDeep _) | .setting (.traitsText (.tooDeep _)) => "RecursionError"
  | .tooSmall _ | .setting _ | .negativePause | .missingFields _ _ | .notAList _ => "ValueError"
  | .pauseOutOfRange | .endlessPause => "OverflowError"
  | .misfit what => what.name
  | .json (.wrong _ _ _ _) => "JSONDecodeError"
  | .json (.tooLong _) => "ValueError"
  | .bytes _ => "UnicodeDecodeError"
  | .disk _ fault => fault.name

def qualifiedName : Failure → String
  | .transport kind _ => "requests.exceptions." ++ kind.name
  | failure => failure.name

def defectText (defect : Text.Utf8Defect) : String :=
  let place := if defect.length = 1 then
      "byte 0x" ++ String.ofList (Text.hexDigits 2 defect.byte) ++ " in position " ++
        Number.naturalText defect.position
    else
      "bytes in position " ++ Number.naturalText defect.position ++ "-" ++
        Number.naturalText (defect.position + defect.length - 1)
  "'utf-8' codec can't decode " ++ place ++ ": " ++ match defect.fault with
    | .startByte => "invalid start byte"
    | .continuationByte => "invalid continuation byte"
    | .endOfData => "unexpected end of data"

def shownAddress : Option String → String
  | none => "None"
  | some url => Text.quoted url

def message : Failure → String
  | .address url fault =>
      "Malformed Gerrit server URL " ++ shownAddress url ++ ": " ++ fault.reason
  | .resolution cause => message cause
  | .noClient apiUri cause =>
      "Cannot create Gerrit client for " ++ apiUri ++ ": " ++ message cause
  | .noListing baseUrl cause => "Cannot list projects at " ++ baseUrl ++ ": " ++ message cause
  | .pageFetch page cause =>
      "Fetching project page " ++ Number.wholeText page ++ " failed: " ++ message cause
  | .pageStatus page status =>
      "Fetching project page " ++ Number.wholeText page ++ " failed with status " ++
        Number.wholeText status
  | .pageShape page _ => "Project page " ++ Number.wholeText page ++ " is not a JSON object"
  | .pageEntry page _ name =>
      "Project page " ++ Number.wholeText page ++ " has a malformed entry for " ++
        Text.quoted name
  | .pageLimit maxPages =>
      "Server still reports more projects after " ++ Number.wholeText maxPages ++ " pages"
  | .cancelled projectsSeen =>
      "Discovery cancelled after " ++ Number.naturalText projectsSeen ++ " projects"
  | .clientClosed => "Client is closed"
  | .exhausted url attempts last =>
      "Request to " ++ url ++ " failed after " ++ Number.naturalText attempts ++
        " attempts: " ++ message last
  | .transport _ text => text
  | .outside .key text => Text.quoted text
  | .outside _ text => text
  | .sessionClosed => "Discovery session is not open"
  | .tooSmall bound => bound.name ++ " must be at least 1"
  | .setting fault => fault.message
  | .negativePause => "sleep length must be non-negative"
  | .pauseOutOfRange => "timestamp out of range for platform time_t"
  | .endlessPause => "int too large to convert to float"
  | .misfit what => what.message
  | .missingFields index fields =>
      "Credential record " ++ Number.naturalText index ++ " is missing " ++
        Text.joined ", " fields
  | .notAList path => "Credential file " ++ path ++ " must contain a JSON list"
  | .json fault => fault.message
  | .bytes defect => defectText defect
  | .disk path fault => fault.message path

def page? : Failure → Option Int
  | .pageFetch page _ | .pageStatus page _ | .pageShape page _ | .pageEntry page _ _ => some page
  | _ => none

/-- The failures of a scan that are reported as such: all its own but a cancellation. -/
def isDiscovery : Failure → Bool
  | .address _ _ | .resolution _ | .noClient _ _ | .noListing _ _ | .pageLimit _ => true
  | failure => failure.page?.isSome

def isInterruption : Failure → Bool
  | .cancelled _ => true
  | .outside .interrupt _ => true
  | _ => false

/-- The failures of reading settings and files that count as refusals: unusable values and what
the file system refuses, but neither values of the wrong sort nor texts that are too deep. -/
def isRefusal : Failure → Bool
  | .json (.tooDeep _) | .setting (.traitsText (.tooDeep _)) => false
  | .tooSmall _ | .setting _ | .missingFields _ _ | .notAList _ | .json _ | .bytes _
  | .disk _ _ => true
  | _ => false

end Failure

end ProjectScan

import FileServer.Ipv4
import FileServer.Path
import FileServer.Resource
import FileServer.SystemError
import FileServer.Text.Quoted
import FileServer.Yaml.Fault

/-!
# Settings

What an operator can say about the server. Every setting has a default, so that a server
can be started without any being given. `Settings.check` accepts settings that make sense:
the address is an address, the sizes are not zero, and the two folders are single names
that differ.
-/

namespace FileServer

/-- What an operator can say. -/
structure Settings where
  /-- The address to listen at. -/
  listenAddress : String := "0.0.0.0"
  listenPort : Nat := 8888
  /-- How many connections may wait to be accepted. -/
  backlog : Int := 5
  /-- The directory that holds the two folders. -/
  documentRoot : String := "."
  /-- The folder whose documents are sent as they are. -/
  staticFolder : String := "static"
  /-- The folder whose documents are moved in chunks. -/
  dynamicFolder : String := "dynamic"
  /-- What is sent when there is nothing to send, as seen from the document root. -/
  notFoundPage : String := "404.html"
  /-- How many bytes are moved at a time. -/
  chunkSize : Nat := 8192
  /-- How long a request head may be before it is looked at as it is. -/
  maxRequestSize : Nat := 8192
  /-- How many overlapped requests may be in flight. -/
  inFlight : Nat := 128
  deriving DecidableEq, Repr

/-- Why there are no usable settings. -/
inductive SettingsError
  /-- The file cannot be read. -/
  | unreadable (error : SystemError)
  /-- The file is not a document with settings. -/
  | malformed (fault : Yaml.Fault)
  | notAnAddress (text : String)
  | zeroChunkSize
  | zeroRequestSize
  | zeroInFlight
  /-- The folder is not a single name. -/
  | notAFolder (name : String)
  /-- The two folders are the same. -/
  | sameFolders
  deriving DecidableEq, Repr

namespace SettingsError

/-- The wording of the failure. -/
def message : SettingsError → String
  | unreadable e => "cannot read config: " ++ e.message
  | malformed f => "cannot parse config: " ++ f.message
  | notAnAddress text => "not an IPv4 address: " ++ Text.quoted text
  | zeroChunkSize => "chunk_size must be positive"
  | zeroRequestSize => "max_request_size must be positive"
  | zeroInFlight => "aio_max_events must be positive"
  | notAFolder name => "folder name must be a single path segment: " ++ Text.quoted name
  | sameFolders => "static and dynamic folders must differ"

/-- What lies behind the failure, in words. -/
def causes : SettingsError → List String
  | unreadable e => [e.message]
  | malformed f => [f.message]
  | _ => []

end SettingsError

namespace Settings

/-- The folders whose documents are served. -/
def folders (s : Settings) : Folders := ⟨s.staticFolder, s.dynamicFolder⟩

/-- Where the page lies that is sent when there is nothing to send. -/
def notFoundPath (s : Settings) : String := Path.join s.documentRoot s.notFoundPage

/-- The address to listen at. -/
def address (s : Settings) : Except SettingsError Ipv4 :=
  match Ipv4.ofString? s.listenAddress with
  | some ip => .ok ip
  | none => .error (.notAnAddress s.listenAddress)

/-- A name that can be a single piece of a path. -/
def isSingleName (name : List Char) : Bool :=
  name != [] && name != Path.here && name != Path.parent && !name.contains '/'

/-- Accepts settings that make sense; the first that does not is named. -/
def check (s : Settings) : Except SettingsError Unit := do
  let _ ← s.address
  if s.chunkSize = 0 then throw .zeroChunkSize
  if s.maxRequestSize = 0 then throw .zeroRequestSize
  if s.inFlight = 0 then throw .zeroInFlight
  if !isSingleName s.staticFolder.toList then throw (.notAFolder s.staticFolder)
  if !isSingleName s.dynamicFolder.toList then throw (.notAFolder s.dynamicFolder)
  if s.staticFolder = s.dynamicFolder then throw .sameFolders

end Settings

end FileServer

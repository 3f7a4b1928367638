import Wavvon.Auth.State
import Wavvon.Farm.State
import Wavvon.Identity.WireSeparation
import Wavvon.Shared.HttpMessage

set_option autoImplicit false

namespace Wavvon.Farm

open Http

/-- A request for /hub/segment/rest?query as it came off the wire, its header names in lower case. -/
structure IncomingRequest where
  method : Bytes
  segment : Bytes
  rest : Bytes
  query : Option Bytes
  headers : List Field
  body : Bytes := []

structure NodeTarget where
  host : Option String
  port : Nat
  tlsMode : String
  certSha256 : Option String
  deriving DecidableEq, Repr

/-- What the proxy takes from outside: how an address is read, and what its HTTP client asks for. -/
structure ProxyLib where
  -- `parse::<IpAddr>` gives a loopback address.
  isLoopback : String → Bool
  -- The target in the request line that is sent for this URL.
  requestTarget : Bytes → Option Bytes
  -- The bytes that a path, and a query, is left with.
  staysInPath : UInt8 → Bool
  staysInQuery : UInt8 → Bool

-- `None | Some("")` of the trimmed host.
def NodeTarget.trimmedHost (node : NodeTarget) : Option String :=
  (node.host.map trim).filter fun host => decide (host ≠ "")

def NodeTarget.isLocal (lib : ProxyLib) (node : NodeTarget) : Bool :=
  match node.trimmedHost with
  | none => true
  | some host => decide (toAsciiLowercase host = "localhost") || lib.isLoopback host

def NodeTarget.scheme (lib : ProxyLib) (node : NodeTarget) : String :=
  if node.isLocal lib then "http" else "https"

def NodeTarget.authority (node : NodeTarget) : String :=
  node.trimmedHost.getD "127.0.0.1" ++ ":" ++ toString node.port

-- A path parameter is the decoded text, or there is none when its bytes are no text.
def pathParam (raw : Bytes) : Option String := String.fromUTF8? ⟨(percentDecode raw).toArray⟩

def upstreamPath (path : Bytes) : Bytes :=
  if path = [] then [47] else if path.head? = some 47 then path else 47 :: path

def queryText : Option Bytes → Bytes
  | none => []
  | some query => 63 :: query

structure Located where
  serial : String
  node : NodeTarget
  upstreamPathAndQuery : Bytes

-- `p as u16`.
def runningPort : Option Int → Option Nat
  | some p => if 0 < p then some (p % 2 ^ 16).toNat else none
  | none => none

def locate (db : FarmDb) (req : IncomingRequest) : Except HttpError Located :=
  match pathParam req.segment, pathParam req.rest with
  | some serial, some path =>
    match resolveHub db serial with
    | none => .error (404, "hub_not_found")
    | some hub =>
      if hub.suspendedAt ≠ none then .error (503, "hub_suspended")
      else
        match runningPort hub.processPort with
        | none => .error (503, "hub_not_running")
        | some port => .ok
            { serial := serial
              node := { host := hub.host, port := port, tlsMode := hub.tlsMode, certSha256 := hub.certSha256 }
              upstreamPathAndQuery := upstreamPath (Wire.strBytes path) ++ queryText req.query }
  | _, _ => .error (400, "Invalid URL")

def hostName : Bytes := Wire.strBytes "host"
def forwardedFor : Bytes := Wire.strBytes "x-forwarded-for"
def hubSerial : Bytes := Wire.strBytes "x-hub-serial"
def localAddress : Bytes := Wire.strBytes "127.0.0.1"

-- `to_str` takes a header value that is all of these.
def visibleByte (b : UInt8) : Bool := decide (b = 9 ∨ 32 ≤ b ∧ b < 127)

-- One value for the name, in the place of the first there was.
def headerInsert (name value : Bytes) : List Field → List Field
  | [] => [(name, value)]
  | field :: rest =>
    if field.1 = name then (name, value) :: rest.filter fun other => decide (other.1 ≠ name)
    else field :: headerInsert name value rest

def proxyHeaders (headers : List Field) (serial : String) : List Field :=
  let named := headerInsert forwardedFor localAddress headers
  if (Wire.strBytes serial).all valueByte then headerInsert hubSerial (Wire.strBytes serial) named else named

def commaSplit (value : Bytes) : List Bytes := value.splitOn 44

def isUpgradeRequest (headers : List Field) : Bool :=
  let saysUpgrade : Bytes → Bool := fun value =>
    value.all visibleByte &&
      (commaSplit value).any fun word => decide ((trimBlanks word).map toLower = Wire.strBytes "upgrade")
  !(valuesOf (Wire.strBytes "upgrade") headers).isEmpty &&
    (valuesOf (Wire.strBytes "connection") headers).head?.any saysUpgrade

def MAX_BODY : Nat := 32 * 1024 * 1024

def hopByHop : List Bytes :=
  ["host", "connection", "transfer-encoding", "te", "trailer", "upgrade"].map Wire.strBytes

structure BufferedRequest where
  method : Bytes
  target : Bytes
  headers : List Field
  body : Bytes

def upstreamPrefix (lib : ProxyLib) (node : NodeTarget) : Bytes :=
  Wire.strBytes (node.scheme lib) ++ Wire.strBytes "://" ++ Wire.strBytes node.authority

def proxyBuffered (lib : ProxyLib) (req : IncomingRequest) (located : Located) : Except HttpError BufferedRequest :=
  let headers := proxyHeaders req.headers located.serial
  if MAX_BODY < req.body.length then .error (400, "failed_to_read_body")
  else
    match lib.requestTarget (upstreamPrefix lib located.node ++ located.upstreamPathAndQuery) with
    | none => .error (502, "upstream_error")
    | some target => .ok
        { method := req.method
          target := target
          headers := headers.filter fun field => !hopByHop.contains field.1 && field.2.all visibleByte
          body := req.body }

def headerLine (field : Field) : Bytes :=
  if field.1 = hostName then []
  else if field.2.all visibleByte then field.1 ++ Wire.strBytes ": " ++ field.2 ++ Wire.strBytes "\r\n"
  else []

-- What is written to the hub before anything is read back.
def bridgeUpgrade (req : IncomingRequest) (located : Located) : Bytes :=
  req.method ++ Wire.strBytes " " ++ located.upstreamPathAndQuery ++ Wire.strBytes " HTTP/1.1\r\n" ++
    (proxyHeaders req.headers located.serial).flatMap headerLine ++
    (Wire.strBytes "host: " ++ Wire.strBytes located.node.authority ++ Wire.strBytes "\r\n\r\n")

inductive Outgoing where
  | buffered (request : BufferedRequest)
  | bridged (written : Bytes)

def proxyHandler (lib : ProxyLib) (db : FarmDb) (req : IncomingRequest) : Except HttpError Outgoing := do
  let located ← locate db req
  if isUpgradeRequest req.headers then .ok (.bridged (bridgeUpgrade req located))
  else return .buffered (← proxyBuffered lib req located)

section

variable {headers : List Field} {name value : Bytes}

theorem valuesOf_cons (field : Field) (rest : List Field) :
    valuesOf name (field :: rest) = (if field.1 = name then [field.2] else []) ++ valuesOf name rest := by
  by_cases same : field.1 = name <;> simp [valuesOf, same]

theorem valuesOf_others (other : Bytes) (headers : List Field) :
    valuesOf name (headers.filter fun field => decide (field.1 ≠ other)) = if name = other then [] else valuesOf name headers := by
  induction headers with
  | nil => simp [valuesOf]
  | cons field rest ih =>
    by_cases here : field.1 = other
    · rw [List.filter_cons_of_neg (by simp [here]), ih, valuesOf_cons, here]
      by_cases same : name = other
      · rw [if_pos same, if_pos same]
      · rw [if_neg same, if_neg same, if_neg (Ne.symm same), List.nil_append]
    · rw [List.filter_cons_of_pos (by simp [here]), valuesOf_cons, ih, valuesOf_cons]
      by_cases same : name = other
      · rw [if_pos same, if_pos same, if_neg (fun at' => here (at'.trans same)), List.nil_append]
      · rw [if_neg same, if_neg same]

theorem valuesOf_headerInsert (inserted : Bytes) :
    valuesOf name (headerInsert inserted value headers) = if name = inserted then [value] else valuesOf name headers := by
  induction headers with
  | nil =>
    rw [headerInsert, valuesOf_cons]
    by_cases same : name = inserted
    · rw [if_pos same, if_pos same.symm]
      rfl
    · rw [if_neg same, if_neg (Ne.symm same)]
      rfl
  | cons field rest ih =>
    rw [headerInsert]
    by_cases here : field.1 = inserted
    · rw [if_pos here, valuesOf_cons, valuesOf_others, valuesOf_cons, here]
      by_cases same : name = inserted
      · rw [if_pos same, if_pos same, if_pos same.symm, List.append_nil]
      · rw [if_neg same, if_neg same, if_neg (Ne.symm same), if_neg (Ne.symm same)]
    · rw [if_neg here, valuesOf_cons, ih, valuesOf_cons]
      by_cases same : name = inserted
      · rw [if_pos same, if_pos same, if_neg (fun at' => here (at'.trans same)), List.nil_append]
      · rw [if_neg same, if_neg same]

end

end Wavvon.Farm

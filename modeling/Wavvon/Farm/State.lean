import Std.Data.ExtTreeMap.Lemmas
import Wavvon.Hub.Database
import Wavvon.Shared.Offsets

set_option autoImplicit false

namespace Wavvon.Farm

structure HubRow where
  ownerPubkey : String
  name : String
  description : Option String := none
  visibility : String := "private"
  processPort : Option Int := none
  voicePort : Option Int := none
  createdAt : Int := 0
  suspendedAt : Option Int := none
  deletedAt : Option Int := none
  hubPubkey : Option String := none
  serverId : Option String := none
  deriving DecidableEq, Repr

structure ServerRow where
  host : Option String := none
  tlsMode : String := "ca"
  certSha256 : Option String := none
  dbUrlTemplate : Option String := none
  maxHubs : Option Int := none
  deletedAt : Option Int := none
  deriving DecidableEq, Repr

structure SlugRow where
  displaySlug : String
  hubId : String
  isCanonical : Bool := false
  createdAt : Int
  releasedAt : Option Int := none
  lastResolvedAt : Option Int := none
  deriving DecidableEq, Repr

-- The tables of a farm that its hubs are found by.
structure FarmDb where
  hubs : Table HubRow := ∅
  servers : Table ServerRow := ∅
  hubSlugs : Table SlugRow := ∅

def MAX_LEN : Nat := 32

def MIN_LEN : Nat := 3

def RESERVED : List String :=
  ["admin", "api", "new", "join", "info", "health", "hub", "farm", "auth", "ws", "static",
   "assets", "about", "help", "support", "settings"]

inductive SlugError where
  | tooShort
  | tooLong
  | badCharacter
  | reserved
  | looksLikeAPubkey
  deriving DecidableEq, Repr

def SlugError.message : SlugError → String
  | .tooShort => "must be at least " ++ toString MIN_LEN ++ " characters"
  | .tooLong => "must be at most " ++ toString MAX_LEN ++ " characters"
  | .badCharacter => "may only contain letters a-z, digits, hyphen and underscore"
  | .reserved => "that name is reserved"
  | .looksLikeAPubkey => "64 hex characters is the shape of a hub key — pick something else"

def toAsciiLowercase (text : String) : String := String.ofList (text.toList.map Char.toLower)

def isAsciiHexDigit (c : Char) : Bool :=
  c.isDigit || decide ('a' ≤ c ∧ c ≤ 'f') || decide ('A' ≤ c ∧ c ≤ 'F')

def slugChar (c : Char) : Bool := c.isAlphanum || c == '-' || c == '_'

/-- True when an address segment is a hub's key rather than a slug. -/
def looksLikePubkey (segment : String) : Bool :=
  decide (segment.utf8ByteSize = 64) && segment.toList.all isAsciiHexDigit

-- What is stored and matched on: the lower case of what was typed.
def normalize (raw : String) : Except SlugError String :=
  let trimmed := trim raw
  let len := trimmed.toList.length
  let lowered := toAsciiLowercase trimmed
  if len < MIN_LEN then .error .tooShort
  else if MAX_LEN < len then .error .tooLong
  else if !trimmed.toList.all slugChar then .error .badCharacter
  else if lowered ∈ RESERVED then .error .reserved
  else if looksLikePubkey lowered then .error .looksLikeAPubkey
  else .ok lowered

theorem toAsciiLowercase_idem (text : String) : toAsciiLowercase (toAsciiLowercase text) = toAsciiLowercase text := by
  simp [toAsciiLowercase, Function.comp_def, Offsets.toLower_idem]

theorem normalize_ok {raw slug : String} (ok : normalize raw = .ok slug) :
    (trim raw).toList.all slugChar = true ∧ slug = toAsciiLowercase (trim raw) ∧ looksLikePubkey slug = false := by
  unfold normalize at ok
  dsimp only at ok
  by_cases short : (trim raw).toList.length < MIN_LEN
  · rw [if_pos short] at ok
    cases ok
  by_cases long : MAX_LEN < (trim raw).toList.length
  · rw [if_neg short, if_pos long] at ok
    cases ok
  by_cases fits : (trim raw).toList.all slugChar = true
  · rw [if_neg short, if_neg long, if_neg (by simp [fits])] at ok
    by_cases reserved : toAsciiLowercase (trim raw) ∈ RESERVED
    · rw [if_pos reserved] at ok
      cases ok
    by_cases key : looksLikePubkey (toAsciiLowercase (trim raw)) = true
    · rw [if_neg reserved, if_pos key] at ok
      cases ok
    · rw [if_neg reserved, if_neg key] at ok
      obtain rfl := Except.ok.inj ok
      exact ⟨fits, rfl, Bool.eq_false_iff.mpr key⟩
  · rw [if_neg short, if_neg long, if_pos (by simp [fits])] at ok
    cases ok

structure ResolvedHub where
  suspendedAt : Option Int
  processPort : Option Int
  host : Option String
  tlsMode : String
  certSha256 : Option String
  deriving DecidableEq, Repr

-- LEFT JOIN servers: a hub without a server row runs on the farm's own machine.
def resolvedRow (db : FarmDb) (row : HubRow) : ResolvedHub :=
  let server := row.serverId.bind fun id => db.servers[id]?
  { suspendedAt := row.suspendedAt
    processPort := row.processPort
    host := server.bind (·.host)
    tlsMode := (server.map (·.tlsMode)).getD "ca"
    certSha256 := server.bind (·.certSha256) }

def liveHub (db : FarmDb) (hubId : String) : Option HubRow :=
  db.hubs[hubId]?.filter fun row => decide (row.deletedAt = none)

def hubByPubkey (db : FarmDb) (pubkey : String) : Option HubRow :=
  (db.hubs.toList.find? fun entry => decide (entry.2.hubPubkey = some pubkey ∧ entry.2.deletedAt = none)).map (·.2)

def hubBySlug (db : FarmDb) (slug : String) : Option HubRow :=
  (db.hubSlugs[slug]?.filter fun row => decide (row.releasedAt = none)).bind fun row => liveHub db row.hubId

-- A released slug does not resolve; a key always does.
def resolveHub (db : FarmDb) (segment : String) : Option ResolvedHub :=
  if looksLikePubkey segment then (hubByPubkey db segment).map (resolvedRow db)
  else (hubBySlug db (toAsciiLowercase segment)).map (resolvedRow db)

-- The row of a hub with what the farm needs to run it.
structure FleetRow extends HubRow where
  dbUrl : Option String := none
  autoRestartEnabled : Bool := true
  restartAttempts : Int := 0
  lastRestartAt : Option Int := none
  deriving DecidableEq, Repr

structure Heartbeat where
  onlineUsers : Int
  storageBytes : Int
  uptimeSeconds : Int
  lastSeenAt : Int
  deriving DecidableEq, Repr

structure HubProcess where
  port : UInt16
  voicePort : UInt16
  deriving DecidableEq, Repr

/-- The hubs of a farm, and those of them that run as its own children. -/
structure Fleet where
  hubs : Table FleetRow := ∅
  hubSlugs : Table SlugRow := ∅
  heartbeats : Table Heartbeat := ∅
  processes : Table HubProcess := ∅

structure PortRange where
  basePort : UInt16
  voiceBasePort : UInt16

-- `port += 1` on a u16, at most `left` times; nothing if it would pass 65535.
def gapFrom (occupied : List UInt16) : Nat → UInt16 → Option UInt16
  | 0, port => if port ∈ occupied then none else some port
  | left + 1, port => if port ∈ occupied then gapFrom occupied left (port + 1) else some port

def firstGap (base : UInt16) (occupied : List UInt16) : Option UInt16 := gapFrom occupied (65535 - base.toNat) base

-- Every port already handed out, as http ports and voice ports.
def occupiedPorts (s : Fleet) : List UInt16 × List UInt16 :=
  let live := s.hubs.toList.filter fun entry => decide (entry.2.deletedAt = none)
  (s.processes.toList.map (·.2.port) ++ live.filterMap fun entry => entry.2.processPort.map UInt16.ofInt,
   s.processes.toList.map (·.2.voicePort) ++ live.filterMap fun entry => entry.2.voicePort.map UInt16.ofInt)

def allocatePort (range : PortRange) (s : Fleet) : Option UInt16 := firstGap range.basePort (occupiedPorts s).1

def allocateVoicePort (range : PortRange) (s : Fleet) :
    Option UInt16 :=
  firstGap range.voiceBasePort (occupiedPorts s).2

-- `runs` says whether the operating system started the process.
def spawnHub (s : Fleet) (hubId : String) (process : HubProcess) (runs : Bool) : Fleet × Bool :=
  if runs then ({ s with processes := s.processes.insert hubId process }, true) else (s, false)

-- `dies` says whether the process could be killed; it leaves the map either way.
def stopHub (s : Fleet) (hubId : String) (dies : Bool) : Fleet × Bool :=
  if hubId ∈ s.processes then ({ s with processes := s.processes.erase hubId }, dies) else (s, true)

def restartHub (s : Fleet) (hubId : String) (process : HubProcess) (dies runs : Bool) : Fleet × Bool :=
  let stopped := stopHub s hubId dies
  if stopped.2 then spawnHub stopped.1 hubId process runs else (stopped.1, false)

def updateHub (s : Fleet) (hubId : String) (f : FleetRow → FleetRow) : Fleet := { s with hubs := s.hubs.modify hubId f }

/-- Keeps the voice port of a row, or allocates one and writes it down. -/
def resolveVoicePort (range : PortRange) (s : Fleet) (hubId : String) : Option Int → Option (Fleet × UInt16)
  | some voicePort => some (s, UInt16.ofInt voicePort)
  | none => (allocateVoicePort range s).map fun fresh =>
    (updateHub s hubId fun row => { row with voicePort := some (fresh.toNat : Int) }, fresh)

section

variable {s : Fleet} {hubId : String}

theorem updateHub_row (s : Fleet) (hubId other : String) (f : FleetRow → FleetRow) :
    (updateHub s hubId f).hubs[other]? = if other = hubId then s.hubs[other]?.map f else s.hubs[other]? := by
  rw [updateHub, Std.ExtTreeMap.getElem?_modify]
  by_cases same : other = hubId
  next =>
    subst same
    simp
  next =>
    rw [if_neg same, if_neg fun held => same (Std.LawfulEqCmp.eq_of_compare held).symm]

@[simp] theorem spawnHub_hubs (process : HubProcess) (runs : Bool) :
    (spawnHub s hubId process runs).1.hubs = s.hubs := by
  unfold spawnHub
  split <;> rfl

@[simp] theorem stopHub_hubs (dies : Bool) : (stopHub s hubId dies).1.hubs = s.hubs := by
  unfold stopHub
  split <;> rfl

@[simp] theorem restartHub_hubs (process : HubProcess) (dies runs : Bool) :
    (restartHub s hubId process dies runs).1.hubs = s.hubs := by
  unfold restartHub
  dsimp only
  split
  next => rw [spawnHub_hubs, stopHub_hubs]
  next => exact stopHub_hubs dies

@[simp] theorem restartHub_heartbeats (process : HubProcess) (dies runs : Bool) :
    (restartHub s hubId process dies runs).1.heartbeats = s.heartbeats := by
  unfold restartHub stopHub spawnHub
  split <;> split <;> simp only <;> split <;> rfl

end

end Wavvon.Farm

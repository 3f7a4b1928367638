import Mathlib.Data.List.Sort
import Wavvon.Hub.Database
import Wavvon.Shared.Counters
import Wavvon.Shared.Interleaving

set_option autoImplicit false

namespace Wavvon.Certs

open Std (ExtTreeMap)
open Interleaving (Handler)

structure UserCert where
  masterPubkey : String
  issuerPubkey : String
  issuerUrl : String
  deriving DecidableEq, Repr

structure SyncRow where
  issuerUrl : String
  lastSyncedAt : Int
  deriving DecidableEq, Repr

structure Issuance where
  subjectPubkey : String
  revokedAt : Option Int := none
  deriving DecidableEq, Repr

-- A hub that issues certificates, with its clock.
structure IssuerHub where
  issuances : Table Issuance := ∅
  now : Int := 0

-- A base URL leads to a hub, which several may do, and answers only while it is up.
structure Host where
  hub : String
  up : Bool := true
  deriving DecidableEq, Repr

/-- The certificates and cursors of this hub, and the hubs of the issuers. -/
structure RelayState where
  userCerts : Table UserCert := ∅
  syncs : Table SyncRow := ∅
  hosts : Table Host := ∅
  hubs : Table IssuerHub := ∅

structure RevocationEntry where
  subjectPubkey : String
  revokedAt : Int
  deriving DecidableEq, Repr

def IssuerHub.revocations (hub : IssuerHub) : List RevocationEntry :=
  hub.issuances.toList.filterMap fun row =>
    row.2.revokedAt.map fun revokedAt => { subjectPubkey := row.2.subjectPubkey, revokedAt := revokedAt }

-- WHERE revoked_at >= since ORDER BY revoked_at DESC
def getRevocations (hub : IssuerHub) (since : Int) : List RevocationEntry :=
  (hub.revocations.filter fun entry => decide (since ≤ entry.revokedAt)).insertionSort fun a b => b.revokedAt ≤ a.revokedAt

-- What goes on at the hubs of the issuers, statement by statement.
inductive IssuerEvent where
  | issue (hub id subject : String)
  | revoke (hub subject : String)
  -- The row with standing `revoked` that a revocation goes on to insert.
  | reissue (hub id subject : String) (revokedAt : Int)
  | wait (hub : String) (seconds : Nat)
  | reach (url : String) (up : Bool)

def onHub (s : RelayState) (hub : String) (change : IssuerHub → IssuerHub) : RelayState :=
  { s with hubs := s.hubs.modify hub change }

def Issuance.revoke (row : Issuance) (subject : String) (now : Int) : Issuance :=
  if row.subjectPubkey = subject ∧ row.revokedAt = none then { row with revokedAt := some now } else row

def aside (s : RelayState) : IssuerEvent → RelayState
  | .issue at' id subject =>
    onHub s at' fun hub => { hub with issuances := hub.issuances.insertIfNew id { subjectPubkey := subject } }
  | .revoke at' subject =>
    onHub s at' fun hub => { hub with issuances := hub.issuances.map fun _ row => row.revoke subject hub.now }
  | .reissue at' id subject revokedAt =>
    onHub s at' fun hub =>
      { hub with issuances := hub.issuances.insertIfNew id { subjectPubkey := subject, revokedAt := some revokedAt } }
  | .wait at' seconds => onHub s at' fun hub => { hub with now := hub.now + seconds }
  | .reach url up => { s with hosts := s.hosts.modify url fun host => { host with up := up } }

def trimEndSlashes (url : String) : String := String.ofList (url.toList.reverse.dropWhile (· = '/')).reverse

def hubAt (s : RelayState) (url : String) : Option IssuerHub :=
  s.hosts[trimEndSlashes url]?.bind fun host => s.hubs[host.hub]?

-- A request that fails, or an answer that is not a list, counts as nothing served.
def serve (s : RelayState) (url : String) (since : Int) : Option (List RevocationEntry) :=
  if s.hosts[trimEndSlashes url]?.any (·.up) then (hubAt s url).map fun hub => getRevocations hub since else none

def cursorOf (s : RelayState) (issuer : String) : Int := (s.syncs[issuer]?.map (·.lastSyncedAt)).getD 0

def newest (since : Int) (entries : List RevocationEntry) : Int :=
  entries.foldl (fun most entry => if most < entry.revokedAt then entry.revokedAt else most) since

-- The sum wraps in the 64 bits of its type.
def nextCursor (since : Int) (entries : List RevocationEntry) : Int :=
  if entries = [] then since else (newest since entries + 1).bmod (2 ^ 64)

inductive RelayStatement where
  | listIssuers
  | readCursor (issuer : String)
  | fetch (url : String) (since : Int)
  | remove (issuer subject : String)
  | advance (issuer url : String) (cursor : Int)

def RelayStatement.effect : RelayStatement → RelayState → RelayState
  | .listIssuers, s | .readCursor _, s | .fetch _ _, s => s
  | .remove issuer subject, s =>
    { s with userCerts := s.userCerts.filter fun _ cert => decide ¬ (cert.issuerPubkey = issuer ∧ cert.masterPubkey = subject) }
  | .advance issuer url cursor, s =>
    let kept := (s.syncs[issuer]?.map (·.lastSyncedAt)).elim cursor (max cursor)
    { s with syncs := s.syncs.insert issuer { issuerUrl := url, lastSyncedAt := kept } }

abbrev Worker (A : Type) := Handler RelayState RelayStatement A

def exec {A : Type} (statement : RelayStatement) (read : RelayState → A) : Worker A :=
  .exec statement statement.effect read

def apply (issuer url : String) (cursor : Int) : List RevocationEntry → Worker Unit
  | [] => exec (.advance issuer url cursor) fun _ => ()
  | entry :: rest => do
    exec (.remove issuer entry.subjectPubkey) fun _ => ()
    apply issuer url cursor rest

def takeIn (issuer url : String) (since : Int) : Option (List RevocationEntry) → Worker Bool
  | none => return false
  | some entries => do
    apply issuer url (nextCursor since entries) entries
    return true

-- Whether the poll succeeds.
def syncOne (issuer url : String) : Worker Bool := do
  let since ← exec (.readCursor issuer) fun s => cursorOf s issuer
  let fetched ← exec (.fetch url since) fun s => serve s url since
  takeIn issuer url since fetched

def issuers (s : RelayState) : List (String × String) :=
  (s.userCerts.toList.map fun row => (row.2.issuerPubkey, row.2.issuerUrl)).dedup

def syncAll : List (String × String) → Worker Unit
  | [] => return ()
  | (issuer, url) :: rest => do
    let _ ← syncOne issuer url
    syncAll rest

-- `SELECT DISTINCT` has no order of its own.
def tick (order : List (String × String) → List (String × String)) : Worker Unit := do
  let listed ← exec .listIssuers issuers
  syncAll (order listed)

/-- One poll, and what happens at the hubs of the issuers before each of its statements. -/
structure Poll where
  issuer : String
  url : String
  amid : List (List IssuerEvent) := []

inductive Act where
  | issuer (event : IssuerEvent)
  | poll (poll : Poll)

def sync (s : RelayState) (poll : Poll) : RelayState × Bool := (syncOne poll.issuer poll.url).amid aside poll.amid s

def step (s : RelayState) : Act → RelayState
  | .issuer event => aside s event
  | .poll poll => (sync s poll).1

-- The states that the cursor is read from and that the feed is served from.
def startOf (s : RelayState) (poll : Poll) : RelayState := Runs.run aside s (poll.amid.headD [])

def fetchOf (s : RelayState) (poll : Poll) : RelayState := Runs.run aside (startOf s poll) (poll.amid.tail.headD [])

def sinceOf (s : RelayState) (poll : Poll) : Int := cursorOf (startOf s poll) poll.issuer

def published (s : RelayState) (url : String) : List RevocationEntry :=
  ((hubAt s url).map (·.revocations)).getD []

def HasCert (s : RelayState) (issuer subject : String) : Prop :=
  ∃ (id : String) (cert : UserCert), s.userCerts[id]? = some cert ∧ cert.issuerPubkey = issuer ∧
    cert.masterPubkey = subject

def I64_MAX : Int := 2 ^ 63 - 1

/-- A poll that succeeds leaves no certificate that was published as revoked when it began, and its cursor fits. -/
def CatchesUp (s : RelayState) : Act → Prop
  | .issuer _ => True
  | .poll poll =>
    (sync s poll).2 = true →
      (∀ entry ∈ published (startOf s poll) poll.url, ¬ HasCert (sync s poll).1 poll.issuer entry.subjectPubkey) ∧
        ∀ entries, serve (fetchOf s poll) poll.url (sinceOf s poll) = some entries → entries ≠ [] →
          newest (sinceOf s poll) entries + 1 ≤ I64_MAX

/--
The cursor is past no revocation that has still to be applied: of whom a certificate is left and an earlier revocation is
published, there is one from the cursor on as well when the feed is served. None of these has the last date there is.
-/
def Reaches (s : RelayState) : Act → Prop
  | .issuer _ => True
  | .poll poll =>
    (serve (fetchOf s poll) poll.url (sinceOf s poll)).isSome = true →
      (∀ entry ∈ published (startOf s poll) poll.url, entry.revokedAt < sinceOf s poll →
        HasCert s poll.issuer entry.subjectPubkey →
        ∃ later ∈ published (fetchOf s poll) poll.url, later.subjectPubkey = entry.subjectPubkey ∧
          sinceOf s poll ≤ later.revokedAt) ∧
        ∀ entry ∈ published (fetchOf s poll) poll.url, sinceOf s poll ≤ entry.revokedAt → entry.revokedAt < I64_MAX

end Wavvon.Certs

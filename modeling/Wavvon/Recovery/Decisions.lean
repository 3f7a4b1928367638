import Wavvon.Recovery.State
import Wavvon.Shared.Interleaving

set_option autoImplicit false

namespace Wavvon.Recovery

open Std (ExtTreeMap)
open Interleaving (Handler)

-- The new key may never have signed in here.
def insertUser (db : Db) (publicKey : String) (now : Int) : Db :=
  let row : User := { firstSeenAt := now, lastSeenAt := now }
  { db with users := db.users.insertIfNew publicKey row }

def memberFlag (db : Db) (publicKey : String) : Bool := db.users[publicKey]?.any (·.isMember)

def setMember (db : Db) (publicKey : String) (flag : Bool) : Db :=
  { db with users := db.users.modify publicKey fun user => { user with isMember := flag } }

def nonOwnerRoles (db : Db) (publicKey : String) : Finset String :=
  (db.userRoles.filter fun row => row.1 = publicKey ∧ row.2 ≠ BUILTIN_OWNER_ROLE_ID).image Prod.snd

-- The four statements of the transaction: copy, join, leave, delete.
def transferRoles (db : Db) (oldPubkey newPubkey : String) : Db :=
  let copied := { db with
    userRoles := db.userRoles ∪ (nonOwnerRoles db oldPubkey).image fun role => (newPubkey, role) }
  let joined := setMember copied newPubkey (memberFlag copied newPubkey || memberFlag copied oldPubkey)
  let left := if (oldPubkey, BUILTIN_OWNER_ROLE_ID) ∈ joined.userRoles then joined
    else setMember joined oldPubkey false
  { left with
    userRoles := left.userRoles.filter fun row => ¬ (row.1 = oldPubkey ∧ row.2 ≠ BUILTIN_OWNER_ROLE_ID) }

def deleteSessions (s : AuthState) (publicKey : String) : AuthState :=
  { s with tables := { s.tables with sessions := s.tables.sessions.filter (·.publicKey ≠ publicKey) } }

inductive Statement where
  | read
  | fetch
  | insertUser (publicKey : String) (now : Int)
  | transfer (oldPubkey newPubkey : String)
  | deleteSessions (publicKey : String)
  | decide (status : RotationStatus) (now : Int) (admin : String)
  | insertAttestation (attester : String)
  | flipReady
  deriving DecidableEq, Repr

-- What a statement does, for calls about one request.
def Statement.effect (id : String) : Statement → State → State
  | .read, s => s
  | .fetch, s => s
  | .insertUser publicKey now, s => { s with auth := { s.auth with db := Recovery.insertUser s.auth.db publicKey now } }
  | .transfer oldPubkey newPubkey, s =>
    { s with auth := { s.auth with db := transferRoles s.auth.db oldPubkey newPubkey } }
  | .deleteSessions publicKey, s => { s with auth := Recovery.deleteSessions s.auth publicKey }
  | .decide status now admin, s =>
    { s with requests := s.requests.modify id fun row =>
        { row with status := status, decidedAt := some now, decidedBy := some admin } }
  | .insertAttestation attester, s => { s with attestations := insert (id, attester) s.attestations }
  | .flipReady, s => { s with requests := s.requests.modify id Recovery.flipReady }

abbrev Handle (A : Type) := Handler State Statement A

section

variable (id : String)

def exec {A : Type} (statement : Statement) (read : State → A) : Handle A :=
  .exec statement (statement.effect id) read

def fetchRotationRequest : Handle (Option RotationRow) := exec id .fetch fun s => s.requests[id]?

def requireOwner (admin act : String) : Handle (Except HttpError Unit) :=
  exec id .read fun s =>
    if (userPermissions s.auth.db admin).isOwner then .ok () else .error (403, "Only the hub owner may " ++ act)

-- The status is written without a guard on the one that was read.
def approveRow (row : RotationRow) (admin : String) (now : Int) : Handle (Except HttpError Unit) := do
  exec id (.insertUser row.newPubkey now) fun _ => ()
  exec id (.transfer row.oldPubkey row.newPubkey) fun _ => ()
  exec id (.deleteSessions row.oldPubkey) fun _ => ()
  exec id (.decide .approved now admin) fun _ => .ok ()

def adminApprove (admin : String) (now : Int) : Handle (Except HttpError Unit) :=
  (requireOwner id admin "approve an identity recovery").andThen fun _ => do
    let found ← fetchRotationRequest id
    match found with
    | none => return .error requestNotFound
    | some row =>
      if row.status ≠ .readyForReview then return .error (409, "Request is not in an approvable state")
      else approveRow id row admin now

def adminDeny (admin : String) (now : Int) : Handle (Except HttpError Unit) :=
  (requireOwner id admin "deny an identity recovery").andThen fun _ => do
    let found ← fetchRotationRequest id
    match found with
    | none => return .error requestNotFound
    | some row =>
      if row.status ≠ .readyForReview ∧ row.status ≠ .pending then
        return .error (409, "Request is not in a deniable state")
      else exec id (.decide .rejected now admin) fun _ => .ok ()

def storeAttestation (row : RotationRow) (attester : String) : Handle (Except HttpError Unit) := do
  exec id (.insertAttestation attester) fun _ => ()
  let threshold ← exec id .read fun s => (s.threshold row.oldPubkey).getD 0
  let count : Int ← exec id .read fun s => ((s.attestersOf id).card : Int)
  if threshold ≤ count then exec id .flipReady fun _ => .ok () else return .ok ()

def attestStatements (keys : Keys) (hubPubkey : String) (req : AttestRequest) : Handle (Except HttpError Unit) := do
  let found ← fetchRotationRequest id
  match found with
  | none => return .error requestNotFound
  | some row =>
    match checkAttester row req.attester with
    | .error e => return .error e
    | .ok _ =>
      let contact ← exec id .read fun s => decide ((row.oldPubkey, req.attester) ∈ s.contacts)
      if !contact then return .error notAContact
      else
        match checkAttestation keys hubPubkey row req with
        | .error e => return .error e
        | .ok _ => storeAttestation id row req.attester

theorem alone_exec_bind {A B : Type} (statement : Statement) (read : State → A) (rest : A → Handle B)
    (s : State) :
    (exec id statement read >>= rest).alone s = (rest (read s)).alone (statement.effect id s) := rfl

theorem storeAttestation_alone (row : RotationRow) (attester : String) (s : State) :
    (storeAttestation id row attester).alone s =
      (let attested := { s with attestations := insert (id, attester) s.attestations }
      let count : Int := (attested.attestersOf id).card
      if (attested.threshold row.oldPubkey).getD 0 ≤ count then
        ({ attested with requests := attested.requests.modify id flipReady }, .ok ())
      else (attested, .ok ())) := by
  rw [storeAttestation, alone_exec_bind, alone_exec_bind, alone_exec_bind]
  split
  next tips => exact (if_pos tips).symm
  next short => exact (if_neg short).symm

-- With nobody in between, the statements are the handler that runs to completion.
theorem attestStatements_alone (keys : Keys) (hubPubkey : String) (s : State) (req : AttestRequest) :
    (attestStatements id keys hubPubkey req).alone s = postAttest keys hubPubkey s id req := by
  rw [attestStatements, fetchRotationRequest, alone_exec_bind, postAttest]
  cases s.requests[id]? with
  | none => rfl
  | some row =>
    dsimp only
    cases checkAttester row req.attester with
    | error e => rfl
    | ok _ =>
      dsimp only
      rw [alone_exec_bind]
      by_cases contact : (row.oldPubkey, req.attester) ∈ s.contacts
      next =>
        have listed : ¬ (!decide ((row.oldPubkey, req.attester) ∈ s.contacts)) = true := by simp [contact]
        rw [if_neg (not_not.mpr contact)]
        refine (congrArg (fun handler => Handler.alone handler s) (if_neg listed)).trans ?_
        cases checkAttestation keys hubPubkey row req with
        | error e => rfl
        | ok _ => exact storeAttestation_alone id row req.attester s
      next =>
        rw [if_pos contact]
        simp [contact, Statement.effect]

end

end Wavvon.Recovery

import Wavvon.Roles.Handlers
import Wavvon.Shared.Interleaving

set_option autoImplicit false

namespace Wavvon.Banlist

open Std (ExtTreeMap)
open Interleaving (Handler)
open Tables (Nested)
open Wire (Bytes)

def BANLIST_SOURCES_MANAGE : String := "banlist.sources.manage"

structure BanRow where
  reason : Option String
  addedAt : Int
  syncedAt : Int
  deriving DecidableEq, Repr

/-- The sources of federated bans, the local overrides, and the bans by issuer and target. -/
structure BanTables where
  db : Db := {}
  sources : Table BanSource := ∅
  overrides : Table String := ∅
  bans : Nested String String BanRow := ∅

structure BanEntry where
  masterPubkey : Option String
  reason : Option String := none
  addedAt : Option Int := none
  deriving DecidableEq, Repr

/-- What is read out of the JSON of a list, its text, and the signature check. -/
structure ListReader (Json : Type) where
  issuerPubkey : Json → Option String
  issuedAt : Json → Option Int
  entries : Json → Option (List BanEntry)
  text : Json → Bytes
  verifySignature : String → Bytes → Bytes → Bool

-- A body that parses: its fields `payload` and `signature`.
structure Fetched (Json : Type) where
  payload : Option Json
  signature : Option String

def toRows (now : Int) (entries : List BanEntry) : List (String × BanRow) :=
  entries.filterMap fun entry =>
    let pubkey := entry.masterPubkey.getD ""
    if pubkey = "" then none
    else some (pubkey, { reason := entry.reason, addedAt := entry.addedAt.getD now, syncedAt := now })

/-- A list that takes the place of what is stored of its issuer. -/
structure Replacement (Json : Type) where
  url : String
  issuer : String
  list : Json
  rows : List (String × BanRow)

inductive BanStatement (Json : Type) where
  | read
  | readOverride (key : String)
  | pin (url issuer : String)
  | clear (replacement : Replacement Json)
  | insert (issuer target : String) (row : BanRow)
  | removeSource (url : String)
  | removeBans (url issuer : String)

def stored (s : BanTables) (issuer : String) : Table BanRow := s.bans[issuer]?.getD ∅

variable {Json : Type}

def BanStatement.effect : BanStatement Json → BanTables → BanTables
  | .read, s | .readOverride _, s => s
  | .pin url issuer, s =>
    { s with sources := s.sources.modify url fun source => { source with issuerPubkey := some issuer } }
  | .clear replacement, s => { s with bans := s.bans.erase replacement.issuer }
  | .insert issuer target row, s => { s with bans := Nested.put s.bans issuer target row }
  | .removeSource url, s => { s with sources := s.sources.erase url }
  | .removeBans _ issuer, s => { s with bans := s.bans.erase issuer }

abbrev Handle (Json A : Type) := Handler BanTables (BanStatement Json) A

def exec {A : Type} (statement : BanStatement Json) (read : BanTables → A) : Handle Json A :=
  .exec statement statement.effect read

def sourceIs (s : BanTables) (issuer : String) (holds : BanSource → Bool) : Bool :=
  s.sources.toList.any fun source => decide (source.2.issuerPubkey = some issuer) && holds source.2

-- Issuers whose stored list names the key.
def issuersAgainst (s : BanTables) (key : String) : List String :=
  (s.bans.toList.filter fun entry => decide (key ∈ entry.2)).map (·.1)

def hardRejected (s : BanTables) (key : String) : Bool :=
  (issuersAgainst s key).any fun issuer => sourceIs s issuer fun source => decide (source.policy = "hard-reject")

def legacyBanned (s : BanTables) (key : String) : Bool :=
  (issuersAgainst s key).any fun issuer => !sourceIs s issuer fun _ => true

def isDeniedByFederatedPolicy (checkKey : String) : Handle Json Bool := do
  let overrideType ← exec (.readOverride checkKey) fun s => s.overrides[checkKey]?
  if overrideType = some "whitelist" then return false
  else if overrideType = some "blacklist" then return true
  else
    let hard ← exec .read fun s => hardRejected s checkKey
    if hard then return true else exec .read fun s => legacyBanned s checkKey

section

variable (reader : ListReader Json)

def insertAll (issuer : String) : List (String × BanRow) → Handle Json Unit
  | [] => return ()
  | (target, row) :: rest => do
    exec (.insert issuer target row) fun _ => ()
    insertAll issuer rest

-- The old rows go first, then the new ones come one by one.
def replace (replacement : Replacement Json) : Handle Json Unit := do
  exec (.clear replacement) fun _ => ()
  insertAll replacement.issuer replacement.rows

def pinnedIssuer (s : BanTables) (url : String) : Option String :=
  (s.sources[url]?.bind (·.issuerPubkey)).filter fun key => decide (key ≠ "")

-- What is left to do with a list that has come in under the name of its issuer.
def acceptList (url issuer : String) (payload : Json) (signature : Option String) (now : Int) : Handle Json Unit := do
  let pinned ← exec .read fun s => pinnedIssuer s url
  if pinned.any fun key => decide (key ≠ issuer) then return ()
  else if !reader.verifySignature issuer (reader.text payload) ((signature.bind hexDecode).getD []) then return ()
  else
    exec (.pin url issuer) fun _ => ()
    match reader.entries payload with
    | none => return ()
    | some entries => replace { url := url, issuer := issuer, list := payload, rows := toRows now entries }

-- `fetched` is the body that `/federation/banlist` answers with, if there is one.
def syncOneSource (url : String) (fetched : Option (Fetched Json)) (now : Int) : Handle Json Unit :=
  match fetched.bind fun body => body.payload.map fun payload => (payload, body.signature) with
  | none => return ()
  | some (payload, signature) =>
    let issuer := (reader.issuerPubkey payload).getD ""
    if issuer = "" then return () else acceptList reader url issuer payload signature now

def deleteSource (user url : String) : Handle Json (Except HttpError Unit) :=
  (exec .read fun s => (userPermissions s.db user).require BANLIST_SOURCES_MANAGE).andThen fun _ => do
    let issuer ← exec .read fun s => s.sources[url]?.bind (·.issuerPubkey)
    exec (.removeSource url) fun _ => ()
    match issuer.filter fun key => decide (key ≠ "") with
    | none => return .ok ()
    | some pubkey => exec (.removeBans url pubkey) fun _ => .ok ()

inductive BanRequest (Json : Type) where
  | sync (url : String) (fetched : Option (Fetched Json)) (now : Int)
  | deleteSource (user url : String)
  | check (key : String)

inductive BanAnswer where
  | synced
  | deleted (outcome : Except HttpError Unit)
  | denied (denied : Bool)

def BanRequest.handle : BanRequest Json → Handle Json BanAnswer
  | .sync url fetched now => syncOneSource reader url fetched now >>= fun _ => return .synced
  | .deleteSource user url => Banlist.deleteSource user url >>= fun outcome => return .deleted outcome
  | .check key => isDeniedByFederatedPolicy key >>= fun denied => return .denied denied

end

-- What a check finds when nobody writes in between.
def denied (s : BanTables) (key : String) : Bool :=
  if s.overrides[key]? = some "whitelist" then false
  else if s.overrides[key]? = some "blacklist" then true
  else hardRejected s key || legacyBanned s key

theorem isDenied_alone (s : BanTables) (key : String) :
    (isDeniedByFederatedPolicy key : Handle Json Bool).alone s = (s, denied s key) := by
  rw [isDeniedByFederatedPolicy, Handler.alone_bind]
  change (if s.overrides[key]? = some "whitelist" then (pure false : Handle Json Bool)
    else if s.overrides[key]? = some "blacklist" then pure true else _).alone s = _
  unfold denied
  split
  next => rfl
  next =>
    split
    next => rfl
    next =>
      rw [Handler.alone_bind]
      change (if hardRejected s key then (pure true : Handle Json Bool) else _).alone s = _
      cases hardRejected s key <;> rfl

def federatedBans (s : BanTables) : List (String × String) :=
  s.bans.toList.flatMap fun entry => entry.2.toList.map fun row => (row.1, entry.1)

theorem mem_federatedBans {s : BanTables} {key issuer : String} :
    (key, issuer) ∈ federatedBans s ↔ issuer ∈ issuersAgainst s key := by
  simp only [federatedBans, issuersAgainst, List.mem_flatMap, List.mem_map, List.mem_filter, decide_eq_true_eq,
    Prod.mk.injEq,
    ExtTreeMap.mem_iff_isSome_getElem?]
  constructor
  · rintro ⟨entry, listed, ⟨target, row⟩, held, rfl, rfl⟩
    refine ⟨entry, ⟨listed, ?_⟩, rfl⟩
    rw [ExtTreeMap.mem_toList_iff_getElem?_eq_some.mp held]
    rfl
  · rintro ⟨entry, ⟨listed, held⟩, rfl⟩
    obtain ⟨row, found⟩ := Option.isSome_iff_exists.mp held
    exact ⟨entry, listed, (key, row), ExtTreeMap.mem_toList_iff_getElem?_eq_some.mpr found, rfl, rfl⟩

-- The doors of the hub ask for what the check finds.
theorem denied_doors {s : BanTables} {auth : AuthState} (overrides : auth.tables.banOverrides = s.overrides)
    (sources : auth.tables.federatedBanSources = s.sources) (bans : auth.tables.federatedBans = federatedBans s)
    (key : String) :
    auth.isDeniedByFederatedPolicy key = denied s key := by
  have listed : ∀ holds : String → Bool,
      (((federatedBans s).filter fun ban => ban.1 = key).any fun ban =>
        holds ban.2) = (issuersAgainst s key).any holds := by
    intro holds
    rw [Bool.eq_iff_iff, List.any_eq_true, List.any_eq_true]
    constructor
    · rintro ⟨⟨target, issuer⟩, inside, held⟩
      obtain ⟨member, same⟩ := List.mem_filter.mp inside
      obtain rfl : target = key := of_decide_eq_true same
      exact ⟨issuer, mem_federatedBans.mp member, held⟩
    · rintro ⟨issuer, inside, held⟩
      exact ⟨(key, issuer), List.mem_filter.mpr ⟨mem_federatedBans.mpr inside, decide_eq_true rfl⟩, held⟩
  have hard := listed fun issuer => sourceIs s issuer fun source => decide (source.policy = "hard-reject")
  have legacy := listed fun issuer => !sourceIs s issuer fun _ => true
  have sourced : ∀ issuer, ((s.sources.toList.filter fun source =>
    source.2.issuerPubkey = some issuer).any fun source =>
      source.2.policy = "hard-reject") = sourceIs s issuer fun source => decide (source.policy = "hard-reject") := by
    intro issuer
    simp [sourceIs, List.any_filter]
  have unsourced : ∀ issuer, decide ((s.sources.toList.filter fun source => source.2.issuerPubkey = some issuer) = []) =
      !sourceIs s issuer fun _ => true := by
    intro issuer
    rw [Bool.eq_iff_iff]
    simp [sourceIs, List.filter_eq_nil_iff]
  unfold AuthState.isDeniedByFederatedPolicy denied hardRejected legacyBanned
  rw [overrides, sources, bans, ← hard, ← legacy]
  simp only [sourced, unsourced]
  split
  next white => rw [if_pos white]
  next black => rw [if_neg (by simp [black]), if_pos black]
  next notWhite notBlack => rw [if_neg notWhite, if_neg notBlack]

end Wavvon.Banlist

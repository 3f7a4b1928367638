import Wavvon.Moderation.Banlist
import Wavvon.Shared.Interleaving

set_option autoImplicit false

namespace Wavvon.Banlist

open Std (ExtTreeMap)
open Interleaving (Handler Discipline Fits FitAll System Moves fits_quiet)
open Tables (Nested)

variable {Json : Type}

/-- How far a sync is with putting a list in the place of the rows that it found. -/
structure Work (Json : Type) where
  replacement : Replacement Json
  -- The source rejects whom it names.
  hard : Bool
  previous : Table BanRow
  remaining : List (String × BanRow)

inductive BanPhase (Json : Type) where
  | idle
  | checked (key : String) (overrideType : Option String)
  | replacing (work : Work Json)
  | removed (issuer : String)

structure BanProgress (Json : Type) where
  request : BanRequest Json
  phase : BanPhase Json := .idle

-- The issuer whose rows are not all there yet.
def BanProgress.writing (p : BanProgress Json) : Option String :=
  match p.phase with
  | .replacing work => if work.remaining.isEmpty then none else some work.replacement.issuer
  | _ => none

-- The list that has been stored from the first row to the last.
def BanProgress.replaced (p : BanProgress Json) : Option (Replacement Json) :=
  match p.phase with
  | .replacing work => if work.remaining.isEmpty then some work.replacement else none
  | _ => none

def putRow (table : Table BanRow) (row : String × BanRow) : Table BanRow := table.insert row.1 row.2

def rejects (s : BanTables) (url : String) : Bool :=
  s.sources[url]?.all fun source => decide (source.policy = "hard-reject")

def Signed (reader : ListReader Json) (issuer : String) (list : Json) (rows : List (String × BanRow)) : Prop :=
  reader.issuerPubkey list = some issuer ∧ (∃ signature,
    reader.verifySignature issuer (reader.text list) signature = true) ∧
    ∃ entries now, reader.entries list = some entries ∧ rows = toRows now entries

-- What is stored of an issuer is one list that it signed.
def Listed (reader : ListReader Json) (issuer : String) (table : Table BanRow) : Prop :=
  ∃ list rows, Signed reader issuer list rows ∧ table = rows.foldl putRow ∅

def firstWork (s : BanTables) (replacement : Replacement Json) : Work Json where
  replacement := replacement
  hard := rejects s replacement.url
  previous := stored s replacement.issuer
  remaining := replacement.rows

def nextWork (work : Work Json) : Work Json := { work with remaining := work.remaining.tail }

def banRules (reader : ListReader Json) : Discipline BanTables (BanStatement Json) (BanProgress Json) where
  advance p label s :=
    match label with
    | .readOverride key => { p with phase := .checked key s.overrides[key]? }
    | .removeBans _ issuer => { p with phase := .removed issuer }
    | .clear replacement => { p with phase := .replacing (firstWork s replacement) }
    | .insert _ _ _ =>
      match p.phase with
      | .replacing work => { p with phase := .replacing (nextWork work) }
      | _ => p
    | _ => p
  permits p label s after :=
    after = label.effect s ∧
      match label with
      | .read => ∀ work, p.phase ≠ .replacing work
      | .readOverride key => p.phase = .idle ∧ p.request = .check key
      | .pin _ _ => p.phase = .idle ∧ ∃ url fetched now, p.request = .sync url fetched now
      | .clear replacement => p.phase = .idle ∧ (∃ url fetched now, p.request = .sync url fetched now) ∧
          Signed reader replacement.issuer replacement.list replacement.rows
      | .insert issuer target row => (∃ url fetched now, p.request = .sync url fetched now) ∧
          ∃ work rest, p.phase = .replacing work ∧ work.replacement.issuer = issuer ∧
            work.remaining = (target, row) :: rest
      | .removeSource url => p.phase = .idle ∧ ∃ user, p.request = .deleteSource user url
      | .removeBans url _ => p.phase = .idle ∧ ∃ user, p.request = .deleteSource user url

-- A sync has stored all of its list, and a check that admits has read the override.
def Answered (p : BanProgress Json) (answer : BanAnswer) : Prop :=
  p.writing = none ∧ ∀ key, p.request = .check key → answer = .denied false →
    ∃ overrideType, p.phase = .checked key overrideType ∧ overrideType ≠ some "blacklist"

section

variable {reader : ListReader Json} {A B : Type} {post : BanProgress Json → B → Prop} {p : BanProgress Json}
  {request : BanRequest Json}

theorem insertAll_fits {work : Work Json} (asked : ∃ url fetched now, request = .sync url fetched now) :
    Fits (banRules reader) (fun q _ => q.request = request ∧ q.writing = none)
    { request := request, phase := .replacing work }
      (insertAll work.replacement.issuer work.remaining) := by
  obtain ⟨replacement, hard, previous, remaining⟩ := work
  induction remaining with
  | nil => exact ⟨rfl, rfl⟩
  | cons row rest ih => exact ⟨fun _ => ⟨rfl, asked, _, rest, rfl, rfl, rfl⟩, fun _ => ih⟩

theorem acceptList_fits (url issuer : String) (payload : Json) (signature : Option String) (now : Int)
    (asked : ∃ url fetched now, request = .sync url fetched now) (named : reader.issuerPubkey payload = some issuer) :
    Fits (banRules reader) (fun q _ => q.request = request ∧ q.writing = none) { request := request }
      (acceptList reader url issuer payload signature now) := by
  refine fits_quiet (fun _ => rfl) (fun _ => ⟨rfl, nofun⟩) fun pinned => ?_
  split
  next => exact ⟨rfl, rfl⟩
  next =>
    split
    next => exact ⟨rfl, rfl⟩
    next signed =>
      refine fits_quiet (fun _ => rfl) (fun _ => ⟨rfl, rfl, asked⟩) fun _ => ?_
      split
      next => exact ⟨rfl, rfl⟩
      next entries found =>
        have genuine : Signed reader issuer payload (toRows now entries) :=
          ⟨named, ⟨_, by simpa using signed⟩, entries, now, found, rfl⟩
        exact ⟨fun _ => ⟨rfl, rfl, asked, genuine⟩, fun s => insertAll_fits asked⟩

theorem syncOneSource_fits (url : String) (fetched : Option (Fetched Json)) (now : Int)
    (asked : ∃ url fetched now, request = .sync url fetched now) :
    Fits (banRules reader) (fun q _ => q.request = request ∧ q.writing = none) { request := request }
      (syncOneSource reader url fetched now) := by
  unfold syncOneSource
  split
  next => exact ⟨rfl, rfl⟩
  next payload signature _ =>
    dsimp only
    split
    next => exact ⟨rfl, rfl⟩
    next named =>
      refine acceptList_fits url _ payload signature now asked ?_
      cases found : reader.issuerPubkey payload with
      | none => simp [found] at named
      | some issuer => rfl

theorem deleteSource_fits (user url : String) :
    Fits (banRules reader) (fun q _ => q.request = .deleteSource user url ∧ q.writing = none)
    { request := .deleteSource user url }
      (deleteSource user url : Handle Json _) := by
  refine ⟨fun _ => ⟨rfl, nofun⟩, fun s => ?_⟩
  simp only [Handler.bind, banRules]
  cases (userPermissions s.db user).require BANLIST_SOURCES_MANAGE with
  | error e => exact ⟨rfl, rfl⟩
  | ok _ =>
    refine fits_quiet (fun _ => rfl) (fun _ => ⟨rfl, nofun⟩) fun issuer => ?_
    refine fits_quiet (fun _ => rfl) (fun _ => ⟨rfl, rfl, user, rfl⟩) fun _ => ?_
    split
    next => exact ⟨rfl, rfl⟩
    next => exact ⟨fun _ => ⟨rfl, rfl, user, rfl⟩, fun _ => ⟨rfl, rfl⟩⟩

theorem check_fits (key : String) :
    Fits (banRules reader) (fun q denied => q.writing = none ∧ q.request = .check key ∧ (denied = false →
        ∃ overrideType, q.phase = .checked key overrideType ∧ overrideType ≠ some "blacklist"))
        { request := .check key }
      (isDeniedByFederatedPolicy key : Handle Json Bool) := by
  refine ⟨fun _ => ⟨rfl, rfl, rfl⟩, fun s => ?_⟩
  simp only [Handler.bind, banRules]
  split
  next white => exact ⟨rfl, rfl, fun _ => ⟨_, rfl, by simp [white]⟩⟩
  next =>
    split
    next => exact ⟨rfl, rfl, nofun⟩
    next unlisted =>
      refine fits_quiet (fun _ => rfl) (fun _ => ⟨rfl, nofun⟩) fun hard => ?_
      split
      next => exact ⟨rfl, rfl, nofun⟩
      next => exact ⟨fun _ => ⟨rfl, nofun⟩, fun _ => ⟨rfl, rfl, fun _ => ⟨_, rfl, unlisted⟩⟩⟩

theorem banRequest_fits (request : BanRequest Json) :
    Fits (banRules reader) Answered { request := request } (request.handle reader) := by
  cases request with
  | sync url fetched now =>
    refine (syncOneSource_fits url fetched now ⟨url, fetched, now, rfl⟩).bind ?_
    rintro q _ ⟨same, wrote⟩
    refine ⟨wrote, fun key asked => ?_⟩
    rw [same] at asked
    cases asked
  | deleteSource user url =>
    refine (deleteSource_fits user url).bind ?_
    rintro q outcome ⟨same, wrote⟩
    refine ⟨wrote, fun key asked => ?_⟩
    rw [same] at asked
    cases asked
  | check key =>
    refine (check_fits key).bind ?_
    rintro q denied ⟨wrote, same, admits⟩
    refine ⟨wrote, fun other asked admitted => ?_⟩
    rw [same] at asked
    cases asked
    exact admits (BanAnswer.denied.inj admitted)

end

end Wavvon.Banlist

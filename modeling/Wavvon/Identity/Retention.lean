import Mathlib.Order.Bounds.Basic
import Wavvon.Identity.Registry

set_option autoImplicit false

namespace Wavvon.Retention

structure DesignationRow where
  masterPubkey : String
  hubsJson : String
  updatedAt : Int
  deriving DecidableEq, Repr

-- A row of `subkey_certs` or of `subkey_revocations`.
structure SubkeyRow where
  masterPubkey : String
  subkeyPubkey : String
  registeredAt : Int
  deriving DecidableEq, Repr

structure PrefsRow where
  masterPubkey : String
  updatedAt : Int
  deriving DecidableEq, Repr

structure OutboxRow where
  messageId : String
  recipientHubUrl : String
  bouncedAt : Option Int := none
  deriving DecidableEq, Repr

structure DmRow where
  id : String
  conversationId : String
  deriving DecidableEq, Repr

structure MemberRow where
  conversationId : String
  publicKey : String
  deriving DecidableEq, Repr

/-- The personal axis of a hub and what ties it to masters; every member of a conversation is a user. -/
structure State where
  canonicalUrl : Option String := none
  users : Table User := ∅
  homeHubDesignations : List DesignationRow := []
  subkeyCerts : List SubkeyRow := []
  subkeyRevocations : List SubkeyRow := []
  prefsBlobs : List PrefsRow := []
  dmOutbox : List OutboxRow := []
  dmMessages : List DmRow := []
  conversationMembers : List MemberRow := []
  seated : ∀ row ∈ conversationMembers, row.publicKey ∈ users := by decide

section

variable (s : State)

-- The rows of the four tables as one: each master with a time.
def stamps : List (String × Int) :=
  s.homeHubDesignations.map (fun row => (row.masterPubkey, row.updatedAt)) ++
    s.subkeyCerts.map (fun row => (row.masterPubkey, row.registeredAt)) ++
    s.subkeyRevocations.map (fun row => (row.masterPubkey, row.registeredAt)) ++
    s.prefsBlobs.map (fun row => (row.masterPubkey, row.updatedAt))

def timesOf (master : String) : List Int := ((stamps s).filter (·.1 = master)).map (·.2)

-- WHERE m.newest < $1
def settled (cutoff : Int) (master : String) : Bool := (timesOf s master).max?.any (· < cutoff)

def resolves (master : String) (publicKey : String) (user : User) : Bool :=
  decide (user.masterPubkey = some master) || decide (publicKey = master) ||
    s.subkeyCerts.any fun cert => cert.masterPubkey = master ∧ cert.subkeyPubkey = publicKey

def hasMember (master : String) : Bool :=
  s.users.toList.any fun entry => entry.2.isMember && resolves s master entry.1 entry.2

def hasPending (master : String) : Bool :=
  s.dmOutbox.any fun row => row.bouncedAt.isNone && s.dmMessages.any fun dm => decide (dm.id = row.messageId) &&
    s.conversationMembers.any fun cm => decide (cm.conversationId = dm.conversationId) &&
      s.users.toList.any fun entry => decide (entry.1 = cm.publicKey) && resolves s master entry.1 entry.2

def candidates (cutoff : Int) : List String :=
  ((stamps s).map (·.1)).dedup.filter fun master =>
    settled s cutoff master && !hasMember s master && !hasPending s master

def pendingUrls : List String :=
  ((s.dmOutbox.filter (·.bouncedAt.isNone)).map (·.recipientHubUrl)).dedup.map trimEndSlashes

def forget (doomed : List String) : State :=
  { s with
    subkeyCerts := s.subkeyCerts.filter (·.masterPubkey ∉ doomed)
    homeHubDesignations := s.homeHubDesignations.filter (·.masterPubkey ∉ doomed)
    prefsBlobs := s.prefsBlobs.filter (·.masterPubkey ∉ doomed) }

-- What `serde_json` reads a list of URLs from.
variable (parse : String → Option (List String))

def keeps (ownUrl : String) (row : DesignationRow) : Bool :=
  match parse row.hubsJson with
  | none => true
  | some hubs => (hubs.map trimEndSlashes).any fun hub => hub = ownUrl ∨ hub ∈ pendingUrls s

def prunePersonalAxis (cutoff : Int) : State :=
  match s.canonicalUrl with
  | none => s
  | some url =>
    let found := candidates s cutoff
    if found = [] then s else
      let keep := (s.homeHubDesignations.filter (keeps s parse (trimEndSlashes url))).map (·.masterPubkey)
      let doomed := found.filter (· ∉ keep)
      if doomed = [] then s else forget s doomed

/-- A key that stands for a master: as itself, by the account it is linked to, or by a certificate. -/
def Resolves (publicKey master : String) : Prop :=
  publicKey = master ∨ (∃ user, s.users[publicKey]? = some user ∧ user.masterPubkey = some master) ∨
    ∃ cert ∈ s.subkeyCerts, cert.masterPubkey = master ∧ cert.subkeyPubkey = publicKey

def Undelivered (row : OutboxRow) : Prop := row ∈ s.dmOutbox ∧ row.bouncedAt = none

/-- The ties of a master to the hub whose address is given. -/
inductive Tied (own master : String) : Prop where
  | member (publicKey : String) (user : User) (found : s.users[publicKey]? = some user)
      (isMember : user.isMember = true) (resolves : Resolves s publicKey master)
  | named (row : DesignationRow) (designated : row ∈ s.homeHubDesignations) (its : row.masterPubkey = master)
      (hubs : List String) (read : parse row.hubsJson = some hubs) (hub : String) (among : hub ∈ hubs)
      (here : trimEndSlashes hub = trimEndSlashes own)
  | unreadable (row : DesignationRow) (designated : row ∈ s.homeHubDesignations) (its : row.masterPubkey = master)
      (unread : parse row.hubsJson = none)
  | addressed (row : DesignationRow) (designated : row ∈ s.homeHubDesignations) (its : row.masterPubkey = master)
      (hubs : List String) (read : parse row.hubsJson = some hubs) (hub : String) (among : hub ∈ hubs)
      (pending : OutboxRow) (undelivered : Undelivered s pending)
      (there : trimEndSlashes hub = trimEndSlashes pending.recipientHubUrl)
  | converses (pending : OutboxRow) (undelivered : Undelivered s pending) (dm : DmRow) (sent : dm ∈ s.dmMessages)
      (its : dm.id = pending.messageId) (cm : MemberRow) (seated : cm ∈ s.conversationMembers)
      (within : cm.conversationId = dm.conversationId) (resolves : Resolves s cm.publicKey master)

/-- A master whose newest row is older than the cutoff and to whom nothing ties the hub. -/
def Stranger (own : String) (cutoff : Int) (master : String) : Prop :=
  (∃ newest < cutoff, IsGreatest {time | (master, time) ∈ stamps s} newest) ∧ ¬ Tied s parse own master

/-- What a pass leaves: every row but those of strangers, and every revocation. -/
structure ForgetsStrangers (own : String) (cutoff : Int) (after : State) : Prop where
  designations : ∀ row, row ∈ after.homeHubDesignations ↔
    row ∈ s.homeHubDesignations ∧ ¬ Stranger s parse own cutoff row.masterPubkey
  certs : ∀ row, row ∈ after.subkeyCerts ↔ row ∈ s.subkeyCerts ∧ ¬ Stranger s parse own cutoff row.masterPubkey
  prefs : ∀ row, row ∈ after.prefsBlobs ↔ row ∈ s.prefsBlobs ∧ ¬ Stranger s parse own cutoff row.masterPubkey
  revocations : after.subkeyRevocations = s.subkeyRevocations

end

section

variable {s : State} {parse : String → Option (List String)} {own master publicKey : String} {user : User}
  {cutoff : Int}

theorem resolves_iff (found : s.users[publicKey]? = some user) :
    resolves s master publicKey user = true ↔ Resolves s publicKey master := by
  simp only [resolves, Bool.or_eq_true, decide_eq_true_eq, List.any_eq_true, Resolves]
  constructor
  · intro linked
    rcases linked with (byAccount | same) | certified
    · exact .inr (.inl ⟨user, found, byAccount⟩)
    · exact .inl same
    · exact .inr (.inr certified)
  · intro linked
    rcases linked with same | ⟨other, there, byAccount⟩ | certified
    · exact .inl (.inr same)
    · rw [found] at there
      cases there
      exact .inl (.inl byAccount)
    · exact .inr certified

theorem hasMember_iff : hasMember s master = true ↔
    ∃ publicKey user, s.users[publicKey]? = some user ∧ user.isMember = true ∧ Resolves s publicKey master := by
  simp only [hasMember, List.any_eq_true, Bool.and_eq_true, Prod.exists,
    Std.ExtTreeMap.mem_toList_iff_getElem?_eq_some]
  constructor
  · rintro ⟨publicKey, user, found, isMember, linked⟩
    exact ⟨publicKey, user, found, isMember, (resolves_iff found).mp linked⟩
  · rintro ⟨publicKey, user, found, isMember, linked⟩
    exact ⟨publicKey, user, found, isMember, (resolves_iff found).mpr linked⟩

-- The join with `users` loses no member of a conversation.
theorem joined_iff {cm : MemberRow} (inside : cm ∈ s.conversationMembers) :
    (∃ publicKey user, s.users[publicKey]? = some user ∧ publicKey = cm.publicKey ∧
      resolves s master publicKey user = true) ↔ Resolves s cm.publicKey master := by
  constructor
  · rintro ⟨publicKey, user, found, rfl, linked⟩
    exact (resolves_iff found).mp linked
  · intro linked
    obtain ⟨user, found⟩ : ∃ user, s.users[cm.publicKey]? = some user :=
      ⟨_, Std.ExtTreeMap.getElem?_eq_some_getElem (s.seated cm inside)⟩
    exact ⟨cm.publicKey, user, found, rfl, (resolves_iff found).mpr linked⟩

theorem hasPending_iff : hasPending s master = true ↔
    ∃ row, Undelivered s row ∧ ∃ dm ∈ s.dmMessages, dm.id = row.messageId ∧
      ∃ cm ∈ s.conversationMembers, cm.conversationId = dm.conversationId ∧ Resolves s cm.publicKey master := by
  simp only [hasPending, List.any_eq_true, Bool.and_eq_true, decide_eq_true_eq, Option.isNone_iff_eq_none, Prod.exists,
    Std.ExtTreeMap.mem_toList_iff_getElem?_eq_some, Undelivered, and_assoc]
  constructor
  · rintro ⟨row, there, waiting, dm, sent, its, cm, inside, within, joined⟩
    exact ⟨row, there, waiting, dm, sent, its, cm, inside, within, (joined_iff inside).mp joined⟩
  · rintro ⟨row, there, waiting, dm, sent, its, cm, inside, within, linked⟩
    exact ⟨row, there, waiting, dm, sent, its, cm, inside, within, (joined_iff inside).mpr linked⟩

theorem mem_timesOf {time : Int} : time ∈ timesOf s master ↔ (master, time) ∈ stamps s := by
  simp only [timesOf, List.mem_map, List.mem_filter, decide_eq_true_eq, Prod.exists]
  constructor
  · rintro ⟨_, _, ⟨inside, rfl⟩, rfl⟩
    exact inside
  · intro inside
    exact ⟨master, time, ⟨inside, rfl⟩, rfl⟩

theorem settled_iff : settled s cutoff master = true ↔
    ∃ newest < cutoff, IsGreatest {time | (master, time) ∈ stamps s} newest := by
  simp only [settled, Option.any_eq_true, decide_eq_true_eq]
  constructor
  · rintro ⟨newest, greatest, older⟩
    obtain ⟨inside, bound⟩ := List.max?_eq_some_iff.mp greatest
    exact ⟨newest, older, mem_timesOf.mp inside, fun time there => bound time (mem_timesOf.mpr there)⟩
  · rintro ⟨newest, older, inside, bound⟩
    exact ⟨newest, List.max?_eq_some_iff.mpr
      ⟨mem_timesOf.mpr inside, fun time there => bound (mem_timesOf.mp there)⟩, older⟩

theorem mem_candidates : master ∈ candidates s cutoff ↔
    (∃ newest < cutoff, IsGreatest {time | (master, time) ∈ stamps s} newest) ∧
      hasMember s master = false ∧ hasPending s master = false := by
  simp only [candidates, List.mem_filter, Bool.and_eq_true, Bool.not_eq_true', settled_iff, List.mem_dedup,
    List.mem_map,
    and_assoc]
  constructor
  · exact fun both => both.2
  · intro all
    obtain ⟨newest, _, inside, _⟩ := all.1
    exact ⟨⟨(master, newest), inside, rfl⟩, all⟩

theorem mem_pendingUrls {url : String} : url ∈ pendingUrls s ↔
    ∃ row, Undelivered s row ∧ trimEndSlashes row.recipientHubUrl = url := by
  simp only [pendingUrls, List.mem_map, List.mem_dedup, List.mem_filter, Option.isNone_iff_eq_none, Undelivered,
    exists_exists_and_eq_and]

theorem keeps_iff {row : DesignationRow} : keeps s parse (trimEndSlashes own) row = true ↔
    parse row.hubsJson = none ∨ ∃ hubs, parse row.hubsJson = some hubs ∧ ∃ hub ∈ hubs,
      trimEndSlashes hub = trimEndSlashes own ∨
        ∃ pending, Undelivered s pending ∧ trimEndSlashes hub = trimEndSlashes pending.recipientHubUrl := by
  rw [keeps]
  cases parse row.hubsJson with
  | none => simp
  | some hubs =>
    simp only [List.any_eq_true, List.mem_map, decide_eq_true_eq, exists_exists_and_eq_and, mem_pendingUrls,
      reduceCtorEq,
      Option.some.injEq, exists_eq_left', false_or, eq_comm (a := trimEndSlashes (OutboxRow.recipientHubUrl _))]

-- The two filters of the worker, in SQL and after it, are the ties.
theorem tied_iff : Tied s parse own master ↔
    hasMember s master = true ∨ hasPending s master = true ∨
      ∃ row ∈ s.homeHubDesignations, keeps s parse (trimEndSlashes own) row = true ∧ row.masterPubkey = master := by
  simp only [hasMember_iff, hasPending_iff, keeps_iff]
  constructor
  · intro tied
    cases tied with
    | member publicKey user found isMember linked => exact .inl ⟨publicKey, user, found, isMember, linked⟩
    | named row designated its hubs read hub among here =>
      exact .inr (.inr ⟨row, designated, .inr ⟨hubs, read, hub, among, .inl here⟩, its⟩)
    | unreadable row designated its unread => exact .inr (.inr ⟨row, designated, .inl unread, its⟩)
    | addressed row designated its hubs read hub among pending undelivered there =>
      exact .inr (.inr ⟨row, designated, .inr ⟨hubs, read, hub, among, .inr ⟨pending, undelivered, there⟩⟩, its⟩)
    | converses pending undelivered dm sent its cm inside within linked =>
      exact .inr (.inl ⟨pending, undelivered, dm, sent, its, cm, inside, within, linked⟩)
  · rintro (⟨publicKey, user, found, isMember, linked⟩ | ⟨pending, undelivered, dm, sent, its, cm, inside, within,
    linked⟩ |
      ⟨row, designated, kept, its⟩)
    · exact .member publicKey user found isMember linked
    · exact .converses pending undelivered dm sent its cm inside within linked
    · rcases kept with unread | ⟨hubs, read, hub, among, here | ⟨pending, undelivered, there⟩⟩
      · exact .unreadable row designated its unread
      · exact .named row designated its hubs read hub among here
      · exact .addressed row designated its hubs read hub among pending undelivered there

theorem forget_nil : forget s [] = s := by
  simp [forget]

/-- A pass forgets exactly the strangers, and no revocation. -/
theorem prune_exact (known : s.canonicalUrl = some own) (cutoff : Int) :
    ForgetsStrangers s parse own cutoff (prunePersonalAxis s parse cutoff) := by
  obtain ⟨doomed, mem_doomed, pruned⟩ : ∃ doomed : List String,
      (∀ master, master ∈ doomed ↔ Stranger s parse own cutoff master) ∧
        prunePersonalAxis s parse cutoff = forget s doomed := by
    refine ⟨(candidates s cutoff).filter (· ∉ (s.homeHubDesignations.filter
      (keeps s parse (trimEndSlashes own))).map (·.masterPubkey)), fun master => ?_, ?_⟩
    · simp only [Stranger, tied_iff, List.mem_filter, mem_candidates, decide_eq_true_eq, List.mem_map, not_or,
        Bool.not_eq_true, and_assoc]
    · rw [prunePersonalAxis, known]
      dsimp only
      split
      next empty => rw [empty, List.filter_nil, forget_nil]
      next =>
        split
        next empty => rw [empty, forget_nil]
        next => rfl
  rw [pruned]
  constructor <;> simp [forget, mem_doomed]

end

-- A list of one address that another hub has, of a master nobody here knows.
def passerBy : State where
  canonicalUrl := some "https://home.example/"
  homeHubDesignations := [⟨"m", "[\"https://elsewhere.example\"]", 1000⟩]
  subkeyCerts := [⟨"m", "device", 1000⟩]
  subkeyRevocations := [⟨"m", "device", 1000⟩]
  prefsBlobs := [⟨"m", 1000⟩]

def readUrls (json : String) : Option (List String) :=
  if json = "[\"https://elsewhere.example\"]" then some ["https://elsewhere.example"] else none

theorem prune_exact_passerBy : passerBy.canonicalUrl = some "https://home.example/" ∧
    ForgetsStrangers passerBy readUrls "https://home.example/" 5000 (prunePersonalAxis passerBy readUrls 5000) :=
  ⟨rfl, prune_exact rfl 5000⟩

end Wavvon.Retention

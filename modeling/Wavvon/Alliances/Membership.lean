import Wavvon.Identity.Signatures

set_option autoImplicit false

namespace Wavvon.Alliances

open Std (ExtTreeMap)
open Wire (Bytes)

structure AllianceMemberInfo where
  hubPublicKey : String
  hubName : String
  hubUrl : String
  joinedAt : Int
  deriving DecidableEq, Repr

structure MemberRow extends AllianceMemberInfo where
  allianceId : String
  deriving DecidableEq, Repr

structure AllianceInvite where
  token : String
  allianceId : String
  createdAt : Int
  expiresAt : Int
  usedAt : Option Int := none
  deriving DecidableEq, Repr

structure HubInfo where
  publicKey : String
  name : String
  deriving DecidableEq, Repr

/-- One hub of the network: its identity and its tables about alliances. -/
structure Hub where
  info : HubInfo
  alliances : Finset String := ∅
  members : List MemberRow := []
  invites : List AllianceInvite := []

namespace Hub

def isMember (hub : Hub) (allianceId key : String) : Bool :=
  hub.members.any fun row => row.allianceId = allianceId ∧ row.hubPublicKey = key

-- ON CONFLICT (alliance_id, hub_public_key) DO NOTHING; an alliance that is not there is a foreign key error.
def insertMember (hub : Hub) (row : MemberRow) : Hub :=
  if row.allianceId ∉ hub.alliances ∨ hub.isMember row.allianceId row.hubPublicKey = true then hub
  else { hub with members := hub.members ++ [row] }

def deleteMember (hub : Hub) (allianceId key : String) : Hub :=
  { hub with members := hub.members.filter fun row => ¬ (row.allianceId = allianceId ∧ row.hubPublicKey = key) }

def deleteAlliance (hub : Hub) (allianceId : String) : Hub :=
  { hub with
    alliances := hub.alliances.erase allianceId
    members := hub.members.filter fun row => row.allianceId ≠ allianceId }

end Hub

def INVITE_TTL_SECS : Int := 7 * 86400

def memberVoucherBytes (allianceId member : String) : Bytes :=
  Wire.strBytes "wavvon/alliance-member/v1" ++ [0] ++ Wire.strBytes allianceId ++ [0] ++ Wire.strBytes member

-- The token is drawn; one that is taken is refused by the primary key.
def mintInvite (hub : Hub) (allianceId token : String) (now : Int) : Hub × Except HttpError String :=
  if allianceId ∉ hub.alliances then (hub, .error (404, "Alliance not found"))
  else if hub.invites.any (·.token = token) then
    (hub, .error (500, "DB error: " ++ duplicateKey "alliance_invites_pkey"))
  else
    let invite : AllianceInvite :=
      { token := token, allianceId := allianceId, createdAt := now, expiresAt := now + INVITE_TTL_SECS }
    ({ hub with invites := hub.invites ++ [invite] }, .ok token)

def AllianceInvite.redeemable (invite : AllianceInvite) (allianceId token : String) (now : Int) : Bool :=
  decide (invite.token = token ∧ invite.allianceId = allianceId ∧ invite.usedAt = none ∧ now < invite.expiresAt)

-- `UPDATE … SET used_at = $3 WHERE … RETURNING token`.
def spendInvite (hub : Hub) (allianceId token : String) (now : Int) : Hub × Except HttpError Unit :=
  if hub.invites.any (·.redeemable allianceId token now) then
    let spend (invite : AllianceInvite) : AllianceInvite :=
      if invite.redeemable allianceId token now then { invite with usedAt := some now } else invite
    ({ hub with invites := hub.invites.map spend }, .ok ())
  else (hub, .error (403, "Invalid invite token"))

structure AllianceMemberAnnouncement where
  allianceId : String
  hubUrl : String
  inviterPublicKey : String
  voucher : String
  deriving DecidableEq, Repr

-- Up to the address, which is asked over the network.
def checkAnnouncement (keys : Keys) (hub : Hub) (peer : String) (req : AllianceMemberAnnouncement) :
    Except HttpError Unit :=
  if hub.isMember req.allianceId hub.info.publicKey = false then .error (404, "Alliance not found")
  else if hub.isMember req.allianceId req.inviterPublicKey = false then
    .error (403, "Vouching hub is not a member of this alliance")
  else
    match hexDecode req.voucher with
    | none => .error (400, "Invalid voucher hex")
    | some signature =>
      match verifySignature keys req.inviterPublicKey (memberVoucherBytes req.allianceId peer) signature with
      | .error _ => .error (403, "Invalid voucher")
      | .ok _ => .ok ()

def checkAddress (found : Option HubInfo) (peer role : String) : Except HttpError HubInfo :=
  match found with
  | none => .error (502, "Cannot reach hub: Failed to reach hub")
  | some info =>
    if info.publicKey = peer then .ok info
    else .error (403, "The hub URL does not answer for the " ++ role ++ " hub's key")

def receiveAllianceMemberLeft (hub : Hub) (peer allianceId : String) : Hub := hub.deleteMember allianceId peer

-- What `GET /alliances/{id}` answers to a hub; whoever authenticates as one is a peer, and has to be listed.
def getAllianceMembers (hub : Hub) (caller allianceId : String) : Option (List AllianceMemberInfo) :=
  if hub.isMember allianceId caller = true ∧ hub.isMember allianceId hub.info.publicKey = true ∧
      allianceId ∈ hub.alliances then
    some ((hub.members.filter (·.allianceId = allianceId)).map (·.toAllianceMemberInfo))
  else none

-- The rows `reconcile_members` goes by: everybody's but its own.
def knownMembers (hub : Hub) (allianceId : String) : List AllianceMemberInfo :=
  (hub.members.filter fun row => row.allianceId = allianceId ∧ row.hubPublicKey ≠ hub.info.publicKey).map
    (·.toAllianceMemberInfo)

-- Another hub's "self" is the address it was asked at.
def storedUrl (reported askedAt : String) : String := if reported = "self" then askedAt else reported

def reconcileRow (allianceId : String) (known : List AllianceMemberInfo) (askedAt : String) (hub : Hub)
    (reported : AllianceMemberInfo) : Hub :=
  let url := storedUrl reported.hubUrl askedAt
  if reported.hubPublicKey = hub.info.publicKey ∨ known.any (·.hubPublicKey = reported.hubPublicKey) ∨ url = "" then hub
  else hub.insertMember { reported with allianceId := allianceId, hubUrl := url }

def mergeReported (hub : Hub) (allianceId : String) (known : List AllianceMemberInfo) (askedAt : String)
    (reported : List AllianceMemberInfo) : Hub :=
  reported.foldl (reconcileRow allianceId known askedAt) hub

-- The joiner's copy of the inviter's row.
def mirrorRow (allianceId inviterUrl : String) (hub : Hub) (m : AllianceMemberInfo) : Hub :=
  let url := if m.hubPublicKey = hub.info.publicKey then "self" else storedUrl m.hubUrl inviterUrl
  hub.insertMember { m with allianceId := allianceId, hubUrl := url }

def mirrorMembers (hub : Hub) (allianceId inviterUrl : String) (reported : List AllianceMemberInfo) : Hub :=
  reported.foldl (mirrorRow allianceId inviterUrl) { hub with alliances := insert allianceId hub.alliances }

section

variable {hub : Hub} {allianceId key : String} {row : MemberRow}

theorem Hub.isMember_iff : hub.isMember allianceId key = true ↔
    ∃ row ∈ hub.members, row.allianceId = allianceId ∧ row.hubPublicKey = key := by
  simp [Hub.isMember]

theorem Hub.insertMember_info : (hub.insertMember row).info = hub.info := by
  unfold insertMember
  split <;> rfl

theorem Hub.insertMember_alliances : (hub.insertMember row).alliances = hub.alliances := by
  unfold insertMember
  split <;> rfl

theorem Hub.isMember_insertMember : (hub.insertMember row).isMember allianceId key = true ↔
    hub.isMember allianceId key = true ∨
      allianceId ∈ hub.alliances ∧ row.allianceId = allianceId ∧ row.hubPublicKey = key := by
  unfold insertMember
  split
  next refused =>
    refine ⟨.inl, fun listed => listed.elim id ?_⟩
    rintro ⟨known, rfl, rfl⟩
    exact refused.resolve_left (not_not.mpr known)
  next fits =>
    have known : row.allianceId ∈ hub.alliances := not_not.mp fun unknown => fits (.inl unknown)
    simp only [Hub.isMember, List.any_append, List.any_cons, List.any_nil, Bool.or_false, Bool.or_eq_true,
      decide_eq_true_eq]
    refine or_congr_right ⟨fun same => ⟨same.1 ▸ known, same⟩, And.right⟩

theorem Hub.isMember_deleteMember (gone : String) :
    (hub.deleteMember allianceId gone).isMember allianceId gone = false := by
  rw [Bool.eq_false_iff]
  intro listed
  obtain ⟨row, kept, same⟩ := Hub.isMember_iff.mp listed
  simp [Hub.deleteMember, same] at kept

theorem reconcileRow_info (known : List AllianceMemberInfo) (askedAt : String) (hub : Hub)
    (reported : AllianceMemberInfo) : (reconcileRow allianceId known askedAt hub reported).info = hub.info := by
  unfold reconcileRow
  dsimp only
  split
  next => rfl
  next => exact Hub.insertMember_info

theorem reconcileRow_alliances (known : List AllianceMemberInfo) (askedAt : String) (hub : Hub)
    (reported : AllianceMemberInfo) :
    (reconcileRow allianceId known askedAt hub reported).alliances = hub.alliances := by
  unfold reconcileRow
  dsimp only
  split
  next => rfl
  next => exact Hub.insertMember_alliances

-- A report adds a key that is neither the hub's own nor among those it went by, under some address.
def Adds (hub : Hub) (known : List AllianceMemberInfo) (askedAt key : String) (reported : AllianceMemberInfo) : Prop :=
  reported.hubPublicKey = key ∧ key ≠ hub.info.publicKey ∧ (∀ k ∈ known, k.hubPublicKey ≠ key) ∧
    storedUrl reported.hubUrl askedAt ≠ ""

theorem isMember_reconcileRow {known : List AllianceMemberInfo} {askedAt reconciled : String}
    {reported : AllianceMemberInfo} :
    (reconcileRow reconciled known askedAt hub reported).isMember allianceId key = true ↔
      hub.isMember allianceId key = true ∨
        reconciled = allianceId ∧ allianceId ∈ hub.alliances ∧ Adds hub known askedAt key reported := by
  unfold reconcileRow
  dsimp only
  split
  next skipped =>
    refine ⟨.inl, fun listed => listed.elim id ?_⟩
    rintro ⟨_, _, rfl, foreign, unknown, reachable⟩
    rcases skipped with own | heard | empty
    · exact absurd own foreign
    · obtain ⟨k, member, same⟩ := List.any_eq_true.mp heard
      exact absurd (of_decide_eq_true same) (unknown k member)
    · exact absurd empty reachable
  next adds =>
    obtain ⟨foreign, rest⟩ := not_or.mp adds
    obtain ⟨unheard, reachable⟩ := not_or.mp rest
    rw [Hub.isMember_insertMember]
    refine or_congr_right ⟨?_, ?_⟩
    · rintro ⟨known, rfl, rfl⟩
      refine ⟨rfl, known, rfl, foreign, ?_, reachable⟩
      intro k member same
      exact unheard (List.any_eq_true.mpr ⟨k, member, decide_eq_true same⟩)
    · rintro ⟨same, known, keyed, _⟩
      exact ⟨known, same, keyed⟩

theorem isMember_mergeReported {known : List AllianceMemberInfo} {askedAt reconciled : String}
    {reported : List AllianceMemberInfo} :
    (mergeReported hub reconciled known askedAt reported).isMember allianceId key = true ↔
      hub.isMember allianceId key = true ∨
        reconciled = allianceId ∧ allianceId ∈ hub.alliances ∧ ∃ r ∈ reported, Adds hub known askedAt key r := by
  induction reported generalizing hub with
  | nil => simp [mergeReported]
  | cons first rest ih =>
    have next := @ih (reconcileRow reconciled known askedAt hub first)
    simp only [mergeReported, List.foldl_cons] at next ⊢
    have adds : ∀ r, Adds (reconcileRow reconciled known askedAt hub first) known askedAt key r ↔
        Adds hub known askedAt key r := by
      intro r
      rw [Adds, reconcileRow_info, Adds]
    rw [next, isMember_reconcileRow, reconcileRow_alliances, List.exists_mem_cons_iff]
    simp only [adds]
    rw [or_assoc, ← and_or_left, ← and_or_left]

theorem isMember_mirrorMembers {mirrored inviterUrl : String} {reported : List AllianceMemberInfo} :
    (mirrorMembers hub mirrored inviterUrl reported).isMember allianceId key = true ↔
      hub.isMember allianceId key = true ∨ mirrored = allianceId ∧ ∃ r ∈ reported, r.hubPublicKey = key := by
  suffices copied : ∀ hub : Hub, mirrored ∈ hub.alliances →
      ((reported.foldl (mirrorRow mirrored inviterUrl) hub).isMember allianceId key = true ↔
        hub.isMember allianceId key = true ∨ mirrored = allianceId ∧ ∃ r ∈ reported, r.hubPublicKey = key) from
    copied { hub with alliances := insert mirrored hub.alliances } (Finset.mem_insert_self _ _)
  intro hub known
  induction reported generalizing hub with
  | nil => simp
  | cons first rest ih =>
    have still : mirrored ∈ (mirrorRow mirrored inviterUrl hub first).alliances := by
      rw [mirrorRow, Hub.insertMember_alliances]
      exact known
    rw [List.foldl_cons, ih _ still, mirrorRow, Hub.isMember_insertMember, List.exists_mem_cons_iff]
    constructor
    · rintro ((before | ⟨_, same, keyed⟩) | ⟨same, later⟩)
      · exact .inl before
      · exact .inr ⟨same, .inl keyed⟩
      · exact .inr ⟨same, .inr later⟩
    · rintro (before | ⟨same, keyed | later⟩)
      · exact .inl (.inl before)
      · exact .inl (.inr ⟨same ▸ known, same, keyed⟩)
      · exact .inr ⟨same, later⟩

end

end Wavvon.Alliances

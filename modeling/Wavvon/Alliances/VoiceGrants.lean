import Wavvon.Alliances.Membership
import Wavvon.Alliances.SharedChannels
import Wavvon.Identity.OfferLifetimes

set_option autoImplicit false

namespace Wavvon.Alliances

open Std (ExtTreeMap)
open Chat (Share)
open Wire (Bytes)

def GRANT_TTL_SECS : Int64 := 300

structure AllianceVoiceGrantPayload where
  allianceId : String
  ownerHubPubkey : String
  channelId : String
  subjectPubkey : String
  originHubPubkey : String
  originHubUrl : String
  displayName : Option String := none
  issuedAt : Int64
  expiresAt : Int64
  deriving DecidableEq

structure AllianceVoiceGrant where
  payload : AllianceVoiceGrantPayload
  signature : String
  deriving DecidableEq

structure AdmittedVisitor where
  originHubPubkey : String
  originHubUrl : String
  displayName : Option String
  channelId : String
  deriving DecidableEq, Repr

structure VoiceShare extends Share where
  voiceRemoteJoin : String := "allowed"
  deriving DecidableEq

/-- What the owning hub reads: itself with its allies, its channels and its shares. -/
structure Owner where
  hub : Hub
  auth : AuthState := {}
  shares : List VoiceShare := []

def forbid (code : String) : HttpError := (403, code)

def voiceGrantSigningBytes (payloadJson : Bytes) : Bytes :=
  Wire.strBytes "wavvon/alliance-voice-grant/v1\x00" ++ payloadJson

-- The subtraction wraps, as the released program's does.
def checkWindow (p : AllianceVoiceGrantPayload) (ownKey authenticatedPubkey : String) (now : Int64) :
    Except HttpError Unit :=
  if p.subjectPubkey ≠ authenticatedPubkey then .error (forbid "grant_subject_mismatch")
  else if p.ownerHubPubkey ≠ ownKey then .error (forbid "grant_not_for_this_hub")
  else if p.expiresAt < now then .error (forbid "grant_expired")
  else if GRANT_TTL_SECS < p.expiresAt - p.issuedAt then .error (forbid "grant_ttl_too_long")
  else .ok ()

section

-- What the signature library answers, and the JSON of a payload.
variable (keys : Keys) (payloadJson : AllianceVoiceGrantPayload → String)

-- Hubs from before the tag sign the JSON itself.
def checkSignature (grant : AllianceVoiceGrant) : Except HttpError Unit :=
  match hexDecode grant.signature with
  | none => .error (forbid "grant_signature_malformed")
  | some signature =>
    let json := Wire.strBytes (payloadJson grant.payload)
    match verifySignature keys grant.payload.originHubPubkey (voiceGrantSigningBytes json) signature with
    | .ok _ => .ok ()
    | .error _ =>
      match verifySignature keys grant.payload.originHubPubkey json signature with
      | .ok _ => .ok ()
      | .error _ => .error (forbid "grant_signature_invalid")

def checkChannel (ranking : Ranking) (s : Owner) (p : AllianceVoiceGrantPayload) : Except HttpError Unit :=
  if !s.hub.isMember p.allianceId p.originHubPubkey then .error (forbid "origin_not_allied")
  else
    match (effectiveSharedChannels s.auth.db ranking (s.shares.map (·.toShare)) p.allianceId).find? (·.id = p.channelId) with
    | none => .error (forbid "channel_not_shared")
    | some entry =>
      if entry.isCategory ∨ entry.channelType ≠ .voice then .error (forbid "not_a_voice_space")
      else
        let direct := s.shares.find? fun share => share.allianceId = p.allianceId ∧ share.channelId = p.channelId
        if direct.map (·.voiceRemoteJoin) = some "none" then .error (forbid "voice_remote_join_disabled") else .ok ()

def checkStanding (s : Owner) (subject : String) (now : Int64) : Except HttpError Unit :=
  if s.auth.isBanned subject now.toInt then .error (forbid "banned")
  else if s.auth.isDeniedByFederatedPolicy subject then .error (forbid "federated_ban")
  else .ok ()

-- The clock is read again for the bans.
def verifyGrant (ranking : Ranking) (s : Owner) (grant : AllianceVoiceGrant) (authenticatedPubkey : String)
    (now later : Int64) : Except HttpError AdmittedVisitor := do
  let p := grant.payload
  checkWindow p s.hub.info.publicKey authenticatedPubkey now
  checkSignature keys payloadJson grant
  checkChannel ranking s p
  checkStanding s p.subjectPubkey later
  return { originHubPubkey := p.originHubPubkey, originHubUrl := p.originHubUrl
           displayName := p.displayName, channelId := p.channelId }

end

-- A difference that the signed type holds.
def FitsI64 (value : Int) : Prop := -2 ^ 63 ≤ value ∧ value < 2 ^ 63

instance (value : Int) : Decidable (FitsI64 value) := inferInstanceAs (Decidable (_ ∧ _))

def Accepted (grant : AllianceVoiceGrant) (now : Int64) (keys : Keys) : Prop :=
  ∃ payloadJson ranking s authenticatedPubkey later visitor,
    verifyGrant keys payloadJson ranking s grant authenticatedPubkey now later = .ok visitor

/-- A grant that is accepted at a time is not five minutes later, at whichever hub, and no check of it overflows. -/
structure ShortLived (grant : AllianceVoiceGrant) (now : Int64) : Prop where
  inRange : ∀ ownKey authenticatedPubkey, grant.payload.subjectPubkey = authenticatedPubkey →
    grant.payload.ownerHubPubkey = ownKey → now ≤ grant.payload.expiresAt →
      FitsI64 (grant.payload.expiresAt.toInt - grant.payload.issuedAt.toInt)
  spans : ∀ keys again, now ≤ again → Accepted grant now keys → Accepted grant again keys →
    again.toInt - now.toInt ≤ GRANT_TTL_SECS.toInt

def WellSigned (grant : AllianceVoiceGrant) : Prop := checkSignature Pairing.anyKeys (fun _ => "") grant = .ok ()

/-- A grant whose window is as long as it says and that is not dated ahead of the clock. -/
def Dated (grant : AllianceVoiceGrant) (now : Int64) : Prop :=
  now ≤ grant.payload.expiresAt →
    FitsI64 (grant.payload.expiresAt.toInt - grant.payload.issuedAt.toInt) ∧
      (WellSigned grant → grant.payload.expiresAt.toInt - grant.payload.issuedAt.toInt ≤ 300 →
        grant.payload.expiresAt.toInt ≤ now.toInt + 300)

section

variable {grant : AllianceVoiceGrant} {now later : Int64} {keys : Keys}

theorem checkWindow_ok {p : AllianceVoiceGrantPayload} {ownKey authenticatedPubkey : String} :
    checkWindow p ownKey authenticatedPubkey now = .ok () ↔
      p.subjectPubkey = authenticatedPubkey ∧ p.ownerHubPubkey = ownKey ∧ now ≤ p.expiresAt ∧
        p.expiresAt - p.issuedAt ≤ GRANT_TTL_SECS := by
  unfold checkWindow
  split
  next other => simp [other]
  next same =>
    split
    next elsewhere => simp [elsewhere]
    next here =>
      split
      next expired => simp [Int64.not_le.mpr expired]
      next live =>
        split
        next long => simp [Int64.not_le.mpr long]
        next short => simp [not_not.mp same, not_not.mp here, Int64.not_lt.mp live, Int64.not_lt.mp short]

theorem anyKeys_signed {payloadJson : AllianceVoiceGrantPayload → String}
    (signed : checkSignature keys payloadJson grant = .ok ()) : WellSigned grant := by
  unfold WellSigned checkSignature at *
  cases decoded : hexDecode grant.signature with
  | none => simp [decoded] at signed
  | some signature =>
    simp only [decoded] at signed ⊢
    have known : ∃ message, verifySignature keys grant.payload.originHubPubkey message signature = .ok () := by
      split at signed
      next tagged => exact ⟨_, tagged⟩
      next =>
        split at signed
        next plain => exact ⟨_, plain⟩
        next => cases signed
    obtain ⟨message, verified⟩ := known
    rw [Pairing.anyKeys_verifies verified]

theorem accepted_window (accepted : Accepted grant now keys) : now ≤ grant.payload.expiresAt ∧
    grant.payload.expiresAt - grant.payload.issuedAt ≤ GRANT_TTL_SECS ∧ WellSigned grant := by
  obtain ⟨payloadJson, ranking, s, authenticatedPubkey, later, visitor, answered⟩ := accepted
  unfold verifyGrant at answered
  cases window : checkWindow grant.payload s.hub.info.publicKey authenticatedPubkey now with
  | error e => simp [window, bind, Except.bind] at answered
  | ok _ =>
    cases signed : checkSignature keys payloadJson grant with
    | error e => simp [window, signed, bind, Except.bind] at answered
    | ok _ =>
      obtain ⟨_, _, live, short⟩ := checkWindow_ok.mp window
      exact ⟨live, short, anyKeys_signed signed⟩

-- A hub that shares just this channel with just this ally, and bans nobody.
def hostOf (p : AllianceVoiceGrantPayload) : Owner where
  hub :=
    { info := { publicKey := p.ownerHubPubkey, name := "" }
      members := [{ hubPublicKey := p.originHubPubkey, hubName := "", hubUrl := p.originHubUrl, joinedAt := 0
                    allianceId := p.allianceId }] }
  auth := { db := { channels := (∅ : Table Channel).insert p.channelId
                      { name := "voice", createdBy := "", channelType := .voice } } }
  shares := [{ allianceId := p.allianceId, channelId := p.channelId, includeDescendants := false }]

theorem hostOf_channel (p : AllianceVoiceGrantPayload) : checkChannel stable (hostOf p) p = .ok () := by
  have allied : (hostOf p).hub.isMember p.allianceId p.originHubPubkey = true := by
    simp [hostOf, Hub.isMember]
  have listed : p.channelId ∈ (effectiveSharedChannels (hostOf p).auth.db stable
      ((hostOf p).shares.map (·.toShare)) p.allianceId).map (·.id) :=
    (mem_effective stable).mpr ⟨by simp [hostOf], { allianceId := p.allianceId, channelId := p.channelId
                                                    includeDescendants := false },
      List.mem_singleton.mpr rfl, rfl, by simp [hostOf], .inl rfl⟩
  obtain ⟨row, member, same⟩ := List.mem_map.mp listed
  unfold checkChannel
  rw [allied]
  cases found : (effectiveSharedChannels (hostOf p).auth.db stable ((hostOf p).shares.map (·.toShare))
      p.allianceId).find? (·.id = p.channelId) with
  | none =>
    have missed := List.find?_eq_none.mp found row member
    exact absurd (decide_eq_true same) missed
  | some entry =>
    have its : entry.id = p.channelId := by simpa using List.find?_some found
    obtain ⟨channel, there, _, voice, leaf, _⟩ := effective_row stable (List.mem_of_find?_eq_some found)
    rw [its] at there
    have channel_eq : channel = { name := "voice", createdBy := "", channelType := .voice } := by
      simpa [hostOf] using there.symm
    rw [channel_eq] at voice leaf
    simp [voice, leaf, hostOf]

theorem hostOf_standing (p : AllianceVoiceGrantPayload) (now : Int64) :
    checkStanding (hostOf p) p.subjectPubkey now = .ok () := by
  simp [checkStanding, hostOf, AuthState.isBanned, AuthState.isDeniedByFederatedPolicy]

/-- What is well formed and short enough is accepted somewhere until it expires. -/
theorem accepted_until (signed : WellSigned grant)
    (short : grant.payload.expiresAt - grant.payload.issuedAt ≤ GRANT_TTL_SECS)
    (live : now ≤ grant.payload.expiresAt) : Accepted grant now Pairing.anyKeys := by
  have window : checkWindow grant.payload (hostOf grant.payload).hub.info.publicKey grant.payload.subjectPubkey now =
      .ok () := checkWindow_ok.mpr ⟨rfl, rfl, live, short⟩
  refine ⟨fun _ => "", stable, hostOf grant.payload, grant.payload.subjectPubkey, now, ?_⟩
  unfold verifyGrant
  rw [WellSigned] at signed
  simp only [window, signed, hostOf_channel, hostOf_standing, bind, Except.bind, pure, Except.pure]
  exact ⟨_, rfl⟩

theorem ttl_fits (fits : FitsI64 (grant.payload.expiresAt.toInt - grant.payload.issuedAt.toInt)) :
    grant.payload.expiresAt - grant.payload.issuedAt ≤ GRANT_TTL_SECS ↔
      grant.payload.expiresAt.toInt - grant.payload.issuedAt.toInt ≤ 300 := by
  obtain ⟨low, high⟩ := fits
  have whole : (grant.payload.expiresAt.toInt - grant.payload.issuedAt.toInt).bmod (2 ^ 64) =
      grant.payload.expiresAt.toInt - grant.payload.issuedAt.toInt :=
    Int.bmod_eq_of_le (by omega) (by omega)
  rw [Int64.le_iff_toInt_le, Int64.toInt_sub, whole]
  rfl

theorem shortLived_iff : ShortLived grant now ↔ Dated grant now := by
  constructor
  · intro lived live
    have fits := lived.inRange _ _ rfl rfl live
    refine ⟨fits, fun signed short => ?_⟩
    have within := (ttl_fits fits).mpr short
    have spans := lived.spans Pairing.anyKeys grant.payload.expiresAt live (accepted_until signed within live)
      (accepted_until signed within (Int64.le_refl _))
    have ttl : GRANT_TTL_SECS.toInt = 300 := rfl
    omega
  · intro dated
    refine ⟨fun _ _ _ _ live => (dated live).1, fun keys again _ first second => ?_⟩
    obtain ⟨live, short, signed⟩ := accepted_window first
    obtain ⟨fits, near⟩ := dated live
    have ahead := near signed ((ttl_fits fits).mp short)
    have last := Int64.le_iff_toInt_le.mp (accepted_window second).1
    have ttl : GRANT_TTL_SECS.toInt = 300 := rfl
    omega

/-- Grants and offers are short lived exactly when neither is dated ahead and the window of the grant does not wrap. -/
theorem windows_iff (grant : AllianceVoiceGrant) (now : Int64) (offer : PairingOffer) (created : Int) :
    ShortLived grant now ∧ Pairing.OfferShortLived offer created ↔ Dated grant now ∧ Pairing.OfferDated offer created :=
  and_congr shortLived_iff Pairing.offerShortLived_iff

end

def grantAt (issuedAt expiresAt : Int64) : AllianceVoiceGrant where
  payload :=
    { allianceId := "alliance", ownerHubPubkey := "owner", channelId := "voice", subjectPubkey := "ann"
      originHubPubkey := hexEncode (List.replicate 32 0), originHubUrl := "https://origin", issuedAt := issuedAt
      expiresAt := expiresAt }
  signature := hexEncode (List.replicate 64 0)

theorem grantAt_signed (issuedAt expiresAt : Int64) : WellSigned (grantAt issuedAt expiresAt) := by
  have verified (message : Bytes) : verifySignature Pairing.anyKeys (hexEncode (List.replicate 32 0)) message
      (List.replicate 64 0) = .ok () :=
    Pairing.verifySignature_ok.mpr ⟨List.replicate 32 0, hexDecode_hexEncode _, rfl, rfl, rfl, rfl⟩
  simp only [WellSigned, checkSignature, grantAt, hexDecode_hexEncode, verified]

def offerAt (issuedAt expiresAt : UInt64) : PairingOffer where
  masterPubkey := hexEncode (List.replicate 32 0)
  pairingToken := "0123456789abcdef0123456789abcdef"
  homeHubs := []
  issuedAt := issuedAt
  expiresAt := expiresAt
  signature := hexEncode (List.replicate 64 0)

-- A grant and an offer of five minutes that begin in three decades, and a grant whose window wraps around.
theorem windows_stay_open : ¬ ShortLived (grantAt 2000000000 2000000300) 1000000000 ∧
    ¬ ShortLived (grantAt (-2) 9223372036854775807) 1000000000 ∧
      ¬ Pairing.OfferShortLived (offerAt 2000000000 2000000300) 1000000000 := by
  refine ⟨fun lived => ?_, fun lived => ?_, fun lived => ?_⟩
  · have signed := grantAt_signed 2000000000 2000000300
    have spans := lived.spans Pairing.anyKeys 2000000300 (by decide) (accepted_until signed (by decide) (by decide))
      (accepted_until signed (by decide) (by decide))
    exact absurd spans (by decide)
  · exact absurd (lived.inRange _ _ rfl rfl (by decide)) (by decide)
  · have signed : (offerAt 2000000000 2000000300).verify Pairing.anyKeys = .ok () :=
      checkSig_iff.mpr ⟨List.replicate 64 0, hexDecode_hexEncode _,
        Pairing.verifySignature_ok.mpr ⟨List.replicate 32 0, hexDecode_hexEncode _, rfl, rfl, rfl, rfl⟩⟩
    have acceptable : checkOffer Pairing.anyKeys (offerAt 2000000000 2000000300) 1000000000 = .ok () :=
      Pairing.checkOffer_ok.mpr ⟨signed, by decide, by decide, by decide, by decide⟩
    have within := lived Pairing.anyKeys acceptable _ (by decide) (Pairing.taken_until acceptable)
    exact absurd within (by decide)

end Wavvon.Alliances

import Wavvon.Dms.Members
import Wavvon.Dms.Arrival
import Wavvon.Dms.Replays

set_option autoImplicit false

namespace Wavvon.Dms

open Std (ExtTreeMap)

/-- The calls of other hubs, and of whoever has a session here. -/
inductive PeerCall where
  | other (call : Call)
  | receiveMemberChange (token : String) (change : FederatedMemberChange) (now : Int) (registries : Registries)

def Hub.relay (world : World) (s : Hub) : PeerCall → Hub
  | .other call => s.next world call
  | .receiveMemberChange token change now registries =>
    match s.extractPeer world token "/federation/dm-member-change" now with
    | (seen, .error _) => seen
    | (seen, .ok _) =>
      let answer := Dms.receiveMemberChange world.keys registries seen.auth.db seen.convs change now
      seen.store (answer.1, answer.2.1)

/-- The message carries the key's own signature over what the message says. -/
def SignedBy (keys : Keys) (key : String) (row : DmMessageRow) : Prop :=
  match row.envelope, row.groupEnvelope with
  | some env, _ => checkSig keys key (envelopeSigningBytes env) env.signatureHex = .ok ()
  | none, some env => checkSig keys key (groupEnvelopeSigningBytes env) env.signatureHex = .ok ()
  | none, none => ∃ signature ∈ row.signature, ∃ convType,
    checkSig keys key (Wire.federatedPlaintextDmSigningBytes row.conversationId convType (row.content.getD ""))
      signature = .ok ()

def RowsSigned (keys : Keys) (key : String) (messages : Table DmMessageRow) : Prop :=
  ∀ (id : String) (row : DmMessageRow), messages[id]? = some row → row.sender = key → SignedBy keys key row

structure Attributed (world : World) (key : String) (s : Hub) (calls : List PeerCall) : Prop where
  rows : ∀ front, front <+: calls → RowsSigned world.keys key (Runs.run (Hub.relay world) s front).convs.messages
  changes : ∀ front token change now registries,
    front ++ [.receiveMemberChange token change now registries] <+: calls → change.actor = key →
      (Runs.run (Hub.relay world) s (front ++ [.receiveMemberChange token change now registries])).convs.members ≠
          (Runs.run (Hub.relay world) s front).convs.members →
        checkSig world.keys key change.signingBytes change.signature = .ok ()

-- The key presents no certificate, and signs none for another key to present.
def NeverLinks (keys : Keys) (key : String) : PeerCall → Prop
  | .other (.auth (.verify req _)) => ∀ cert ∈ req.subkeyCert, req.publicKey ≠ key ∧
    (cert.masterPubkey = key → cert.verify keys ≠ .ok ())
  | .receiveMemberChange _ change _ _ => ∀ cert ∈ change.signerCert, cert.masterPubkey = key → cert.verify keys ≠ .ok ()
  | _ => True

-- No other hub answers with a certificate of some master for the key.
def Unvouched (world : World) (key : String) (s : Hub) : PeerCall → Prop
  | .other call => ∀ master, ¬ call.Binds world s key master
  | .receiveMemberChange _ _ _ _ => True

section

variable {keys : Keys} {registries : Registries}

-- A master is bound to an unlinked sender by what the named hub answers, or not at all.
theorem bindSender_fetched {db : Db} {req : FederatedDmRequest} {master : String}
    (unlinked : db.masterOf req.sender = none)
    (bound : (bindSender keys registries db req (some master)).2 = .ok ()) :
    ∃ url, req.senderHubUrl = some url ∧ Proves keys registries url req.sender master := by
  unfold bindSender resolveMasterBinding at bound
  rw [unlinked] at bound
  dsimp only at bound
  cases fetched : req.senderHubUrl.bind fun url => registries (devicesUrl url master) with
  | none => simp [fetched] at bound
  | some certs =>
    obtain ⟨url, named, answered⟩ := Option.bind_eq_some_iff.mp fetched
    refine ⟨url, named, certs, answered, ?_⟩
    by_contra unproven
    simp [fetched, unproven] at bound

theorem accepts_signed {isUuid : String → Bool} {db : Db} {convs : Conversations} {req : FederatedDmRequest}
    (accepts : Accepts keys registries isUuid db convs req) (unlinked : db.masterOf req.sender = none)
    (unvouched : ∀ master, ¬ DeliversBinding keys registries req req.sender master) :
    SignedBy keys req.sender (messageRow req) := by
  obtain ⟨master, claimed, bound⟩ := accepts.signed
  have stillUnlinked : (ensureUserStub (openFederated db convs req).1 req.sender req.createdAt).masterOf req.sender =
      none := by
    rw [ensureUserStub_masterOf, openFederated_masterOf, unlinked]
  have direct : ∀ m, master ≠ some m := by
    rintro m rfl
    obtain ⟨url, named, proves⟩ := bindSender_fetched stillUnlinked bound
    exact unvouched m ⟨rfl, claimed, url, named, proves⟩
  unfold claimedMaster at claimed
  unfold SignedBy messageRow
  cases encrypted : req.encryptedEnvelope with
  | some env =>
    simp only [encrypted] at claimed ⊢
    cases verified : verifyEnvelopeSender keys env req.sender with
    | error e => simp [verified] at claimed
    | ok certMaster =>
      obtain ⟨signature, decoded, ⟨_, _, own⟩ | ⟨shown, _, rfl, _⟩⟩ := tiered_iff.mp verified
      · exact checkSig_iff.mpr ⟨signature, decoded, own⟩
      · simp only [verified, Option.some_or, Except.ok.injEq] at claimed
        exact absurd claimed.symm (direct shown.masterPubkey)
  | none =>
    cases group : req.groupEncryptedEnvelope with
    | some env =>
      simp only [encrypted, group] at claimed ⊢
      cases verified : verifyGroupEnvelope keys env req.sender with
      | error e => simp [verified] at claimed
      | ok _ => exact checkSig_iff.mpr (verifyGroupEnvelope_iff.mp verified)
    | none =>
      simp only [encrypted, group] at claimed ⊢
      cases signed : req.signature with
      | none => simp [signed] at claimed
      | some signatureHex =>
        simp only [signed] at claimed
        split at claimed
        next => cases claimed
        next certMaster verified =>
          cases claimed
          obtain ⟨signature, decoded, ⟨_, _, own⟩ | ⟨shown, _, rfl, _⟩⟩ := tiered_iff.mp verified
          · exact ⟨signatureHex, rfl, req.convType, checkSig_iff.mpr ⟨signature, decoded, by simpa using own⟩⟩
          · exact absurd rfl (direct shown.masterPubkey)

-- An actor with no master speaks by its own signature, or by a certificate it signed itself.
theorem actor_signed {db : Db} {change : FederatedMemberChange} (unlinked : db.masterOf change.actor = none)
    (never : ∀ cert ∈ change.signerCert, cert.masterPubkey = change.actor → cert.verify keys ≠ .ok ())
    (checked : checkActor keys registries db change = .ok ()) :
    checkSig keys change.actor change.signingBytes change.signature = .ok () := by
  unfold checkActor at checked
  split at checked
  next => cases checked
  next verified =>
    obtain ⟨signature, decoded, ⟨_, _, own⟩ | ⟨shown, _, other, _⟩⟩ := tiered_iff.mp verified
    · exact checkSig_iff.mpr ⟨signature, decoded, own⟩
    · cases other
  next master verified =>
    obtain ⟨signature, _, ⟨_, other, _⟩ | ⟨shown, presented, named, certified, _⟩⟩ := tiered_iff.mp verified
    · cases other
    · cases named
      obtain ⟨own | bound, _⟩ := Checks.permit_ok checked
      · exact absurd certified (never shown presented own)
      · simp [resolveMasterBinding, unlinked] at bound

end

section

variable {world : World} {key : String} {s : Hub}

-- A sign-in records no master for a key that shows no certificate and signs none.
theorem never_seats {call : Call} {master : String} (never : NeverLinks world.keys key (.other call))
    (unlinked : s.auth.db.masterOf key = none) : ¬ call.SeatsWith world s key master := by
  intro seats
  cases call with
  | auth call =>
    cases call with
    | verify req env =>
      obtain ⟨claimed, seats⟩ := seats
      rcases resolve_cases seats.resolved with ⟨_, none⟩ | ⟨shown, presented, verified, _, _, _, how⟩
      · cases none
      · obtain ⟨other, unsigned⟩ := never shown presented
        rcases how with linked | ⟨_, same | same⟩
        · rw [unlinked] at linked
          cases linked
        · exact other same.symm
        · exact unsigned same.symm (withKeys_verified verified)
    | _ => exact seats.elim
  | _ => exact seats.elim

theorem relay_unlinked {call : PeerCall} (never : NeverLinks world.keys key call)
    (unvouched : Unvouched world key s call) (unlinked : s.auth.db.masterOf key = none) :
    (s.relay world call).auth.db.masterOf key = none := by
  cases call with
  | other call =>
    cases after : (s.next world call).auth.db.masterOf key with
    | none => exact after
    | some master =>
      rcases (next_links world s call).gained key master after with earlier | ⟨_, seats | binds⟩
      · rw [unlinked] at earlier
        cases earlier
      · exact absurd seats (never_seats never unlinked)
      · exact absurd binds (unvouched master)
  | receiveMemberChange token change now registries =>
    have seen := extractPeer_masterOf world s token "/federation/dm-member-change" now key
    simp only [Hub.relay]
    generalize s.extractPeer world token "/federation/dm-member-change" now = extracted at seen ⊢
    obtain ⟨peerSeen, answer⟩ := extracted
    cases answer with
    | error e => exact seen.trans unlinked
    | ok peer => exact ((receiveMemberChange_kept _ _ change now).2 key).trans (seen.trans unlinked)

theorem relay_rows {call : PeerCall} (unvouched : Unvouched world key s call)
    (unlinked : s.auth.db.masterOf key = none) (signed : RowsSigned world.keys key s.convs.messages) :
    RowsSigned world.keys key (s.relay world call).convs.messages := by
  cases call with
  | other call =>
    change RowsSigned world.keys key (s.mail world (.other call)).convs.messages
    by_cases something : ∃ id row, (MailCall.other call).Brings world s id row
    · obtain ⟨id, row, brings⟩ := something
      rw [(mail_brings world brings).2]
      intro other found
      rw [ExtTreeMap.getElem?_insert]
      split
      next =>
        rintro ⟨rfl⟩ own
        cases call with
        | receiveFederatedDm token req now registries =>
          obtain ⟨heard, accepts, rfl, rfl⟩ := brings
          obtain rfl : req.sender = key := own
          refine accepts_signed accepts ?_ fun master delivers => unvouched master ⟨delivers, heard⟩
          rw [extractPeer_masterOf, unlinked]
        | auth call => exact brings.elim
        | createConversation token req id now registries => exact brings.elim
      next => exact signed other found
    · push Not at something
      rw [mail_brings_nothing world something]
      exact signed
  | receiveMemberChange token change now registries =>
    have seen := extractPeer_convs world s token "/federation/dm-member-change" now
    simp only [Hub.relay]
    generalize s.extractPeer world token "/federation/dm-member-change" now = extracted at seen ⊢
    obtain ⟨peerSeen, answer⟩ := extracted
    dsimp only at seen
    cases answer with
    | error e =>
      rw [seen]
      exact signed
    | ok peer =>
      dsimp only [Hub.store]
      rw [(receiveMemberChange_kept _ _ change now).1, seen]
      exact signed

theorem relay_change {token : String} {change : FederatedMemberChange} {now : Int} {registries : Registries}
    (never : NeverLinks world.keys change.actor (.receiveMemberChange token change now registries))
    (unlinked : s.auth.db.masterOf change.actor = none)
    (moved : (s.relay world (.receiveMemberChange token change now registries)).convs.members ≠ s.convs.members) :
    checkSig world.keys change.actor change.signingBytes change.signature = .ok () := by
  have convs := extractPeer_convs world s token "/federation/dm-member-change" now
  have seen := extractPeer_masterOf world s token "/federation/dm-member-change" now change.actor
  simp only [Hub.relay] at moved
  generalize s.extractPeer world token "/federation/dm-member-change" now = extracted at convs seen moved
  obtain ⟨peerSeen, answer⟩ := extracted
  dsimp only at convs seen
  cases answer with
  | error e => exact absurd (congrArg Conversations.members convs) moved
  | ok peer =>
    dsimp only [Hub.store] at moved
    rw [← convs] at moved
    exact actor_signed (seen.trans unlinked) never (roster_moved moved)

/--
A key that never linked a master is named as sender or actor only of what it signed, in every run in
which no hub a request names answers with a certificate of some master for it.
-/
theorem attributed_run (world : World) (key : String) (s : Hub) (unlinked : s.auth.db.masterOf key = none)
    (initial : RowsSigned world.keys key s.convs.messages) (calls : List PeerCall)
    (never : ∀ call ∈ calls, NeverLinks world.keys key call)
    (met : Runs.Meets (Hub.relay world) (Unvouched world key) s calls) : Attributed world key s calls := by
  have kept : ∀ front, front <+: calls →
      (Runs.run (Hub.relay world) s front).auth.db.masterOf key = none ∧
        RowsSigned world.keys key (Runs.run (Hub.relay world) s front).convs.messages := by
    rintro front ⟨rest, rfl⟩
    have metFront := (Runs.Meets.append.mp met).1
    have neverFront : ∀ call ∈ front, NeverLinks world.keys key call :=
      fun call inside => never call (List.mem_append_left rest inside)
    clear met never
    induction front using List.reverseRecOn with
    | nil => exact ⟨unlinked, initial⟩
    | append_singleton front call ih =>
      obtain ⟨metBefore, last⟩ := Runs.Meets.append.mp metFront
      obtain ⟨stillUnlinked, signed⟩ :=
        ih metBefore fun call inside => neverFront call (List.mem_append_left _ inside)
      rw [Runs.run_append, Runs.run_cons, Runs.run_nil]
      exact ⟨relay_unlinked (neverFront call (by simp)) last.1 stillUnlinked, relay_rows last.1 stillUnlinked signed⟩
  constructor
  · intro front inside
    exact (kept front inside).2
  · rintro front token change now registries inside rfl moved
    have before := (kept front ((List.prefix_append front _).trans inside)).1
    rw [Runs.run_append, Runs.run_cons, Runs.run_nil] at moved
    exact relay_change (never _ (inside.subset (by simp))) before moved

end

theorem attributed_run_direct : Attributed openWorld (namedKey 1) relayHub
    [.other (.receiveFederatedDm "peer" signedHello 2 fun _ => none)] := by
  refine attributed_run openWorld (namedKey 1) relayHub ?_ ?_ _ ?_ ⟨?_, trivial⟩
  · decide
  · intro id row found
    simp [relayHub] at found
  · simp [NeverLinks]
  · rintro master ⟨⟨_, _, url, named, _⟩, _⟩
    cases named

-- A thief's hub vouches for its own master, whose device signs in the victim's name.
def forgedHello : FederatedDmRequest :=
  { signedHello with
    signature := some (signedBy 2), senderHubUrl := some "https://thief", signerCert := some (certOf 3 2) }

theorem signedBy_other {bytes : Wire.Bytes} : checkSig openKeys (namedKey 1) bytes (signedBy 2) ≠ .ok () := by
  simp [checkSig, verifySignature, namedKey, signedBy, openKeys]

theorem forgedHello_claims : claimedMaster openKeys forgedHello = .ok (some (namedKey 3)) := by
  obtain ⟨signature, decoded, verified⟩ := checkSig_iff.mp (checkSig_signedBy 2
    (Wire.federatedPlaintextDmSigningBytes "c" "dm" "hello"))
  have passed : verifyTieredSignature openKeys (Wire.federatedPlaintextDmSigningBytes "c" "dm" "hello") (signedBy 2)
      (some (certOf 3 2)) (namedKey 1) "sender" = .ok (some (namedKey 3)) :=
    tiered_iff.mpr ⟨signature, decoded, .inr ⟨certOf 3 2, rfl, rfl, checkSig_signedBy 3 _, verified⟩⟩
  simp [claimedMaster, forgedHello, signedHello, passed]

theorem thief_vouches : provesBinding openKeys (namedKey 1) (namedKey 3) [certOf 3 1] = true := by
  have vouched : (certOf 3 1).verify openKeys = .ok () := checkSig_signedBy 3 _
  have subkey : (certOf 3 1).subkeyPubkey = namedKey 1 := rfl
  have master : (certOf 3 1).masterPubkey = namedKey 3 := rfl
  simp [provesBinding, vouched, subkey, master, Except.isOk, Except.toBool]

theorem forgedHello_accepted {db : Db} (unlinked : db.masterOf (namedKey 1) = none) :
    Accepts openKeys (fun _ => some [certOf 3 1]) (fun _ => true) db relayHub.convs forgedHello where
  uuid := rfl
  fresh := by simp [relayHub]
  roster := ⟨[namedKey 1, "bob"], by simp [recipients, relayHub, forgedHello, signedHello],
    by simp [blockedBy, relayHub]⟩
  signed := by
    have still : (ensureUserStub (openFederated db relayHub.convs forgedHello).1 forgedHello.sender
        forgedHello.createdAt).masterOf forgedHello.sender = none := by
      rw [ensureUserStub_masterOf, openFederated_masterOf]
      exact unlinked
    refine ⟨some (namedKey 3), forgedHello_claims, ?_⟩
    generalize ensureUserStub _ _ _ = stubbed at still ⊢
    have sender : forgedHello.sender = namedKey 1 := rfl
    have hub : forgedHello.senderHubUrl = some "https://thief" := rfl
    simp only [bindSender, resolveMasterBinding, still]
    simp [hub, sender, thief_vouches]

theorem attributed_forged : (∀ call ∈ [.other (.receiveFederatedDm "peer" forgedHello 2 fun _ => some [certOf 3 1])],
      NeverLinks openWorld.keys (namedKey 1) call) ∧
    relayHub.auth.db.masterOf (namedKey 1) = none ∧
    ¬ Attributed openWorld (namedKey 1) relayHub
      [.other (.receiveFederatedDm "peer" forgedHello 2 fun _ => some [certOf 3 1])] := by
  have unlinked : relayHub.auth.db.masterOf (namedKey 1) = none := by decide
  refine ⟨by simp [NeverLinks], unlinked, ?_⟩
  intro attributed
  have heard : (relayHub.extractPeer openWorld "peer" "/federation/dm" 2).2 =
      .ok { publicKey := "hub", masterPubkey := none, scope := .peer } := by
    decide
  have brings : (MailCall.other (.receiveFederatedDm "peer" forgedHello 2 fun _ => some [certOf 3 1])).Brings openWorld
      relayHub "id-1" (messageRow forgedHello) := by
    refine ⟨⟨_, heard⟩, forgedHello_accepted ?_, rfl, rfl⟩
    rw [extractPeer_masterOf, unlinked]
  have stored : (Runs.run (Hub.relay openWorld) relayHub
      [.other (.receiveFederatedDm "peer" forgedHello 2 fun _ => some [certOf 3 1])]).convs.messages["id-1"]? =
        some (messageRow forgedHello) := by
    have inserted := (mail_brings openWorld brings).2
    rw [Runs.run_cons, Runs.run_nil]
    simp only [Hub.relay]
    simp only [Hub.mail] at inserted
    rw [inserted, ExtTreeMap.getElem?_insert_self]
  obtain ⟨signature, carries, convType, verified⟩ := attributed.rows _ List.prefix_rfl "id-1" _ stored rfl
  obtain rfl : signedBy 2 = signature := Option.some.inj carries
  exact signedBy_other verified

end Wavvon.Dms

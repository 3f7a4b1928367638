import Wavvon.Alliances.Membership
import Wavvon.Shared.Runs

set_option autoImplicit false

namespace Wavvon.Alliances

open Std (ExtTreeMap)

-- A join or an announcement that passed the tables and has yet to ask the address it came with.
structure Arrival where
  url : String
  allianceId : String
  peer : String
  hubUrl : String
  deriving DecidableEq, Repr

-- A reconcile pass: the rows it goes by, those left to ask, and an answer not yet merged.
structure Pass where
  url : String
  allianceId : String
  known : List AllianceMemberInfo
  rest : List AllianceMemberInfo
  heard : Option (String × List AllianceMemberInfo) := none
  deriving DecidableEq, Repr

/-- Hubs by the address each answers at, and what their handlers are in the middle of. -/
structure Network where
  hubs : Table Hub := ∅
  joins : List Arrival := []
  announcements : List Arrival := []
  passes : List Pass := []

namespace Network

def getInfo (n : Network) (url : String) : Option HubInfo := n.hubs[url]?.map (·.info)

def modify (n : Network) (url : String) (change : Hub → Hub) : Network :=
  { n with hubs := n.hubs.modify url change }

-- The address has to answer for the key that authenticated.
def seat (n : Network) (arrival : Arrival) (role : String) (now : Int) : Network :=
  match checkAddress (n.getInfo arrival.hubUrl) arrival.peer role with
  | .error _ => n
  | .ok info => n.modify arrival.url fun hub => hub.insertMember
      { allianceId := arrival.allianceId, hubPublicKey := info.publicKey, hubName := info.name
        hubUrl := arrival.hubUrl, joinedAt := now }

-- What the asked hub has at that moment, which need not be what anybody else has.
def answer (n : Network) (pass : Pass) (url : String) : Option (List AllianceMemberInfo) :=
  n.hubs[url]?.bind fun peer => n.hubs[pass.url]?.bind fun hub =>
    getAllianceMembers peer hub.info.publicKey pass.allianceId

def asked (n : Network) (pass : Pass) : Pass :=
  match pass.heard, pass.rest with
  | none, m :: rest =>
    if m.hubUrl = "self" ∨ m.hubUrl = "" then { pass with rest := rest }
    else { pass with rest := rest, heard := (n.answer pass m.hubUrl).map fun reported => (m.hubUrl, reported) }
  | _, _ => pass

def merged (n : Network) (pass : Pass) : Network :=
  match pass.heard with
  | none => n
  | some (askedAt, reported) =>
    n.modify pass.url fun hub => mergeReported hub pass.allianceId pass.known askedAt reported

end Network

inductive Act where
  | mintInvite (url allianceId token : String) (now : Int)
  | spendInvite (url peer allianceId token hubUrl : String) (now : Int)
  | finishJoin (i : Nat) (now : Int)
  | mirror (url inviterUrl allianceId : String)
  | announce (url peer : String) (req : AllianceMemberAnnouncement)
  | admitMember (i : Nat) (now : Int)
  | left (url peer allianceId : String)
  | leave (url allianceId : String)
  | reconcile (url allianceId : String)
  | ask (i : Nat)
  | merge (i : Nat)
  deriving DecidableEq, Repr

section

variable (keys : Keys) (n : Network)

def startJoin (url peer allianceId token hubUrl : String) (now : Int) : Network :=
  match n.hubs[url]?.map fun hub => spendInvite hub allianceId token now with
  | some (spent, .ok _) =>
    { n with
      hubs := n.hubs.insert url spent
      joins := n.joins ++ [{ url := url, allianceId := allianceId, peer := peer, hubUrl := hubUrl }] }
  | _ => n

def startAnnouncement (url peer : String) (req : AllianceMemberAnnouncement) : Network :=
  match n.hubs[url]?.map fun hub => checkAnnouncement keys hub peer req with
  | some (.ok _) =>
    { n with
      announcements := n.announcements ++
        [{ url := url, allianceId := req.allianceId, peer := peer, hubUrl := req.hubUrl }] }
  | _ => n

-- The joiner asks the inviter as itself, and copies what it is told.
def mirrorFrom (url inviterUrl allianceId : String) : Network :=
  match n.hubs[url]?.bind fun hub => n.hubs[inviterUrl]?.bind fun inviter =>
      getAllianceMembers inviter hub.info.publicKey allianceId with
  | none => n
  | some reported => n.modify url fun hub => mirrorMembers hub allianceId inviterUrl reported

def startReconcile (url allianceId : String) : Network :=
  match n.hubs[url]? with
  | none => n
  | some hub =>
    let known := knownMembers hub allianceId
    { n with passes := n.passes ++ [{ url := url, allianceId := allianceId, known := known, rest := known }] }

def finishJoin (i : Nat) (now : Int) : Network :=
  match n.joins[i]? with
  | none => n
  | some join => { n with joins := n.joins.eraseIdx i }.seat join "joining" now

def admitMember (i : Nat) (now : Int) : Network :=
  match n.announcements[i]? with
  | none => n
  | some announcement => { n with announcements := n.announcements.eraseIdx i }.seat announcement "announcing" now

def mergeReport (i : Nat) : Network :=
  match n.passes[i]? with
  | none => n
  | some pass => { n with passes := n.passes.set i { pass with heard := none } }.merged pass

def Act.perform : Act → Network
  | .mintInvite url allianceId token now => n.modify url fun hub => (Alliances.mintInvite hub allianceId token now).1
  | .spendInvite url peer allianceId token hubUrl now => startJoin n url peer allianceId token hubUrl now
  | .finishJoin i now => Alliances.finishJoin n i now
  | .mirror url inviterUrl allianceId => mirrorFrom n url inviterUrl allianceId
  | .announce url peer req => startAnnouncement keys n url peer req
  | .admitMember i now => Alliances.admitMember n i now
  | .left url peer allianceId => n.modify url fun hub => receiveAllianceMemberLeft hub peer allianceId
  | .leave url allianceId => n.modify url fun hub => hub.deleteAlliance allianceId
  | .reconcile url allianceId => startReconcile n url allianceId
  | .ask i => { n with passes := n.passes.modify i n.asked }
  | .merge i => mergeReport n i

end

/-- A partner of a hub in an alliance. -/
structure Partner where
  url : String
  allianceId : String
  key : String
  deriving DecidableEq, Repr

def Network.listed (n : Network) (p : Partner) : Bool := n.hubs[p.url]?.any (·.isMember p.allianceId p.key)

def Arrival.Lands (n : Network) (p : Partner) (arrival : Arrival) : Prop :=
  arrival.url = p.url ∧ arrival.allianceId = p.allianceId ∧ arrival.peer = p.key ∧
    (∃ info ∈ n.getInfo arrival.hubUrl, info.publicKey = p.key) ∧ ∃ hub ∈ n.hubs[p.url]?, p.allianceId ∈ hub.alliances

/-- What brings a partner back: a join, an announcement or a report of it. -/
def Readmits (n : Network) (p : Partner) : Act → Prop
  | .finishJoin i _ => ∃ join ∈ n.joins[i]?, join.Lands n p
  | .admitMember i _ => ∃ announcement ∈ n.announcements[i]?, announcement.Lands n p
  | .mirror url inviterUrl allianceId => url = p.url ∧ allianceId = p.allianceId ∧
      ∃ hub ∈ n.hubs[url]?, ∃ inviter ∈ n.hubs[inviterUrl]?,
        ∃ reported ∈ getAllianceMembers inviter hub.info.publicKey allianceId, ∃ r ∈ reported, r.hubPublicKey = p.key
  | .merge i => ∃ pass ∈ n.passes[i]?, pass.url = p.url ∧ pass.allianceId = p.allianceId ∧
      ∃ hub ∈ n.hubs[p.url]?, p.allianceId ∈ hub.alliances ∧
        ∃ heard ∈ pass.heard, ∃ r ∈ heard.2, Adds hub pass.known heard.1 p.key r
  | _ => False

section

variable {n : Network} {p : Partner} {url : String} {change : Hub → Hub}

theorem listed_iff : n.listed p = true ↔ ∃ hub ∈ n.hubs[p.url]?, hub.isMember p.allianceId p.key = true := by
  rw [Network.listed, Option.any_eq_true]
  rfl

theorem absent_iff : n.listed p = false ↔ ∀ hub ∈ n.hubs[p.url]?, hub.isMember p.allianceId p.key = false := by
  rw [Network.listed, Option.any_eq_false]
  rfl

theorem listed_modify : (n.modify url change).listed p = true ↔
    if url = p.url then ∃ hub ∈ n.hubs[p.url]?, (change hub).isMember p.allianceId p.key = true
    else n.listed p = true := by
  rw [listed_iff, Network.modify]
  simp only [ExtTreeMap.getElem?_modify, Std.compare_eq_iff_eq]
  split
  next same =>
    subst same
    simp
  next => exact listed_iff.symm

theorem absent_modify (absent : n.listed p = false)
    (adds : ∀ hub ∈ n.hubs[p.url]?, hub.isMember p.allianceId p.key = false →
      (change hub).isMember p.allianceId p.key = false) : (n.modify url change).listed p = false := by
  rw [Bool.eq_false_iff, ne_eq, listed_modify]
  split
  next =>
    rintro ⟨hub, here, listed⟩
    rw [adds hub here (absent_iff.mp absent hub here)] at listed
    cases listed
  next => simp [absent]

theorem seat_listed (absent : n.listed p = false) (arrival : Arrival) (role : String) (now : Int) :
    (n.seat arrival role now).listed p = true ↔ arrival.Lands n p := by
  unfold Network.seat checkAddress
  cases found : n.getInfo arrival.hubUrl with
  | none => simp [absent, Arrival.Lands, found]
  | some info =>
    by_cases answers : info.publicKey = arrival.peer
    next =>
      simp only [answers, if_true]
      rw [listed_modify]
      constructor
      · intro listed
        split at listed
        next same =>
          obtain ⟨hub, here, member⟩ := listed
          rcases Hub.isMember_insertMember.mp member with before | ⟨known, alliance, keyed⟩
          · rw [absent_iff.mp absent hub here] at before
            cases before
          · exact ⟨same, alliance, keyed, ⟨info, found, answers.trans keyed⟩, hub, here, known⟩
        next => simp [absent] at listed
      · rintro ⟨same, alliance, keyed, _, hub, here, known⟩
        rw [if_pos same]
        exact ⟨hub, here, Hub.isMember_insertMember.mpr (.inr ⟨known, alliance, keyed⟩)⟩
    next =>
      simp only [answers, if_false, absent]
      refine iff_of_false (by simp) ?_
      rintro ⟨_, _, keyed, ⟨answer, same, its⟩, _⟩
      cases found.symm.trans same
      exact answers (its.trans keyed.symm)

theorem merged_listed (absent : n.listed p = false) (pass : Pass) :
    (n.merged pass).listed p = true ↔ pass.url = p.url ∧ pass.allianceId = p.allianceId ∧
      ∃ hub ∈ n.hubs[p.url]?, p.allianceId ∈ hub.alliances ∧
        ∃ heard ∈ pass.heard, ∃ r ∈ heard.2, Adds hub pass.known heard.1 p.key r := by
  unfold Network.merged
  cases heard : pass.heard with
  | none => simp [absent]
  | some report =>
    obtain ⟨askedAt, reported⟩ := report
    dsimp only
    rw [listed_modify]
    constructor
    · intro listed
      split at listed
      next same =>
        obtain ⟨hub, here, member⟩ := listed
        rcases isMember_mergeReported.mp member with before | ⟨alliance, known, adds⟩
        · rw [absent_iff.mp absent hub here] at before
          cases before
        · exact ⟨same, alliance, hub, here, known, (askedAt, reported), rfl, adds⟩
      next => simp [absent] at listed
    · rintro ⟨same, alliance, hub, here, known, report, told, adds⟩
      obtain rfl := Option.some.inj told
      rw [if_pos same]
      exact ⟨hub, here, isMember_mergeReported.mpr (.inr ⟨alliance, known, adds⟩)⟩

theorem mirrorFrom_listed (absent : n.listed p = false) (url inviterUrl allianceId : String) :
    (mirrorFrom n url inviterUrl allianceId).listed p = true ↔ url = p.url ∧ allianceId = p.allianceId ∧
      ∃ hub ∈ n.hubs[url]?, ∃ inviter ∈ n.hubs[inviterUrl]?,
        ∃ reported ∈ getAllianceMembers inviter hub.info.publicKey allianceId, ∃ r ∈ reported,
          r.hubPublicKey = p.key := by
  unfold mirrorFrom
  split
  next silent =>
    refine iff_of_false (by simp [absent]) ?_
    rintro ⟨_, _, hub, here, inviter, there, reported, answered, _⟩
    simp only [Option.mem_def] at here there answered
    simp [here, there, answered] at silent
  next reported answered =>
    obtain ⟨hub, here, answered⟩ := Option.bind_eq_some_iff.mp answered
    obtain ⟨inviter, there, answered⟩ := Option.bind_eq_some_iff.mp answered
    rw [listed_modify]
    constructor
    · intro listed
      split at listed
      next same =>
        obtain ⟨joiner, found, member⟩ := listed
        rcases isMember_mirrorMembers.mp member with before | ⟨alliance, named⟩
        · rw [absent_iff.mp absent joiner found] at before
          cases before
        · exact ⟨same, alliance, hub, here, inviter, there, reported, answered, named⟩
      next => simp [absent] at listed
    · rintro ⟨same, alliance, joiner, found, other, also, report, told, named⟩
      obtain rfl := Option.some.inj (here.symm.trans found)
      obtain rfl := Option.some.inj (there.symm.trans also)
      obtain rfl := Option.some.inj (answered.symm.trans told)
      rw [if_pos same]
      exact ⟨hub, same ▸ here, isMember_mirrorMembers.mpr (.inr ⟨alliance, named⟩)⟩

theorem mintInvite_members (hub : Hub) (allianceId token : String) (now : Int) :
    (mintInvite hub allianceId token now).1.members = hub.members := by
  unfold mintInvite
  split
  next => rfl
  next => split <;> rfl

theorem spendInvite_members (hub : Hub) (allianceId token : String) (now : Int) :
    (spendInvite hub allianceId token now).1.members = hub.members := by
  unfold spendInvite
  split <;> rfl

theorem isMember_congr {hub after : Hub} (same : after.members = hub.members) (allianceId key : String) :
    after.isMember allianceId key = hub.isMember allianceId key := by
  rw [Hub.isMember, same, Hub.isMember]

-- Fewer rows list nobody new.
theorem isMember_filter {hub after : Hub} {keep : MemberRow → Bool} (rows : after.members = hub.members.filter keep)
    {allianceId key : String} (absent : hub.isMember allianceId key = false) :
    after.isMember allianceId key = false := by
  rw [Bool.eq_false_iff]
  intro listed
  obtain ⟨row, kept, same⟩ := Hub.isMember_iff.mp listed
  rw [rows] at kept
  rw [Hub.isMember_iff.mpr ⟨row, (List.mem_filter.mp kept).1, same⟩] at absent
  cases absent

theorem startJoin_absent (absent : n.listed p = false) (url peer allianceId token hubUrl : String) (now : Int) :
    (startJoin n url peer allianceId token hubUrl now).listed p = false := by
  unfold startJoin
  split
  next spent _ found =>
    obtain ⟨hub, here, spends⟩ := Option.map_eq_some_iff.mp found
    have rows : spent.members = hub.members :=
      (congrArg (fun answer : Hub × Except HttpError Unit => answer.1.members) spends).symm.trans
        (spendInvite_members hub allianceId token now)
    refine absent_iff.mpr fun other found => ?_
    simp only [ExtTreeMap.getElem?_insert, Std.compare_eq_iff_eq] at found
    split at found
    next same =>
      cases found
      rw [isMember_congr rows]
      exact absent_iff.mp absent hub (same ▸ here)
    next => exact absent_iff.mp absent other found
  next => exact absent

theorem exists_pending {A : Type} {pending : A} {lands : A → Prop} :
    (∃ other ∈ some pending, lands other) ↔ lands pending := by
  simp

theorem finishJoin_listed (absent : n.listed p = false) (i : Nat) (now : Int) :
    (finishJoin n i now).listed p = true ↔ ∃ join ∈ n.joins[i]?, join.Lands n p := by
  unfold finishJoin
  split
  next gone => simp [gone, absent]
  next join found =>
    have landed := @seat_listed { n with joins := n.joins.eraseIdx i } p absent join "joining" now
    rw [found, exists_pending]
    exact landed

theorem admitMember_listed (absent : n.listed p = false) (i : Nat) (now : Int) :
    (admitMember n i now).listed p = true ↔ ∃ announcement ∈ n.announcements[i]?, announcement.Lands n p := by
  unfold admitMember
  split
  next gone => simp [gone, absent]
  next announcement found =>
    have landed := @seat_listed { n with announcements := n.announcements.eraseIdx i } p absent announcement
      "announcing" now
    rw [found, exists_pending]
    exact landed

theorem mergeReport_listed (absent : n.listed p = false) (i : Nat) :
    (mergeReport n i).listed p = true ↔ ∃ pass ∈ n.passes[i]?, pass.url = p.url ∧ pass.allianceId = p.allianceId ∧
      ∃ hub ∈ n.hubs[p.url]?, p.allianceId ∈ hub.alliances ∧
        ∃ heard ∈ pass.heard, ∃ r ∈ heard.2, Adds hub pass.known heard.1 p.key r := by
  unfold mergeReport
  split
  next gone => simp [gone, absent]
  next pass found =>
    have landed := @merged_listed { n with passes := n.passes.set i { pass with heard := none } } p absent pass
    rw [found, exists_pending]
    exact landed

theorem startAnnouncement_absent (keys : Keys) (absent : n.listed p = false) (url peer : String)
    (req : AllianceMemberAnnouncement) : (startAnnouncement keys n url peer req).listed p = false := by
  unfold startAnnouncement
  split <;> exact absent

theorem startReconcile_absent (absent : n.listed p = false) (url allianceId : String) :
    (startReconcile n url allianceId).listed p = false := by
  unfold startReconcile
  split <;> exact absent

theorem perform_listed (keys : Keys) (absent : n.listed p = false) (act : Act) :
    (act.perform keys n).listed p = true ↔ Readmits n p act := by
  cases act with
  | finishJoin i now => exact finishJoin_listed absent i now
  | admitMember i now => exact admitMember_listed absent i now
  | merge i => exact mergeReport_listed absent i
  | mirror url inviterUrl allianceId => exact mirrorFrom_listed absent url inviterUrl allianceId
  | mintInvite url allianceId token now =>
    refine iff_of_false (Bool.eq_false_iff.mp (absent_modify absent fun hub _ before => ?_)) id
    rw [isMember_congr (mintInvite_members hub allianceId token now)]
    exact before
  | spendInvite url peer allianceId token hubUrl now =>
    exact iff_of_false (Bool.eq_false_iff.mp (startJoin_absent absent url peer allianceId token hubUrl now)) id
  | left url peer allianceId | leave url allianceId =>
    exact iff_of_false (Bool.eq_false_iff.mp (absent_modify absent fun _ _ before => isMember_filter rfl before)) id
  | announce url peer req =>
    exact iff_of_false (Bool.eq_false_iff.mp (startAnnouncement_absent keys absent url peer req)) id
  | reconcile url allianceId =>
    exact iff_of_false (Bool.eq_false_iff.mp (startReconcile_absent absent url allianceId)) id
  | ask i => exact iff_of_false (Bool.eq_false_iff.mp absent) id

theorem left_absent (keys : Keys) (n : Network) (p : Partner) :
    (Act.perform keys n (.left p.url p.key p.allianceId)).listed p = false := by
  refine absent_iff.mpr fun hub found => ?_
  change (n.hubs.modify p.url _)[p.url]? = some hub at found
  rw [ExtTreeMap.getElem?_modify_self] at found
  obtain ⟨before, _, rfl⟩ := Option.map_eq_some_iff.mp found
  exact Hub.isMember_deleteMember p.key

end

/-- The run, and the invitations issued since the partner left for as long as it has redeemed none of them. -/
structure Watch where
  network : Network
  issued : Option (Finset (String × String)) := none

namespace Watch

def mints (w : Watch) (p : Partner) (url allianceId token : String) (now : Int) : Bool :=
  allianceId = p.allianceId && w.network.hubs[url]?.any fun hub => (mintInvite hub allianceId token now).2.isOk

def spends (w : Watch) (p : Partner) (url peer allianceId token : String) (now : Int) : Bool :=
  (peer = p.key && allianceId = p.allianceId) &&
    w.network.hubs[url]?.any fun hub => (spendInvite hub allianceId token now).2.isOk

def follow (w : Watch) (p : Partner) : Act → Option (Finset (String × String))
  | .left url peer allianceId =>
    if url = p.url ∧ peer = p.key ∧ allianceId = p.allianceId then some ∅ else w.issued
  | .mintInvite url allianceId token now =>
    if w.mints p url allianceId token now then w.issued.map (insert (url, token)) else w.issued
  | .spendInvite url peer allianceId token _ now =>
    if w.spends p url peer allianceId token now && w.issued.any ((url, token) ∈ ·) then none else w.issued
  | _ => w.issued

def next (keys : Keys) (p : Partner) (w : Watch) (act : Act) : Watch :=
  { network := act.perform keys w.network, issued := w.follow p act }

def Out (p : Partner) (w : Watch) : Prop := w.issued.isSome = true → w.network.listed p = false

end Watch

-- While the partner is out nothing that is on its way, and no row of a third hub, brings it back.
def StaysOut (p : Partner) (w : Watch) (act : Act) : Prop :=
  w.issued.isSome = true → ¬ Readmits w.network p act

section

variable {keys : Keys} {p : Partner} {w : Watch} {act : Act}

-- Only a departure puts the partner out.
theorem follow_isSome (after : (w.follow p act).isSome = true) :
    w.issued.isSome = true ∨ act = .left p.url p.key p.allianceId := by
  cases act with
  | left url peer allianceId =>
    by_cases same : url = p.url ∧ peer = p.key ∧ allianceId = p.allianceId
    next =>
      obtain ⟨rfl, rfl, rfl⟩ := same
      exact .inr rfl
    next =>
      rw [Watch.follow, if_neg same] at after
      exact .inl after
  | mintInvite url allianceId token now =>
    rw [Watch.follow] at after
    split at after
    next =>
      rw [Option.isSome_map] at after
      exact .inl after
    next => exact .inl after
  | spendInvite url peer allianceId token hubUrl now =>
    rw [Watch.follow] at after
    split at after
    next => cases after
    next => exact .inl after
  | finishJoin _ _ | mirror _ _ _ | announce _ _ _ | admitMember _ _ | leave _ _ | reconcile _ _ | ask _ | merge _ =>
    exact .inl after

theorem follow_readmits (readmits : Readmits w.network p act) : w.follow p act = w.issued := by
  cases act with
  | finishJoin _ _ | admitMember _ _ | merge _ | mirror _ _ _ => rfl
  | _ => exact readmits.elim

theorem Out.next (out : w.Out p) (stays : StaysOut p w act) : (w.next keys p act).Out p := by
  intro after
  rcases follow_isSome after with before | rfl
  · exact Bool.eq_false_iff.mpr fun listed => stays before ((perform_listed keys (out before) act).mp listed)
  · exact left_absent keys w.network p

theorem Out.broken (out : w.Out p) (readmits : ¬ StaysOut p w act) : ¬ (w.next keys p act).Out p := by
  obtain ⟨before, readmits⟩ := Classical.not_imp.mp readmits
  intro still
  have absent := still ((congrArg Option.isSome (follow_readmits (not_not.mp readmits))).trans before)
  rw [Watch.next, (perform_listed keys (out before) act).mpr (not_not.mp readmits)] at absent
  cases absent

end

/--
A hub that has left stays out until it redeems an invitation issued since, exactly when meanwhile no
arrival of it lands and nothing that is merged or mirrored still names it.
-/
theorem out_iff_staysOut (keys : Keys) (p : Partner) (n : Network) (acts : List Act) :
    (∀ front, front <+: acts → (Runs.run (Watch.next keys p) { network := n } front).Out p) ↔
      Runs.Meets (Watch.next keys p) (StaysOut p) { network := n } acts :=
  Runs.always_iff_meets (Watch.Out p) (Watch.Out p) (fun _ out => out) (fun _ _ out stays => Out.next out stays)
    (fun _ _ out returns => Out.broken out returns) (fun out => by cases out) acts

-- Three partners of one alliance: the first is told of a departure, the second is not.
def alliedHub (name : String) : Hub :=
  { info := { publicKey := name, name := name }, alliances := {"guilds"}
    members := ["ann", "bea", "cat"].map fun key =>
      { allianceId := "guilds", hubPublicKey := key, hubName := key, hubUrl := if key = name then "self" else key
        joinedAt := 0 } }

def allied : Network :=
  { hubs := (((∅ : Table Hub).insert "ann" (alliedHub "ann")).insert "bea" (alliedHub "bea")).insert "cat"
      (alliedHub "cat") }

-- The next time anybody looks, the second hub still names who left.
theorem out_reconciled : ¬ ∀ (keys : Keys) (p : Partner) (n : Network) (acts : List Act),
    (Runs.run (Watch.next keys p) { network := n } acts).Out p := by
  intro always
  have absent := always ⟨fun _ => false, fun _ _ _ => false, fun _ => Vector.replicate 32 0⟩
    { url := "ann", allianceId := "guilds", key := "cat" } allied
    [.left "ann" "cat" "guilds", .reconcile "ann" "guilds", .ask 0, .merge 0] (by decide)
  revert absent
  decide

end Wavvon.Alliances

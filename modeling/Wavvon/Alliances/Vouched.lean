import Wavvon.Alliances.Departures

set_option autoImplicit false

namespace Wavvon.Alliances

/-- Whatever names a hub in an alliance: a row of anybody's, an arrival under way, or a report not yet merged. -/
inductive Names (n : Network) (allianceId key : String) : Prop where
  | listed (url : String) (row : n.listed { url := url, allianceId := allianceId, key := key } = true)
  | joining (join : Arrival) (pending : join ∈ n.joins) (here : join.allianceId = allianceId) (its : join.peer = key)
  | announced (announcement : Arrival) (pending : announcement ∈ n.announcements)
      (here : announcement.allianceId = allianceId) (its : announcement.peer = key)
  | reported (pass : Pass) (pending : pass ∈ n.passes) (here : pass.allianceId = allianceId)
      (told : ∃ heard ∈ pass.heard, ∃ r ∈ heard.2, r.hubPublicKey = key)

-- An invitation of the alliance that the hub redeems.
def Redeems (n : Network) (allianceId key : String) : Act → Prop
  | .spendInvite url peer alliance token _ now =>
    peer = key ∧ alliance = allianceId ∧ ∃ hub ∈ n.hubs[url]?, (spendInvite hub allianceId token now).2 = .ok ()
  | _ => False

-- There is a voucher with which the one hub lets the other in.
def Vouches (keys : Keys) (allianceId inviter member : String) : Prop :=
  ∃ signature, verifySignature keys inviter (memberVoucherBytes allianceId member) signature = .ok ()

/-- A chain of vouchers, each signed by the hub before, from one that was let in otherwise. -/
inductive Vouched (keys : Keys) (allianceId : String) (admitted : String → Prop) : String → Prop where
  | first {key : String} (in_ : admitted key) : Vouched keys allianceId admitted key
  | next {inviter key : String} (before : Vouched keys allianceId admitted inviter)
      (voucher : Vouches keys allianceId inviter key) : Vouched keys allianceId admitted key

-- An invitation that the hub redeems in the course of the run.
def RedeemedIn (keys : Keys) (n : Network) (acts : List Act) (allianceId key : String) : Prop :=
  ∃ front act, front ++ [act] <+: acts ∧ Redeems (Runs.run (Act.perform keys) n front) allianceId key act

section

variable {keys : Keys} {n : Network} {allianceId key : String} {act : Act}

theorem Vouched.mono {admitted more : String → Prop} (weaker : ∀ key, admitted key → more key)
    (vouched : Vouched keys allianceId admitted key) : Vouched keys allianceId more key := by
  induction vouched with
  | first in_ => exact .first (weaker _ in_)
  | next _ voucher ih => exact .next ih voucher

-- A hub names to another hub whom it lists.
theorem names_of_answer {url caller : String} {peer : Hub} (found : n.hubs[url]? = some peer)
    {reported : List AllianceMemberInfo} (answered : getAllianceMembers peer caller allianceId = some reported)
    {r : AllianceMemberInfo} (told : r ∈ reported) (its : r.hubPublicKey = key) : Names n allianceId key := by
  unfold getAllianceMembers at answered
  split at answered
  next =>
    cases answered
    obtain ⟨row, listed, rfl⟩ := List.mem_map.mp told
    obtain ⟨stored, here⟩ := List.mem_filter.mp listed
    refine .listed url (listed_iff.mpr ⟨peer, found, Hub.isMember_iff.mpr ⟨row, stored, ?_, its⟩⟩)
    exact of_decide_eq_true here
  next => cases answered

-- Whoever gets a row was named before.
theorem names_of_readmits {url : String}
    (readmits : Readmits n { url := url, allianceId := allianceId, key := key } act) : Names n allianceId key := by
  cases act with
  | finishJoin i now =>
    obtain ⟨join, found, _, here, its, _⟩ := readmits
    exact .joining join (List.mem_of_getElem? found) here its
  | admitMember i now =>
    obtain ⟨announcement, found, _, here, its, _⟩ := readmits
    exact .announced announcement (List.mem_of_getElem? found) here its
  | mirror url inviterUrl mirrored =>
    obtain ⟨_, rfl, _, _, inviter, found, reported, answered, r, told, its⟩ := readmits
    exact names_of_answer found answered told its
  | merge i =>
    obtain ⟨pass, found, _, here, _, _, _, heard, told, r, listed, its, _⟩ := readmits
    exact .reported pass (List.mem_of_getElem? found) here ⟨heard, told, r, listed, its⟩
  | _ => exact readmits.elim

theorem listed_perform {url : String}
    (row : (act.perform keys n).listed { url := url, allianceId := allianceId, key := key } = true) :
    Names n allianceId key := by
  cases before : n.listed { url := url, allianceId := allianceId, key := key } with
  | true => exact .listed url before
  | false => exact names_of_readmits ((perform_listed keys before act).mp row)

/-- What is under way after a step was under way before, but for a redeemed invitation, a voucher, and a pass that asks. -/
structure Continues (keys : Keys) (act : Act) (n after : Network) : Prop where
  joins : ∀ join ∈ after.joins, join ∈ n.joins ∨ Redeems n join.allianceId join.peer act
  announcements : ∀ announcement ∈ after.announcements, announcement ∈ n.announcements ∨
    ∃ inviter, Names n announcement.allianceId inviter ∧ Vouches keys announcement.allianceId inviter announcement.peer
  passes : ∀ pass ∈ after.passes, pass.heard = none ∨ ∃ old ∈ n.passes, pass = old ∨ pass = n.asked old

-- Nothing new is under way.
theorem Continues.of_mem {after : Network} (joins : ∀ join ∈ after.joins, join ∈ n.joins)
    (announcements : ∀ announcement ∈ after.announcements, announcement ∈ n.announcements)
    (passes : ∀ pass ∈ after.passes, pass ∈ n.passes) : Continues keys act n after :=
  ⟨fun join pending => .inl (joins join pending), fun other pending => .inl (announcements other pending),
    fun pass pending => .inr ⟨pass, passes pass pending, .inl rfl⟩⟩

theorem Continues.refl : Continues keys act n n := .of_mem (fun _ => id) (fun _ => id) fun _ => id

theorem Continues.modify {url : String} {change : Hub → Hub} : Continues keys act n (n.modify url change) :=
  .of_mem (fun _ => id) (fun _ => id) fun _ => id

theorem seat_arrivals (arrival : Arrival) (role : String) (now : Int) :
    (n.seat arrival role now).joins = n.joins ∧ (n.seat arrival role now).announcements = n.announcements ∧
      (n.seat arrival role now).passes = n.passes := by
  unfold Network.seat
  split <;> exact ⟨rfl, rfl, rfl⟩

theorem merged_arrivals (pass : Pass) :
    (n.merged pass).joins = n.joins ∧ (n.merged pass).announcements = n.announcements ∧
      (n.merged pass).passes = n.passes := by
  unfold Network.merged
  split <;> exact ⟨rfl, rfl, rfl⟩

theorem startJoin_pending {url peer alliance token hubUrl : String} {now : Int} {join : Arrival}
    (pending : join ∈ (startJoin n url peer alliance token hubUrl now).joins) :
    join ∈ n.joins ∨ Redeems n join.allianceId join.peer (.spendInvite url peer alliance token hubUrl now) := by
  unfold startJoin at pending
  split at pending
  next spent _ found =>
    rcases List.mem_append.mp pending with before | new
    · exact .inl before
    · obtain rfl := List.mem_singleton.mp new
      obtain ⟨hub, here, spends⟩ := Option.map_eq_some_iff.mp found
      exact .inr ⟨rfl, rfl, hub, here, congrArg Prod.snd spends⟩
  next => exact .inl pending

-- An announcement that passes has the voucher of a hub that is listed.
theorem startAnnouncement_pending {url peer : String} {req : AllianceMemberAnnouncement} {announcement : Arrival}
    (pending : announcement ∈ (startAnnouncement keys n url peer req).announcements) :
    announcement ∈ n.announcements ∨ ∃ inviter, Names n announcement.allianceId inviter ∧
      Vouches keys announcement.allianceId inviter announcement.peer := by
  unfold startAnnouncement at pending
  split at pending
  next found =>
    rcases List.mem_append.mp pending with before | new
    · exact .inl before
    · obtain rfl := List.mem_singleton.mp new
      obtain ⟨hub, here, checked⟩ := Option.map_eq_some_iff.mp found
      unfold checkAnnouncement at checked
      split at checked
      next => cases checked
      next =>
        split at checked
        next => cases checked
        next known =>
          split at checked
          next => cases checked
          next signature _ =>
            split at checked
            next => cases checked
            next verified =>
              refine .inr ⟨req.inviterPublicKey, .listed url (listed_iff.mpr ⟨hub, here, ?_⟩), signature, verified⟩
              exact Bool.eq_true_of_not_eq_false known
  next => exact .inl pending

theorem asked_reported {pass : Pass} (here : pass.allianceId = allianceId)
    (told : ∃ heard ∈ (n.asked pass).heard, ∃ r ∈ heard.2, r.hubPublicKey = key) :
    (∃ heard ∈ pass.heard, ∃ r ∈ heard.2, r.hubPublicKey = key) ∨ Names n allianceId key := by
  unfold Network.asked at told
  split at told
  next silent _ =>
    split at told
    next => exact .inl told
    next =>
      obtain ⟨heard, answered, r, listed, its⟩ := told
      obtain ⟨reported, asked, rfl⟩ := Option.map_eq_some_iff.mp answered
      obtain ⟨peer, found, asked⟩ := Option.bind_eq_some_iff.mp asked
      obtain ⟨hub, _, asked⟩ := Option.bind_eq_some_iff.mp asked
      exact .inr (names_of_answer found (here ▸ asked) listed its)
  next => exact .inl told

theorem asked_alliance (pass : Pass) : (n.asked pass).allianceId = pass.allianceId := by
  unfold Network.asked
  split
  next => split <;> rfl
  next => rfl

theorem perform_continues : Continues keys act n (act.perform keys n) := by
  cases act with
  | spendInvite url peer alliance token hubUrl now =>
    refine ⟨fun _ pending => startJoin_pending pending, ?_, ?_⟩ <;> rw [Act.perform, startJoin] <;> split
    all_goals first | exact fun _ pending => .inl pending | exact fun pass pending => .inr ⟨pass, pending, .inl rfl⟩
  | announce url peer req =>
    refine ⟨?_, fun _ pending => startAnnouncement_pending pending, ?_⟩ <;> rw [Act.perform, startAnnouncement] <;> split
    all_goals first | exact fun _ pending => .inl pending | exact fun pass pending => .inr ⟨pass, pending, .inl rfl⟩
  | finishJoin i now =>
    rw [Act.perform, finishJoin]
    split
    next => exact .refl
    next join _ =>
      obtain ⟨joins, announcements, passes⟩ := @seat_arrivals { n with joins := n.joins.eraseIdx i } join "joining" now
      exact .of_mem (fun _ pending => List.mem_of_mem_eraseIdx (joins ▸ pending)) (fun _ pending => announcements ▸ pending)
        fun _ pending => passes ▸ pending
  | admitMember i now =>
    rw [Act.perform, admitMember]
    split
    next => exact .refl
    next arrival _ =>
      obtain ⟨joins, announcements, passes⟩ :=
        @seat_arrivals { n with announcements := n.announcements.eraseIdx i } arrival "announcing" now
      exact .of_mem (fun _ pending => joins ▸ pending) (fun _ pending => List.mem_of_mem_eraseIdx (announcements ▸ pending))
        fun _ pending => passes ▸ pending
  | mirror url inviterUrl mirrored =>
    rw [Act.perform, mirrorFrom]
    split
    next => exact .refl
    next => exact .modify
  | reconcile url reconciled =>
    rw [Act.perform, startReconcile]
    split
    next => exact .refl
    next =>
      refine ⟨fun _ pending => .inl pending, fun _ pending => .inl pending, fun pass pending => ?_⟩
      rcases List.mem_append.mp pending with before | new
      · exact .inr ⟨pass, before, .inl rfl⟩
      · exact .inl (congrArg Pass.heard (List.mem_singleton.mp new))
  | merge i =>
    rw [Act.perform, mergeReport]
    split
    next => exact .refl
    next old _ =>
      obtain ⟨joins, announcements, passes⟩ :=
        @merged_arrivals { n with passes := n.passes.set i { old with heard := none } } old
      refine ⟨fun _ pending => .inl (joins ▸ pending), fun _ pending => .inl (announcements ▸ pending), ?_⟩
      intro pass pending
      rw [passes] at pending
      rcases List.mem_or_eq_of_mem_set pending with before | same
      · exact .inr ⟨pass, before, .inl rfl⟩
      · exact .inl (congrArg Pass.heard same)
  | ask i =>
    refine ⟨fun _ pending => .inl pending, fun _ pending => .inl pending, fun pass pending => ?_⟩
    obtain ⟨j, at_⟩ := List.mem_iff_getElem?.mp pending
    change (n.passes.modify i n.asked)[j]? = some pass at at_
    rw [List.getElem?_modify] at at_
    obtain ⟨old, found, same⟩ := Option.map_eq_some_iff.mp at_
    refine .inr ⟨old, List.mem_of_getElem? found, ?_⟩
    split at same
    next => exact .inr same.symm
    next => exact .inl same.symm
  | mintInvite _ _ _ _ | left _ _ _ | leave _ _ => exact .modify

/-- A step names nobody new but who redeems an invitation or has the voucher of a hub that is named. -/
theorem names_perform (named : Names (act.perform keys n) allianceId key) :
    Names n allianceId key ∨ Redeems n allianceId key act ∨
      ∃ inviter, Names n allianceId inviter ∧ Vouches keys allianceId inviter key := by
  have continues : Continues keys act n (act.perform keys n) := perform_continues
  cases named with
  | listed url row => exact .inl (listed_perform row)
  | joining join pending here its =>
    subst here its
    exact (continues.joins join pending).imp (.joining join · rfl rfl) .inl
  | announced announcement pending here its =>
    subst here its
    exact (continues.announcements announcement pending).imp (.announced announcement · rfl rfl) .inr
  | reported pass pending here told =>
    obtain silent | ⟨old, before, rfl | rfl⟩ := continues.passes pass pending
    · obtain ⟨heard, reported, _⟩ := told
      rw [silent] at reported
      cases reported
    · exact .inl (.reported pass before here told)
    · rw [asked_alliance] at here
      exact .inl ((asked_reported here told).elim (.reported old before here) id)

end

/--
However joins, copies, announcements, reports and departures interleave, a hub that is named in an alliance was
named in it before, has redeemed an invitation, or has a chain of vouchers from one that was or did.
-/
theorem names_vouched (keys : Keys) (n : Network) (acts : List Act) (allianceId key : String)
    (named : Names (Runs.run (Act.perform keys) n acts) allianceId key) :
    Vouched keys allianceId (fun first => Names n allianceId first ∨ RedeemedIn keys n acts allianceId first) key := by
  induction acts using List.reverseRecOn generalizing key with
  | nil => exact .first (.inl named)
  | append_singleton front act ih =>
    have earlier (key : String) (before : Names (Runs.run (Act.perform keys) n front) allianceId key) :
        Vouched keys allianceId
          (fun first => Names n allianceId first ∨ RedeemedIn keys n (front ++ [act]) allianceId first) key := by
      refine (ih key before).mono fun first admitted => admitted.imp_right ?_
      rintro ⟨acts, last, inside, redeems⟩
      exact ⟨acts, last, inside.trans (List.prefix_append front [act]), redeems⟩
    rw [Runs.run_append, Runs.run_cons, Runs.run_nil] at named
    rcases names_perform named with before | redeems | ⟨inviter, before, voucher⟩
    · exact earlier key before
    · exact .first (.inr ⟨front, act, List.prefix_refl _, redeems⟩)
    · exact .next (earlier inviter before) voucher

-- A fourth hub, which the first invites and the second hears of.
def invited : Network := { hubs := allied.hubs.insert "dan" { info := { publicKey := "dan", name := "dan" } } }

def invitation : List Act :=
  [.mintInvite "ann" "guilds" "token" 0, .spendInvite "ann" "dan" "guilds" "token" "dan" 1, .finishJoin 0 2,
    .reconcile "bea" "guilds", .ask 0, .merge 0]

def refusing : Keys := ⟨fun _ => false, fun _ _ _ => false, fun _ => Vector.replicate 32 0⟩

theorem names_vouched_invited :
    Vouched refusing "guilds"
      (fun first => Names invited "guilds" first ∨ RedeemedIn refusing invited invitation "guilds" first) "dan" :=
  names_vouched refusing invited invitation "guilds" "dan" (.listed "bea" (by decide))

end Wavvon.Alliances

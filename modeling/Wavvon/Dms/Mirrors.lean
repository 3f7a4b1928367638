import Wavvon.Dms.Links
import Wavvon.Dms.Outbox
import Wavvon.Identity.Registry
import Mathlib.Data.List.DropRight

set_option autoImplicit false

namespace Wavvon.Dms

open Std (ExtTreeMap)
open Tables (Nested)

/-- A hub with its outbox, and the home hubs that masters have designated here. -/
structure HomeHub where
  auth : AuthState := {}
  convs : Conversations := {}
  outbox : Nested String String OutboxRow := ∅
  designations : Table (List String) := ∅
  canonicalUrl : Option String := none

namespace HomeHub

def hubsOf (s : HomeHub) (member : String) : List String :=
  ((masterOfMember s.auth member).bind fun master => s.designations[master]?).getD []

def ownUrl (s : HomeHub) : Option String := s.canonicalUrl.map trimEndSlashes

def addTarget (own : Option String) (targets : List String) (hub : String) : List String :=
  if trimEndSlashes hub = "" ∨ some (trimEndSlashes hub) = own ∨ trimEndSlashes hub ∈ targets then targets
  else targets ++ [trimEndSlashes hub]

-- The members walked are those the request lists.
def mirrorTargets (s : HomeHub) (req : FederatedDmRequest) : List String :=
  ((req.members.filter (· ≠ req.sender)).flatMap s.hubsOf).foldl (addTarget s.ownUrl) []

def queueMirror (messageId : String) (now : Int) (outbox : Nested String String OutboxRow) (hubUrl : String) :
    Nested String String OutboxRow :=
  match outbox.get messageId hubUrl with
  | some _ => outbox
  | none => outbox.put messageId hubUrl { nextAttemptAt := now, mirror := true }

def queueHomeHubMirrors (s : HomeHub) (req : FederatedDmRequest) (now : Int) : HomeHub :=
  { s with outbox := (s.mirrorTargets req).foldl (queueMirror req.messageId now) s.outbox }

def stores (s : HomeHub) (db : Db) (convs : Conversations) : HomeHub :=
  { s with auth := { s.auth with db := db }, convs := convs }

section

variable (keys : Keys) (registries : Registries) (isUuid : String → Bool)

-- The mirrors come last: only a delivery that has stored its message gets there.
def receive (s : HomeHub) (req : FederatedDmRequest) (now : Int) : HomeHub × Except HttpError Unit :=
  let answer := receiveFederatedDm keys registries isUuid s.auth.db s.convs req
  let received := s.stores answer.1 answer.2.1
  if req.mirror ∨ req.messageId ∈ s.convs.messages ∨ req.messageId ∉ answer.2.1.messages then (received, answer.2.2)
  else (received.queueHomeHubMirrors req now, answer.2.2)

end

end HomeHub

section

variable {keys : Keys} {registries : Registries} {isUuid : String → Bool} {s : HomeHub} {req : FederatedDmRequest}
  {now : Int}

theorem trimEndSlashes_trimmed (url : String) : trimEndSlashes (trimEndSlashes url) = trimEndSlashes url := by
  simp only [trimEndSlashes, String.toList_ofList, List.reverse_reverse]
  rw [List.dropWhile_idempotent]

theorem mem_addTarget {own : Option String} {targets : List String} {hub url : String} :
    url ∈ HomeHub.addTarget own targets hub ↔
      url ∈ targets ∨ trimEndSlashes hub = url ∧ url ≠ "" ∧ some url ≠ own := by
  unfold HomeHub.addTarget
  split
  next skipped =>
    constructor
    · exact .inl
    · rintro (known | ⟨rfl, nonempty, foreign⟩)
      · exact known
      · obtain empty | own | known := skipped
        · exact absurd empty nonempty
        · exact absurd own foreign
        · exact known
  next added =>
    simp only [not_or] at added
    rw [List.mem_append, List.mem_singleton]
    constructor
    · rintro (known | rfl)
      · exact .inl known
      · exact .inr ⟨rfl, added.1, added.2.1⟩
    · rintro (known | ⟨rfl, _, _⟩)
      · exact .inl known
      · exact .inr rfl

theorem mem_foldl_addTarget {own : Option String} {hubs targets : List String} {url : String} :
    url ∈ hubs.foldl (HomeHub.addTarget own) targets ↔
      url ∈ targets ∨ (∃ hub ∈ hubs, trimEndSlashes hub = url) ∧ url ≠ "" ∧ some url ≠ own := by
  induction hubs generalizing targets with
  | nil => simp
  | cons hub rest ih =>
    rw [List.foldl_cons, ih, mem_addTarget]
    simp only [List.mem_cons, exists_eq_or_imp]
    tauto

theorem nodup_foldl_addTarget {own : Option String} {hubs targets : List String} (nodup : targets.Nodup) :
    (hubs.foldl (HomeHub.addTarget own) targets).Nodup := by
  induction hubs generalizing targets with
  | nil => exact nodup
  | cons hub rest ih =>
    refine ih ?_
    unfold HomeHub.addTarget
    split
    next => exact nodup
    next added =>
      simp only [not_or] at added
      rw [List.nodup_append]
      refine ⟨nodup, List.nodup_singleton _, ?_⟩
      rintro url known _ listed rfl
      rw [List.mem_singleton.mp listed] at known
      exact added.2.2 known

/-- The hubs a delivery is copied to: those designated by a listed member who is not the sender. -/
theorem mem_mirrorTargets {url : String} :
    url ∈ s.mirrorTargets req ↔ (∃ member ∈ req.members, member ≠ req.sender ∧ ∃ hub ∈ s.hubsOf member,
      trimEndSlashes hub = url) ∧ url ≠ "" ∧ some url ≠ s.ownUrl := by
  unfold HomeHub.mirrorTargets
  rw [mem_foldl_addTarget]
  simp only [List.not_mem_nil, false_or, List.mem_flatMap, List.mem_filter, decide_eq_true_eq]
  constructor
  · rintro ⟨⟨hub, ⟨member, ⟨listed, other⟩, designated⟩, trimmed⟩, rest⟩
    exact ⟨⟨member, listed, other, hub, designated, trimmed⟩, rest⟩
  · rintro ⟨⟨member, listed, other, hub, designated, trimmed⟩, rest⟩
    exact ⟨⟨hub, ⟨member, ⟨listed, other⟩, designated⟩, trimmed⟩, rest⟩

theorem nodup_mirrorTargets : (s.mirrorTargets req).Nodup := nodup_foldl_addTarget List.nodup_nil

theorem get_queueMirrors (messageId : String) (targets : List String) (outbox : Nested String String OutboxRow)
    (message url : String) :
    (targets.foldl (HomeHub.queueMirror messageId now) outbox).get message url =
      (outbox.get message url).or
        (if message = messageId ∧ url ∈ targets then some { nextAttemptAt := now, mirror := true } else none) := by
  induction targets generalizing outbox with
  | nil => simp
  | cons target rest ih =>
    rw [List.foldl_cons, ih]
    unfold HomeHub.queueMirror
    cases known : outbox.get messageId target with
    | some row =>
      by_cases here : message = messageId ∧ url = target
      · obtain ⟨rfl, rfl⟩ := here
        simp [known]
      · simp only [List.mem_cons]
        grind
    | none =>
      dsimp only
      rw [Nested.get_put]
      by_cases here : message = messageId ∧ url = target
      · obtain ⟨rfl, rfl⟩ := here
        simp [known]
      · simp only [List.mem_cons]
        grind

theorem mem_membersOf {convs : Conversations} {id member : String} :
    member ∈ membersOf convs id ↔ (convs.members.get id member).isSome = true := by
  unfold membersOf Nested.get
  cases convs.members[id]? with
  | none => simp
  | some inner =>
    rw [Option.getD_some, ExtTreeMap.map_fst_toList_eq_keys, ExtTreeMap.mem_keys, Option.bind_some,
      ExtTreeMap.mem_iff_isSome_getElem?]

theorem receive_mirror (mirror : req.mirror = true) (s : HomeHub) (now : Int) :
    (s.receive keys registries isUuid req now).1.outbox = s.outbox := by
  simp [HomeHub.receive, mirror, HomeHub.stores]

theorem receive_elsewhere (s : HomeHub) (now : Int) {message : String} (other : message ≠ req.messageId)
    (url : String) : (s.receive keys registries isUuid req now).1.outbox.get message url = s.outbox.get message url := by
  unfold HomeHub.receive
  dsimp only
  split
  next => rfl
  next =>
    simp only [HomeHub.queueHomeHubMirrors, get_queueMirrors]
    simp [other, HomeHub.stores]

-- Nobody but the sender is bound to a master by a delivery.
theorem hubsOf_stored {member : String} (other : member ≠ req.sender) :
    (s.stores (receiveFederatedDm keys registries isUuid s.auth.db s.convs req).1
      (receiveFederatedDm keys registries isUuid s.auth.db s.convs req).2.1).hubsOf member = s.hubsOf member := by
  have links := receiveFederatedDm_links keys registries isUuid s.auth.db s.convs req
  have same : (receiveFederatedDm keys registries isUuid s.auth.db s.convs req).1.masterOf member =
      s.auth.db.masterOf member := by
    cases before : s.auth.db.masterOf member with
    | some master => exact links.kept member master before
    | none =>
      cases after : (receiveFederatedDm keys registries isUuid s.auth.db s.convs req).1.masterOf member with
      | none => rfl
      | some master =>
        obtain known | ⟨_, sender, _⟩ := links.gained member master after
        · rw [before] at known
          cases known
        · exact absurd sender other
  simp [HomeHub.hubsOf, HomeHub.stores, masterOfMember, same]

theorem mirrorTargets_stored :
    (s.stores (receiveFederatedDm keys registries isUuid s.auth.db s.convs req).1
      (receiveFederatedDm keys registries isUuid s.auth.db s.convs req).2.1).mirrorTargets req =
        s.mirrorTargets req := by
  unfold HomeHub.mirrorTargets
  congr 1
  refine List.flatMap_congr fun member listed => hubsOf_stored ?_
  simpa using (List.mem_filter.mp listed).2

-- An accepted delivery that is no copy: its message is stored, and its copies are queued.
theorem receive_accepted (accepts : Accepts keys registries isUuid s.auth.db s.convs req)
    (original : req.mirror = false) :
    (s.receive keys registries isUuid req now).2 = .ok () ∧
      (s.receive keys registries isUuid req now).1.outbox =
        (s.mirrorTargets req).foldl (HomeHub.queueMirror req.messageId now) s.outbox := by
  obtain ⟨stored, answered⟩ := receive_stores accepts
  have fresh := accepts.fresh
  unfold HomeHub.receive
  simp only [original, fresh, stored, ExtTreeMap.mem_insert_self, Bool.false_eq_true, not_true_eq_false, or_self,
    if_false]
  exact ⟨answered, by rw [HomeHub.queueHomeHubMirrors, mirrorTargets_stored]; rfl⟩

end

end Wavvon.Dms

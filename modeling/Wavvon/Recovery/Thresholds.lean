import Wavvon.Recovery.State
import Wavvon.Shared.Runs

set_option autoImplicit false

namespace Wavvon.Recovery

open Std (ExtTreeMap)

/-- An owner who has settings has at least as many contacts as the threshold asks for, or none. -/
def ThresholdMet (s : State) : Prop :=
  ∀ (owner : String) (row : SettingsRow), s.settings[owner]? = some row →
    1 ≤ row.threshold ∧ row.threshold ≤ (s.contactsOf owner).card ∨ s.contactsOf owner = ∅

section

variable (keys : Keys) (hubPubkey : String)

-- A request that becomes ready is vouched for by enough keys that are contacts by then.
def Vouched (s : State) (call : Call) : Prop :=
  ∀ (id : String) (before after : RotationRow), s.requests[id]? = some before → before.status = .pending →
    (s.next keys hubPubkey call).requests[id]? = some after → after.status = .readyForReview →
      ((s.next keys hubPubkey call).threshold before.oldPubkey).getD 0 ≤
        ((s.next keys hubPubkey call).attestersOf id ∩
          (s.next keys hubPubkey call).contactsOf before.oldPubkey).card

def FullThreshold (s : State) (calls : List Call) : Prop :=
  (∀ front, front <+: calls → ThresholdMet (Runs.run (State.next keys hubPubkey) s front)) ∧
    Runs.Meets (State.next keys hubPubkey) (Vouched keys hubPubkey) s calls

-- The attestation passes every check and is stored.
def Attests (s : State) (id : String) (req : AttestRequest) (row : RotationRow) : Prop :=
  s.requests[id]? = some row ∧ (checkAttester row req.attester).isOk = true ∧
    (row.oldPubkey, req.attester) ∈ s.contacts ∧ (checkAttestation keys hubPubkey row req).isOk = true

/--
A list counts each contact once, a removal leaves enough contacts or none, and an attestation that
fills the threshold does not need the word of a key that is a contact no more.
-/
def Counted (s : State) : Call → Prop
  | .putContacts user req _ => (checkContacts user req).isOk = true → req.threshold.toNat ≤ req.contacts.toFinset.card
  | .deleteContact user pubkey => (user, pubkey) ∈ s.contacts → ∀ threshold ∈ s.threshold user,
      threshold < (s.contactsOf user).card ∨ (s.contactsOf user).card = 1
  | .postRotateKey _ _ _ _ => True
  | .postAttest id req => ∀ row ∈ s.requests[id]?, Attests keys hubPubkey s id req row →
      (s.threshold row.oldPubkey).getD 0 ≤ (insert req.attester (s.attestersOf id)).card →
        (s.threshold row.oldPubkey).getD 0 ≤
          (insert req.attester (s.attestersOf id) ∩ s.contactsOf row.oldPubkey).card

instance (s : State) (id : String) (req : AttestRequest) (row : RotationRow) :
    Decidable (Attests keys hubPubkey s id req row) :=
  inferInstanceAs (Decidable (_ ∧ _))

instance (s : State) : (call : Call) → Decidable (Counted keys hubPubkey s call)
  | .putContacts user req _ => inferInstanceAs (Decidable ((checkContacts user req).isOk = true →
      req.threshold.toNat ≤ req.contacts.toFinset.card))
  | .deleteContact user pubkey => inferInstanceAs (Decidable ((user, pubkey) ∈ s.contacts →
      ∀ threshold ∈ s.threshold user,
        threshold < (s.contactsOf user).card ∨ (s.contactsOf user).card = 1))
  | .postRotateKey _ _ _ _ => inferInstanceAs (Decidable True)
  | .postAttest id req => inferInstanceAs (Decidable (∀ row ∈ s.requests[id]?,
      Attests keys hubPubkey s id req row →
        (s.threshold row.oldPubkey).getD 0 ≤ ((insert req.attester (s.attestersOf id)).card : Int) →
          (s.threshold row.oldPubkey).getD 0 ≤
            ((insert req.attester (s.attestersOf id) ∩ s.contactsOf row.oldPubkey).card : Int)))

end

section

variable {s : State} {user : String} {req : SetContactsRequest} {now : Int}

theorem putContacts_refused (refused : (checkContacts user req).isOk = false) :
    (putContacts s user req now).1 = s := by
  unfold putContacts
  cases checked : checkContacts user req with
  | error e => rfl
  | ok _ => simp [checked, Except.isOk, Except.toBool] at refused

theorem checkContacts_threshold (accepted : (checkContacts user req).isOk = true) :
    1 ≤ req.threshold.toNat ∧ req.threshold.toNat ≤ req.contacts.length := by
  unfold checkContacts at accepted
  split at accepted
  next => cases accepted
  next =>
    split at accepted
    next => cases accepted
    next fits =>
      obtain ⟨nonzero, enough⟩ := not_or.mp fits
      have positive : req.threshold.toNat ≠ 0 := by
        intro zero
        exact nonzero (UInt32.toNat_inj.mp zero)
      omega

theorem putContacts_contactsOf (accepted : (checkContacts user req).isOk = true) (owner : String) :
    (putContacts s user req now).1.contactsOf owner =
      if owner = user then req.contacts.toFinset else s.contactsOf owner := by
  unfold putContacts
  cases checked : checkContacts user req with
  | error e => simp [checked, Except.isOk, Except.toBool] at accepted
  | ok _ =>
    ext contact
    simp only [State.contactsOf, mem_namedUnder, mem_replaced, Finset.mem_filter]
    by_cases same : owner = user
    next => simp [same]
    next => simp [same]

theorem putContacts_settings (accepted : (checkContacts user req).isOk = true) (owner : String) :
    ((putContacts s user req now).1.settings[owner]?).map (·.threshold) =
      if owner = user then some (req.threshold.toNat : Int) else s.threshold owner := by
  unfold putContacts
  cases checked : checkContacts user req with
  | error e => simp [checked, Except.isOk, Except.toBool] at accepted
  | ok _ =>
    simp only [upsertSettings, ExtTreeMap.getElem?_insert, Std.compare_eq_iff_eq, State.threshold]
    by_cases same : owner = user
    next => simp [same]
    next => simp [same, Ne.symm same]

-- The invariant, read through the two lookups.
theorem thresholdMet_iff : ThresholdMet s ↔ ∀ owner threshold, s.threshold owner = some threshold →
    1 ≤ threshold ∧ threshold ≤ (s.contactsOf owner).card ∨ s.contactsOf owner = ∅ := by
  constructor
  · intro met owner threshold stored
    obtain ⟨row, found, rfl⟩ := Option.map_eq_some_iff.mp stored
    exact met owner row found
  · intro met owner row found
    exact met owner row.threshold (by simp [State.threshold, found])

theorem putContacts_met (met : ThresholdMet s) (accepted : (checkContacts user req).isOk = true) :
    ThresholdMet (putContacts s user req now).1 ↔ req.threshold.toNat ≤ req.contacts.toFinset.card := by
  obtain ⟨positive, listed⟩ := checkContacts_threshold accepted
  rw [thresholdMet_iff]
  constructor
  · intro after
    have own := after user req.threshold.toNat ((putContacts_settings accepted user).trans (if_pos rfl))
    rw [putContacts_contactsOf accepted, if_pos rfl] at own
    rcases own with ⟨_, enough⟩ | none
    · exact Int.ofNat_le.mp enough
    · have empty : req.contacts = [] := (List.toFinset_eq_empty_iff _).mp none
      rw [empty, List.length_nil] at listed
      omega
  · intro distinct owner threshold stored
    have stored := (putContacts_settings accepted owner).symm.trans stored
    rw [putContacts_contactsOf accepted]
    by_cases same : owner = user
    next =>
      rw [if_pos same] at stored ⊢
      cases stored
      exact .inl ⟨Int.ofNat_le.mpr positive, Int.ofNat_le.mpr distinct⟩
    next =>
      rw [if_neg same] at stored ⊢
      exact thresholdMet_iff.mp met owner threshold stored

theorem deleteContact_met (met : ThresholdMet s) (pubkey : String) :
    ThresholdMet (deleteContact s user pubkey).1 ↔
      ((user, pubkey) ∈ s.contacts → ∀ threshold ∈ s.threshold user,
        threshold < (s.contactsOf user).card ∨ (s.contactsOf user).card = 1) := by
  have own : (deleteContact s user pubkey).1.contactsOf user = (s.contactsOf user).erase pubkey :=
    namedUnder_erase s.contacts user pubkey
  have others : ∀ owner, owner ≠ user → (deleteContact s user pubkey).1.contactsOf owner = s.contactsOf owner :=
    fun _ apart => namedUnder_erase_other s.contacts pubkey apart
  constructor
  · intro after stored threshold kept
    obtain ⟨row, found, rfl⟩ := Option.map_eq_some_iff.mp kept
    have member : pubkey ∈ s.contactsOf user := mem_namedUnder.mpr stored
    have fewer := Finset.card_erase_of_mem member
    have positive := Finset.card_pos.mpr ⟨pubkey, member⟩
    rcases after user row found with ⟨_, enough⟩ | none
    · rw [own, fewer] at enough
      left
      omega
    · rw [own] at none
      rw [none, Finset.card_empty] at fewer
      right
      omega
  · intro leaves owner row found
    by_cases same : owner = user
    next =>
      subst same
      rw [own]
      by_cases stored : (owner, pubkey) ∈ s.contacts
      next =>
        have member : pubkey ∈ s.contactsOf owner := mem_namedUnder.mpr stored
        have fewer := Finset.card_erase_of_mem member
        rcases met owner row found with ⟨positive, _⟩ | none
        · rcases leaves stored row.threshold (Option.map_eq_some_iff.mpr ⟨row, found, rfl⟩) with more | last
          · left
            omega
          · right
            rw [← Finset.card_eq_zero]
            omega
        · rw [none] at member
          cases member
      next =>
        have absent : pubkey ∉ s.contactsOf owner := fun member => stored (mem_namedUnder.mp member)
        rw [Finset.erase_eq_of_notMem absent]
        exact met owner row found
    next =>
      rw [others owner same]
      exact met owner row found

end

section

variable {keys : Keys} {hubPubkey : String} {s : State} {id : String} {req : AttestRequest}

theorem Attests.row {first second : RotationRow} (left : Attests keys hubPubkey s id req first)
    (right : s.requests[id]? = some second) : first = second :=
  Option.some.inj (left.1.symm.trans right)

theorem postAttest_refused (refused : ∀ row, ¬ Attests keys hubPubkey s id req row) :
    (postAttest keys hubPubkey s id req).1 = s := by
  unfold postAttest
  cases found : s.requests[id]? with
  | none => rfl
  | some row =>
    dsimp only
    cases status : checkAttester row req.attester with
    | error e => rfl
    | ok _ =>
      dsimp only
      split
      next => rfl
      next contact =>
        cases signed : checkAttestation keys hubPubkey row req with
        | error e => rfl
        | ok _ =>
          refine absurd ⟨found, ?_, not_not.mp contact, ?_⟩ (refused row)
          · rw [status]
            rfl
          · rw [signed]
            rfl

theorem postAttest_attests {row : RotationRow} (attests : Attests keys hubPubkey s id req row) :
    (postAttest keys hubPubkey s id req).1 =
      { s with
        attestations := insert (id, req.attester) s.attestations
        requests := if (s.threshold row.oldPubkey).getD 0 ≤ ((insert req.attester (s.attestersOf id)).card : Int)
          then s.requests.modify id flipReady else s.requests } := by
  obtain ⟨found, status, contact, signed⟩ := attests
  have counted : ({ s with attestations := insert (id, req.attester) s.attestations } : State).attestersOf id =
      insert req.attester (s.attestersOf id) := namedUnder_insert s.attestations id req.attester
  unfold postAttest
  rw [found]
  dsimp only
  cases checked : checkAttester row req.attester with
  | error e => simp [checked, Except.isOk, Except.toBool] at status
  | ok _ =>
    dsimp only
    rw [if_neg (not_not.mpr contact)]
    cases verified : checkAttestation keys hubPubkey row req with
    | error e => simp [verified, Except.isOk, Except.toBool] at signed
    | ok _ =>
      dsimp only
      rw [counted]
      by_cases tips : (s.threshold row.oldPubkey).getD 0 ≤ ((insert req.attester (s.attestersOf id)).card : Int)
      next =>
        rw [if_pos tips]
        exact congrArg Prod.fst (if_pos tips)
      next =>
        rw [if_neg tips]
        exact congrArg Prod.fst (if_neg tips)

-- Only an attestation makes a request ready.
theorem vouched_of_kept {call : Call}
    (kept : ∀ (id : String) (row : RotationRow), s.requests[id]? = some row →
      (s.next keys hubPubkey call).requests[id]? = some row) : Vouched keys hubPubkey s call := by
  intro id before after found pending reached ready
  rw [kept id before found] at reached
  cases reached
  rw [pending] at ready
  cases ready

theorem attest_vouched :
    Vouched keys hubPubkey s (.postAttest id req) ↔ Counted keys hubPubkey s (.postAttest id req) := by
  by_cases attested : ∃ row, Attests keys hubPubkey s id req row
  next =>
    obtain ⟨row, attests⟩ := attested
    have step : s.next keys hubPubkey (.postAttest id req) = _ := postAttest_attests attests
    have pending : row.status = .pending := by
      by_contra other
      have status := attests.2.1
      simp [checkAttester, other, Except.isOk, Except.toBool] at status
    have voters : (s.next keys hubPubkey (.postAttest id req)).attestersOf id = insert req.attester (s.attestersOf id) := by
      rw [step]
      exact namedUnder_insert s.attestations id req.attester
    have contacts : (s.next keys hubPubkey (.postAttest id req)).contactsOf row.oldPubkey =
        s.contactsOf row.oldPubkey := by
      rw [step]
      rfl
    have threshold : (s.next keys hubPubkey (.postAttest id req)).threshold row.oldPubkey =
        s.threshold row.oldPubkey := by
      rw [step]
      rfl
    constructor
    · intro vouched other _ again enough
      cases again.row attests.1
      have flipped : (s.next keys hubPubkey (.postAttest id req)).requests[id]? = some (flipReady row) := by
        rw [step, if_pos enough]
        simp [attests.1]
      have told := vouched id row (flipReady row) attests.1 pending flipped (by simp [flipReady, pending])
      rw [voters, contacts, threshold] at told
      exact told
    · intro counted other before after waiting undecided reached ready
      rw [step] at reached
      by_cases flips : other = id ∧
          (s.threshold row.oldPubkey).getD 0 ≤ ((insert req.attester (s.attestersOf id)).card : Int)
      next =>
        obtain ⟨rfl, tips⟩ := flips
        cases attests.row waiting
        rw [voters, contacts, threshold]
        exact counted row attests.1 attests tips
      next =>
        -- Every other request keeps its status.
        have same : after = before := by
          dsimp only at reached
          split at reached
          next tips =>
            have apart : id ≠ other := fun same => flips ⟨same.symm, tips⟩
            rw [ExtTreeMap.getElem?_modify, if_neg (by simpa using apart)] at reached
            exact Option.some.inj (reached.symm.trans waiting)
          next => exact Option.some.inj (reached.symm.trans waiting)
        rw [same, undecided] at ready
        cases ready
  next =>
    have none := not_exists.mp attested
    have step : s.next keys hubPubkey (.postAttest id req) = s := postAttest_refused none
    constructor
    · intro _ row _ attests
      exact absurd attests (none row)
    · intro _
      apply vouched_of_kept
      intro other row found
      rw [step]
      exact found

end

section

variable (keys : Keys) (hubPubkey : String)

theorem postAttest_met {s : State} (met : ThresholdMet s) (id : String) (req : AttestRequest) :
    ThresholdMet (postAttest keys hubPubkey s id req).1 := by
  by_cases attested : ∃ row, Attests keys hubPubkey s id req row
  next =>
    obtain ⟨row, attests⟩ := attested
    rw [postAttest_attests attests]
    exact met
  next =>
    rw [postAttest_refused (not_exists.mp attested)]
    exact met

theorem postRotateKey_same (s : State) (req : RotateKeyRequest) (id nonce : String) (now : Int) :
    (postRotateKey keys hubPubkey s req id nonce now).1 = s ∨
      id ∉ s.requests ∧ (postRotateKey keys hubPubkey s req id nonce now).1 =
        { s with requests := s.requests.insert id (rotationRow req nonce now) } := by
  unfold postRotateKey
  cases checkRotation keys hubPubkey s req with
  | error e => exact .inl rfl
  | ok _ =>
    dsimp only
    split
    next => exact .inl rfl
    next fresh => exact .inr ⟨fresh, rfl⟩

-- One call, judged by what it leaves and by what it lets through.
theorem counted_iff {s : State} (met : ThresholdMet s) (call : Call) :
    Counted keys hubPubkey s call ↔
      ThresholdMet (s.next keys hubPubkey call) ∧ Vouched keys hubPubkey s call := by
  cases call with
  | putContacts user req now =>
    have vouched : Vouched keys hubPubkey s (.putContacts user req now) := by
      apply vouched_of_kept
      intro id row found
      simp only [State.next, putContacts]
      split <;> exact found
    cases accepted : (checkContacts user req).isOk with
    | false =>
      have same : s.next keys hubPubkey (.putContacts user req now) = s := putContacts_refused accepted
      rw [same]
      exact iff_of_true (by simp [Counted, accepted]) ⟨met, vouched⟩
    | true =>
      have after : ThresholdMet (s.next keys hubPubkey (.putContacts user req now)) ↔ _ :=
        putContacts_met met accepted
      rw [after]
      simp [Counted, accepted, vouched]
  | deleteContact user pubkey =>
    have vouched : Vouched keys hubPubkey s (.deleteContact user pubkey) := vouched_of_kept fun _ _ found => found
    have after : ThresholdMet (s.next keys hubPubkey (.deleteContact user pubkey)) ↔ _ :=
      deleteContact_met met pubkey
    rw [after]
    exact (and_iff_left vouched).symm
  | postRotateKey req id nonce now =>
    have step : s.next keys hubPubkey (.postRotateKey req id nonce now) = s ∨ _ :=
      postRotateKey_same keys hubPubkey s req id nonce now
    refine iff_of_true trivial ⟨?_, ?_⟩
    · rcases step with same | ⟨_, opened⟩
      · rw [same]
        exact met
      · rw [State.next, opened]
        exact met
    · apply vouched_of_kept
      intro other row found
      rcases step with same | ⟨fresh, opened⟩
      · rw [same]
        exact found
      · have apart : id ≠ other := by
          rintro rfl
          exact fresh (ExtTreeMap.mem_iff_isSome_getElem?.mpr (by simp [found]))
        rw [State.next, opened, ExtTreeMap.getElem?_insert, if_neg (by simpa using apart)]
        exact found
  | postAttest id req =>
    rw [← attest_vouched]
    exact (and_iff_right (postAttest_met keys hubPubkey met id req)).symm

end

-- An open request of an owner with two contacts, either of whom is enough.
def openRequest : State :=
  { settings := (∅ : Table SettingsRow).insert "owner" { threshold := 1, createdAt := 5 }
    contacts := {("owner", namedKey 2), ("owner", namedKey 3)}
    requests := (∅ : Table RotationRow).insert "request"
      { oldPubkey := "owner", newPubkey := namedKey 4, createdAt := 6 } }

theorem openRequest_met : ThresholdMet openRequest := by
  rw [thresholdMet_iff]
  intro owner threshold stored
  simp only [State.threshold, openRequest, ExtTreeMap.getElem?_insert, Std.compare_eq_iff_eq] at stored
  split at stored
  next same =>
    subst same
    cases stored
    exact .inl (by decide)
  next => simp at stored

end Wavvon.Recovery

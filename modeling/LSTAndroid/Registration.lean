import LSTAndroid.Library.FirstOccurrences
import LSTAndroid.Mediator

/-!
`PacoReceiver` and `CabSubscriptions`: how the engine decodes registration messages
and accumulates them.
-/

namespace LSTAndroid.Registration

open LSTAndroid.Library.FirstOccurrences
open LSTAndroid.Samples
open LSTAndroid.Mediator

structure CabIdentifier where
  cabId : Option String
  displayName : Option String
  deriving DecidableEq

namespace CabIdentifier

/-- `equals` against an identifier of another object; it calls the methods of the
fields of `other`. -/
def equals (this other : CabIdentifier) : Except RuntimeException Bool :=
  match other.cabId with
  | none => .error .nullPointer
  | some cabId =>
      if some cabId = this.cabId then
        match other.displayName with
        | none => .error .nullPointer
        | some displayName => .ok (decide (some displayName = this.displayName))
      else .ok false

def ofNames (cabId displayName : String) : CabIdentifier :=
  ⟨some cabId, some displayName⟩

def Named (identifier : CabIdentifier) : Prop :=
  ∃ cabId displayName, identifier = ofNames cabId displayName

theorem equals_of_named (this : CabIdentifier) {other : CabIdentifier} (h : other.Named) :
    this.equals other = .ok (decide (this = other)) := by
  obtain ⟨cabId, displayName, rfl⟩ := h
  rcases this with ⟨ownId, ownName⟩
  simp only [equals, ofNames, CabIdentifier.mk.injEq]
  split
  · rename_i hid
    simp [← hid, eq_comm]
  · rename_i hid
    simp [Ne.symm hid]

end CabIdentifier

/-- `List.contains`, which asks the new identifier for equality with each entry. -/
def contains (identifier : CabIdentifier) : List CabIdentifier → Except RuntimeException Bool
  | [] => .ok false
  | entry :: cabs => do
      if ← identifier.equals entry then return true else contains identifier cabs

theorem contains_of_named (identifier : CabIdentifier) {cabs : List CabIdentifier}
    (h : ∀ entry ∈ cabs, entry.Named) :
    contains identifier cabs = .ok (decide (identifier ∈ cabs)) := by
  induction cabs with
  | nil => rfl
  | cons entry cabs ih =>
      have hentry := identifier.equals_of_named (h entry List.mem_cons_self)
      have hrest := ih fun other hother => h other (List.mem_cons_of_mem entry hother)
      simp only [contains, hentry, hrest, bind, Except.bind, pure, Except.pure]
      by_cases heq : identifier = entry
      · simp [heq]
      · simp [heq]

structure CabSubscriptions where
  cabSubs : Option String → Option (List CabIdentifier)

namespace CabSubscriptions

def empty : CabSubscriptions := ⟨fun _ => none⟩

def add (cabId displayName sensorName : Option String) (subs : CabSubscriptions) :
    Except RuntimeException CabSubscriptions :=
  let identifier : CabIdentifier := ⟨cabId, displayName⟩
  match subs.cabSubs sensorName with
  | none => .ok ⟨Function.update subs.cabSubs sensorName (some [identifier])⟩
  | some cabs => do
      if ← contains identifier cabs then return subs
      else return ⟨Function.update subs.cabSubs sensorName (some (cabs ++ [identifier]))⟩

def get (subs : CabSubscriptions) (sensorName : Option String) : List CabIdentifier :=
  (subs.cabSubs sensorName).getD []

def Named (subs : CabSubscriptions) : Prop :=
  ∀ sensorName, ∀ entry ∈ subs.get sensorName, entry.Named

theorem get_update (subs : CabSubscriptions) (sensorName : Option String)
    (cabs : List CabIdentifier) :
    (CabSubscriptions.mk (Function.update subs.cabSubs sensorName (some cabs))).get =
      Function.update subs.get sensorName cabs := by
  funext other
  by_cases hother : other = sensorName <;> simp [get, hother]

theorem named_of_get_eq {subs after : CabSubscriptions} (h : subs.Named)
    {identifier : CabIdentifier} (hidentifier : identifier.Named) {sensorName : Option String}
    (hafter : after.get = Function.update subs.get sensorName
      (appendNew (subs.get sensorName) identifier)) : after.Named := by
  intro other entry hentry
  rw [hafter] at hentry
  by_cases hother : other = sensorName
  · rw [hother, Function.update_self, appendNew] at hentry
    split at hentry
    · exact h sensorName entry hentry
    · rcases List.mem_append.mp hentry with hold | hnew
      · exact h sensorName entry hold
      · rwa [List.mem_singleton.mp hnew]
  · rw [Function.update_of_ne hother] at hentry
    exact h other entry hentry

theorem add_named {subs : CabSubscriptions} (h : subs.Named) {identifier : CabIdentifier}
    (hidentifier : identifier.Named) (sensorName : Option String) :
    ∃ after, subs.add identifier.cabId identifier.displayName sensorName = .ok after ∧
      after.Named ∧ after.get = Function.update subs.get sensorName
        (appendNew (subs.get sensorName) identifier) := by
  suffices hadd : ∃ after, subs.add identifier.cabId identifier.displayName sensorName =
      .ok after ∧ after.get = Function.update subs.get sensorName
        (appendNew (subs.get sensorName) identifier) by
    obtain ⟨after, hok, hafter⟩ := hadd
    exact ⟨after, hok, named_of_get_eq h hidentifier hafter, hafter⟩
  rcases hcabs : subs.cabSubs sensorName with _ | cabs
  · refine ⟨⟨Function.update subs.cabSubs sensorName (some [identifier])⟩, ?_, ?_⟩
    · simp only [add, hcabs]
    · rw [get_update]
      simp [get, hcabs, appendNew]
  · have hget : subs.get sensorName = cabs := by
      simp [get, hcabs]
    have hcontains := contains_of_named identifier (hget ▸ h sensorName)
    by_cases hmem : identifier ∈ cabs
    · refine ⟨subs, ?_, ?_⟩
      · simp [add, hcabs, hcontains, hmem, bind, Except.bind, pure, Except.pure]
      · rw [hget, appendNew, if_pos hmem, ← hget, Function.update_eq_self]
    · refine ⟨⟨Function.update subs.cabSubs sensorName (some (cabs ++ [identifier]))⟩, ?_, ?_⟩
      · simp [add, hcabs, hcontains, hmem, bind, Except.bind, pure, Except.pure]
      · rw [get_update, hget, appendNew, if_neg hmem]

end CabSubscriptions

/-- `PacoReceiver.onReceive`. -/
def onReceive {S : Type} (intent : Intent S) (subs : CabSubscriptions) :
    Except RuntimeException CabSubscriptions :=
  match intent.getStringExtra "action" with
  | none => .error .nullPointer
  | some action =>
      if action = Actions.CabPacoReg then
        let cabId := intent.getStringExtra "cabId"
        let displayName := intent.getStringExtra "displayName"
        let numSensors := intent.getIntExtra "numSensors" 0
        (List.range numSensors.toNat).foldlM (fun subs i =>
          subs.add cabId displayName
            (intent.getStringExtra (PacoMediator.sensorKey (i + 1)))) subs
      else .ok subs

abbrev Request := Option String × CabIdentifier

def requestsOf {S : Type} (intent : Intent S) : List Request :=
  if intent.getStringExtra "action" = some Actions.CabPacoReg then
    (List.range (intent.getIntExtra "numSensors" 0).toNat).map fun i =>
      (intent.getStringExtra (PacoMediator.sensorKey (i + 1)),
        ⟨intent.getStringExtra "cabId", intent.getStringExtra "displayName"⟩)
  else []

/-- The subscriptions list, under each sensor, the identifiers requested for it,
without repetition and in the order of the first request. -/
structure Records (subs : CabSubscriptions) (requests : List Request) : Prop where
  named : subs.Named
  get_eq : ∀ sensorName, subs.get sensorName =
    ((requests.filter fun request => request.1 = sensorName).map Prod.snd).eraseDups

theorem records_empty : Records .empty [] :=
  ⟨by simp [CabSubscriptions.Named, CabSubscriptions.get, CabSubscriptions.empty],
    fun _ => rfl⟩

theorem Records.of_repeated {subs : CabSubscriptions} {requests more : List Request}
    (h : Records subs (requests ++ more)) (hmore : ∀ request ∈ more, request ∈ requests) :
    Records subs requests := by
  refine ⟨h.named, ?_⟩
  intro sensorName
  rw [h.get_eq, List.filter_append, List.map_append]
  apply eraseDups_append_of_mem
  intro identifier hidentifier
  obtain ⟨request, hrequest, rfl⟩ := List.mem_map.mp hidentifier
  obtain ⟨hmem, hsensor⟩ := List.mem_filter.mp hrequest
  exact List.mem_map.mpr ⟨request, List.mem_filter.mpr ⟨hmore request hmem, hsensor⟩, rfl⟩

theorem add_records {subs : CabSubscriptions} {requests : List Request}
    (h : Records subs requests) {identifier : CabIdentifier} (hidentifier : identifier.Named)
    (sensorName : Option String) :
    ∃ after, subs.add identifier.cabId identifier.displayName sensorName = .ok after ∧
      Records after (requests ++ [(sensorName, identifier)]) := by
  obtain ⟨after, hadd, hnamed, hget⟩ := CabSubscriptions.add_named h.named hidentifier sensorName
  refine ⟨after, hadd, hnamed, ?_⟩
  intro other
  rw [hget, List.filter_append, List.map_append]
  rcases eq_or_ne other sensorName with rfl | hother
  · rw [Function.update_self, h.get_eq]
    simp [eraseDups_concat]
  · rw [Function.update_of_ne hother, h.get_eq]
    simp [Ne.symm hother]

theorem foldlM_add_records {subs : CabSubscriptions} {requests : List Request}
    (h : Records subs requests) (identifier : CabIdentifier)
    (sensorNames : List (Option String)) (hidentifier : sensorNames ≠ [] → identifier.Named) :
    ∃ after, sensorNames.foldlM (fun subs sensorName =>
        subs.add identifier.cabId identifier.displayName sensorName) subs = .ok after ∧
      Records after (requests ++ sensorNames.map fun sensorName => (sensorName, identifier)) := by
  induction sensorNames generalizing subs requests with
  | nil => exact ⟨subs, rfl, by simpa using h⟩
  | cons sensorName sensorNames ih =>
      have hnamed : identifier.Named := hidentifier (List.cons_ne_nil sensorName sensorNames)
      obtain ⟨next, hadd, hnext⟩ := add_records h hnamed sensorName
      obtain ⟨after, hrest, hafter⟩ := ih hnext fun _ => hnamed
      refine ⟨after, ?_, by simpa using hafter⟩
      rw [List.foldlM_cons, hadd]
      exact hrest

variable {S : Type}

structure WellFormed (intent : Intent S) : Prop where
  action : intent.getStringExtra "action" ≠ none
  named : ∀ request ∈ requestsOf intent, request.2.Named

theorem onReceive_records {intent : Intent S} (hintent : WellFormed intent)
    {subs : CabSubscriptions} {requests : List Request} (h : Records subs requests) :
    ∃ after, onReceive intent subs = .ok after ∧
      Records after (requests ++ requestsOf intent) := by
  rcases haction : intent.getStringExtra "action" with _ | action
  · exact absurd haction hintent.action
  by_cases hreg : action = Actions.CabPacoReg
  · have hrequests : requestsOf intent =
        ((List.range (intent.getIntExtra "numSensors" 0).toNat).map fun i =>
          intent.getStringExtra (PacoMediator.sensorKey (i + 1))).map fun sensorName =>
            (sensorName,
              ⟨intent.getStringExtra "cabId", intent.getStringExtra "displayName"⟩) := by
      simp [requestsOf, haction, hreg]
    obtain ⟨after, hfold, hafter⟩ := foldlM_add_records h
      ⟨intent.getStringExtra "cabId", intent.getStringExtra "displayName"⟩
      ((List.range (intent.getIntExtra "numSensors" 0).toNat).map fun i =>
        intent.getStringExtra (PacoMediator.sensorKey (i + 1))) (by
          intro hne
          obtain ⟨sensorName, hmem⟩ := List.exists_mem_of_ne_nil _ hne
          exact hintent.named (sensorName, _)
            (hrequests ▸ List.mem_map.mpr ⟨sensorName, hmem, rfl⟩))
    refine ⟨after, ?_, by rwa [hrequests]⟩
    rw [List.foldlM_map] at hfold
    rw [← hfold]
    simp only [onReceive, haction, if_pos hreg]
  · refine ⟨subs, by simp [onReceive, haction, hreg], ?_⟩
    rw [requestsOf, haction, if_neg (by simpa using hreg), List.append_nil]
    exact h

def deliver (messages : List (Intent S)) (subs : CabSubscriptions) :
    Except RuntimeException CabSubscriptions :=
  messages.foldlM (fun subs intent => onReceive intent subs) subs

theorem deliver_records {messages : List (Intent S)}
    (hmessages : ∀ intent ∈ messages, WellFormed intent)
    {subs : CabSubscriptions} {requests : List Request} (h : Records subs requests) :
    ∃ after, deliver messages subs = .ok after ∧
      Records after (requests ++ messages.flatMap requestsOf) := by
  induction messages generalizing subs requests with
  | nil => exact ⟨subs, rfl, by simpa using h⟩
  | cons intent messages ih =>
      obtain ⟨next, hreceive, hnext⟩ :=
        onReceive_records (hmessages intent List.mem_cons_self) h
      obtain ⟨after, hrest, hafter⟩ :=
        ih (fun other hother => hmessages other (List.mem_cons_of_mem intent hother)) hnext
      refine ⟨after, ?_, by simpa using hafter⟩
      rw [deliver, List.foldlM_cons, hreceive]
      exact hrest

structure Submission where
  cabId : String
  displayName : String
  mediator : PacoMediator
  deriving DecidableEq

namespace Submission

variable (submission : Submission)

def intents : List (Intent S) :=
  submission.mediator.submit submission.cabId submission.displayName

def identifier : CabIdentifier :=
  .ofNames submission.cabId submission.displayName

def requests : List Request :=
  submission.mediator.sensorSubs.map fun sensor => (some sensor, submission.identifier)

theorem requestsOf_regIntent :
    requestsOf (submission.mediator.regIntent submission.cabId submission.displayName :
        Intent S) = submission.requests := by
  apply List.ext_getElem
  · simp [requestsOf, requests]
  · intro i hi hi'
    have hlength : i < submission.mediator.sensorSubs.length := by
      simpa [requests] using hi'
    simp [requestsOf, requests, identifier, CabIdentifier.ofNames,
      PacoMediator.regIntent_sensor _ _ _ i hlength]

theorem requestsOf_cabRegIntent (cab : String) :
    requestsOf (PacoMediator.cabRegIntent submission.cabId submission.displayName cab :
      Intent S) = [] := by
  rw [requestsOf, PacoMediator.cabRegIntent_kind, if_neg (by decide)]

theorem wellFormed_regIntent :
    WellFormed (submission.mediator.regIntent submission.cabId submission.displayName :
      Intent S) := by
  refine ⟨by simp, ?_⟩
  rw [requestsOf_regIntent]
  intro request hrequest
  obtain ⟨sensor, -, rfl⟩ := List.mem_map.mp hrequest
  exact ⟨submission.cabId, submission.displayName, rfl⟩

theorem wellFormed_of_mem_intents {intent : Intent S} (h : intent ∈ submission.intents) :
    WellFormed intent := by
  rcases List.mem_cons.mp h with rfl | hcab
  · exact submission.wellFormed_regIntent
  · obtain ⟨cab, -, rfl⟩ := List.mem_map.mp hcab
    refine ⟨by simp, ?_⟩
    rw [requestsOf_cabRegIntent]
    simp

end Submission

def engineMessages (submissions : List Submission) : List (Intent S) :=
  (submissions.flatMap Submission.intents).filter fun intent =>
    intent.action = some CONTEXT_ENGINE

theorem flatMap_requestsOf_engineMessages (submissions : List Submission) :
    (engineMessages submissions : List (Intent S)).flatMap requestsOf =
      submissions.flatMap Submission.requests := by
  rw [engineMessages, List.filter_flatMap, List.flatMap_assoc]
  apply List.flatMap_congr
  intro submission _
  have hcabs : ∀ cabs : List String,
      ((cabs.map (PacoMediator.cabRegIntent submission.cabId submission.displayName)).filter
        fun intent : Intent S => intent.action = some CONTEXT_ENGINE).flatMap requestsOf =
          [] := by
    intro cabs
    rw [List.flatMap_eq_nil_iff]
    intro intent hintent
    obtain ⟨cab, -, rfl⟩ := List.mem_map.mp (List.mem_of_mem_filter hintent)
    exact submission.requestsOf_cabRegIntent cab
  rw [Submission.intents, PacoMediator.submit, List.filter_cons_of_pos (by simp),
    List.flatMap_cons, hcabs, List.append_nil, Submission.requestsOf_regIntent]

theorem Submission.eraseDups_requests (submission : Submission) (sensor : String) :
    ((submission.requests.filter fun request => request.1 = some sensor).map
        Prod.snd).eraseDups =
      if sensor ∈ submission.mediator.sensorSubs then [submission.identifier] else [] := by
  rw [eraseDups_of_forall_eq (a := submission.identifier)]
  · by_cases hmem : sensor ∈ submission.mediator.sensorSubs
    · rw [if_pos hmem, if_neg]
      simpa [requests] using hmem
    · rw [if_neg hmem, if_pos]
      rw [List.map_eq_nil_iff, List.filter_eq_nil_iff]
      intro request hrequest
      obtain ⟨other, hother, rfl⟩ := List.mem_map.mp hrequest
      simpa using fun heq : other = sensor => hmem (heq ▸ hother)
  · intro identifier hidentifier
    obtain ⟨request, hrequest, rfl⟩ := List.mem_map.mp hidentifier
    obtain ⟨other, -, rfl⟩ := List.mem_map.mp (List.mem_of_mem_filter hrequest)
    rfl

theorem eraseDups_requests (submissions : List Submission) (sensor : String) :
    (((submissions.flatMap Submission.requests).filter
        fun request => request.1 = some sensor).map Prod.snd).eraseDups =
      ((submissions.filter fun submission =>
        sensor ∈ submission.mediator.sensorSubs).map Submission.identifier).eraseDups := by
  have hright : (submissions.filter fun submission =>
        sensor ∈ submission.mediator.sensorSubs).map Submission.identifier =
      submissions.flatMap fun submission =>
        if sensor ∈ submission.mediator.sensorSubs then [submission.identifier] else [] := by
    induction submissions with
    | nil => rfl
    | cons submission submissions ih =>
        rw [List.flatMap_cons, ← ih, List.filter_cons]
        by_cases hmem : sensor ∈ submission.mediator.sensorSubs <;> simp [hmem]
  rw [List.filter_flatMap, List.map_flatMap, hright]
  apply eraseDups_flatMap_congr
  intro submission _
  rw [submission.eraseDups_requests sensor]
  split
  · simp [List.eraseDups_cons]
  · rfl

/-- The engine lists the cabs of a sensor once each, in the order in which they
first registered, and the order of delivery changes only that order. -/
theorem registrations_accumulate (submissions : List Submission) :
    ∃ subs, deliver (engineMessages submissions : List (Intent S)) .empty = .ok subs ∧
      (∀ sensor : String, subs.get (some sensor) =
        ((submissions.filter fun submission =>
          sensor ∈ submission.mediator.sensorSubs).map Submission.identifier).eraseDups) ∧
      ∀ order : List (Intent S), order.Perm (engineMessages submissions) →
        ∃ other, deliver order .empty = .ok other ∧
          ∀ sensorName, (other.get sensorName).Perm (subs.get sensorName) := by
  have hwell : ∀ intent ∈ (engineMessages submissions : List (Intent S)),
      WellFormed intent := by
    intro intent hintent
    obtain ⟨submission, -, hmem⟩ := List.mem_flatMap.mp (List.mem_of_mem_filter hintent)
    exact submission.wellFormed_of_mem_intents hmem
  obtain ⟨subs, hdeliver, hrecords⟩ := deliver_records hwell records_empty
  refine ⟨subs, hdeliver, ?_, ?_⟩
  · intro sensor
    rw [hrecords.get_eq, List.nil_append, flatMap_requestsOf_engineMessages,
      eraseDups_requests]
  · intro order hperm
    obtain ⟨other, hother, hrecordsOther⟩ :=
      deliver_records (fun intent hintent => hwell intent (hperm.mem_iff.mp hintent))
        records_empty
    refine ⟨other, hother, ?_⟩
    intro sensorName
    rw [hrecordsOther.get_eq, hrecords.get_eq]
    apply eraseDups_perm
    intro identifier
    have hrequests := hperm.flatMap_right requestsOf
    exact ((hrequests.filter _).map Prod.snd).mem_iff

end LSTAndroid.Registration

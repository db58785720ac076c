import Meshd.Framework.JavaScript
import Meshd.Mesh.SingleUse

namespace Meshd.Mesh

open Meshd.Framework

deriving instance DecidableEq for PreAuthKeyData

namespace Dashboard

def isSpace (c : Char) : Bool := JavaScript.isWhiteSpace c.toNat

def trim (s : String) : String :=
  String.ofList ((s.toList.dropWhile isSpace).reverse.dropWhile isSpace).reverse

def isBlank (s : String) : Bool := s.toList.all isSpace

/-- `getString`, with the empty text for `undefined`. -/
def getString (s : String) : String := trim s

/-- The payload part of `parseMeshdPreAuthKeyRecord`. -/
def parseMeshdPreAuthKeyRecord (payload : PreAuthKeyData) : Option PreAuthKeyData :=
  if isBlank payload.key then none
  else some
    { key := getString payload.key
      createdAt := getString payload.createdAt
      expiresAt := getString payload.expiresAt
      reusable := payload.reusable
      ephemeral := payload.ephemeral
      label := getString payload.label
      usedBy := payload.usedBy.filter (!isBlank ·) }

/-- `preAuthKeyAllows` of the dashboard; `parseDate` gives no time for an invalid date. -/
def preAuthKeyAllows (parseDate : String → Option Time) (key : PreAuthKeyData) (nodeDID : String)
    (now : Time) : Bool :=
  if key.key = "" ∨ nodeDID = "" then false
  else if key.expiresAt ≠ "" ∧ (parseDate key.expiresAt).all (now > ·) then false
  else if nodeDID ∈ key.usedBy then true
  else key.reusable || key.usedBy.isEmpty

end Dashboard

/-- What a party that has read the key record sends in the end. -/
inductive Rewrite where
  | keep
  | delete
  | put (key : PreAuthKeyData)

def Rewrite.isPut : Rewrite → Bool
  | .put _ => true
  | _ => false

/-- The write of `updateMeshdInviteDescription`. -/
def Dashboard.updateMeshdInviteDescription (fresh : PreAuthKeyData) (description : String) :
    Rewrite :=
  .put { fresh with label := trim description }

/-- `markPreAuthKeyUsed` of the dashboard: a single-use invite is deleted. -/
def Dashboard.markPreAuthKeyUsed (key : PreAuthKeyData) (nodeDID : String) : Rewrite :=
  if nodeDID ∈ key.usedBy then .keep
  else if key.reusable = false then .delete
  else .put { key with reusable := true, usedBy := key.usedBy ++ [nodeDID] }

/-- What the approver's `markPreAuthKeyUsed` sends. -/
def usedMark (key : PreAuthKeyData) (nodeDID : String) : Rewrite :=
  if nodeDID ∈ key.usedBy then .keep else .put (key.markedUsed nodeDID)

theorem markPreAuthKeyUsed_eq (anchor : Anchor) (keyID : String) (key : PreAuthKeyData)
    (nodeDID : String) {calls : RequestCalls} (h : calls.markWrite.carriedOut = true) :
    (markPreAuthKeyUsed anchor keyID key nodeDID calls).1 =
      match usedMark key nodeDID with
      | .put key' => anchor.setKey keyID key'
      | _ => anchor := by
  simp only [markPreAuthKeyUsed, usedMark]
  by_cases hu : nodeDID ∈ key.usedBy
  · rw [if_pos hu, if_pos hu]
  · rw [if_neg hu, if_neg hu]
    simp [h, PreAuthKeyData.markedUsed]

/-- The three ways to rewrite a key record: a request an approver handles, a new description, and a
request the dashboard approves. -/
inductive Task where
  | approve (req : NodeRequestData)
  | describe (description : String)
  | approveFromDashboard (nodeDID : String)

/-- Between a party's read of the record and its write: the task, the copy it works on, and how many
used marks had been accepted at the read. -/
structure Session where
  task : Task
  copy : PreAuthKeyData
  marks : Nat

/-- One key record on the server, `none` once it is deleted, and the parties that hold a copy. -/
structure InviteState where
  record : Option PreAuthKeyData
  sessions : Nat → Option Session := fun _ => none
  marks : Nat := 0

/-- A party reads the record, or its write arrives at the server, which may refuse it. -/
inductive InviteEvent where
  | read (party : Nat) (task : Task) (now : Time)
  | write (party : Nat) (accepted : Bool)

/-- The copy a task goes on with, where its own checks let it go on. -/
def Task.accepts (a : Approver) (parseDate : String → Option Time) (now : Time)
    (record : PreAuthKeyData) : Task → Option PreAuthKeyData
  | .approve req =>
    if preAuthKeyAllows a record req.nodeDID now &&
        a.verifyProof record.key a.networkRecordID req.nodeDID req.preAuthProof
    then some record else none
  | .describe _ => Dashboard.parseMeshdPreAuthKeyRecord record
  | .approveFromDashboard nodeDID =>
    (Dashboard.parseMeshdPreAuthKeyRecord record).filter
      fun key => Dashboard.preAuthKeyAllows parseDate key nodeDID now

def Task.rewrite (copy : PreAuthKeyData) : Task → Rewrite
  | .approve req => usedMark copy req.nodeDID
  | .describe description => Dashboard.updateMeshdInviteDescription copy description
  | .approveFromDashboard nodeDID => Dashboard.markPreAuthKeyUsed copy nodeDID

namespace InviteState

def close (s : InviteState) (party : Nat) : InviteState :=
  { s with sessions := Function.update s.sessions party none }

/-- The server takes a rewrite of a record that still exists. Every `put` of a task other than a
description is a used mark. -/
def apply (s : InviteState) (session : Session) : InviteState :=
  match s.record, session.task.rewrite session.copy with
  | none, _ => s
  | some _, .keep => s
  | some _, .delete => { s with record := none }
  | some _, .put key =>
    { s with
      record := some key
      marks := match session.task with
        | .describe _ => s.marks
        | _ => s.marks + 1 }

def step (a : Approver) (parseDate : String → Option Time) (s : InviteState) :
    InviteEvent → InviteState
  | .read party task now =>
    match s.record.bind (task.accepts a parseDate now) with
    | none => s.close party
    | some copy =>
      { s with sessions := Function.update s.sessions party (some ⟨task, copy, s.marks⟩) }
  | .write party accepted =>
    match s.sessions party with
    | none => s
    | some session => (if accepted then s.apply session else s).close party

/-- No used mark was accepted between a party's read and its accepted write of a key, and the
dashboard reads no record that lists a blank DID. -/
def Fresh (s : InviteState) : InviteEvent → Prop
  | .read _ (.approve _) _ => True
  | .read _ _ _ => ∀ key ∈ s.record, ∀ d ∈ key.usedBy, Dashboard.isBlank d = false
  | .write party accepted =>
    accepted = true → ∀ session ∈ s.sessions party,
      (session.task.rewrite session.copy).isPut = true → session.marks = s.marks

instance (s : InviteState) : ∀ e, Decidable (s.Fresh e)
  | .read _ (.approve _) _ => inferInstanceAs (Decidable True)
  | .read _ (.describe _) _ =>
    inferInstanceAs (Decidable (∀ key ∈ s.record, ∀ d ∈ key.usedBy, _ = false))
  | .read _ (.approveFromDashboard _) _ =>
    inferInstanceAs (Decidable (∀ key ∈ s.record, ∀ d ∈ key.usedBy, _ = false))
  | .write party _ =>
    inferInstanceAs (Decidable (_ = true → ∀ session ∈ s.sessions party, _ = true → _ = s.marks))

/-- Every copy is as old as its party's read, and lists the users of the record unless a used mark
came since. -/
structure Consistent (s : InviteState) : Prop where
  marks_le : ∀ party session, s.sessions party = some session → session.marks ≤ s.marks
  usedBy_eq : ∀ party session key, s.sessions party = some session → s.record = some key →
    session.marks = s.marks → session.copy.usedBy = key.usedBy

variable {a : Approver} {parseDate : String → Option Time} {s : InviteState}

theorem Consistent.close (h : s.Consistent) (party : Nat) : (s.close party).Consistent := by
  have hold : ∀ p session, (s.close party).sessions p = some session →
      s.sessions p = some session := by
    intro p session hp
    by_cases hpp : p = party
    · subst hpp
      simp [InviteState.close] at hp
    · simpa [InviteState.close, Function.update_of_ne hpp] using hp
  exact ⟨fun p session hp => h.marks_le p session (hold p session hp),
    fun p session key hp hr hm => h.usedBy_eq p session key (hold p session hp) hr hm⟩

theorem accepts_usedBy {now : Time} {record copy : PreAuthKeyData} {task : Task}
    (h : task.accepts a parseDate now record = some copy) {party : Nat} (hr : s.record = some record)
    (hf : s.Fresh (.read party task now)) : copy.usedBy = record.usedBy := by
  -- the dashboard drops blank entries
  have hparse (key : PreAuthKeyData) (hk : Dashboard.parseMeshdPreAuthKeyRecord record = some key)
      (hb : ∀ d ∈ record.usedBy, Dashboard.isBlank d = false) : key.usedBy = record.usedBy := by
    rw [Dashboard.parseMeshdPreAuthKeyRecord] at hk
    split_ifs at hk
    obtain rfl := Option.some.inj hk
    exact List.filter_eq_self.mpr fun d hd => by simp [hb d hd]
  cases task with
  | approve req =>
    rw [Task.accepts] at h
    split_ifs at h
    obtain rfl := Option.some.inj h
    rfl
  | describe description => exact hparse copy h (hf record hr)
  | approveFromDashboard nodeDID =>
    rw [Task.accepts, Option.filter_eq_some_iff] at h
    exact hparse copy h.1 (hf record hr)

/-- Every rewrite a task puts lists the users of its copy. -/
theorem rewrite_usedBy {task : Task} {copy key : PreAuthKeyData}
    (h : task.rewrite copy = .put key) :
    copy.usedBy ⊆ key.usedBy ∧ ((∃ d, task = .describe d) → key.usedBy = copy.usedBy) := by
  cases task with
  | approve req =>
    simp only [Task.rewrite, usedMark] at h
    split_ifs at h
    obtain rfl := Rewrite.put.inj h
    exact ⟨List.subset_append_left _ _, by simp⟩
  | describe description =>
    obtain rfl := Rewrite.put.inj h
    exact ⟨List.Subset.refl _, fun _ => rfl⟩
  | approveFromDashboard nodeDID =>
    simp only [Task.rewrite, Dashboard.markPreAuthKeyUsed] at h
    split_ifs at h
    obtain rfl := Rewrite.put.inj h
    exact ⟨List.subset_append_left _ _, by simp⟩

/-- What a fresh write leaves: the users of the record are still there, and copies that are not
stale list what the record lists. -/
theorem Consistent.apply (h : s.Consistent) {party : Nat} {session : Session}
    (hp : s.sessions party = some session)
    (hm : (session.task.rewrite session.copy).isPut = true → session.marks = s.marks) :
    (s.apply session).Consistent ∧ ∀ key key', s.record = some key →
      (s.apply session).record = some key' → key.usedBy ⊆ key'.usedBy := by
  rw [InviteState.apply]
  cases hr : s.record with
  | none => exact ⟨h, by simp [hr]⟩
  | some key =>
    cases hw : session.task.rewrite session.copy with
    | keep =>
      refine ⟨h, fun k k' hk hk' => ?_⟩
      rw [hr] at hk'
      rw [Option.some.inj (hk.symm.trans hk')]
      exact List.Subset.refl _
    | delete => exact ⟨⟨h.marks_le, by simp⟩, by simp⟩
    | put key' =>
      obtain ⟨hsub, hsame⟩ := rewrite_usedBy hw
      have hcopy : session.copy.usedBy = key.usedBy :=
        h.usedBy_eq party session key hp hr (hm (by rw [hw]; rfl))
      refine ⟨⟨?_, ?_⟩, ?_⟩
      · intro p other ho
        have hle := h.marks_le p other ho
        dsimp only
        split
        · exact hle
        · omega
      · intro p other k ho hk hmarks
        obtain rfl := Option.some.inj hk
        have hle := h.marks_le p other ho
        dsimp only at hmarks
        split at hmarks
        · rename_i d hd
          rw [h.usedBy_eq p other key ho hr hmarks, hsame ⟨d, hd⟩, hcopy]
        · omega
      · intro k k' hk hk'
        obtain rfl := Option.some.inj hk
        obtain rfl := Option.some.inj hk'
        rw [← hcopy]
        exact hsub

theorem Consistent.read (h : s.Consistent) {party : Nat} {task : Task} {now : Time}
    (hf : s.Fresh (.read party task now)) :
    (s.step a parseDate (.read party task now)).Consistent := by
  rw [InviteState.step]
  cases hc : s.record.bind (task.accepts a parseDate now) with
  | none => exact h.close party
  | some copy =>
    obtain ⟨record, hr, hacc⟩ := Option.bind_eq_some_iff.mp hc
    have hcopy : copy.usedBy = record.usedBy := accepts_usedBy hacc hr hf
    dsimp only
    refine ⟨?_, ?_⟩
    · intro p session hp
      by_cases hpp : p = party
      · subst hpp
        simp only [Function.update_self, Option.some.injEq] at hp
        subst hp
        exact le_rfl
      · dsimp only at hp
        rw [Function.update_of_ne hpp] at hp
        exact h.marks_le p session hp
    · intro p session key hp hk hm
      by_cases hpp : p = party
      · subst hpp
        simp only [Function.update_self, Option.some.injEq] at hp
        subst hp
        obtain rfl := Option.some.inj (hr.symm.trans hk)
        exact hcopy
      · dsimp only at hp
        rw [Function.update_of_ne hpp] at hp
        exact h.usedBy_eq p session key hp hk hm

/-- One fresh step: no user is lost, and a deleted record stays deleted. -/
theorem Consistent.step (h : s.Consistent) {e : InviteEvent} (hf : s.Fresh e) :
    (s.step a parseDate e).Consistent ∧
    ∀ key', (s.step a parseDate e).record = some key' →
      ∃ key, s.record = some key ∧ key.usedBy ⊆ key'.usedBy := by
  have hsame {t : InviteState} (ht : t.record = s.record) (key' : PreAuthKeyData)
      (hk : t.record = some key') : ∃ key, s.record = some key ∧ key.usedBy ⊆ key'.usedBy :=
    ⟨key', ht ▸ hk, List.Subset.refl _⟩
  cases e with
  | read party task now =>
    refine ⟨h.read hf, ?_⟩
    apply hsame
    rw [InviteState.step]
    split
    · rfl
    · rfl
  | write party accepted =>
    rw [InviteState.step]
    cases hp : s.sessions party with
    | none => exact ⟨h, hsame rfl⟩
    | some session =>
      cases accepted with
      | false => exact ⟨h.close party, hsame rfl⟩
      | true =>
        obtain ⟨hcons, husers⟩ := h.apply hp (hf rfl session hp)
        refine ⟨hcons.close party, fun key' hk' => ?_⟩
        change (s.apply session).record = some key' at hk'
        cases hr : s.record with
        | none =>
          rw [InviteState.apply, hr] at hk'
          rw [hr] at hk'
          cases hk'
        | some key => exact ⟨key, rfl, husers key key' hr hk'⟩

/-- In a run whose writes are all fresh, a DID that once is among the users of the stored key stays
there as long as the record exists. -/
theorem usedBy_kept (hidle : ∀ party, s.sessions party = none) {es : List InviteEvent}
    (hf : Along (step a parseDate) Fresh s es) {j k : Nat} (hjk : j ≤ k) {key key' : PreAuthKeyData}
    (hj : (stateAt (step a parseDate) s es j).record = some key)
    (hk : (stateAt (step a parseDate) s es k).record = some key') {d : String}
    (hd : d ∈ key.usedBy) : d ∈ key'.usedBy := by
  have hcons (fs : List InviteEvent) (hfs : Along (step a parseDate) Fresh s fs) :
      (exec (step a parseDate) s fs).Consistent :=
    along_history (P := fun _ t => t.Consistent) ⟨by simp [hidle], by simp [hidle]⟩
      (fun _ _ he ih => (ih.step he).1) fs hfs
  induction k, hjk using Nat.le_induction generalizing key' with
  | base =>
    obtain rfl := Option.some.inj (hj.symm.trans hk)
    exact hd
  | succ k hjk ih =>
    cases he : es[k]? with
    | none =>
      -- the run has ended before position k
      have hlen : es.length ≤ k := List.getElem?_eq_none_iff.mp he
      rw [stateAt, List.take_of_length_le (by omega)] at hk
      apply ih
      rw [stateAt, List.take_of_length_le hlen]
      exact hk
    | some e =>
      rw [stateAt_succ (step a parseDate) s es e he] at hk
      obtain ⟨mid, hmid, hsub⟩ := ((hcons _ (hf.take k)).step (hf k e he)).2 key' hk
      exact hsub (ih hmid)

/-- A reusable invite, not used yet. -/
def partyInvite : InviteState where
  record := some { key := "secret", reusable := true }

def partyRequest : NodeRequestData where
  nodeDID := "did:jwk:alice"
  preAuthProof := "secret/bafy-network/did:jwk:alice"

/-- The approver marks a node, and a description is written afterwards. -/
def describedLater : List InviteEvent :=
  [.read 1 (.approve partyRequest) 5, .write 1 true, .read 2 (.describe "party") 6, .write 2 true]

theorem describedLater_fresh :
    Along (step Anchor.homeApprover fun _ => none) Fresh partyInvite describedLater := by
  refine along_cons.mpr ⟨trivial, along_cons.mpr ⟨?_, along_cons.mpr ⟨?_, along_cons.mpr ⟨?_,
    along_nil⟩⟩⟩⟩
  · decide
  · decide
  · decide

theorem usedBy_kept_description :
    ((stateAt (step Anchor.homeApprover fun _ => none) partyInvite describedLater 4).record.map
      (·.label)) = some "party" ∧
    ∀ key', (stateAt (step Anchor.homeApprover fun _ => none) partyInvite describedLater 4).record =
      some key' → "did:jwk:alice" ∈ key'.usedBy := by
  have hmarked : (stateAt (step Anchor.homeApprover fun _ => none) partyInvite describedLater
      2).record = some { key := "secret", reusable := true, usedBy := ["did:jwk:alice"] } := by
    decide
  refine ⟨by decide, fun key' hk => ?_⟩
  exact usedBy_kept (fun _ => rfl) describedLater_fresh (by decide) hmarked hk (by simp)

/-- The description is written from a copy read before the mark: the mark is lost, and a key that
was used is unused again. -/
theorem description_forgets_use :
    ((stateAt (step Anchor.homeApprover fun _ => none) partyInvite
      [.read 2 (.describe "party") 4, .read 1 (.approve partyRequest) 5, .write 1 true,
        .write 2 true] 3).record.map (·.usedBy)) = some ["did:jwk:alice"] ∧
    ((stateAt (step Anchor.homeApprover fun _ => none) partyInvite
      [.read 2 (.describe "party") 4, .read 1 (.approve partyRequest) 5, .write 1 true,
        .write 2 true] 4).record.map (·.usedBy)) = some [] := by
  decide

end InviteState

end Meshd.Mesh

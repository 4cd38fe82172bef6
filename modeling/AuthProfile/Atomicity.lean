import AuthProfile.Decision

set_option autoImplicit false

namespace AuthProfile

open Relation Process UserRepository

def RoleGranted (io : Surroundings) (row : RoleRequestRow) (decidedBy : String) (before after : Db) : Prop :=
  ∃ user, before.users.find row.userId.text = some user ∧
    after.users = before.users.replace (user.setAccount ⟨row.requestedRole, user.state⟩) ∧
    before.outbox.insert (eventRow io user.id (grantEvent user (toDomainRoleRequest row) decidedBy)) = some after.outbox

def decidedStatus (approve : Bool) : RoleRequestStatus := if approve then .approved else .rejected

structure WholeDecision (io : Surroundings) (row : RoleRequestRow) (approve : Bool) (decidedBy note : String)
    (before after : Db) : Prop where
  request : ∃ stored, toDomainRoleRequest stored = (decidedRequest row (decidedStatus approve) decidedBy note).settled ∧
    after.roleRequests = before.roleRequests.replace stored
  granted : approve = true → RoleGranted io row decidedBy before after
  kept : approve = false → after.users = before.users ∧ after.outbox = before.outbox

structure Untouched (before after : Db) : Prop where
  users : after.users = before.users
  roleRequests : after.roleRequests = before.roleRequests
  outbox : after.outbox = before.outbox

def AllOrNothing (io : Surroundings) (requestId : String) (approve : Bool) (decidedBy note : String)
    (before after : Db) : Prop :=
  Untouched before after ∨
    ∃ row, before.roleRequests.find requestId = some row ∧ WholeDecision io row approve decidedBy note before after

-- An approval whose first commit took effect and whose second did not: the commit's
-- answer was lost, a later call failed, or the request's columns refuse what they are given.
structure Torn (io : Surroundings) (script : List Fault) (db : Db) (actorRole : Role) (requestId : String)
    (approve : Bool) (decidedBy note : String) : Prop where
  approves : approve = true
  decides : ∃ row, Decides script db actorRole requestId row
  granted : GrantCommits io script.tail db
  undecided : faultAt script 3 = .after ∨ faultAt script 4 ≠ .none ∨ faultAt script 5 = .before ∨
    ¬ Varchar.Takes 512 note ∨ ¬ Varchar.Takes 36 decidedBy

section Decide

variable (io : Surroundings) (script : List Fault) (db : Db) (actorRole : Role) (requestId decidedBy note : String)

theorem reject_atomic (row : RoleRequestRow) (decides : Decides script db actorRole requestId row) :
    AllOrNothing io requestId false decidedBy note db
      ((decideRoleRequest io actorRole requestId false decidedBy note).exec script db).store := by
  have isRequest : row.id.text = requestId := Table.find_key _ _ row decides.found
  have self : db.roleRequests.find row.id.text = some row := isRequest ▸ decides.found
  rw [decide_eq io script db actorRole requestId decidedBy note false row decides]
  simp only [Bool.false_eq_true, if_false]
  by_cases commits : RequestCommits script.tail decidedBy note
  · have decided := save_request_commits io row .rejected decidedBy note script.tail db self commits
    exact Or.inr ⟨row, decides.found, decided.stored, (fun wrong => nomatch wrong),
      fun _ => ⟨decided.users, decided.outbox⟩⟩
  · rw [save_request_refused io row .rejected decidedBy note script.tail db self commits]
    exact Or.inl ⟨rfl, rfl, rfl⟩

theorem grant_alone (row : RoleRequestRow) (user : UserRow) (account : Account) (event : DomainEvent) (between : Db)
    (found : db.roleRequests.find requestId = some row) (pending : row.status = .pending)
    (committed : Db.AccountCommitted io user account event db between) :
    ¬ AllOrNothing io requestId true decidedBy note db between := by
  have grown := ((Table.insert_some_iff _ _ _).mp committed.outbox).2
  intro whole
  rcases whole with untouched | ⟨other, otherFound, decision⟩
  · rw [untouched.outbox] at grown
    exact absurd (congrArg List.length grown) (by simp)
  · rw [found, Option.some.injEq] at otherFound
    subst otherFound
    obtain ⟨stored, isDecided, replaced⟩ := decision.request
    have storedKey : Keyed.key stored = requestId :=
      (decided_key row stored _ _ _ isDecided).trans (Table.find_key _ _ row found)
    have present : Keyed.key stored ∈ db.roleRequests.keys :=
      storedKey ▸ Table.find_key _ _ row found ▸ List.mem_map_of_mem (Table.find_mem _ _ row found)
    have after := Table.find_replace_same stored db.roleRequests present
    rw [← replaced, committed.roleRequests, storedKey, found, Option.some.injEq] at after
    have approved : stored.status = .approved := congrArg RoleRequest.status isDecided
    rw [← after, pending] at approved
    cases approved

theorem approve_atomic_iff (row : RoleRequestRow) (decides : Decides script db actorRole requestId row) :
    AllOrNothing io requestId true decidedBy note db
        ((decideRoleRequest io actorRole requestId true decidedBy note).exec script db).store ↔
      ¬ (GrantCommits io script.tail db ∧
        (faultAt script 3 = .after ∨ ¬ RequestCommits script.tail.tail.tail.tail decidedBy note)) := by
  have isRequest : row.id.text = requestId := Table.find_key _ _ row decides.found
  have self : db.roleRequests.find row.id.text = some row := isRequest ▸ decides.found
  obtain ⟨user, userFound⟩ := requester_found db requestId row decides.found
  by_cases granted : GrantCommits io script.tail db
  · obtain ⟨between, committed, store⟩ :=
      approve_granted io script db actorRole requestId decidedBy note row user decides userFound granted
    have alone :=
      grant_alone io db requestId decidedBy note row user _ _ between decides.found decides.pending committed
    rw [store]
    by_cases answered : faultAt script 3 = .none
    · have still : between.roleRequests.find row.id.text = some row := by rw [committed.roleRequests, self]
      rw [if_pos answered]
      by_cases commits : RequestCommits script.tail.tail.tail.tail decidedBy note
      · have decided := save_request_commits io row .approved decidedBy note _ between still commits
        have notLost : faultAt script 3 ≠ .after := fun lost => nomatch answered.symm.trans lost
        refine ⟨fun _ torn => torn.2.elim notLost (fun refused => refused commits),
          fun _ => Or.inr ⟨row, decides.found, ?_⟩⟩
        obtain ⟨stored, isDecided, replaced⟩ := decided.stored
        refine ⟨⟨stored, isDecided, by rw [replaced, committed.roleRequests]⟩, fun _ => ⟨user, userFound, ?_, ?_⟩,
          fun wrong => nomatch wrong⟩
        · rw [decided.users, committed.users]
        · rw [decided.outbox]
          exact committed.outbox
      · rw [save_request_refused io row .approved decidedBy note _ between still commits]
        exact ⟨fun whole => absurd whole alone, fun whole => absurd ⟨granted, Or.inr commits⟩ whole⟩
    · have lost : faultAt script 3 = .after := by
        have passed := granted.committed
        rw [fault_tail] at passed
        cases at3 : faultAt script 3 with
        | none => exact absurd at3 answered
        | before => exact absurd at3 passed
        | after => rfl
      rw [if_neg answered]
      exact ⟨fun whole => absurd whole alone, fun whole => absurd ⟨granted, Or.inl lost⟩ whole⟩
  · rw [approve_refused io script db actorRole requestId decidedBy note row user decides userFound granted]
    exact ⟨fun _ torn => granted torn.1, fun _ => Or.inl ⟨rfl, rfl, rfl⟩⟩

theorem request_refused_iff :
    ¬ RequestCommits script.tail.tail.tail.tail decidedBy note ↔
      faultAt script 4 ≠ .none ∨ faultAt script 5 = .before ∨ ¬ Varchar.Takes 512 note ∨
        ¬ Varchar.Takes 36 decidedBy := by
  have at4 : faultAt script.tail.tail.tail.tail 0 = faultAt script 4 := by simp only [fault_tail]
  have at5 : faultAt script.tail.tail.tail.tail 1 = faultAt script 5 := by simp only [fault_tail]
  rw [← at4, ← at5]
  constructor
  · intro refused
    by_contra fine
    simp only [not_or, ne_eq, not_not] at fine
    obtain ⟨read, committed, note, decider⟩ := fine
    exact refused ⟨read, committed, note, decider⟩
  · rintro failing ⟨read, committed, note, decider⟩
    rcases failing with wrong | wrong | wrong | wrong
    · exact wrong read
    · exact committed wrong
    · exact wrong note
    · exact wrong decider

theorem decision_all_or_nothing (approve : Bool) :
    AllOrNothing io requestId approve decidedBy note db
        ((decideRoleRequest io actorRole requestId approve decidedBy note).exec script db).store ↔
      ¬ Torn io script db actorRole requestId approve decidedBy note := by
  by_cases decides : ∃ row, Decides script db actorRole requestId row
  · obtain ⟨row, here⟩ := decides
    cases approve with
    | false =>
        exact ⟨fun _ torn => (nomatch torn.approves),
          fun _ => reject_atomic io script db actorRole requestId decidedBy note row here⟩
    | true =>
        rw [approve_atomic_iff io script db actorRole requestId decidedBy note row here,
          request_refused_iff script decidedBy note]
        exact not_congr ⟨fun ⟨granted, undecided⟩ => ⟨rfl, ⟨row, here⟩, granted, undecided⟩,
          fun torn => ⟨torn.granted, torn.undecided⟩⟩
  · rw [decide_refused io script db actorRole requestId decidedBy note approve decides]
    exact ⟨fun _ torn => decides torn.decides, fun _ => Or.inl ⟨rfl, rfl, rfl⟩⟩

end Decide

def sampleUser : UserRow where
  id := ⟨"u1", by decide⟩
  email := ⟨"u1@arcadia.com", by decide⟩
  passwordHash := ⟨"hash", by decide⟩
  displayName := ⟨"Player", by decide⟩
  role := .basicUser
  state := .active
  createdAt := 0

def sampleRequest : RoleRequestRow where
  id := ⟨"r1", by decide⟩
  userId := ⟨"u1", by decide⟩
  requestedRole := .developer
  status := .pending
  decisionNote := none
  decidedBy := none
  createdAt := 0

def sampleDb : Db where
  users := ⟨[sampleUser], by decide⟩
  roleRequests := ⟨[sampleRequest], by decide⟩
  outbox := Table.empty
  loginAudit := Table.empty
  uniqueEmail := by decide
  requesters := by decide

def longNote : String := String.ofList (List.replicate 513 'x')

theorem long_note_excess : 'x' ∈ longNote.toList.drop 512 := by
  have chars : longNote.toList = List.replicate 513 'x' := String.toList_ofList
  have excess : longNote.toList.drop 512 = List.replicate (513 - 512) 'x' :=
    (congrArg _ chars).trans List.drop_replicate
  exact excess ▸ List.mem_replicate.mpr ⟨Nat.one_ne_zero, rfl⟩

-- Nothing fails but the note, and the role is granted with its request still pending.
theorem long_note_tears :
    ¬ AllOrNothing sampleIo "r1" true "a1" longNote sampleDb
      ((decideRoleRequest sampleIo .support "r1" true "a1" longNote).exec [] sampleDb).store := by
  have decides : Decides [] sampleDb .support "r1" sampleRequest := ⟨Or.inl rfl, rfl, by decide, rfl⟩
  rw [approve_atomic_iff sampleIo [] sampleDb .support "r1" "a1" longNote sampleRequest decides, not_not]
  refine ⟨by decide, Or.inr fun commits => ?_⟩
  exact absurd (commits.taken.note.2 'x' long_note_excess) (by decide)

end AuthProfile

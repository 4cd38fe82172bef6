import AuthProfile.Db.CreateCommit
import AuthProfile.Decision

set_option autoImplicit false

namespace AuthProfile

open Relation Process UserRepository

namespace Varchar

theorem change_takes (width : Nat) (column : String) (old : Varchar width) (text : String) (takes : Takes width text) :
    ∃ stored, change width column old (changed old.text text) = .ok stored := by
  by_cases same : text = old.text
  · refine ⟨old, ?_⟩
    rw [changed, if_pos same]
    rfl
  · refine ⟨⟨cut width text, cut_fits width text takes.1⟩, ?_⟩
    rw [changed, if_neg same]
    exact (store_ok width column text _).mpr ⟨takes, rfl⟩

theorem cut_option (width : Nat) (text : Option String) (takes : ∀ given ∈ text, Takes width given) :
    ∃ stored : Option (Varchar width), stored.map Varchar.text = text.map (cut width) := by
  cases text with
  | none => exact ⟨none, rfl⟩
  | some given => exact ⟨some ⟨cut width given, cut_fits width given (takes given rfl).1⟩, rfl⟩

end Varchar

-- What the columns of role_requests take, the identifier apart.
structure RoleRequest.Taken (request : RoleRequest) : Prop where
  userId : Varchar.Takes 36 request.userId
  note : ∀ note ∈ request.decisionNote, Varchar.Takes 512 note
  decider : ∀ decider ∈ request.decidedBy, Varchar.Takes 36 decider

namespace Db

-- The identifiers drawn for so many rows of the outbox are in no row yet.
structure Unused (db : Db) (io : Surroundings) (count : Nat) : Prop where
  unknown : ∀ n, n < count → (io.rowId n).text ∉ db.outbox.keys
  apart : ∀ n m, n < count → m < count → (io.rowId n).text = (io.rowId m).text → n = m

-- Nothing in the database stands in the way of the save, of a new account or of a known one.
structure TakesUser (db : Db) (io : Surroundings) (user : User) (count : Nat) : Prop where
  taken : user.Taken
  alone : ∀ other ∈ db.users.rows, other.id.text ≠ user.id → other.email.text ≠ Varchar.cut 255 user.email
  rows : db.Unused io count

structure TakesRequest (db : Db) (io : Surroundings) (request : RoleRequest) (count : Nat) : Prop where
  taken : request.Taken
  requester : db.requester request ∈ db.users.keys
  rows : db.Unused io count

theorem Appends.nothing (before after : Db) (appended : Appends [] before after) : after.outbox = before.outbox := by
  obtain ⟨rows, grown, drafts, _⟩ := appended.rows
  rw [List.map_eq_nil_iff.mp drafts, List.append_nil] at grown
  exact Table.ext _ _ grown

theorem flush_outbox_runs (drafts : List OutboxDraft) (db : Db)
    (stored : ∀ draft ∈ drafts, ∃ row, OutboxRow.store draft = .ok row)
    (unknown : ∀ draft ∈ drafts, draft.settled.id ∉ db.outbox.keys)
    (apart : (drafts.map fun draft => draft.settled.id).Nodup) :
    ∃ after, flush (drafts.map .insertOutbox) db = .ok after := by
  induction drafts generalizing db with
  | nil => exact ⟨db, rfl⟩
  | cons draft drafts ih =>
      obtain ⟨row, isRow⟩ := stored draft (List.mem_cons_self ..)
      have isKey : key row = draft.settled.id := congrArg OutboxDraft.id (outbox_row_store_ok draft row isRow).1
      cases inserted : db.outbox.insert row with
      | none => exact absurd ((Table.insert_none_iff _ _).mp inserted) (isKey ▸ unknown draft (List.mem_cons_self ..))
      | some grown =>
          rw [List.map_cons, List.nodup_cons] at apart
          have written : db.write (.insertOutbox draft) = .ok { db with outbox := grown } :=
            (write_insert_outbox draft db _).mpr ⟨row, isRow,
              (insert_outbox_row_ok row db _).mpr ⟨inserted, rfl, rfl, rfl⟩⟩
          have stillUnknown : ∀ later ∈ drafts, later.settled.id ∉ grown.keys := by
            intro later member known
            rcases (Table.mem_keys_inserted row _ _ inserted _).mp known with before | same
            · exact unknown later (List.mem_cons_of_mem _ member) before
            · exact apart.1 (List.mem_map.mpr ⟨later, member, same.trans isKey⟩)
          obtain ⟨after, flushed⟩ :=
            ih { db with outbox := grown } (fun later member => stored later (List.mem_cons_of_mem _ member))
            stillUnknown apart.2
          exact ⟨after, (flush_cons _ _ db after).mpr ⟨_, written, flushed⟩⟩

theorem insert_role_request_row_runs (row : RoleRequestRow) (db : Db) (fresh : row.id.text ∉ db.roleRequests.keys)
    (known : row.userId.text ∈ db.users.keys) : ∃ after, db.insertRoleRequestRow row = .ok after := by
  simp only [insertRoleRequestRow]
  split
  · rename_i refused
    exact absurd ((Table.insert_none_iff row db.roleRequests).mp refused) fresh
  · rw [dif_pos known]
    exact ⟨_, rfl⟩

theorem unique_emails_replaced (row : UserRow) (users : Table UserRow) (unique : (users.rows.map UserRow.email).Nodup)
    (alone : ∀ other ∈ users.rows, key other ≠ key row → other.email ≠ row.email) :
    ((users.replace row).rows.map UserRow.email).Nodup := by
  rw [Table.replace, List.map_map]
  refine List.Nodup.map_on (fun a inA b inB same => ?_) (List.Nodup.of_map _ users.distinct)
  simp only [Function.comp_apply] at same
  by_cases hitA : key a = key row
  · by_cases hitB : key b = key row
    · exact List.inj_on_of_nodup_map users.distinct inA inB (hitA.trans hitB.symm)
    · rw [if_pos hitA, if_neg hitB] at same
      exact absurd same.symm (alone b inB hitB)
  · by_cases hitB : key b = key row
    · rw [if_neg hitA, if_pos hitB] at same
      exact absurd same (alone a inA hitA)
    · rw [if_neg hitA, if_neg hitB] at same
      exact List.inj_on_of_nodup_map unique inA inB same

end Db

section Drafts

variable (io : Surroundings) (aggregateType aggregateId : String) (events : List DomainEvent)

theorem outbox_draft_stored (typeFits : Varchar.Fits 64 aggregateType) (idFits : Varchar.Fits 36 aggregateId) :
    ∀ draft ∈ outboxDrafts io aggregateType aggregateId events, ∃ row, OutboxRow.store draft = .ok row := by
  intro draft member
  obtain ⟨⟨event, n⟩, _, rfl⟩ := List.mem_map.mp member
  have topicFits : Varchar.Fits 128 "user-events" := OutboxRow.userEvents.fits
  rw [OutboxRow.store, Varchar.store_text, Varchar.store_fits 64 _ _ typeFits, Varchar.store_fits 36 _ _ idFits,
    Varchar.store_fits 128 _ _ topicFits, Varchar.store_fits 128 _ _ (event_type_kept event)]
  exact ⟨_, rfl⟩

theorem outbox_draft_ids : ((outboxDrafts io aggregateType aggregateId events).map fun draft => draft.settled.id) =
    (List.range events.length).map fun n => (io.rowId n).text := by
  have places : events.zipIdx.map Prod.snd = List.range events.length := by
    rw [List.zipIdx_map_snd, List.range_eq_range']
  rw [outboxDrafts, ← places, List.map_map, List.map_map]
  apply List.map_congr_left
  intro _ _
  exact Varchar.cut_text 36 _

theorem outbox_drafts_run (db : Db) (typeFits : Varchar.Fits 64 aggregateType) (idFits : Varchar.Fits 36 aggregateId)
    (unused : db.Unused io events.length) :
    ∃ after, Db.flush ((outboxDrafts io aggregateType aggregateId events).map .insertOutbox) db = .ok after := by
  refine Db.flush_outbox_runs _ db (outbox_draft_stored io aggregateType aggregateId events typeFits idFits)
    (fun draft member known => ?_) ?_
  · have listed := List.mem_map_of_mem (f := fun draft : OutboxDraft => draft.settled.id) member
    rw [outbox_draft_ids, List.mem_map] at listed
    obtain ⟨n, inRange, same⟩ := listed
    exact unused.unknown n (List.mem_range.mp inRange) (same ▸ known)
  · rw [outbox_draft_ids]
    exact List.Nodup.map_on (fun n inRange m inRange' same =>
      unused.apart n m (List.mem_range.mp inRange) (List.mem_range.mp inRange') same) List.nodup_range

end Drafts

section Users

variable (io : Surroundings) (user : User) (events : List DomainEvent) (db : Db) (kept : Varchar.Fits 36 user.id)

include kept

theorem user_write_runs (taken : user.Taken)
    (alone : ∀ other ∈ db.users.rows, other.id.text ≠ user.id → other.email.text ≠ Varchar.cut 255 user.email) :
    ∃ next, db.write (userWrite (db.users.find user.id) user) = .ok next := by
  cases found : db.users.find user.id with
  | none =>
      obtain ⟨row, stored⟩ := user_row_stores user taken
      have same := (user_row_store_ok user row stored).2
      have rowKey := user_row_key row user kept.1 same
      have fresh : user.id ∉ db.users.keys := (Table.find_none_iff _ _).mp found
      have unique : row.email ∉ db.users.rows.map UserRow.email := by
        intro known
        obtain ⟨other, member, sameEmail⟩ := List.mem_map.mp known
        have different : other.id.text ≠ user.id := fun isUser => fresh (isUser ▸ List.mem_map_of_mem member)
        exact alone other member different ((congrArg Varchar.text sameEmail).trans (congrArg User.email same))
      have freshRow : row.id.text ∉ db.users.keys := fun known => fresh (rowKey ▸ known)
      obtain ⟨next, inserted⟩ := insert_user_row_runs row db freshRow unique
      exact ⟨next, (Db.write_insert_user user db next).mpr ⟨row, stored, inserted⟩⟩
  | some old =>
      have oldKey : old.id.text = user.id := Table.find_key user.id db.users old found
      obtain ⟨email, isEmail⟩ := Varchar.change_takes 255 "email" old.email user.email taken.email
      obtain ⟨hash, isHash⟩ :=
        Varchar.change_takes 255 "password_hash" old.passwordHash user.passwordHash taken.passwordHash
      obtain ⟨name, isName⟩ := Varchar.change_takes 64 "display_name" old.displayName user.displayName taken.displayName
      have applied : ∃ row, (UserChanges.between old user).apply old = .ok row := by
        simp only [UserChanges.apply, UserChanges.between, isEmail, isHash, isName]
        exact ⟨_, rfl⟩
      obtain ⟨row, isRow⟩ := applied
      have same := (user_changes_ok old row user oldKey.symm isRow).2
      have rowKey := user_row_key row user kept.1 same
      have unique := Db.unique_emails_replaced row db.users db.uniqueEmail fun other member different sameEmail =>
        alone other member (rowKey ▸ different) ((congrArg Varchar.text sameEmail).trans (congrArg User.email same))
      have replaced : ∃ next, db.replaceUserRow row = .ok next := ⟨_, by rw [Db.replaceUserRow, dif_pos unique]⟩
      obtain ⟨next, isNext⟩ := replaced
      exact ⟨next, (Db.write_update_user user.id _ db next old found).mpr ⟨row, isRow, isNext⟩⟩

theorem save_user_runs (admitted : db.TakesUser io user events.length) :
    ((saveUser io user events).exec [] db).result = .ok () := by
  obtain ⟨next, written⟩ := user_write_runs user db kept admitted.taken admitted.alone
  have outbox := Db.Appends.nothing db next (user_write_saved user kept.1 db next written).outbox
  obtain ⟨after, flushed⟩ := outbox_drafts_run io "User" user.id events next (by decide) kept
    ⟨outbox ▸ admitted.rows.unknown, admitted.rows.apart⟩
  rw [saveUser, exec_select_alone _ _ _ _ (legal_one user.id kept.2),
    commit_ok _ [] db after ((Db.flush_cons _ _ db after).mpr ⟨next, written, flushed⟩)]
  rfl

end Users

section Requests

variable (io : Surroundings) (request : RoleRequest) (events : List DomainEvent) (db : Db)
    (kept : Varchar.Fits 36 request.id)

include kept

theorem role_request_write_runs (taken : request.Taken) (requester : db.requester request ∈ db.users.keys) :
    ∃ next, db.write (roleRequestWrite (db.roleRequests.find request.id) request) = .ok next := by
  obtain ⟨note, isNote⟩ := Varchar.cut_option 512 request.decisionNote taken.note
  obtain ⟨decider, isDecider⟩ := Varchar.cut_option 36 request.decidedBy taken.decider
  cases found : db.roleRequests.find request.id with
  | none =>
      have isRequester : db.requester request = Varchar.cut 36 request.userId := by rw [Db.requester, found]
      rw [isRequester] at requester
      let row : RoleRequestRow :=
        { id := ⟨request.id, kept⟩
          userId := ⟨Varchar.cut 36 request.userId, Varchar.cut_fits 36 _ taken.userId.1⟩
          requestedRole := request.requestedRole
          status := request.status
          decisionNote := note
          decidedBy := decider
          createdAt := request.createdAt }
      have stored : RoleRequestRow.store request = .ok row := by
        rw [RoleRequestRow.store, Varchar.store_fits 36 _ _ kept, Varchar.store, dif_pos taken.userId,
          (Varchar.store_option_ok 512 _ _ note).mpr ⟨taken.note, isNote⟩, (Varchar.store_option_ok 36 _ _ decider).mpr
            ⟨taken.decider, isDecider⟩]
        rfl
      obtain ⟨next, inserted⟩ :=
        Db.insert_role_request_row_runs row db ((Table.find_none_iff request.id _).mp found) requester
      exact ⟨next, (Db.write_insert_role_request request db next).mpr ⟨row, stored, inserted⟩⟩
  | some old =>
      have applied : ∃ row, (RoleRequestChanges.between old request).apply old = .ok row := by
        simp only [RoleRequestChanges.apply, RoleRequestChanges.between,
          (Varchar.change_option_ok 512 "decision_note" old.decisionNote note request.decisionNote).mpr
            ⟨taken.note, isNote⟩,
          (Varchar.change_option_ok 36 "decided_by" old.decidedBy decider request.decidedBy).mpr
            ⟨taken.decider, isDecider⟩]
        exact ⟨_, rfl⟩
      obtain ⟨row, isRow⟩ := applied
      have known : row.userId.text ∈ db.users.keys := by
        rw [(role_request_changes_keep _ old row isRow).2]
        exact db.requesters old (Table.find_mem _ _ old found)
      exact ⟨db.replaceRoleRequestRow row known,
        (Db.write_update_role_request request.id _ db _ old found).mpr ⟨row, isRow, rfl, rfl, rfl, rfl⟩⟩

theorem save_role_request_runs (admitted : db.TakesRequest io request events.length) :
    ((saveRoleRequest io request events).exec [] db).result = .ok () := by
  obtain ⟨next, written⟩ := role_request_write_runs request db kept admitted.taken admitted.requester
  have outbox := Db.Appends.nothing db next (role_request_write_saved request kept.1 db next written).outbox
  obtain ⟨after, flushed⟩ := outbox_drafts_run io "RoleRequest" request.id events next (by decide) kept
    ⟨outbox ▸ admitted.rows.unknown, admitted.rows.apart⟩
  rw [saveRoleRequest, exec_select_alone _ _ _ _ (legal_one request.id kept.2),
    commit_ok _ [] db after ((Db.flush_cons _ _ db after).mpr ⟨next, written, flushed⟩)]
  rfl

end Requests

end AuthProfile

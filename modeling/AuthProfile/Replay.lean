import AuthProfile.Calls

set_option autoImplicit false

namespace AuthProfile

open Process

-- The rows added between two databases tell every account's way from one to the other.
structure Db.Tells (before : Db) (added : List OutboxRow) (after : Db) : Prop where
  outbox : after.outbox.rows = before.outbox.rows ++ added
  readable : Readable (added.map OutboxRow.draft)
  tracks : ∀ id, Account.machine.Tracks (before.account id) (accountEvents id (added.map OutboxRow.draft))
    (after.account id)

theorem tells_refl (db : Db) : Db.Tells db [] db :=
  ⟨(List.append_nil _).symm, fun _ member => (nomatch member), fun _ => Machine.tracks_nil _ _⟩

theorem tells_trans (a b c : Db) (first later : List OutboxRow) (ab : Db.Tells a first b) (bc : Db.Tells b later c) :
    Db.Tells a (first ++ later) c := by
  refine ⟨by rw [bc.outbox, ab.outbox, List.append_assoc], ?_, fun id => ?_⟩
  · rw [List.map_append]
    exact readable_append _ _ ab.readable bc.readable
  · rw [List.map_append, account_events_append]
    exact Machine.tracks_append _ _ _ _ _ _ (ab.tracks id) (bc.tracks id)

theorem moved_tells (may : String → AccountEvent → Prop) (before after : Db) (moved : Db.Moved may before after) :
    ∃ added, Db.Tells before added after := by
  cases moved with
  | still drafts users outbox readable silent =>
      obtain ⟨rows, appended, isDrafts, _⟩ := outbox.rows
      refine ⟨rows, appended, isDrafts ▸ readable, fun id => ?_⟩
      have same : after.account id = before.account id := by rw [Db.account, users, Db.account]
      rw [isDrafts, silent id, same]
      exact Machine.tracks_nil _ _
  | account id event allowed saved =>
      obtain ⟨⟨drafts, outbox, readable, own, foreign⟩, legal, follows, others⟩ := saved
      obtain ⟨rows, appended, isDrafts, _⟩ := outbox.rows
      refine ⟨rows, appended, isDrafts ▸ readable, fun other => ?_⟩
      rw [isDrafts]
      by_cases same : other = id
      · subst same
        rw [own, follows]
        exact Machine.tracks_single Account.machine _ event legal
      · rw [foreign other same, others other same]
        exact Machine.tracks_nil _ _

theorem run_tells (platform : Platform) (invocations : List Invocation) (db : Db) :
    ∃ added, Db.Tells db added (runCalls platform invocations db) := by
  induction invocations generalizing db with
  | nil => exact ⟨[], tells_refl db⟩
  | cons invocation invocations ih =>
      obtain ⟨first, step⟩ :=
        moved_tells _ db _ (call_moves platform invocation.io db invocation.call invocation.script)
      obtain ⟨later, rest⟩ := ih (invocation.outcome platform db).store
      exact ⟨first ++ later, tells_trans _ _ _ _ _ step rest⟩

-- Whoever folds the account events a run adds over what an account was before the
-- run, in commit order, has what its row says after it, and meets no event that
-- was not legal at that point.
theorem events_tell_the_truth (platform : Platform) (invocations : List Invocation) (db : Db) :
    ∃ added, (runCalls platform invocations db).outbox.rows = db.outbox.rows ++ added ∧
      Readable (added.map OutboxRow.draft) ∧
      ∀ id,
        let events := accountEvents id (added.map OutboxRow.draft)
        Account.machine.replay (db.account id) events = (runCalls platform invocations db).account id ∧
          Account.machine.Lawful (db.account id) events := by
  obtain ⟨added, told⟩ := run_tells platform invocations db
  exact ⟨added, told.outbox, told.readable, fun id => ⟨(told.tracks id).replayed, (told.tracks id).lawful⟩⟩

end AuthProfile

import AuthProfile.Db.Flush

set_option autoImplicit false

namespace AuthProfile

open Relation

namespace Db

-- No transaction of the repository touches an outbox row that is already there.
def OutboxGrows (before after : Db) : Prop := ∃ drafts, Appends drafts before after

theorem grows_refl (db : Db) : OutboxGrows db db := ⟨[], .refl db db rfl⟩

theorem grows_of_same (before after : Db) (same : after.outbox = before.outbox) : OutboxGrows before after :=
  ⟨[], .refl before after same⟩

theorem grows_trans (a b c : Db) (ab : OutboxGrows a b) (bc : OutboxGrows b c) : OutboxGrows a c := by
  obtain ⟨first, appendsFirst⟩ := ab
  obtain ⟨second, appendsSecond⟩ := bc
  exact ⟨first ++ second, appendsFirst.trans first second a b c appendsSecond⟩

theorem write_grows (write : Write) (db after : Db) (run : db.write write = .ok after) : OutboxGrows db after := by
  cases write_written write db after run with
  | userKept _ _ same => exact same ▸ grows_refl db
  | requestKept _ _ same => exact same ▸ grows_refl db
  | userInserted _ _ _ _ _ _ outbox => exact grows_of_same db after outbox
  | userUpdated _ _ _ _ _ _ _ _ outbox => exact grows_of_same db after outbox
  | requestInserted _ _ _ _ _ outbox => exact grows_of_same db after outbox
  | requestUpdated _ _ _ _ _ outbox => exact grows_of_same db after outbox
  | outboxInserted draft row isDraft unsent _ _ inserted =>
      exact ⟨[draft.settled], Appends.one row draft.settled isDraft unsent db after inserted⟩
  | auditInserted _ _ _ outbox => exact grows_of_same db after outbox

theorem flush_grows (writes : List Write) (db after : Db) (run : flush writes db = .ok after) :
    OutboxGrows db after := by
  induction writes generalizing db with
  | nil =>
      cases run
      exact grows_refl after
  | cons first rest ih =>
      obtain ⟨next, written, flushed⟩ := (flush_cons first rest db after).mp run
      exact grows_trans db next after (write_grows first db next written) (ih next flushed)

theorem grows_found (before after : Db) (grows : OutboxGrows before after) (id : String) (row : OutboxRow)
    (found : before.outbox.find id = some row) : after.outbox.find id = some row := by
  obtain ⟨_, appends⟩ := grows
  obtain ⟨rows, isAfter, _, _⟩ := appends.rows
  have stored : row ∈ after.outbox.rows := by
    rw [isAfter]
    exact List.mem_append_left _ (Table.find_mem id before.outbox row found)
  have isId : key row = id := Table.find_key id before.outbox row found
  exact isId ▸ Table.find_self after.outbox row stored

theorem grows_dispatched (before after : Db) (grows : OutboxGrows before after) (id : String) (row : OutboxRow)
    (found : after.outbox.find id = some row) (sent : row.dispatched = true) : before.outbox.find id = some row := by
  obtain ⟨_, appends⟩ := grows
  obtain ⟨rows, isAfter, _, unsent⟩ := appends.rows
  have stored := Table.find_mem id after.outbox row found
  rw [isAfter] at stored
  have isId : key row = id := Table.find_key id after.outbox row found
  rcases List.mem_append.mp stored with old | new
  · exact isId ▸ Table.find_self before.outbox row old
  · rw [(unsent row new).1] at sent
    cases sent

end Db

end AuthProfile

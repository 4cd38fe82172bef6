import AuthProfile.Enrolment
import AuthProfile.EventTrip
import AuthProfile.Ownership
import AuthProfile.RelayDelivery

set_option autoImplicit false

-- From a registration to the profile: the outbox, the relay, Kafka and the handler together.
namespace AuthProfile

open Relation Process UserRepository OutboxDispatcher

section Relay

variable (settings : RelaySettings) (rely guar : RelayStores → RelayStores → Prop) (still : ∀ relay, guar relay relay)
  (relied : ∀ a b, guar a b → rely a b)
  (rows : ∀ a b, rely a b → ∀ row, a.Selected row → b.Selected row)
  (published : ∀ a b, rely a b → ∀ message ∈ a.published, message ∈ b.published)
  (sends : ∀ relay : RelayStores, ∀ row message, relay.Selected row → messageFor settings row = .ok message →
    guar relay { relay with published := relay.published ++ [message] })
  (marks : ∀ relay : RelayStores, ∀ row message now, relay.Selected row → messageFor settings row = .ok message →
    message ∈ relay.published →
    guar relay { relay with db := relay.db.markDispatched row.id.text now })

-- A row's message has been taken.
def OutboxRow.Out (row : OutboxRow) (relay : RelayStores) : Prop :=
  relay.Selected row ∧ ∃ message ∈ relay.published, messageFor settings row = .ok message

include still rows sends

theorem send_relies (poll : Poll) (row : OutboxRow) (relay : RelayStores) (selected : relay.Selected row) :
    (send settings poll row).Assures rely guar (fun result after => result = .ok () →
      row.Out settings after) relay := by
  have refused : ∀ (error : Error) (after : RelayStores), (Except.error error : Except Error Unit) = .ok () →
      row.Out settings after := by
    intro error after wrong
    cases wrong
  rw [send]
  cases built : messageFor settings row with
  | error error => exact refused error relay
  | ok message =>
      refine Prog.assures_atomic _ _ still _ _ _ _ fun now moved => ⟨refused _ now, ?_⟩
      cases poll.accepts row with
      | false => exact refused _ now
      | true =>
          have there := rows _ _ moved row selected
          refine ⟨sends now row message there built, fun _ => ⟨there, message, ?_, built⟩, refused _ _⟩
          exact List.mem_append_right _ (List.mem_singleton_self _)

omit rows sends in
theorem rollback_relies (session : Session) (relay : RelayStores) :
    (rollback session).Assures rely guar (fun _ _ => True) relay := by
  rw [rollback]
  split
  · exact Prog.assures_query_bind _ _ still _ _ _ _ _ fun _ _ => ⟨trivial, trivial⟩
  · trivial

include published marks

omit sends in
theorem mark_relies (poll : Poll) (row : OutboxRow) (relay : RelayStores) (out : row.Out settings relay) :
    (mark poll row).Assures rely guar (fun _ _ => True) relay := by
  have outLater : ∀ a b, rely a b → row.Out settings a → row.Out settings b := by
    rintro a b moved ⟨selected, message, member, built⟩
    exact ⟨rows a b moved row selected, message, published a b moved message member, built⟩
  refine Prog.assures_query_bind _ _ still _ _ _ _ _ fun between moved => ⟨trivial, ?_⟩
  refine Prog.assures_atomic _ _ still _ _ _ _ fun now later => ⟨trivial, ?_, trivial, trivial⟩
  obtain ⟨selected, message, member, built⟩ := outLater _ _ later (outLater _ _ moved out)
  exact marks now row message (poll.now row) selected built member

theorem dispatch_row_relies (poll : Poll) (session : Session) (row : OutboxRow) (relay : RelayStores)
    (selected : relay.Selected row) :
    (dispatchRow settings poll session row).Assures rely guar (fun _ _ => True) relay := by
  rw [dispatchRow]
  split
  · trivial
  · apply Prog.assures_bind
    apply Prog.assures_attempt
    refine Prog.assures_mono _ _ _ _ _ _ (fun result after out => ?_)
      (send_relies settings rely guar still rows sends poll row relay selected)
    cases result with
    | error error => exact rollback_relies rely guar still session after
    | ok done =>
        apply Prog.assures_bind
        apply Prog.assures_attempt
        refine Prog.assures_mono _ _ _ _ _ _ (fun result final _ => ?_)
          (mark_relies settings rely guar still rows published marks poll row after (out rfl))
        cases result with
        | error error => exact rollback_relies rely guar still _ final
        | ok done => trivial

include relied

theorem dispatch_rows_relies (poll : Poll) (session : Session) (batch : List OutboxRow) (relay : RelayStores)
    (selected : ∀ row ∈ batch, relay.Selected row) :
    (dispatchRows settings poll session batch).Assures rely guar (fun _ _ => True) relay := by
  induction batch generalizing session relay with
  | nil => trivial
  | cons row batch ih =>
      apply Prog.assures_bind
      have here := dispatch_row_relies settings rely guar still rows published sends marks poll session row relay
        (selected row List.mem_cons_self)
      have framed := Prog.assures_frame _ _ (fun after => ∀ row ∈ batch, after.Selected row)
        (fun a b moved kept row member => rows a b moved row (kept row member)) relied _ _ relay
        (fun row member => selected row (List.mem_cons_of_mem _ member)) here
      refine Prog.assures_mono _ _ _ _ _ _ (fun result after kept => ?_) framed
      cases result with
      | error error => trivial
      | ok next => exact ih next after kept.2

-- What a dispatcher does while others work on the outbox.
theorem run_loop_relies (polls : List Poll) (relay : RelayStores) :
    (runLoop settings polls).Assures rely guar (fun _ _ => True) relay := by
  induction polls generalizing relay with
  | nil => trivial
  | cons poll polls ih =>
      apply Prog.assures_bind
      apply Prog.assures_attempt
      refine Prog.assures_query_bind _ _ still _ _ _ _ _ fun now _ => ⟨ih now, ?_⟩
      refine Prog.assures_mono _ _ _ _ _ _ (fun result after _ => ih after)
        (dispatch_rows_relies settings rely guar still relied rows published sends marks poll _ _ now
          fun row member => ?_)
      exact ⟨row, (batch_waiting settings poll now.db row member).1, rfl⟩

end Relay

-- UPDATE outbox SET dispatched = true: the row is marked and the others stay.
structure Db.MarksRow (current : OutboxRow) (now : Time) (before after : Db) : Prop where
  users : after.users = before.users
  back : ∀ later ∈ after.outbox.rows, later ∈ before.outbox.rows ∨ later = Db.marked current now
  forth : ∀ old ∈ before.outbox.rows, ∃ later ∈ after.outbox.rows, later.content = old.content ∧ later.draft = old.draft
  member : current ∈ before.outbox.rows

theorem mark_row (db : Db) (current : OutboxRow) (id : String) (now : Time) (found : db.outbox.find id = some current) :
    Db.MarksRow current now db (db.markDispatched id now) := by
  have member := Table.find_mem _ _ _ found
  rw [Db.mark_found id now db current found]
  refine ⟨rfl, fun later isLater => ?_, fun old isOld => ?_, member⟩
  · obtain ⟨old, isOld, same⟩ := List.mem_map.mp isLater
    split at same
    · exact Or.inr same.symm
    · exact Or.inl (same ▸ isOld)
  · by_cases hit : key old = key (Db.marked current now)
    · have same : old = current := by
        have isCurrent := Table.find_self _ old isOld
        rw [show key old = key current from hit, Table.find_self _ current member] at isCurrent
        exact (Option.some.inj isCurrent).symm
      exact ⟨Db.marked current now, List.mem_map.mpr ⟨old, isOld, if_pos hit⟩, by rw [same]; rfl, by rw [same]; rfl⟩
    · exact ⟨old, List.mem_map.mpr ⟨old, isOld, if_neg hit⟩, rfl, rfl⟩

theorem Db.MarksRow.heeds (names : String → String → Prop) (current : OutboxRow) (now : Time) (before after : Db)
    (marks : Db.MarksRow current now before after) : Db.Heeds names before after := by
  refine ⟨fun id known => marks.users ▸ known,
    fun enrolled => ⟨fun user isUser => enrolled.named user (marks.users ▸ isUser), ?_, ?_⟩⟩
  · intro later isLater
    have isDraft : ∃ old ∈ before.outbox.rows, later.draft = old.draft := by
      rcases marks.back later isLater with old | isCurrent
      · exact ⟨later, old, rfl⟩
      · exact ⟨current, marks.member, by rw [isCurrent]; rfl⟩
    obtain ⟨old, isOld, sameDraft⟩ := isDraft
    obtain ⟨event, tells, ofAccount⟩ := enrolled.told old isOld
    exact ⟨event, sameDraft ▸ tells, fun userId displayName isEvent => (ofAccount userId displayName isEvent).imp_right
      fun known => marks.users ▸ known⟩
  · intro id known
    obtain ⟨old, isOld, event, displayName, tells, rest⟩ := enrolled.announced id (marks.users ▸ known)
    obtain ⟨later, isLater, _, sameDraft⟩ := marks.forth old isOld
    exact ⟨later, isLater, event, displayName, sameDraft ▸ tells, rest⟩

namespace WireStores

-- The accounts, what the outbox tells of them, what is out, and the profiles: each profile
-- is of an account, under its name, or was placed by what other services say.
structure Mirrors (settings : RelaySettings) (names placed : String → String → Prop) (wire : WireStores) : Prop where
  enrolled : wire.stores.db.Enrolled names
  genuine : ∀ message ∈ wire.handed, message.topic = "user-events" →
    ∃ row ∈ wire.stores.db.outbox.rows, messageFor settings row = .ok message
  sent : ∀ row ∈ wire.stores.db.outbox.rows, row.dispatched = true →
    ∃ message ∈ wire.handed, messageFor settings row = .ok message
  profiles : ∀ row ∈ wire.profiles.profiles.rows,
    names row.userId.text row.displayName.text ∧ row.userId.text ∈ wire.stores.db.users.keys ∨
      placed row.userId.text row.displayName.text

-- What nobody has to mind.
structure Conveys (settings : RelaySettings) (names placed : String → String → Prop)
    (before after : WireStores) : Prop where
  db : Db.Heeds names before.stores.db after.stores.db
  rows : ∀ row, (onRelay.get before).Selected row → (onRelay.get after).Selected row
  handed : ∀ message ∈ before.handed, message ∈ after.handed
  profiles : ReadModel.Stays (fun _ _ _ => True) before.profiles after.profiles
  mirrors : before.Mirrors settings names placed → after.Mirrors settings names placed

section Conveys

variable (settings : RelaySettings) (names placed : String → String → Prop)

theorem conveys_refl (wire : WireStores) : Conveys settings names placed wire wire :=
  ⟨⟨fun _ => id, id⟩, fun _ => id, fun _ => id, stays_refl _ _, id⟩

theorem conveys_trans (a b c : WireStores) (ab : Conveys settings names placed a b)
    (bc : Conveys settings names placed b c) :
    Conveys settings names placed a c where
  db := ⟨fun id member => bc.db.accounts id (ab.db.accounts id member),
    fun enrolled => bc.db.enrolled (ab.db.enrolled enrolled)⟩
  rows := fun row selected => bc.rows row (ab.rows row selected)
  handed := fun message member => bc.handed message (ab.handed message member)
  profiles := stays_trans _ _ _ _ ab.profiles bc.profiles
  mirrors := fun mirrors => bc.mirrors (ab.mirrors mirrors)

theorem conveys_redis (wire : WireStores) (redis : Redis) :
    Conveys settings names placed wire (onRedis.set wire redis) :=
  ⟨⟨fun _ => id, id⟩, fun _ => id, fun _ => id, stays_refl _ _,
    fun mirrors => ⟨mirrors.enrolled, mirrors.genuine, mirrors.sent, mirrors.profiles⟩⟩

theorem conveys_db (wire : WireStores) (db : Db) (enrols : Db.Enrols names wire.stores.db db) :
    Conveys settings names placed wire { wire with stores := { wire.stores with db := db } } := by
  obtain ⟨drafts, appended⟩ := enrols.outbox
  obtain ⟨rows, isAfter, _, unsent⟩ := appended.rows
  refine ⟨enrols.toHeeds, fun row selected => ?_, fun _ => id, stays_refl _ _,
    fun mirrors => ⟨enrols.enrolled mirrors.enrolled, ?_, ?_, ?_⟩⟩
  · obtain ⟨current, found, content⟩ := selected
    exact ⟨current, Db.grows_found _ _ enrols.outbox _ current found, content⟩
  · intro message member isEvent
    obtain ⟨row, isRow, built⟩ := mirrors.genuine message member isEvent
    exact ⟨row, isAfter ▸ List.mem_append_left _ isRow, built⟩
  · intro row member isSent
    rw [isAfter] at member
    rcases List.mem_append.mp member with old | new
    · exact mirrors.sent row old isSent
    · have wrong := (unsent row new).1
      rw [isSent] at wrong
      cases wrong
  · exact fun row member => (mirrors.profiles row member).imp_left fun mirrored =>
      ⟨mirrored.1, enrols.accounts _ mirrored.2⟩

theorem conveys_handed (wire : WireStores) (message : Message) (elsewhere : message.topic ≠ "user-events") :
    Conveys settings names placed wire { wire with handed := wire.handed ++ [message] } := by
  refine ⟨⟨fun _ => id, id⟩, fun _ => id, fun _ member => List.mem_append_left _ member, stays_refl _ _, fun mirrors =>
    ⟨mirrors.enrolled, fun other member isEvent => ?_, fun row member isSent => ?_, mirrors.profiles⟩⟩
  · rcases List.mem_append.mp member with old | new
    · exact mirrors.genuine other old isEvent
    · exact absurd (List.mem_singleton.mp new ▸ isEvent) elsewhere
  · obtain ⟨other, isOut, built⟩ := mirrors.sent row member isSent
    exact ⟨other, List.mem_append_left _ isOut, built⟩

theorem conveys_sent (wire : WireStores) (row : OutboxRow) (message : Message)
    (selected : (onRelay.get wire).Selected row) (built : messageFor settings row = .ok message) :
    Conveys settings names placed wire { wire with handed := wire.handed ++ [message] } := by
  refine ⟨⟨fun _ => id, id⟩, fun _ => id, fun _ member => List.mem_append_left _ member, stays_refl _ _, fun mirrors =>
    ⟨mirrors.enrolled, fun other member isEvent => ?_, fun row member isSent => ?_, mirrors.profiles⟩⟩
  · rcases List.mem_append.mp member with old | new
    · exact mirrors.genuine other old isEvent
    · obtain ⟨current, found, content⟩ := selected
      refine ⟨current, Table.find_mem _ _ _ found, ?_⟩
      rw [message_content settings current row content, built, List.mem_singleton.mp new]
  · obtain ⟨other, isOut, built⟩ := mirrors.sent row member isSent
    exact ⟨other, List.mem_append_left _ isOut, built⟩

theorem conveys_marked (wire : WireStores) (row : OutboxRow) (message : Message) (now : Time)
    (selected : (onRelay.get wire).Selected row)
    (built : messageFor settings row = .ok message) (isOut : message ∈ wire.handed) :
    Conveys settings names placed wire
    { wire with stores := { wire.stores with db := wire.stores.db.markDispatched row.id.text now } } := by
  obtain ⟨current, found, content⟩ := selected
  have marks := mark_row wire.stores.db current row.id.text now found
  have out : messageFor settings current = .ok message := (message_content settings current row content).trans built
  have heeds := marks.heeds names
  refine ⟨heeds, fun other selected => ?_, fun _ => id, stays_refl _ _,
    fun mirrors => ⟨heeds.enrolled mirrors.enrolled, ?_, ?_, ?_⟩⟩
  · obtain ⟨old, foundOld, contentOld⟩ := selected
    obtain ⟨later, isLater, sameContent, sameDraft⟩ := marks.forth old (Table.find_mem _ _ _ foundOld)
    have isKey : key later = other.id.text := (congrArg OutboxDraft.id sameDraft).trans (Table.find_key _ _ _ foundOld)
    exact ⟨later, isKey ▸ Table.find_self _ later isLater, sameContent.trans contentOld⟩
  · intro other isHanded isEvent
    obtain ⟨old, isOld, builtOld⟩ := mirrors.genuine other isHanded isEvent
    obtain ⟨later, isLater, sameContent, _⟩ := marks.forth old isOld
    exact ⟨later, isLater, (message_content settings later old sameContent).trans builtOld⟩
  · intro later isLater isSent
    rcases marks.back later isLater with old | isCurrent
    · exact mirrors.sent later old isSent
    · exact ⟨message, isOut, by rw [isCurrent]; exact out⟩
  · exact fun profile isProfile => (mirrors.profiles profile isProfile).imp_left fun mirrored =>
      ⟨mirrored.1, heeds.accounts _ mirrored.2⟩

-- Profiles keep their names; a new one is of an account, or there was something else to place it.
theorem conveys_profiles (wire : WireStores) (profiles : ReadModel)
    (stays : ReadModel.Stays (fun _ _ _ => True) wire.profiles profiles)
    (newcomers : wire.Mirrors settings names placed → ∀ row ∈ profiles.profiles.rows,
      row.userId.text ∈ wire.profiles.profiles.keys ∨
      names row.userId.text row.displayName.text ∧ row.userId.text ∈ wire.stores.db.users.keys ∨
        placed row.userId.text row.displayName.text) :
    Conveys settings names placed wire (onProfiles.set wire profiles) := by
  refine ⟨⟨fun _ => id, id⟩, fun _ => id, fun _ => id, stays,
    fun mirrors => ⟨mirrors.enrolled, mirrors.genuine, mirrors.sent, fun row member => ?_⟩⟩
  rcases newcomers mirrors row member with old | new
  · have member : row ∈ profiles.profiles.rows := member
    obtain ⟨was, isWas, isKey⟩ := List.mem_map.mp old
    obtain ⟨row', found, sameName, _⟩ := stays.profiles _ was (Table.find_self _ was isWas)
    have same : row' = row := by
      have isRow := Table.find_self _ row member
      rw [show key row = key was from isKey.symm, found] at isRow
      exact Option.some.inj isRow
    subst same
    rw [sameName, show row'.userId.text = was.userId.text from isKey.symm]
    exact mirrors.profiles was isWas
  · exact new

theorem conveys_unplaced (wire : WireStores) (profiles : ReadModel)
    (same : profiles.profiles = wire.profiles.profiles) :
    Conveys settings names placed wire (onProfiles.set wire profiles) := by
  refine conveys_profiles settings names placed wire profiles ⟨fun userId row found => ⟨row, same ▸ found, rfl, rfl⟩,
    fun _ _ _ => trivial⟩ ?_
  exact fun _ row member => Or.inl (List.mem_map_of_mem (same ▸ member))

end Conveys

end WireStores

section Records

variable (python : Interpreter)

-- The row of profiles that a message asks for, as the columns have it.
def Delivery.Brings (delivery : Delivery) (row : ProfileRow) : Prop :=
  ∃ userId displayName, seeding python delivery.topic delivery.message = some (.str userId, .str displayName) ∧
    row.userId.text = Varchar.cut 36 userId ∧ row.displayName.text = Varchar.cut 64 displayName

inductive Delivery.Brought (delivery : Delivery) (before after : ReadModel) : Prop where
  | kept (same : after.profiles = before.profiles)
  | brought (row : ProfileRow) (brings : delivery.Brings python row)
      (same : after.profiles = (before.insertProfileOrNothing row).profiles)

theorem create_brings (delivery : Delivery) (userId displayName : Value)
    (isSeed : seeding python delivery.topic delivery.message = some (userId, displayName)) :
    (ProfileRepository.createIfMissing delivery.io userId displayName).Steps (delivery.Brought python) := by
  have still : ∀ db, delivery.Brought python db db := fun _ => .kept rfl
  refine create_row_steps _ still delivery.io userId displayName fun row stored db => .brought row ?_ rfl
  obtain ⟨user, name, isUser, isName, _, _, userText, nameText⟩ :=
    profile_row_new_ok delivery.io userId displayName row stored
  exact ⟨user, name, by rw [isSeed, isUser, isName], userText, nameText⟩

theorem handle_brings (delivery : Delivery) : (delivery.handle python).Steps (delivery.Brought python) := by
  have seeds := handle_seeds python _ delivery (admits_profiles delivery)
  have beside : ∀ before after : ReadModel, after.profiles = before.profiles → delivery.Brought python before after :=
    fun _ _ => .kept
  generalize delivery.handle python = program at seeds ⊢
  cases seeds with
  | nothing p silent steps => exact Prog.steps_mono _ _ beside _ steps
  | profile userId displayName rest isSeed steps =>
      exact Prog.steps_bind _ _ _ (create_brings python delivery userId displayName isSeed) fun _ =>
        Prog.steps_mono _ _ beside _ steps

-- A message of the outbox is a registration of an account, or brings no profile.
theorem told_seeding (settings : RelaySettings) (row : OutboxRow) (event : DomainEvent) (message : Message)
    (json : Json) (tells : row.draft.Tells event)
    (built : messageFor settings row = .ok message) (read : Json.loads (Json.dumps message.value) = some json) :
    seeding python .userEvents (Value.ofJson json) = event.enrols.map fun pair => (.str pair.1, .str pair.2) := by
  obtain ⟨id, aggregateType, aggregateId, createdAt, hasId, isDraft⟩ := tells
  obtain ⟨sent, envelope, arrives⟩ :=
    row_arrives settings python row aggregateType aggregateId event id createdAt hasId isDraft
  have same : sent = message := Except.ok.inj (arrives.sent.symm.trans built)
  subst same
  have isJson : json = sent.value := Option.some.inj (read.symm.trans (Json.loads_dumps sent.value))
  have parsed : Envelope.parse python.printable (Value.ofJson json) = .ok envelope := by
    rw [isJson]
    exact Option.some.inj ((received_parses python.printable sent).symm.trans arrives.parsed)
  rw [seeding, parsed]
  dsimp only
  rw [arrives.eventType, arrives.payload]
  by_cases registered : event.eventType = AUTH_USER_REGISTERED
  · rw [if_pos registered]
    obtain ⟨userId, email, displayName, role, state, rfl⟩ := (registered_type event).mp registered
    rfl
  · rw [if_neg registered]
    cases event with
    | userRegistered => exact absurd rfl registered
    | registrationApproved | registrationRejected | roleRequested | roleGranted | userBanned | userUnbanned => rfl

-- Once a message is answered for, the profile it asks for has been in some store.
theorem brought_meets (delivery : Delivery) (userId displayName : String)
    (isSeed : seeding python delivery.topic delivery.message = some (.str userId, .str displayName))
    (rely : ReadModel → Prop) (present : Prop)
    (shown : ∀ db, rely db → Varchar.cut 36 userId ∈ db.profiles.keys → present) :
    (delivery.handle python).Meets rely (fun _ _ => True) fun answer => answer = .ok () → present := by
  have seeds := handle_seeds python (fun _ _ => True) delivery ⟨fun _ => trivial, fun _ _ _ _ _ _ => trivial,
    fun _ _ _ => trivial,
    fun _ _ _ _ _ _ => trivial, fun _ _ _ _ _ _ => trivial, fun _ _ _ _ _ _ => trivial, fun _ _ _ _ _ => trivial⟩
  generalize delivery.handle python = program at seeds ⊢
  cases seeds with
  | nothing p silent steps =>
      rw [silent] at isSeed
      cases isSeed
  | profile owner name rest isOther steps =>
      cases isSeed.symm.trans isOther
      have failed : ∀ error : Error, (Except.error error : Except Error Unit) = .ok () → present :=
        fun _ wrong => by cases wrong
      rw [ProfileRepository.createIfMissing]
      cases stored : ProfileRow.new delivery.io (.str userId) (.str displayName) with
      | error error => exact failed error
      | ok row =>
          have isUser : key row = Varchar.cut 36 userId := by
            obtain ⟨user, _, same, _, _, _, userText, _⟩ := profile_row_new_ok delivery.io _ _ row stored
            cases same
            exact userText
          refine Prog.meets_query_bind _ _ (fun _ => trivial) _ _ _ _ (failed _) fun seen _ => ?_
          intro db _
          refine ⟨trivial, fun relied => ?_, failed _⟩
          have isPresent : present := shown _ relied (isUser ▸ ReadModel.insert_profile_known db row)
          exact Prog.meets_of_steps _ _ (fun _ _ => True) _ _ (Prog.steps_anything _) (fun _ _ _ _ => trivial)
            fun _ _ => isPresent

end Records

section Arrivals

open WireStores

variable (deployment : Deployment) (signed : List String) (names placed : String → String → Prop)

-- Kafka delivers on user-events what has been handed to it.
def Delivery.Delivered (delivery : Delivery) (wire : WireStores) : Prop :=
  delivery.topic = .userEvents → ∃ message ∈ wire.handed, message.topic = "user-events" ∧
    (Json.loads (Json.dumps message.value)).map Value.ofJson = some delivery.message

theorem stays_delivered (delivery : Delivery) (before after : WireStores)
    (conveys : Conveys deployment.relay names placed before after)
    (delivered : delivery.Delivered before) : delivery.Delivered after := by
  intro isUser
  obtain ⟨message, member, rest⟩ := delivered isUser
  exact ⟨message, conveys.handed message member, rest⟩

theorem insert_profile_rows (db : ReadModel) (row other : ProfileRow)
    (member : other ∈ (db.insertProfileOrNothing row).profiles.rows) :
    other ∈ db.profiles.rows ∨ other = row := by
  rw [ReadModel.insertProfileOrNothing] at member
  split at member
  · exact Or.inl member
  · rename_i profiles inserted
    rw [((Table.insert_some_iff row _ _).mp inserted).2, List.mem_append, List.mem_singleton] at member
    exact member

theorem record_conveys (delivery : Delivery)
    (short : ∀ userId displayName, names userId displayName → displayName.length ≤ 64)
    (elsewhere : delivery.topic ≠ .userEvents → ∀ row, delivery.Brings deployment.python row →
      placed row.userId.text row.displayName.text)
    (wire : WireStores) (delivered : delivery.Delivered wire) (profiles : ReadModel)
    (brought : delivery.Brought deployment.python wire.profiles profiles) :
    Conveys deployment.relay names placed wire (onProfiles.set wire profiles) := by
  cases brought with
  | kept same => exact conveys_unplaced _ _ _ wire profiles same
  | brought new brings same =>
      have found := (projects_profile deployment.python delivery wire.profiles new).profiles
      refine conveys_profiles _ _ _ wire profiles
        ⟨fun userId row isRow => ⟨row, same ▸ found userId row isRow, rfl, rfl⟩, fun _ _ _ => trivial⟩ ?_
      intro mirrors row member
      rcases insert_profile_rows wire.profiles new row (same ▸ member) with old | rfl
      · exact Or.inl (List.mem_map_of_mem old)
      · right
        by_cases isUser : delivery.topic = .userEvents
        · left
          obtain ⟨message, isHanded, isEvent, read⟩ := delivered isUser
          obtain ⟨json, loaded, isMessage⟩ := Option.map_eq_some_iff.mp read
          obtain ⟨told, isTold, built⟩ := mirrors.genuine message isHanded isEvent
          obtain ⟨event, tells, ofAccount⟩ := mirrors.enrolled.told told isTold
          have isSeed := told_seeding deployment.python deployment.relay told event message json tells built loaded
          obtain ⟨userId, displayName, isBrought, userText, nameText⟩ := brings
          rw [isUser, ← isMessage, isSeed] at isBrought
          obtain ⟨pair, isPair, same⟩ := Option.map_eq_some_iff.mp isBrought
          obtain ⟨sameUser, sameName⟩ := Prod.mk.inj same
          have isEvent : event.enrols = some (userId, displayName) :=
            isPair.trans (congrArg some (Prod.ext (Value.str.inj sameUser) (Value.str.inj sameName)))
          obtain ⟨named, known⟩ := ofAccount userId displayName isEvent
          obtain ⟨account, _, isAccount⟩ := List.mem_map.mp known
          have kept : Varchar.cut 36 userId = userId := isAccount ▸ Varchar.cut_text 36 account.id
          rw [userText, nameText, kept, Varchar.cut_short 64 displayName (short userId displayName named)]
          exact ⟨named, known⟩
        · exact Or.inr (elsewhere isUser row brings)

-- The clock and the uuids of a request, and the name an account is registered under.
structure Arrival.Fair (arrival : Arrival) : Prop where
  minted : ∀ request draws, arrival = .http request draws → draws.io.Minted
  named : ∀ body draws, arrival = .http (.register body) draws → names draws.io.freshId.text body.displayName
  short : ∀ userId displayName, names userId displayName → displayName.length ≤ 64
  placed : ∀ delivery, arrival = .record delivery → delivery.topic ≠ .userEvents →
    ∀ row, delivery.Brings deployment.python row → placed row.userId.text row.displayName.text

theorem db_request_conveys {α : Type} (p : Prog Db Error α) (wire : WireStores)
    (assures : p.Assures (Db.Heeds names) (Db.Enrols names) (fun _ _ => True) wire.stores.db) :
    ((p.focus Stores.onDb).focus onStores).Guarantees (Conveys deployment.relay names placed)
      (Conveys deployment.relay names placed) wire := by
  refine Prog.guarantees_focus (fun before after : Stores => Db.Heeds names before.db after.db)
    (fun before after : Stores => Db.Enrols names before.db after.db ∧
      after = { before with db := after.db }) onStores _ _
    (fun _ _ conveys => conveys.db) (fun wire' stores moved => ?_) _ wire ?_
  · obtain ⟨enrols, same⟩ := moved
    have conveys := conveys_db deployment.relay names placed wire' stores.db enrols
    rw [show onStores.set wire' stores = { wire' with stores := stores } from rfl, same]
    exact conveys
  · exact Prog.guarantees_focus _ _ Stores.onDb _ _ (fun _ _ heeds => heeds) (fun stores db enrols => ⟨enrols, rfl⟩) p _
      (Prog.assures_guarantees _ _ _ p _ assures)

theorem set_hidden_profiles (userId gameId : String) (hidden : Bool) :
    (ProfileRepository.setHidden userId gameId hidden).Steps fun before after => after.profiles = before.profiles := by
  have still : ∀ db : ReadModel, db.profiles = db.profiles := fun _ => rfl
  refine Prog.steps_bind _ _ _ (select_steps _ _ _ still) fun found => Prog.steps_bind _ _ _ (of_except_steps _ _)
    fun row => ?_
  cases row with
  | none => trivial
  | some row =>
      refine commit_steps _ still _ fun db after run => ?_
      rw [ReadModel.updateHidden] at run
      split at run
      · cases run
        rfl
      · split at run
        · cases run
        · cases run
          rfl

-- Whatever an account does to its own profile, the names stay and no profile is added.
theorem own_request_conveys (credentials : String) (request : OwnProfileRequest) (draws : Draws) (wire : WireStores) :
    ((request.route deployment.provider signed draws.read credentials).focus onProfiles).Guarantees
      (Conveys deployment.relay names placed) (Conveys deployment.relay names placed) wire := by
  have gameless : ∀ userId gameId hidden,
    ((ProfileRepository.setHidden userId gameId hidden).focus onProfiles).Guarantees
      (Conveys deployment.relay names placed) (Conveys deployment.relay names placed) wire := by
    intro userId gameId hidden
    refine Prog.steps_guarantees _ _ _ _
      (Prog.steps_focus onProfiles _ _ (fun wire' profiles same => ?_) _ (set_hidden_profiles userId gameId hidden))
    exact conveys_unplaced deployment.relay names placed wire' profiles same
  rw [OwnProfileRequest.route]
  cases called : getCurrentUser deployment.provider signed draws.read.now credentials with
  | error error => trivial
  | ok caller =>
      cases request with
      | hideGame body => exact gameless caller.userId body.gameId true
      | unhideGame body => exact gameless caller.userId body.gameId false
      | setAvatar body =>
          let arrival : Arrival := .http (.ownProfile credentials (.setAvatar body)) draws
          have isBy : arrival.By deployment.provider (fun _ _ => True) caller.userId (.setAvatar body) :=
            ⟨credentials, draws, signed, caller, rfl, called, rfl, trivial⟩
          refine Prog.guarantees_focus (ReadModel.Stays fun _ _ _ => True)
            (arrival.Edits deployment.provider (fun _ _ => True) fun _ _ _ => True)
            onProfiles _ _ (fun _ _ conveys => conveys.profiles) (fun wire' profiles edits => ?_) _ wire
            (Prog.assures_guarantees _ _ _ _ _
              (set_avatar_assures deployment.provider _ _ arrival draws.read caller.userId body.avatarUrl
              body.fits isBy _))
          refine conveys_profiles _ _ _ wire' profiles (edits_stay deployment.provider _ _ arrival _ _ edits)
            fun _ row member => Or.inl ?_
          rcases edits.newcomers with same | ⟨delivery, wrong⟩
          · exact same ▸ List.mem_map_of_mem member
          · change Arrival.http _ _ = _ at wrong
            cases wrong

-- What a dispatcher may rely on.
structure RelayStores.Kept (before after : RelayStores) : Prop where
  rows : ∀ row, before.Selected row → after.Selected row
  published : ∀ message ∈ before.published, message ∈ after.published

theorem relay_conveys (polls : List Poll) (wire : WireStores) :
    ((runLoop deployment.relay polls).focus onRelay).Guarantees
    (Conveys deployment.relay names placed) (Conveys deployment.relay names placed) wire := by
  let guar (before after : RelayStores) : Prop := ∀ wire', onRelay.get wire' = before →
    Conveys deployment.relay names placed wire' (onRelay.set wire' after)
  have relays : (runLoop deployment.relay polls).Assures RelayStores.Kept guar (fun _ _ => True)
      (onRelay.get wire) := by
    refine run_loop_relies deployment.relay _ _ ?_ ?_ (fun _ _ kept => kept.rows)
      (fun _ _ kept => kept.published) ?_ ?_ polls _
    · rintro _ wire' rfl
      exact conveys_refl _ _ _ wire'
    · intro before after conveys
      have conveyed := conveys (onRelay.set wire before) (onRelay.get_set _ _)
      exact ⟨conveyed.rows, conveyed.handed⟩
    · rintro _ row message selected built wire' rfl
      exact conveys_sent _ _ _ wire' row message selected built
    · rintro _ row message now selected built isOut wire' rfl
      exact conveys_marked _ _ _ wire' row message now selected built isOut
  exact Prog.guarantees_focus RelayStores.Kept guar onRelay _ _ (fun _ _ conveys => ⟨conveys.rows, conveys.handed⟩)
    (fun wire' after conveys => conveys wire' rfl) _ wire (Prog.assures_guarantees _ _ _ _ _ relays)

-- What any action does, while others act: accounts, messages and profiles stay, and the profiles mirror the accounts.
theorem arrival_conveys (arrival : Arrival) (fair : arrival.Fair deployment names placed) (wire : WireStores)
    (enrolled : wire.stores.db.Enrolled names)
    (delivered : ∀ delivery, arrival = .record delivery → delivery.Delivered wire) :
    (arrival.program deployment signed).Guarantees (Conveys deployment.relay names placed)
      (Conveys deployment.relay names placed) wire := by
  have still := conveys_refl deployment.relay names placed
  have rendered := fun {α β : Type} (p : Prog WireStores Error α) (render : α → β) =>
    Prog.guarantees_rendered (Conveys deployment.relay names placed)
      (Conveys deployment.relay names placed) p render wire
  have reads : ∀ {α : Type} (p : Prog WireStores Error α), p.Reads →
      p.Guarantees (Conveys deployment.relay names placed) (Conveys deployment.relay names placed) wire :=
    fun p reads => Prog.steps_guarantees _ _ p wire
      (Prog.steps_mono _ _ (fun before _ same => same ▸ still before) p reads.steps)
  cases arrival with
  | http request draws =>
      refine rendered _ _ ?_
      have minted := fair.minted request draws rfl
      cases request with
      | register body =>
          refine rendered _ _ (db_request_conveys deployment names placed _ wire ?_)
          refine then_enrols names _ _ _ ?_ fun _ _ => trivial
          exact register_user_enrols names draws.io _ minted deployment.lower deployment.hasher _ _ _
            (fair.named body draws rfl) body.displayNameFits.2
      | login body client =>
          refine rendered _ _ (db_request_conveys deployment names placed _ wire ?_)
          refine then_enrols names _ _ _ ?_ fun _ _ => trivial
          exact login_enrols names draws.io _ deployment.lower deployment.hasher _ _ _ _
      | refresh body =>
          refine rendered _ _ (reads _ (Prog.reads_focus _ _ ?_))
          exact Prog.reads_bind _ _ (refreshing_reads _ _ _) fun _ => Prog.reads_pure _
      | logout body =>
          refine rendered _ _
            (Prog.steps_guarantees _ _ _ _ (Prog.steps_focus onStores (fun before after : Stores => ∃ redis,
            after = { before with redis := redis }) _ ?_ _
            (Prog.steps_focus Stores.onRedis (fun _ _ => True) _ (fun _ redis _ => ⟨redis, rfl⟩) _
              (Prog.steps_anything _))))
          rintro wire' _ ⟨redis, rfl⟩
          exact conveys_redis _ _ _ wire' redis
      | roleAdmin credentials request =>
          refine rendered _ _ (db_request_conveys deployment names placed _ wire ?_)
          exact role_admin_enrols names draws.io _ minted enrolled deployment.provider signed credentials request
      | directory credentials request =>
          refine rendered _ _ (reads _ (Prog.reads_focus _ _ (Prog.reads_focus _ _ ?_)))
          refine Prog.reads_bind _ _ (Prog.reads_of_except _) fun caller =>
            Prog.reads_bind _ _ (Prog.reads_of_except _) fun _ => ?_
          exact directory_reads _ _ caller request
      | ownProfile credentials request =>
          exact rendered _ _ (own_request_conveys deployment signed names placed credentials request draws wire)
      | profile credentials userId => exact rendered _ _ (reads _ (profile_route_reads _ _ _ _ _))
  | socket connection =>
      refine Prog.steps_guarantees _ _ _ _
        (Prog.steps_bind _ _ _ (socket_steps _ still (fun wire' event => ?_) _ _ _ ?_) fun _ => trivial)
      · exact conveys_handed _ _ _ wire' _ (by simp [presenceMessage])
      · exact fun _ _ _ _ _ _ _ _ _ wire' redis _ => conveys_redis _ _ _ wire' redis
  | record delivery =>
      refine rendered _ _ (Prog.steps_guarantees_under _ _ (fun before after : WireStores => ∃ profiles,
        delivery.Brought deployment.python before.profiles profiles ∧
          after = onProfiles.set before profiles) delivery.Delivered ?_ ?_ ?_ _ _
        (delivered delivery rfl) (Prog.steps_focus onProfiles _ _ (fun _ profiles brought => ⟨profiles, brought, rfl⟩) _
          (handle_brings _ delivery)))
      · exact fun _ _ => stays_delivered deployment names placed delivery _ _
      · exact fun _ _ => stays_delivered deployment names placed delivery _ _
      · rintro before after isDelivered ⟨profiles, brought, rfl⟩
        exact record_conveys deployment names placed delivery fair.short
          (fair.placed delivery rfl) before isDelivered profiles brought
  | wallet message =>
      exact rendered _ _ (reads _ (Prog.reads_focus _ _ (Prog.reads_focus _ _ (abuse_reads _ message))))
  | relay polls =>
      exact rendered _ _ (relay_conveys deployment names placed polls wire)

end Arrivals

namespace App

variable (deployment : Deployment) (before : List String) (wire : WireStores) (earlier : String → String → Prop)
    (events : List (ServerEvent Arrival))

-- The display name of an account: the one it has at the start, or is registered with.
def Named (userId displayName : String) : Prop :=
  (∃ row ∈ wire.stores.db.users.rows, row.id.text = userId ∧ row.displayName.text = displayName) ∨
    ∃ body draws, .arrives (.http (.register body) draws) ∈ events ∧ draws.io.freshId.text = userId ∧
      body.displayName = displayName

-- The profiles that other services have had made, before the run or in it, as the columns have them.
def Placed (userId displayName : String) : Prop :=
  earlier userId displayName ∨ ∃ delivery account name, .arrives (.record delivery) ∈ events ∧
    delivery.topic ≠ .userEvents ∧
    seeding deployment.python delivery.topic delivery.message = some (.str account, .str name) ∧
      userId = Varchar.cut 36 account ∧ displayName = Varchar.cut 64 name

theorem named_short (userId displayName : String) (named : Named wire events userId displayName) :
    displayName.length ≤ 64 := by
  rcases named with ⟨row, _, _, rfl⟩ | ⟨body, _, _, _, rfl⟩
  · exact row.displayName.fits.1
  · exact body.displayNameFits.2

-- uuid4 draws no account id twice.
structure FreshAccounts : Prop where
  apart : ∀ body draws body' draws', .arrives (.http (.register body) draws) ∈ events →
    .arrives (.http (.register body') draws') ∈ events →
    draws.io.freshId.text = draws'.io.freshId.text → body.displayName = body'.displayName
  unused : ∀ body draws, .arrives (.http (.register body) draws) ∈ events →
    draws.io.freshId.text ∉ wire.stores.db.users.keys

theorem one_name (fresh : FreshAccounts wire events) (userId first second : String)
    (named : Named wire events userId first) (named' : Named wire events userId second) : first = second := by
  have known : ∀ row ∈ wire.stores.db.users.rows, row.id.text ∈ wire.stores.db.users.keys :=
    fun row => List.mem_map_of_mem
  rcases named with ⟨row, member, isUser, rfl⟩ | ⟨body, draws, arrives, isUser, rfl⟩
  · rcases named' with ⟨row', member', isUser', rfl⟩ | ⟨body', draws', arrives', isUser', rfl⟩
    · have found := Table.find_self _ row member
      rw [show key row = key row' from isUser.trans isUser'.symm, Table.find_self _ row' member'] at found
      rw [Option.some.inj found]
    · exact absurd ((isUser.trans isUser'.symm) ▸ known row member) (fresh.unused body' draws' arrives')
  · rcases named' with ⟨row', member', isUser', rfl⟩ | ⟨body', draws', arrives', isUser', rfl⟩
    · exact absurd ((isUser'.trans isUser.symm) ▸ known row' member') (fresh.unused body draws arrives)
    · exact fresh.apart body draws body' draws' arrives arrives' (isUser.trans isUser'.symm)

-- A message whose handler has come to its end without an error.
def Consumed (message : Message) : Prop :=
  ∃ delivery, (.record delivery, .ok .done) ∈ (run deployment before wire events).answers ∧
    delivery.topic = .userEvents ∧
    (Json.loads (Json.dumps message.value)).map Value.ofJson = some delivery.message

-- Every profile is of an account and under its name, unless another service had it made. Every
-- account's registration is in the outbox, out as soon as it is marked, and a profile once it is consumed.
structure ProfilesMirror (final : WireStores) : Prop where
  profiles : ∀ profile ∈ final.profiles.profiles.rows,
    (∃ user, final.stores.db.users.find profile.userId.text = some user ∧
      user.displayName.text = profile.displayName.text) ∨
      Placed deployment earlier events profile.userId.text profile.displayName.text
  accounts : ∀ user ∈ final.stores.db.users.rows, ∃ row ∈ final.stores.db.outbox.rows, ∃ event,
    row.draft.Tells event ∧ event.enrols = some (user.id.text, user.displayName.text) ∧ (row.dispatched = true →
      ∃ message ∈ final.handed, messageFor deployment.relay row = .ok message ∧
        (Consumed deployment before wire events message →
        ∃ profile, final.profiles.profiles.find user.id.text = some profile ∧
          (profile.displayName.text = user.displayName.text ∨
            Placed deployment earlier events user.id.text profile.displayName.text)))

section Run

variable (start : wire.Mirrors deployment.relay (Named wire events) (Placed deployment earlier events))
  (minted : ∀ request draws, .arrives (.http request draws) ∈ events → draws.io.Minted)
  (delivered : ∀ first delivery later, events = first ++ .arrives (.record delivery) :: later →
    delivery.Delivered (run deployment before wire first).store)

include start minted delivered

theorem conveying_serves (first : List (ServerEvent Arrival)) (arrival : Arrival) (later : List (ServerEvent Arrival))
    (isPrefix : events = first ++ .arrives arrival :: later)
    (conveys : WireStores.Conveys deployment.relay (Named wire events) (Placed deployment earlier events) wire
      (run deployment before wire first).store) :
    (serve deployment before arrival (run deployment before wire first).answers).Guarantees
      (WireStores.Conveys deployment.relay (Named wire events) (Placed deployment earlier events))
      (WireStores.Conveys deployment.relay (Named wire events) (Placed deployment earlier events))
        (run deployment before wire first).store := by
  have arrives : .arrives arrival ∈ events := by simp [isPrefix]
  refine arrival_conveys deployment _ _ _ arrival ⟨fun request draws same => ?_, fun body draws same => ?_,
    named_short wire events,
    fun delivery same elsewhere row brings => ?_⟩ _
    (conveys.db.enrolled start.enrolled) fun delivery same => delivered first delivery later (same ▸ isPrefix)
  · exact minted request draws (same ▸ arrives)
  · exact Or.inr ⟨body, draws, same ▸ arrives, rfl, rfl⟩
  · obtain ⟨account, name, isSeed, userText, nameText⟩ := brings
    exact Or.inr ⟨delivery, account, name, same ▸ arrives, elsewhere, isSeed, userText, nameText⟩

-- From every store of the run on, all that is there stays.
theorem run_conveys : ∀ wire' ∈ stores deployment before wire events,
    WireStores.Conveys deployment.relay (Named wire events) (Placed deployment earlier events) wire'
      (run deployment before wire events).store := by
  have refl := WireStores.conveys_refl deployment.relay (Named wire events) (Placed deployment earlier events)
  have trans := WireStores.conveys_trans deployment.relay (Named wire events) (Placed deployment earlier events)
  exact Server.run_guarding_stores (serve deployment before) _ (fun _ => _) refl trans (fun _ => refl) (fun _ _ _ => id)
    ⟨wire, [], []⟩
    (Server.idle_guarding _ _ wire) events
      (conveying_serves deployment before wire earlier events start minted delivered)

theorem consumed_present (message : Message) (row : OutboxRow) (event : DomainEvent) (userId displayName : String)
    (short : userId.length ≤ 36) (tells : row.draft.Tells event) (isEvent : event.enrols = some (userId, displayName))
    (built : messageFor deployment.relay row = .ok message)
    (consumed : Consumed deployment before wire events message) :
    userId ∈ (run deployment before wire events).store.profiles.profiles.keys := by
  obtain ⟨delivery, answered, isUser, read⟩ := consumed
  obtain ⟨json, loaded, isMessage⟩ := Option.map_eq_some_iff.mp read
  have isSeed : seeding deployment.python delivery.topic delivery.message = some (.str userId, .str displayName) := by
    rw [isUser, ← isMessage, told_seeding deployment.python deployment.relay row event message json tells built loaded,
      isEvent]
    rfl
  have conveys := run_conveys deployment before wire earlier events start minted delivered
  let rely (wire' : WireStores) : Prop :=
    userId ∈ wire'.profiles.profiles.keys → userId ∈ (run deployment before wire events).store.profiles.profiles.keys
  let fit (arrival : Arrival) (answer : Except Error Outcome) : Prop :=
    arrival = .record delivery → answer = .ok .done →
      userId ∈ (run deployment before wire events).store.profiles.profiles.keys
  have relied : ∀ wire' ∈ stores deployment before wire events, rely wire' := by
    intro wire' seen known
    obtain ⟨old, isOld, isKey⟩ := List.mem_map.mp known
    obtain ⟨profile, found, _⟩ := (conveys wire' seen).profiles.profiles _ old (Table.find_self _ old isOld)
    exact isKey ▸ (Table.find_key _ _ _ found) ▸ List.mem_map_of_mem (Table.find_mem _ _ _ found)
  have met := Server.run_meeting (serve deployment before) rely (fun _ _ _ => True) fit ⟨wire, [], []⟩
    (Server.idle_meeting _ _ _ wire) events relied ?_
  · exact met.answers _ answered rfl rfl
  · intro arrival answers _ _
    by_cases isRecord : arrival = .record delivery
    · subst isRecord
      have brought := brought_meets deployment.python delivery userId displayName isSeed
        (fun profiles => userId ∈ profiles.profiles.keys →
          userId ∈ (run deployment before wire events).store.profiles.profiles.keys)
        (userId ∈ (run deployment before wire events).store.profiles.profiles.keys)
        fun _ shown known => shown (Varchar.cut_short 36 userId short ▸ known)
      refine Prog.meets_rendered _ _ _ _ _
        (Prog.meets_focus _ _ WireStores.onProfiles _ _ (fun _ relied => relied) (fun _ _ _ _ => trivial) _ _
        (Prog.meets_mono _ _ _ _ _ (fun result present _ answer => ?_) brought))
      cases result with
      | ok value => exact present rfl
      | error error => cases answer
    · exact Prog.meets_of_steps _ _ (fun _ _ => True) _ _ (Prog.steps_anything _) (fun _ _ _ _ => trivial) fun _ same =>
        absurd same isRecord

theorem profiles_mirror_accounts (fresh : FreshAccounts wire events) :
    ProfilesMirror deployment before wire earlier events (run deployment before wire events).store := by
  have mirrors :=
    (run_conveys deployment before wire earlier events start minted delivered wire
    (Server.store_mem_stores _ _ _)).mirrors start
  have named : ∀ user ∈ (run deployment before wire events).store.stores.db.users.rows, ∀ displayName,
      Named wire events user.id.text displayName → user.displayName.text = displayName :=
    fun user member displayName isName => one_name wire events fresh _ _ _ (mirrors.enrolled.named user member) isName
  have mirrored : ∀ profile ∈ (run deployment before wire events).store.profiles.profiles.rows,
      (∃ user, (run deployment before wire events).store.stores.db.users.find profile.userId.text = some user ∧
        user.displayName.text = profile.displayName.text) ∨
          Placed deployment earlier events profile.userId.text profile.displayName.text := by
    refine fun profile member => (mirrors.profiles profile member).imp_left fun ⟨isName, isUser⟩ => ?_
    obtain ⟨user, isMember, isKey⟩ := List.mem_map.mp isUser
    exact ⟨user, isKey ▸ Table.find_self _ user isMember,
      named user isMember _ ((show user.id.text = _ from isKey) ▸ isName)⟩
  refine ⟨mirrored, fun user member => ?_⟩
  obtain ⟨row, isRow, event, displayName, tells, isEvent, isName⟩ :=
    mirrors.enrolled.announced user.id.text (List.mem_map_of_mem member)
  have isUser : event.enrols = some (user.id.text, user.displayName.text) := (named user member _ isName) ▸ isEvent
  refine ⟨row, isRow, event, tells, isUser, fun isSent => ?_⟩
  obtain ⟨message, isOut, built⟩ := mirrors.sent row isRow isSent
  refine ⟨message, isOut, built, fun consumed => ?_⟩
  have known := consumed_present deployment before wire earlier events start minted delivered message row event
    _ _ user.id.fits.1 tells isEvent built consumed
  obtain ⟨profile, isProfile, isKey⟩ := List.mem_map.mp known
  have isKey : profile.userId.text = user.id.text := isKey
  have found : (run deployment before wire events).store.profiles.profiles.find user.id.text = some profile :=
    isKey ▸ Table.find_self _ profile isProfile
  refine ⟨profile, found, ?_⟩
  rcases mirrored profile isProfile with ⟨other, isOther, sameName⟩ | placed
  · have same : other = user := Option.some.inj (isOther.symm.trans (isKey.symm ▸ Table.find_self _ user member))
    exact Or.inl (same ▸ sameName.symm)
  · exact Or.inr (isKey ▸ placed)

end Run

end App

-- Carol registers and the relay hands it over.
def carolSignsUp : List (ServerEvent Arrival) :=
  [.arrives (.http (.register ⟨"carol@arcadia.com", "carol-password", "Carol", by decide, by decide⟩) .sample),
    .moves 0 .none, .moves 0 .none,
    .arrives (.relay [⟨.stable _, fun _ => true, fun _ => 0⟩]), .moves 0 .none, .moves 0 .none, .moves 0 .none,
      .moves 0 .none]

def carolHanded : List Message := (App.run sampleDeployment [] emptyService carolSignsUp).store.handed

def carolRegistered : Delivery := ⟨.userEvents, .sample 1, Value.ofJson ((carolHanded.map Message.value).headD .null)⟩

def carolArrives : List (ServerEvent Arrival) :=
  carolSignsUp ++ .arrives (.record carolRegistered) ::
    [.moves 0 .none, .moves 0 .none, .moves 0 .none, .moves 0 .none, .moves 0 .none, .moves 0 .none, .moves 0 .none]

theorem carol_handed : carolHanded.map Message.topic = ["user-events"] := by decide +kernel

theorem mirrored_draws (request : HttpRequest) (draws : Draws)
    (arrives : .arrives (.http request draws) ∈ carolArrives) :
    draws = .sample ∧ ∃ body, request = .register body ∧ body.displayName = "Carol" := by
  simp only [carolArrives, carolSignsUp, List.mem_append, List.mem_cons, List.not_mem_nil, or_false, reduceCtorEq,
    ServerEvent.arrives.injEq, Arrival.http.injEq] at arrives
  exact ⟨arrives.2, _, arrives.1, rfl⟩

theorem one_record (quiet rest first later : List (ServerEvent Arrival)) (delivery delivery' : Delivery)
    (noEarlier : ∀ delivery, .arrives (.record delivery) ∉ quiet)
    (noLater : ∀ delivery, .arrives (.record delivery) ∉ rest)
    (same : quiet ++ .arrives (.record delivery) :: rest = first ++ .arrives (.record delivery') :: later) :
    first = quiet ∧ delivery' = delivery := by
  rcases List.append_eq_append_iff.mp same with ⟨between, isFirst, isRest⟩ | ⟨between, isQuiet, isLater⟩
  · cases between with
    | nil =>
        cases isRest
        exact ⟨by simpa using isFirst, rfl⟩
    | cons event between =>
        have inRest : .arrives (.record delivery') ∈ rest := by simp [(List.cons.inj isRest).2]
        exact absurd inRest (noLater delivery')
  · cases between with
    | nil =>
        cases isLater
        exact ⟨by simpa using isQuiet.symm, rfl⟩
    | cons event between =>
        have inQuiet : .arrives (.record delivery') ∈ quiet := by
          rw [isQuiet, (List.cons.inj isLater).1]
          simp
        exact absurd inQuiet (noEarlier delivery')

theorem carol_delivered (first : List (ServerEvent Arrival)) (delivery : Delivery) (later : List (ServerEvent Arrival))
    (isPrefix : carolArrives = first ++ .arrives (.record delivery) :: later) :
    delivery.Delivered (App.run sampleDeployment [] emptyService first).store := by
  obtain ⟨rfl, rfl⟩ := one_record carolSignsUp _ first later carolRegistered delivery (by simp [carolSignsUp])
    (by simp) isPrefix
  intro _
  obtain ⟨message, isHanded, isTopic⟩ : ∃ message, carolHanded = [message] ∧ message.topic = "user-events" := by
    simpa [List.map_eq_cons_iff] using carol_handed
  refine ⟨message, show message ∈ carolHanded by simp [isHanded], isTopic, ?_⟩
  rw [Json.loads_dumps, carolRegistered, isHanded]
  rfl

theorem empty_mirrors (settings : RelaySettings) (names placed : String → String → Prop) :
    emptyService.Mirrors settings names placed :=
  ⟨⟨fun _ member => absurd member List.not_mem_nil, fun _ member => absurd member List.not_mem_nil,
    fun _ member => absurd member List.not_mem_nil⟩,
    fun _ member => absurd member List.not_mem_nil, fun _ member => absurd member List.not_mem_nil, fun _ member =>
      absurd member List.not_mem_nil⟩

theorem carol_mirrored : App.ProfilesMirror sampleDeployment [] emptyService (fun _ _ => False) carolArrives
    (App.run sampleDeployment [] emptyService carolArrives).store :=
  App.profiles_mirror_accounts sampleDeployment [] emptyService (fun _ _ => False) carolArrives (empty_mirrors _ _ _)
    (fun request draws arrives => (mirrored_draws request draws arrives).1 ▸ sample_minted) carol_delivered
    ⟨fun body draws body' draws' arrives arrives' _ => by
      obtain ⟨_, _, same, isCarol⟩ := mirrored_draws _ draws arrives
      obtain ⟨_, _, same', isCarol'⟩ := mirrored_draws _ draws' arrives'
      cases same
      cases same'
      rw [isCarol, isCarol'], fun _ _ _ => List.not_mem_nil⟩

end AuthProfile

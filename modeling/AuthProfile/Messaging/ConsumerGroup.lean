import AuthProfile.Messaging.ConsumerLoop

set_option autoImplicit false

-- The members of a consumer group at one partition: each runs the loop from where the group
-- has committed when it is given the partition.
namespace AuthProfile

open Process

variable {κ ν σ : Type}

-- Where a member is with the record at its position.
inductive MemberPhase (ν σ : Type) where
  | fetching
  | waiting (payload : ν) (results : List (Except Error Unit))
  | trying (payload : ν) (results : List (Except Error Unit)) (attempt : Prog σ Error Unit)
  | committing (payload : ν) (results : List (Except Error Unit))
  | ended (ending : Ending)

structure GroupMember (ν σ : Type) where
  joined : Nat
  position : Nat
  phase : MemberPhase ν σ

-- A record that a member has been through with, up to its commit.
structure Passed (ν : Type) where
  member : Nat
  offset : Nat
  payload : ν
  results : List (Except Error Unit)

structure ConsumerGroup (ν σ : Type) where
  log : List (Option ByteArray)
  committed : Nat
  members : List (GroupMember ν σ)
  passed : List (Passed ν)
  store : σ

-- A fault of the commit says whether the broker takes it and whether it says so; a stop may
-- be stop(), a rebalance or the death of the process.
inductive MemberEvent (κ : Type) where
  | fetches
  | tries (io : κ)
  | acts (fault : Fault)
  | commits (fault : Fault) (lost : Error)
  | stops

inductive GroupEvent (κ : Type) where
  | produced (value : Option ByteArray)
  | joins
  | member (place : Nat) (event : MemberEvent κ)

namespace ConsumerGroup

def put (group : ConsumerGroup ν σ) (place : Nat) (member : GroupMember ν σ) : ConsumerGroup ν σ :=
  { group with members := group.members.set place member }

def commit (group : ConsumerGroup ν σ) (passed : Passed ν) (taken : Bool) : ConsumerGroup ν σ :=
  { group with passed := group.passed ++ [passed], committed := if taken then passed.offset + 1 else group.committed }

end ConsumerGroup

namespace KafkaConsumerBase

variable (consumer : KafkaConsumerBase κ ν σ) (loads : String → Option ν)

-- What these results are followed by: another attempt, or the commit.
def pending (payload : ν) (results : List (Except Error Unit)) : MemberPhase ν σ :=
  if results.length < consumer.maxRetries then .waiting payload results else .committing payload results

def attempted (payload : ν) (results : List (Except Error Unit)) (attempt : Prog σ Error Unit) : MemberPhase ν σ :=
  match attempt.finished with
  | none => .trying payload results attempt
  | some (.ok ()) => .committing payload (results ++ [.ok ()])
  | some (.error error) => consumer.pending payload (results ++ [.error error])

-- The loop, one event of a member at a time.
def memberStep (group : ConsumerGroup ν σ) (place : Nat) (member : GroupMember ν σ) : MemberEvent κ → ConsumerGroup ν σ
  | .fetches =>
      match member.phase, group.log[member.position]? with
      | .fetching, some value =>
          match valueDeserializer loads value with
          | .error error => group.put place { member with phase := .ended (.raised error) }
          | .ok payload => group.put place { member with phase := consumer.pending payload [] }
      | _, _ => group
  | .tries io =>
      match member.phase with
      | .waiting payload results =>
          group.put place { member with phase := consumer.attempted payload results (consumer.handler io payload) }
      | _ => group
  | .acts fault =>
      match member.phase with
      | .trying payload results attempt =>
          let moved := attempt.advance fault group.store
          { group with store := moved.2 }.put place { member with phase := consumer.attempted payload results moved.1 }
      | _ => group
  | .commits fault lost =>
      match member.phase with
      | .committing payload results =>
          (group.commit ⟨place, member.position, payload, results⟩ (fault ≠ .before)).put place
            { member with position := member.position + 1, phase := if fault = .none then
              .fetching else .ended (.raised lost) }
      | _ => group
  | .stops =>
      match member.phase with
      | .ended _ => group
      | _ => group.put place { member with phase := .ended .stopped }

-- Without a committed offset a member starts at the earliest record.
def groupStep (group : ConsumerGroup ν σ) : GroupEvent κ → ConsumerGroup ν σ
  | .produced value => { group with log := group.log ++ [value] }
  | .joins => { group with members := group.members ++ [⟨group.committed, group.committed, .fetching⟩] }
  | .member place event =>
      match group.members[place]? with
      | none => group
      | some member => consumer.memberStep loads group place member event

def groupRun (group : ConsumerGroup ν σ) (events : List (GroupEvent κ)) : ConsumerGroup ν σ :=
  events.foldl (consumer.groupStep loads) group

end KafkaConsumerBase

-- A partition and a group that has not read it yet.
def ConsumerGroup.fresh (log : List (Option ByteArray)) (store : σ) : ConsumerGroup ν σ := ⟨log, 0, [], [], store⟩

end AuthProfile

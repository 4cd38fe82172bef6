import AuthProfile.Messaging.AbuseConsumer
import AuthProfile.Process.Server
import AuthProfile.Rest.Api
import AuthProfile.Rest.PresenceController
import AuthProfile.Topics

set_option autoImplicit false

-- The service as it runs: everything that comes in or works in the background, over the
-- same stores.
namespace AuthProfile

open Process

-- A record is one attempt of a handler at a message, a relay the polls of one dispatcher.
inductive Arrival where
  | http (request : HttpRequest) (draws : Draws)
  | socket (connection : PresenceConnection)
  | record (delivery : Delivery)
  | wallet (message : Value)
  | relay (polls : List Poll)

inductive Outcome where
  | response (response : HttpResponse)
  | socket (socketEnd : SocketEnd)
  | flagged (supportFlag : Option SupportFlag)
  | done

namespace Arrival

variable (deployment : Deployment) (signed : List String)

def program : Arrival → Prog WireStores Error Outcome
  | .http request draws => do
      let response ← request.program deployment draws signed
      return .response response
  | .socket connection => do
      let socketEnd ← PresenceController.presenceHeartbeat deployment.provider signed connection
      return .socket socketEnd
  | .record delivery => do
      (delivery.handle deployment.python).focus WireStores.onProfiles
      return .done
  | .wallet message => do
      let supportFlag ← ((AbuseEventConsumer.handle deployment.python message).focus Stores.onDb).focus
        WireStores.onStores
      return .flagged supportFlag
  | .relay polls => do
      (OutboxDispatcher.runLoop deployment.relay polls).focus WireStores.onRelay
      return .done

-- The tokens that go out with an answer.
def minted (arrival : Arrival) (answer : Except Error Outcome) : List String :=
  match arrival, answer with
  | .http request _, .ok (.response response) => request.minted (.ok response)
  | _, _ => []

end Arrival

-- What comes in may carry any token that has gone out by then, or one signed before.
namespace App

variable (deployment : Deployment) (before : List String)

def signedBy (answers : List (Arrival × Except Error Outcome)) : List String :=
  answers.flatMap fun pair => pair.1.minted pair.2

def serve (arrival : Arrival) (answers : List (Arrival × Except Error Outcome)) : Prog WireStores Error Outcome :=
  arrival.program deployment (before ++ signedBy answers)

-- The service with nothing under way over these stores, then these events.
def run (wire : WireStores) (events : List (ServerEvent Arrival)) : Server Arrival WireStores Error Outcome :=
  Server.run (serve deployment before) ⟨wire, [], []⟩ events

def stores (wire : WireStores) (events : List (ServerEvent Arrival)) : List WireStores :=
  Server.stores (serve deployment before) ⟨wire, [], []⟩ events

end App

end AuthProfile

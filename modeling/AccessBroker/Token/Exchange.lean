/-
The answer to a request for a token.

A browser always gets a page with status 200, which posts the result to its
origin; any other client gets the result itself, with the status of its fault.
-/
import AccessBroker.Token.Flow
import AccessBroker.Token.Result

namespace AccessBroker

/-- How a result is delivered. -/
inductive Delivery where
  | json
  /-- By a page that posts it to an origin. -/
  | page (origin : String)
  deriving DecidableEq

/-- A result, with its status and the way it is delivered. -/
structure TokenReply where
  status : Nat
  result : TokenResult
  delivery : Delivery
  deriving DecidableEq

namespace TokenFlow

/-- The result of a flow, with the number of the message to repeat. -/
def result (f : TokenFlow) (expiresIn : Option UInt64) (jar : Cookie.Jar) (client : Client)
    (today : Date) (messageId : Option String) : TokenResult :=
  match f.issue jar client today with
  | .ok token => .given token expiresIn messageId
  | .error e => .refused e messageId

/-- The answer of a flow to a client. -/
def exchange (f : TokenFlow) (expiresIn : Option UInt64) (jar : Cookie.Jar) (client : Client)
    (today : Date) : TokenReply :=
  match client.browser? with
  | some (origin, id) => ⟨200, f.result expiresIn jar client today (some id), .page origin⟩
  | none =>
    let r := f.result expiresIn jar client today none
    ⟨(r.fault?.map TokenFault.status).getD 200, r, .json⟩

end TokenFlow

end AccessBroker

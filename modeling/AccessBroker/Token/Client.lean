/-
What is known of the client that asks for a token.

A client that names both an origin and a number for its message is a browser:
it gets a page that posts the answer to that origin. That choice shapes the
answer and never decides it.
-/
import AccessBroker.Address.Basic

namespace AccessBroker

/-- A client and the parameters of its request. -/
structure Client where
  address : Address
  origin : Option String
  messageId : Option String
  deriving DecidableEq

namespace Client

/-- The origin and the number of the message, if both are given. -/
def browser? (c : Client) : Option (String × String) :=
  match c.origin, c.messageId with
  | some origin, some id => some (origin, id)
  | _, _ => none

end Client

/-- The value that the first pair with a name gives. -/
def firstNamed (name : String) (pairs : List (String × String)) : Option String :=
  pairs.lookup name

end AccessBroker

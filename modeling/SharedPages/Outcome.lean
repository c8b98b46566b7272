/-!
# Outcomes

An operation ends in one of three ways: it returns a value, it reports an error, or
a panic unwinds through it. A panic is no error value: nobody handles it on the
way, but what it passes is cleaned up.
-/

namespace SharedPages

/-- How an operation ends. -/
inductive Outcome (ε α : Type)
  | ok (value : α)
  | fail (error : ε)
  | panic (text : String)
  deriving DecidableEq, Repr

namespace Outcome

variable {ε δ α β : Type}

def map (f : α → β) : Outcome ε α → Outcome ε β
  | ok a => ok (f a)
  | fail e => fail e
  | panic text => panic text

def mapError (f : ε → δ) : Outcome ε α → Outcome δ α
  | ok a => ok a
  | fail e => fail (f e)
  | panic text => panic text

/-- The value was returned. -/
def isOk : Outcome ε α → Bool
  | ok _ => true
  | _ => false

end Outcome

end SharedPages

/-!
Contract: tokens by which calls are cancelled.

A token is named by the numbers of the tokens it descends from, its own first. A
token is cancelled with itself and with every token it descends from, whether it
was made before or after; cancelling a token does not reach the one it was made
from.

Owns: `Token`, `Registry` and its operations.
-/

namespace Parley.Session

/-- A token: its own number, followed by the path of the token it was made from.
Whoever holds a token may cancel it and wait for it. -/
structure Token where
  path : List Nat
deriving DecidableEq, Repr

/-- How many tokens were made, and which of them were cancelled themselves. -/
structure Registry where
  made : Nat
  cancelled : List Token
deriving DecidableEq, Repr

namespace Registry

def empty : Registry :=
  ⟨0, []⟩

def makeBelow (path : List Nat) (registry : Registry) : Token × Registry :=
  (⟨registry.made :: path⟩, { registry with made := registry.made + 1 })

def makeRoot (registry : Registry) : Token × Registry :=
  registry.makeBelow []

def makeChild (parent : Token) (registry : Registry) : Token × Registry :=
  registry.makeBelow parent.path

def cancel (token : Token) (registry : Registry) : Registry :=
  { registry with cancelled := token :: registry.cancelled }

/-- Whether a token is cancelled, by itself or by one it descends from. -/
def isCancelled (registry : Registry) (token : Token) : Bool :=
  registry.cancelled.any fun other => other.path.isSuffixOf token.path

end Registry

end Parley.Session

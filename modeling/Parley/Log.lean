/-!
Contract: what a program tells its operator.

Owns: `Level`, `Entry` and their text.
-/

namespace Parley.Log

/-- How much a message matters. -/
inductive Level where
  | info
  | warn
  | error
deriving DecidableEq, Repr

def Level.name : Level → String
  | info => "INFO"
  | warn => "WARN"
  | error => "ERROR"

structure Entry where
  level : Level
  text : String
deriving DecidableEq, Repr

namespace Entry

def info (text : String) : Entry := ⟨.info, text⟩

def warn (text : String) : Entry := ⟨.warn, text⟩

def error (text : String) : Entry := ⟨.error, text⟩

def line (entry : Entry) : String :=
  entry.level.name ++ " " ++ entry.text

end Entry

end Parley.Log

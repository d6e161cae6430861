/-!
# Failures

A failure has a cause, which may have a cause of its own. Messages to the user
give the outermost description only; the full text gives all of them.
-/

namespace ModelCheck

/-- Why something failed: the outermost description, and the causes below it in order. -/
structure Failure where
  outer : String
  causes : List String
deriving DecidableEq, Repr

namespace Failure

/-- A failure without a cause of its own. -/
def ofCause (text : String) : Failure := ⟨text, []⟩

/-- A failure put into a context. -/
def within (context : String) (f : Failure) : Failure := ⟨context, f.outer :: f.causes⟩

/-- All descriptions, from the outermost inwards, with a colon between each two. -/
def full (f : Failure) : String := ": ".intercalate (f.outer :: f.causes)

end Failure

end ModelCheck

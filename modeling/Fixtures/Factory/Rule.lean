import Fixtures.Data.Value
import Fixtures.Factory.Template

/-!
# Computed values

A small stock of rules that compute a value from the sequence index, for factories that are
described by data. A rule may refuse an index with a message; only the rule that refuses every index
takes its message as a template of the index.
-/

namespace Fixtures

/-- A rule that computes a value from a sequence index. -/
inductive Rule where
  -- The index times a factor, in arithmetic of sixty-four unsigned bits.
  | multiple (factor : Int)
  -- Refuses every index, with a template of the index as the message.
  | fail (message : String)
  -- The index itself below a bound; indices from the bound on are refused with the message as it
  -- stands.
  | failFrom (bound : Nat) (message : String)
  -- The listed values in turn, again from the first one after the last.
  | pick (values : List Value)
  deriving DecidableEq

/-- The value that a rule gives an index, or the message of its refusal. -/
def Rule.evaluate (rule : Rule) (index : Nat) : Except String Value :=
  match rule with
  | .multiple factor => .ok (.int (index * factor % Int.pow 2 64))
  | .fail message => .error (Template.fill message index)
  | .failFrom bound message =>
    if bound ≤ index then .error message else .ok (.int index)
  | .pick values =>
    match values[index % values.length]? with
    | some value => .ok value
    | none => .error "nothing to pick"

end Fixtures

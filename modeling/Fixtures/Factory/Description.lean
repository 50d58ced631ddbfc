import Fixtures.Decimal.Shortest
import Fixtures.Factory
import Fixtures.Text.Quoted

/-!
# Descriptions

Texts for people who look into a factory: what its expressions are, and which hooks it has.
-/

namespace Fixtures

def bracketed (opening closing : String) (items : List String) : String :=
  opening ++ String.intercalate ", " items ++ closing

mutual

def Value.describe : Value → String
  | .null => "Null"
  | .bool b => s!"Bool({b})"
  | .int n => s!"Number({n})"
  | .float d => "Number(" ++ Decimal.ofDouble d ++ ")"
  | .text s => "String(" ++ Text.quote s ++ ")"
  | .list items => "Array " ++ bracketed "[" "]" (describeItems items)
  | .object fields => "Object " ++ bracketed "\x7b" "\x7d" (describeFields fields)

def Value.describeItems : List Value → List String
  | [] => []
  | item :: items => item.describe :: describeItems items

def Value.describeFields : List (String × Value) → List String
  | [] => []
  | (name, value) :: fields =>
    (Text.quote name ++ ": " ++ value.describe) :: describeFields fields

end

/-- The description of an expression. A computed one cannot be looked into. -/
def Expression.describe : Expression → String
  | .constant value => "Constant(" ++ value.describe ++ ")"
  | .template text => "Sequence(" ++ Text.quote text ++ ")"
  | .computed _ => "Computed(..)"

/-- The description of hooks, which says of each whether it is there. -/
def Hooks.describe (hooks : Hooks) : String :=
  let fields := [s!"after_build: {hooks.afterBuild.isSome}",
    s!"after_create: {hooks.afterCreate.isSome}"]
  bracketed "FactoryHooks \x7b " " \x7d" fields

end Fixtures

import Reckon.Library.General
import Reckon.Library.Matching
import Reckon.Library.Numeric
import Reckon.Library.Strings
import Reckon.Library.Time
import Reckon.Scope
import Reckon.Settings
import Reckon.Text.CharacterName

/-!
# `Library.Standard` — all functions of the library

The functions of every module in one list. What they see of the world outside an expression, chance
and the clock, is given to them. It is what a call sees: the functions of one list draw the same however
often they are called, so calls that each draw anew are calls of functions from different lists.
-/

namespace Reckon.Library

/-- What functions that are not pure see of the world when they are called. -/
structure World where
  draw : Draw
  /-- milliseconds since the start of 1970 -/
  now : Int

/-- All functions, for texts whose positions start as the settings say. -/
def standard (settings : Settings) (world : World) : List Callable :=
  general settings.firstPosition ++ numerics world.draw ++ strings ++
    matching Text.namedCharacter? ++ dates world.now

end Reckon.Library

namespace Reckon.Scope

/-- With all functions of the library. -/
def extend (scope : Scope) (settings : Settings) (world : Library.World) : Scope :=
  scope.addFunctions (Library.standard settings world)

end Reckon.Scope

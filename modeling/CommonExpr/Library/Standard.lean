import CommonExpr.Func.Registry
import CommonExpr.Library.Arithmetic
import CommonExpr.Library.Clock
import CommonExpr.Library.Comparison
import CommonExpr.Library.Content
import CommonExpr.Library.Conversion
import CommonExpr.Time.NamedZone

/-!
The standard library.  All its functions are ordinary entries of a registry, so
a registry of higher priority can replace any of them.

The library is that of a lookup of zone names, the named zones if none is given.
-/

namespace CommonExpr.Library

def standardFunctions (named? : String → Option ZoneRule) : List Func :=
  comparisons ++ contents ++ arithmetic ++ conversions ++ timeParts named?

/-- The registry of the standard library. -/
def standard (named? : String → Option ZoneRule := namedZone?) : Registry :=
  .ofFunctions (standardFunctions named?)

/-- A call of a function of the standard library on values. -/
def call (named? : String → Option ZoneRule) (id : Int) (name : String) (args : List Value) :
    Outcome Value :=
  (Dispatcher.mk [standard named?]).dispatch id name (args.map .ok)

end CommonExpr.Library

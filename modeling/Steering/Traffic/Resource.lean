/-!
# Resources

The console manages four kinds of resource. A resource has a number, its id, and a name that is
its own among the resources of its kind.
-/

namespace Steering.Traffic

inductive Kind where
  | platform
  | alert
  | application
  | zone
deriving Repr, DecidableEq, Inhabited

def Kind.name : Kind → String
  | .platform => "platform"
  | .alert => "alert"
  | .application => "application"
  | .zone => "zone"

end Steering.Traffic

import Steering.Traffic.Alert
import Steering.Traffic.Application
import Steering.Traffic.Platform
import Steering.Traffic.Zone

/-!
# Resources of any kind

`Kind.Item` is the type of the resources of a kind, so that what holds for all four kinds can be
said once.
-/

namespace Steering.Traffic.Kind

@[reducible] def Item : Kind → Type
  | .platform => Platform
  | .alert => Alert
  | .application => Application
  | .zone => Zone

variable {kind : Kind}

def id : {kind : Kind} → kind.Item → Nat
  | .platform, item => Platform.id item
  | .alert, item => Alert.id item
  | .application, item => Application.id item
  | .zone, item => Zone.id item

def nameOf : {kind : Kind} → kind.Item → String
  | .platform, item => Platform.name item
  | .alert, item => Alert.name item
  | .application, item => Application.name item
  | .zone, item => Zone.domainName item

def toJson : {kind : Kind} → kind.Item → Json
  | .platform, item => Platform.toJson item
  | .alert, item => Alert.toJson item
  | .application, item => Application.toJson item
  | .zone, item => Zone.toJson item

def ofJson? : (kind : Kind) → Json → Option kind.Item
  | .platform, json => Platform.ofJson? json
  | .alert, json => Alert.ofJson? json
  | .application, json => Application.ofJson? json
  | .zone, json => Zone.ofJson? json

end Steering.Traffic.Kind

import Steering.Traffic.Item

/-!
# Caches

A cache keeps a listing of resources once it has been fetched, until it is invalidated. A fetch
that fails leaves the cache as it was.
-/

namespace Steering.Store

structure Cache (α : Type) where
  listing : Option (List α) := none
deriving Repr, DecidableEq, Inhabited

namespace Cache

def isLoaded (cache : Cache α) : Bool := cache.listing.isSome

/-- The listing, fetched if it is not there yet, and the cache afterwards. -/
def list [Monad m] (cache : Cache α) (fetch : m (List α)) : m (List α × Cache α) :=
  match cache.listing with
  | some items => pure (items, cache)
  | none => do
    let items ← fetch
    pure (items, { listing := some items })

/-- The first resource of the listing for which `p` holds, if there is a listing. -/
def find? (cache : Cache α) (p : α → Bool) : Option α :=
  cache.listing.bind fun items => items.find? p

def invalidate (_ : Cache α) : Cache α := {}

end Cache

end Steering.Store

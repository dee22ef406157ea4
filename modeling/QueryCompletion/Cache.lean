/-!
A bounded cache that forgets the entry used longest ago. Entries are kept from the least to the most
recently used one; reading and writing an entry both use it.
-/

namespace QueryCompletion

structure Cache (κ ν : Type) where
  capacity : Nat
  entries : List (κ × ν) := []
deriving Repr

namespace Cache

variable {κ ν : Type} [DecidableEq κ]

/-- An empty cache; there is none for a capacity below one. -/
def create? (capacity : Int) : Option (Cache κ ν) :=
  if capacity < 1 then none else some ⟨capacity.toNat, []⟩

/-- The value under a key, without using it. -/
def peek? (cache : Cache κ ν) (key : κ) : Option ν := cache.entries.lookup key

def contains (cache : Cache κ ν) (key : κ) : Bool := (cache.peek? key).isSome

/-- The keys from the least to the most recently used one. -/
def keys (cache : Cache κ ν) : List κ := cache.entries.map Prod.fst

def size (cache : Cache κ ν) : Nat := cache.entries.length

/-- The entries without those of a key. -/
def without (key : κ) (entries : List (κ × ν)) : List (κ × ν) :=
  entries.filter fun entry => entry.1 ≠ key

/-- The cache after the entry of a key, if there is one, was used. -/
def touch (cache : Cache κ ν) (key : κ) : Cache κ ν :=
  match cache.peek? key with
  | some value => { cache with entries := without key cache.entries ++ [(key, value)] }
  | none => cache

/-- The value under a key, which counts as used. -/
def get? (cache : Cache κ ν) (key : κ) : Option ν × Cache κ ν := (cache.peek? key, cache.touch key)

/-- Stores a value and forgets the entries used longest ago beyond the capacity. -/
def set (cache : Cache κ ν) (key : κ) (value : ν) : Cache κ ν :=
  let grown := without key cache.entries ++ [(key, value)]
  { cache with entries := grown.drop (grown.length - cache.capacity) }

/-- Changes the value under a key in place. -/
def modify (cache : Cache κ ν) (key : κ) (change : ν → ν) : Cache κ ν :=
  { cache with
    entries := cache.entries.map fun entry => if entry.1 = key then (entry.1, change entry.2) else entry }

/-- Forgets one entry. -/
def erase (cache : Cache κ ν) (key : κ) : Cache κ ν :=
  { cache with entries := without key cache.entries }

/-- Forgets every entry. -/
def clear (cache : Cache κ ν) : Cache κ ν := { cache with entries := [] }

end Cache

end QueryCompletion

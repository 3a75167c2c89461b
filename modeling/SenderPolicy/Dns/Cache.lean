import SenderPolicy.Number.Seconds

/-! A cache of answers with a greatest size and a greatest age. When it is full, the entry that was put in
first makes room; reading an entry does not change its place. -/

namespace SenderPolicy.Dns

/-- The records of an answer and when they were put in. -/
structure CacheEntry where
  key : String
  records : List String
  stored : Instant
deriving DecidableEq, Repr

/-- The entries, in the order in which they were put in. -/
structure Cache where
  maxLength : Int
  maxAge : Int
  entries : List CacheEntry := []
deriving DecidableEq, Repr

namespace Cache

/-- Whether an entry is young enough to be used. -/
def isLive (cache : Cache) (now : Instant) (entry : CacheEntry) : Bool :=
  (now.since entry.stored).value < cache.maxAge

/-- The cache without the entry of a key. -/
def erase (cache : Cache) (key : String) : Cache :=
  { cache with entries := cache.entries.filter (·.key != key) }

/-- The entry of a key, whatever its age. -/
def entry? (cache : Cache) (key : String) : Option CacheEntry :=
  cache.entries.find? (·.key == key)

/-- The records of a key. An entry that is too old is removed when it is read. -/
def find (cache : Cache) (now : Instant) (key : String) : Option (List String) × Cache :=
  match cache.entry? key with
  | none => (none, cache)
  | some entry => if cache.isLive now entry then (some entry.records, cache) else (none, cache.erase key)

/-- The cache with room for one more entry: if it is full, the live entry of the key itself is removed, or
else the entry that was put in first. -/
def withRoom (cache : Cache) (now : Instant) (key : String) : Cache :=
  if (cache.entries.length : Int) = cache.maxLength then
    if (cache.entry? key).any (cache.isLive now) then cache.erase key
    else { cache with entries := (cache.erase key).entries.drop 1 }
  else cache

/-- The cache with the records of a key put in; a key that is still there keeps its place. -/
def insert (cache : Cache) (now : Instant) (key : String) (records : List String) : Cache :=
  let cache := cache.withRoom now key
  let entry := ⟨key, records, now⟩
  if (cache.entry? key).isSome then
    { cache with entries := cache.entries.map fun e => if e.key = key then entry else e }
  else { cache with entries := cache.entries ++ [entry] }

end Cache

end SenderPolicy.Dns

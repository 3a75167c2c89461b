import SenderPolicy.Evaluation.Basic

/-! The settings of the program, each of which a variable of the environment may replace. -/

namespace SenderPolicy

open Text

/-- The sizes of caches and the limits of checks. -/
structure Settings where
  cacheLength : Int := 200000
  cacheAge : Int := 1800
  dnsCacheLength : Int := 200000
  dnsCacheAge : Int := 1800
  limits : Limits := {}
deriving DecidableEq, Repr

namespace Settings

/-- The number that a variable gives, if it is set. -/
def read (environment : List (String × String)) (name : String) (default : Int) : Except NumeralError Int :=
  match environment.lookup name with
  | none => .ok default
  | some text => readWhole text

/-- The variables that are read, in this order. -/
def variableNames : List String :=
  ["CACHE_MAX_LEN", "CACHE_MAX_AGE_SECONDS", "DNS_CACHE_MAX_LEN", "DNS_CACHE_MAX_AGE_SECONDS", "DNS_LOOKUP_LIMIT",
   "VOID_DNS_LOOKUP_LIMIT", "MX_LOOKUP_LIMIT", "PTR_LOOKUP_LIMIT", "MAX_RECURSION_DEPTH"]

/-- The settings in an environment. The cache of answers is as large and keeps them as long as other caches,
unless it has variables of its own. -/
def ofEnvironment (environment : List (String × String)) : Except NumeralError Settings := do
  let read := Settings.read environment
  let cacheLength ← read "CACHE_MAX_LEN" 200000
  let cacheAge ← read "CACHE_MAX_AGE_SECONDS" 1800
  let dnsCacheLength ← read "DNS_CACHE_MAX_LEN" cacheLength
  let dnsCacheAge ← read "DNS_CACHE_MAX_AGE_SECONDS" cacheAge
  let lookups ← read "DNS_LOOKUP_LIMIT" 10
  let voidLookups ← read "VOID_DNS_LOOKUP_LIMIT" 2
  let mailHosts ← read "MX_LOOKUP_LIMIT" 10
  let pointers ← read "PTR_LOOKUP_LIMIT" 10
  let nesting ← read "MAX_RECURSION_DEPTH" 10
  pure ⟨cacheLength, cacheAge, dnsCacheLength, dnsCacheAge, ⟨lookups, voidLookups, mailHosts, pointers, nesting⟩⟩

end Settings

end SenderPolicy

/-!
# Catalog

The public names, and which contracts the objects of the catalog fulfil: to build cursors, to be
called as a sleeper, and to be called as a blocking sleeper.
-/
namespace Reattempt.Catalog

def version : String := "0.1.0"

def names : List String := [
  "AretryError", "AsyncioSleeper", "Backoff", "BackoffBuilder", "BlockingRetry", "BlockingSleeper",
  "ConfigError", "ConstantBuilder", "Err", "ExponentialBuilder", "FibonacciBuilder", "Ok", "Phase",
  "Result", "Retry", "RetryStateError", "Sleeper", "ThreadSleeper", "__version__", "blocking_retry",
  "retry", "retryable"]

structure Contracts where
  builds : Bool
  sleeps : Bool
  blocks : Bool
  deriving DecidableEq, Repr

def builder : Contracts := ⟨true, false, false⟩

def sleeper : Contracts := ⟨false, true, true⟩

def neither : Contracts := ⟨false, false, false⟩

def contracts : List (String × Contracts) := [
  ("asyncio", sleeper), ("constant", builder), ("scripted", builder), ("settings", neither),
  ("thread", sleeper), ("virtual", sleeper)]

end Reattempt.Catalog

import Mathlib.Data.Int.Notation

/-!
# Writers behind a bounded queue

What such writers have in common: a queue of a configured capacity in front of a store whose
calls time out, options that are left at zero, and the reasons for which a record is lost.
-/

namespace SparkRoute.Lib

/-- An option that is left at zero has its default. -/
def orDefault (value fallback : Int) : Int := if value = 0 then fallback else value

structure QueueOptions where
  queueCapacity : Int := 0
  writeTimeout : Int := 0

def QueueOptions.withDefaults (options : QueueOptions) (writeTimeout : Int) : QueueOptions where
  queueCapacity := orDefault options.queueCapacity 4096
  writeTimeout := orDefault options.writeTimeout writeTimeout

inductive LossReason where
  | invalidRecord
  | queueFull
  | closed
  | storeFailure
  deriving DecidableEq, Repr

end SparkRoute.Lib

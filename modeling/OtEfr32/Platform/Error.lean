/-!
# Error codes

The values of `otError` that the platform layer returns.
-/

namespace OtEfr32

/-- `otError`. -/
inductive OtError where
  | none
  | failed
  | noBufs
  | noAddress
  | invalidArgs
  | notFound
  | rejected
  | busy
  | invalidState
  | abort
  | channelAccessFailure
  | noAck
  | security
  | parse
  deriving DecidableEq, Repr

end OtEfr32

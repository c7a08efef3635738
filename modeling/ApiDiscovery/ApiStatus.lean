import ApiDiscovery.Format.Record
import ApiDiscovery.Text.Quoted

/-!
The status with which a server answers a request that it does not fulfil.
-/

namespace ApiDiscovery

structure ApiStatus where
  status : String
  message : String
  reason : String
  code : UInt16
  deriving DecidableEq, Repr, Inhabited

namespace ApiStatus

def format : Format ApiStatus :=
  .record .strict
    (.field (.required "status" .text) <|
      .field (.defaulted "message" .text "") <|
      .field (.defaulted "reason" .text "") <|
      .field (.required "code" .word) .done)
    (fun (status, message, reason, code, ()) => { status, message, reason, code })
    fun answer => (answer.status, answer.message, answer.reason, answer.code, ())

def describe (answer : ApiStatus) : String := answer.message ++ ": " ++ answer.reason

def detail (answer : ApiStatus) : String :=
  "ErrorResponse \x7b status: " ++ Text.quoted answer.status ++ ", message: " ++
    Text.quoted answer.message ++ ", reason: " ++ Text.quoted answer.reason ++ ", code: " ++
    toString answer.code.toNat ++ " \x7d"

end ApiStatus

end ApiDiscovery

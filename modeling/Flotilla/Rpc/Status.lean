import Flotilla.Text.Quoted

/-!
# Statuses of calls

A call that is not answered by a reply ends with a status: a code and a message.
-/

namespace Flotilla.Rpc

inductive StatusCode where
  | ok
  | cancelled
  | unknown
  | invalidArgument
  | deadlineExceeded
  | notFound
  | alreadyExists
  | permissionDenied
  | resourceExhausted
  | failedPrecondition
  | aborted
  | outOfRange
  | unimplemented
  | internal
  | unavailable
  | dataLoss
  | unauthenticated
  deriving DecidableEq, Repr, Inhabited

namespace StatusCode

def all : List StatusCode :=
  [.ok, .cancelled, .unknown, .invalidArgument, .deadlineExceeded, .notFound, .alreadyExists,
    .permissionDenied, .resourceExhausted, .failedPrecondition, .aborted, .outOfRange,
    .unimplemented, .internal, .unavailable, .dataLoss, .unauthenticated]

def name : StatusCode → String
  | .ok => "Ok"
  | .cancelled => "Cancelled"
  | .unknown => "Unknown"
  | .invalidArgument => "InvalidArgument"
  | .deadlineExceeded => "DeadlineExceeded"
  | .notFound => "NotFound"
  | .alreadyExists => "AlreadyExists"
  | .permissionDenied => "PermissionDenied"
  | .resourceExhausted => "ResourceExhausted"
  | .failedPrecondition => "FailedPrecondition"
  | .aborted => "Aborted"
  | .outOfRange => "OutOfRange"
  | .unimplemented => "Unimplemented"
  | .internal => "Internal"
  | .unavailable => "Unavailable"
  | .dataLoss => "DataLoss"
  | .unauthenticated => "Unauthenticated"

def ofName? (s : String) : Option StatusCode := all.find? (·.name == s)

theorem mem_all (c : StatusCode) : c ∈ all := by cases c <;> decide

/-- A call that ended with one of these codes says that its channel may be broken. -/
def breaksChannel : StatusCode → Bool
  | .unavailable | .unknown | .deadlineExceeded => true
  | _ => false

end StatusCode

/-- How a call without a reply ended. -/
structure Status where
  code : StatusCode
  message : String
  deriving DecidableEq, Repr, Inhabited

/-- A status with its code, its quoted message, and its empty details and metadata. -/
def Status.text (s : Status) : String :=
  "status: " ++ s.code.name ++ ", message: " ++ Text.quote s.message ++
    ", details: [], metadata: MetadataMap \x7b headers: \x7b\x7d \x7d"

end Flotilla.Rpc

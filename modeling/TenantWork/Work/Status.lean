import TenantWork.Text.Blank
/-!
Every status that some kind of work may be in. Which of them a kind uses is decided by its
lifecycle.
-/
namespace TenantWork

inductive Status where
  | queued
  | running
  | succeeded
  | failed
  | cancelled
  | pending
  | processing
  | processed
  | expired
  | submitted
  | partiallyFilled
  | filled
  | rejected
deriving DecidableEq, Repr

namespace Status

def all : List Status :=
  [.queued, .running, .succeeded, .failed, .cancelled, .pending, .processing, .processed, .expired,
    .submitted, .partiallyFilled, .filled, .rejected]

def name : Status → String
  | .queued => "queued"
  | .running => "running"
  | .succeeded => "succeeded"
  | .failed => "failed"
  | .cancelled => "cancelled"
  | .pending => "pending"
  | .processing => "processing"
  | .processed => "processed"
  | .expired => "expired"
  | .submitted => "submitted"
  | .partiallyFilled => "partially_filled"
  | .filled => "filled"
  | .rejected => "rejected"

/-- The status with exactly this name. -/
def ofName? (text : String) : Option Status := all.find? fun status => status.name == text

/-- The status a caller means: blanks around the name and ASCII letter case do not count. -/
def ofText? (text : String) : Option Status := ofName? (Text.fold text)

end Status

end TenantWork

import Mathlib.Data.Nat.Notation

/-!
# HTTP responses

What the middleware and the controllers do with Express's response object: set its status, and send
a body, once.
-/

namespace Docketra

/-- A status code, in the range that the server accepts. -/
abbrev StatusCode := { n : ℕ // 100 ≤ n ∧ n ≤ 999 }

/-- A response as the client gets it: its status, and the text of its body. -/
abbrev Wire := ℕ × String

/-- A response object: the status that the next body is sent with, and what has been sent. -/
structure Res (β : Type) where
  statusCode : ℕ := 200
  sent : Option (ℕ × β) := none
  deriving DecidableEq, Repr

namespace Res

variable {β : Type}

/-- `res.headersSent`. -/
def headersSent (res : Res β) : Bool := res.sent.isSome

/-- `res.status(statusCode)`. -/
def status (statusCode : ℕ) (res : Res β) : Res β := { res with statusCode := statusCode }

/-- `res.json(body)`, before anything has been sent. -/
def json (body : β) (res : Res β) : Res β := { res with sent := some (res.statusCode, body) }

end Res

end Docketra

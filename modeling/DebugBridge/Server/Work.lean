import DebugBridge.Wire.Report

/-!
Work that may ask the client's debugger.

While a command runs, whoever carries it out can put requests to the client, each depending on the
answers to those before. `Work` is such a course of action: it is finished, or it asks and goes on
with what comes of that. An exchange fails when the request cannot be sent, when no answer comes, or
when what comes is no answer to the request. After that the connection is given up: `abandoned` is
what work comes to when every further request fails at once.

An answer that reports an error is an answer; the exchange has not failed.
-/

namespace DebugBridge

/-- Why an exchange with the client failed. `unusable` is said when an earlier exchange has failed
already. -/
inductive ExchangeFault where
  | unusable
  | notSent (fault : TransportFault)
  | noAnswer (fault : TransportFault)
  | mismatched (response : Response) (request : Request)
  | unexpected (message : Message)
deriving DecidableEq, Repr

def ExchangeFault.report : ExchangeFault → Report
  | .unusable => ⟨"connection to the client is no longer usable", []⟩
  | .notSent fault => (Report.ofTransport fault).wrap "sending event"
  | .noAnswer fault => (Report.ofTransport fault).wrap "waiting for event response"
  | .mismatched response request =>
    ⟨"protocol violation: " ++ response.name ++ " does not answer " ++ request.name, []⟩
  | .unexpected message =>
    ⟨"protocol violation: unexpected " ++ message.kind ++ " while awaiting an event response", []⟩

/-- What came of a request. -/
abbrev Reply := Except ExchangeFault Response

/-- What an incoming message is to a request that awaits its answer. -/
def Request.reply (request : Request) : Incoming → Reply
  | .ok (.eventResponse response) =>
    if response.answers request then .ok response else .error (.mismatched response request)
  | .ok message => .error (.unexpected message)
  | .error fault => .error (.noAnswer fault)

/-- A course of action that ends with an `α`. -/
inductive Work (α : Type) where
  | done (result : α)
  | ask (request : Request) (resume : Reply → Work α)

namespace Work

variable {α β : Type}

def bind (work : Work α) (next : α → Work β) : Work β :=
  match work with
  | .done result => next result
  | .ask request resume => .ask request fun reply => (resume reply).bind next

instance : Monad Work where
  pure := .done
  bind := bind

/-- What work comes to on a connection that is not usable any more. -/
def abandoned : Work α → α
  | .done result => result
  | .ask _ resume => (resume (.error .unusable)).abandoned

/-- What work comes to, and the state of the one who answers, when every request is answered at
once. -/
def answeredBy {σ : Type} (answer : Request → σ → Response × σ) : Work α → σ → α × σ
  | .done result, state => (result, state)
  | .ask request resume, state =>
    let (response, state) := answer request state
    (resume (.ok response)).answeredBy answer state

end Work

/-! ## Keeping count -/

/-- How many requests have been sent, and whether an exchange has failed. -/
structure Tally where
  sent : Nat := 0
  broken : Bool := false
deriving DecidableEq, Repr

namespace Tally

/-- The tally after an exchange. -/
def after (tally : Tally) : Reply → Tally
  | .ok _ => { tally with sent := tally.sent + 1 }
  | .error .unusable => { tally with broken := true }
  | .error (.notSent _) => { tally with broken := true }
  | .error _ => ⟨tally.sent + 1, true⟩

end Tally

/-- The same work, with a tally of its exchanges beside the result. -/
def Work.tallied {α : Type} : Work α → Tally → Work (α × Tally)
  | .done result, tally => .done (result, tally)
  | .ask request resume, tally =>
    .ask request fun reply => (resume reply).tallied (tally.after reply)

end DebugBridge

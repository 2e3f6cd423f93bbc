import Statechart.Session.Basic

/-!
Requests as data, and sessions as runs over them.
-/

namespace Statechart

inductive Request where
  | parse (arguments : ParseArguments)
  | init (arguments : InitArguments)
  | step (arguments : StepArguments)
  | getRuntimeState (arguments : GetRuntimeStateArguments)
  | getBreakpointTypes (arguments : GetBreakpointTypesArguments)
  | checkBreakpoint (arguments : CheckBreakpointArguments)
  deriving DecidableEq, Repr

inductive Response where
  | parse (response : ParseResponse)
  | init (response : InitResponse)
  | step (response : StepResponse)
  | getRuntimeState (response : GetRuntimeStateResponse)
  | getBreakpointTypes (response : GetBreakpointTypesResponse)
  | checkBreakpoint (response : CheckBreakpointResponse)

def Response.encode : Response → Json
  | .parse response => ParseResponse.codec.encode response
  | .init response => InitResponse.codec.encode response
  | .step response => StepResponse.codec.encode response
  | .getRuntimeState response => GetRuntimeStateResponse.codec.encode response
  | .getBreakpointTypes response => GetBreakpointTypesResponse.codec.encode response
  | .checkBreakpoint response => CheckBreakpointResponse.codec.encode response

def Reply.map (wrap : α → β) (reply : Reply ε α) : Reply ε β :=
  { answer := wrap <$> reply.answer, session := reply.session, events := reply.events }

namespace Session

variable {ε : Type}

def answer (backend : Backend ε) (session : Session ε) : Request → Reply ε Response
  | .parse arguments => (session.parse backend arguments).map .parse
  | .init arguments => (session.init backend arguments).map .init
  | .step arguments => (session.step backend arguments).map .step
  | .getRuntimeState arguments =>
      (session.getRuntimeState backend arguments).map .getRuntimeState
  | .getBreakpointTypes arguments =>
      (session.getBreakpointTypes backend arguments).map .getBreakpointTypes
  | .checkBreakpoint arguments =>
      (session.checkBreakpoint backend arguments).map .checkBreakpoint

/-- The answers to a sequence of requests, and the session afterwards. -/
def run (backend : Backend ε) (session : Session ε) :
    List Request → List (Except SessionError Response) × Session ε
  | [] => ([], session)
  | request :: requests =>
      let reply := session.answer backend request
      let (answers, session) := reply.session.run backend requests
      (reply.answer :: answers, session)

end Session

end Statechart

import NvidiaOot.Library.Machine
import NvidiaOot.Program.HspMailbox

/-!
# The driver, the firmware and two mailboxes

Each mailbox delivers its messages in order.  The firmware answers the requests in the order of
their arrival, each once and after any delay; both sides send interrupt messages at any time.  The
driver has one request at a time, and the start is in the middle of anything: requests that timed
out before are on their way, and so are responses to them.

Each request of the driver has a number, which its answer carries, too; the words do not have it.
-/

namespace NvidiaOot.Model

open Library Program

structure HspMessage where
  tag : ℕ
  word : U32
deriving DecidableEq, Repr

/-- Where the driver is: it waits for the answer to a `HELLO`, with a flag for whether the session is
to be trusted after it; it has got it and goes on with `PROTOCOL`; or it waits for the answer to a
request. -/
inductive HspPhase where
  | idle
  | hello (request : HspMessage) (good : Bool)
  | helloDone
  | request (request : HspMessage)
deriving DecidableEq, Repr

/-- A request has come back: with the error of the mailbox, or with a value and the firmware's answer
to this request, if there is one. -/
inductive HspReturn where
  | sendError (err : ℤ)
  | returned (ret : ℤ) (answer : Option U32)
deriving DecidableEq, Repr

/-- The driver with its slot, the mailboxes, and the answer of the firmware to each request.  `synced`
says that a `HELLO` that could not be mistaken has come back and no request has timed out since;
`returns` is what requests returned then. -/
structure HspRun where
  cookie : U32
  slot : Option HspMessage
  tx : List HspMessage
  rx : List HspMessage
  phase : HspPhase
  next : ℕ
  answers : ℕ → Option U32
  synced : Bool
  returns : List HspReturn

inductive HspOp where
  /-- `camrtc_hsp_sync` starts, at this time; `err` is that of the mailbox. -/
  | sync (schedClock : U64) (err : Option ℤ)
  /-- The rest of `camrtc_hsp_sync`. -/
  | protocol (err : Option ℤ)
  | call (request : HspRequest) (err : Option ℤ)
  /-- The driver looks at the slot. -/
  | recv
  /-- The driver has waited long enough and finds nothing in the slot. -/
  | timeout
  /-- A message of the firmware arrives. -/
  | deliver
  /-- The firmware takes a message and answers, with this parameter. -/
  | answer (param : U32)
  /-- Interrupt messages. -/
  | irqToDriver (param : U32)
  | irqToFirmware
deriving DecidableEq, Repr

/-- Requests and their answers, not interrupts. -/
def isHspResponse (word : U32) : Bool := (camrtcHspRxFullNotify word).isSome

/-- The firmware's answer: `HELLO` unchanged, otherwise the identifier of the request. -/
def firmwareAnswer (request param : U32) : U32 :=
  if camrtcHspMsgId request = CAMRTC_HSP_HELLO then request
  else camrtcHspMsg (camrtcHspMsgId request) param

namespace HspRun

/-- A request is sent, with the slot empty.  A response that arrives between the two is as one that
arrives after them. -/
def send (s : HspRun) (word : U32) (phase : HspMessage → HspPhase) : HspRun :=
  { s with slot := none, tx := s.tx ++ [⟨s.next, word⟩], phase := phase ⟨s.next, word⟩, next := s.next + 1 }

def finish (s : HspRun) (ret : HspReturn) : HspRun :=
  { s with phase := .idle, returns := if s.synced then s.returns ++ [ret] else s.returns }

/-- A request behind a `HELLO`. -/
def startRequest (s : HspRun) (request : HspRequest) : Option ℤ → HspRun
  | some err => { s with slot := none, cookie := request.cookieAfter s.cookie }.finish (.sendError err)
  | none => { s.send (request.word s.cookie) .request with cookie := request.cookieAfter s.cookie }

/-- The driver takes a response from the slot. -/
def take (s : HspRun) (response : HspMessage) : HspRun :=
  match s.phase with
  | .idle | .helloDone => s
  | .hello request good =>
    if response.word = request.word then
      { s with slot := none, cookie := response.word, phase := .helloDone, synced := good }
    else { s with slot := none }
  | .request request =>
    { s with slot := none }.finish
      (.returned (camrtcHspVmSendrecvResult request.word response.word) (s.answers request.tag))

/-- The slot holds a response that the wait takes. -/
def slotReady (s : HspRun) : Bool := s.slot.any fun m => camrtcHspRecvCondition m.word

end HspRun

def hspStep (s : HspRun) : HspOp → Option HspRun
  | .sync schedClock err =>
    if s.phase = .idle then
      let word := camrtcHspVmHello schedClock
      match err with
      | some _ => some { s with slot := none }
      | none =>
        -- No `HELLO` with this cookie is unanswered.
        let good := s.synced || (s.tx ++ s.rx).all fun m => m.word ≠ word
        some (s.send word fun m => .hello m good)
    else none
  | .protocol err => if s.phase = .helloDone then some (s.startRequest .protocol err) else none
  | .call request err => if s.phase = .idle then some (s.startRequest request err) else none
  | .recv =>
    if s.phase = .idle ∨ s.phase = .helloDone then none
    else
      match s.slot with
      | none => some s
      | some m => if s.slotReady then some (s.take m) else some { s with slot := none }
  | .timeout =>
    if s.slotReady then none
    else
      match s.phase with
      | .idle | .helloDone => none
      | .hello _ _ => some { s with slot := none, phase := .idle, synced := false }
      | .request request =>
        some { { s with slot := none }.finish (.returned (-eTIMEDOUT) (s.answers request.tag)) with
          synced := false }
  | .deliver =>
    match s.rx with
    | [] => none
    | m :: rx => some { s with rx := rx, slot := if isHspResponse m.word then some m else s.slot }
  | .answer param =>
    match s.tx with
    | [] => none
    | m :: tx =>
      if isHspResponse m.word then
        some { s with
          tx := tx
          rx := s.rx ++ [⟨m.tag, firmwareAnswer m.word param⟩]
          answers := fun tag => if tag = m.tag then some (firmwareAnswer m.word param) else s.answers tag }
      else some { s with tx := tx }
  | .irqToDriver param => some { s with rx := s.rx ++ [⟨0, camrtcHspMsg CAMRTC_HSP_IRQ param⟩] }
  | .irqToFirmware => some { s with tx := s.tx ++ [⟨0, camrtcHspMsg CAMRTC_HSP_IRQ 1⟩] }

/-- Anything is on its way, and anything is in the slot. -/
def hspStart (cookie : U32) (slot : Option HspMessage) (tx rx : List HspMessage) (next : ℕ) : HspRun where
  cookie := cookie
  slot := slot
  tx := tx
  rx := rx
  phase := .idle
  next := next
  answers := fun _ => none
  synced := false
  returns := []

/-! ## What is promised -/

/-- A request returns an error of the mailbox, a timeout, or the parameter of the answer to it. -/
def HspReturn.Paired : HspReturn → Prop
  | .sendError _ => True
  | .returned ret answer =>
    ret = -eTIMEDOUT ∨ ∃ word, answer = some word ∧ ret = (camrtcHspMsgParam word).toNat

end NvidiaOot.Model

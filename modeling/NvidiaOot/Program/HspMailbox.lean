import NvidiaOot.Program.Types

/-!
# Requests to the firmware of the camera processor

A request is one word with an identifier and a parameter.  The firmware answers with a word of the
same identifier.  The driver keeps the last word that came in one slot, which it empties when it
sends.

Sources are in `drivers/platform/tegra/rtcpu/`.
-/

namespace NvidiaOot.Program

/-! ## Words (include/soc/tegra/camrtc-commands.h:22-107) -/

def CAMRTC_HSP_IRQ : U32 := 0x00
def CAMRTC_HSP_HELLO : U32 := 0x40
def CAMRTC_HSP_BYE : U32 := 0x41
def CAMRTC_HSP_RESUME : U32 := 0x42
def CAMRTC_HSP_SUSPEND : U32 := 0x43
def CAMRTC_HSP_CH_SETUP : U32 := 0x44
def CAMRTC_HSP_PING : U32 := 0x45
def CAMRTC_HSP_FW_HASH : U32 := 0x46
def CAMRTC_HSP_PROTOCOL : U32 := 0x47
def RTCPU_DRIVER_SM6_VERSION : U32 := 6

/-- `CAMRTC_HSP_MSG` -/
def camrtcHspMsg (id param : U32) : U32 := (id <<< 24) ||| (param &&& 0xffffff)

/-- `CAMRTC_HSP_MSG_ID` -/
def camrtcHspMsgId (msg : U32) : U32 := (msg >>> 24) &&& 0x7f

/-- `CAMRTC_HSP_MSG_PARAM` -/
def camrtcHspMsgParam (msg : U32) : U32 := msg &&& 0xffffff

/-! ## The driver -/

/-- The new value of `camhsp->response`, if the message is a response.
SOURCE: hsp-mailbox-client.c:112-139 -/
def camrtcHspRxFullNotify (msg : U32) : Option U32 :=
  if camrtcHspMsgId msg = CAMRTC_HSP_IRQ then none
  else if camrtcHspMsgId msg < CAMRTC_HSP_HELLO then none
  else some msg

/-- The condition of the wait for a response: the `int` that was in the slot is not negative.
SOURCE: hsp-mailbox-client.c:80-84 -/
def camrtcHspRecvCondition (response : U32) : Bool := 0 ≤ response.toInt

/-- What `camrtc_hsp_vm_sendrecv` returns for a response.
SOURCE: hsp-mailbox-client.c:207-224 -/
def camrtcHspVmSendrecvResult (request response : U32) : ℤ :=
  if camrtcHspMsgId request ≠ camrtcHspMsgId response then - eIO
  else (camrtcHspMsgParam response).toNat

/-- SOURCE: hsp-mailbox-client.c:238-246 -/
def camrtcHspVmCookie (schedClock : U64) : U32 :=
  let value := camrtcHspMsgParam ((schedClock >>> 5).setWidth 32)
  if value = 0 then value + 1 else value

/-- SOURCE: hsp-mailbox-client.c:250 -/
def camrtcHspVmHello (schedClock : U64) : U32 :=
  camrtcHspMsg CAMRTC_HSP_HELLO (camrtcHspVmCookie schedClock)

/-- The requests behind a `HELLO`. -/
inductive HspRequest where
  | protocol
  | resume
  | suspend
  | bye
  | chSetup (iova : U64)
  | ping (data : U32)
  | fwHash (index : U32)
deriving DecidableEq, Repr

/-- The word of a request, where `cookie` is the one of the last session.
SOURCE: hsp-mailbox-client.c:274-327 -/
def HspRequest.word (cookie : U32) : HspRequest → U32
  | .protocol => camrtcHspMsg CAMRTC_HSP_PROTOCOL RTCPU_DRIVER_SM6_VERSION
  | .resume => camrtcHspMsg CAMRTC_HSP_RESUME cookie
  | .suspend => camrtcHspMsg CAMRTC_HSP_SUSPEND 0
  | .bye => camrtcHspMsg CAMRTC_HSP_BYE 0
  | .chSetup iova => camrtcHspMsg CAMRTC_HSP_CH_SETUP ((iova >>> 8).setWidth 32)
  | .ping data => camrtcHspMsg CAMRTC_HSP_PING data
  | .fwHash index => camrtcHspMsg CAMRTC_HSP_FW_HASH index

/-- `BYE` ends the session.
SOURCE: hsp-mailbox-client.c:300 -/
def HspRequest.cookieAfter (cookie : U32) : HspRequest → U32
  | .bye => 0
  | .protocol | .resume | .suspend | .chSetup _ | .ping _ | .fwHash _ => cookie

end NvidiaOot.Program

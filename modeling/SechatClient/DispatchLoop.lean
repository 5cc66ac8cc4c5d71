import SechatClient.MessageHandling

/-!
# The dispatch loop

`main_dispatch_loop` hands each message of the read loop to `handle_message`
and passes the answers on to `write_loop`.  The channels are open and their
receivers keep up, so that no send fails or waits.
-/

namespace SechatClient

open ByteStrings

/-- What the loop has done so far; an error of `handle_message` is printed. -/
structure DispatchRun where
  state : HandlerState
  events : List ServerEvent
  answers : List ClientToServer
  printed : List ClientErrors

def DispatchRun.start (state : HandlerState) : DispatchRun :=
  ⟨state, [], [], []⟩

def HandlerResult.response (result : HandlerResult) : Option ClientToServer :=
  match result.answer with
  | .ok response => response
  | .error _ => none

def HandlerResult.error (result : HandlerResult) : Option ClientErrors :=
  match result.answer with
  | .ok _ => none
  | .error e => some e

variable (P : Primitives) (messages : Codec Message)
  (blobs : Codec BlobPayload)

def dispatch (privkey : KeyType) (run : DispatchRun)
    (received : ServerMessage × HandlerEnv) : DispatchRun :=
  let result := handleMessage P messages blobs privkey received.2 run.state
    received.1
  { state := result.state
    events := run.events ++ result.event.toList
    answers := run.answers ++ result.response.toList
    printed := run.printed ++ result.error.toList }

def mainDispatchLoop (privkey : KeyType) (run : DispatchRun)
    (received : List (ServerMessage × HandlerEnv)) : DispatchRun :=
  received.foldl (dispatch P messages blobs privkey) run

/-- The frames which `write_loop` writes; what does not serialise is skipped. -/
def writeLoop (wire : Codec ClientToServer) (answers : List ClientToServer) :
    List Bytes :=
  answers.filterMap fun answer => (wire.toVec answer).toOption

variable {P messages blobs}

@[simp] theorem mainDispatchLoop_nil (privkey : KeyType) (run : DispatchRun) :
    mainDispatchLoop P messages blobs privkey run [] = run := rfl

@[simp] theorem mainDispatchLoop_cons
    (privkey : KeyType) (run : DispatchRun)
    (head : ServerMessage × HandlerEnv)
    (rest : List (ServerMessage × HandlerEnv)) :
    mainDispatchLoop P messages blobs privkey run (head :: rest) =
      mainDispatchLoop P messages blobs privkey
        (dispatch P messages blobs privkey run head) rest := rfl

theorem writeLoop_eq
    {wire : Codec ClientToServer} (hwire : wire.RoundTrip)
    (answers : List ClientToServer) :
    writeLoop wire answers = answers.map wire.bytesOf := by
  induction answers with
  | nil => rfl
  | cons answer rest ih =>
      have hread : writeLoop wire (answer :: rest) =
          wire.bytesOf answer :: writeLoop wire rest := by
        simp [writeLoop, hwire.toVec_eq answer, Except.toOption]
      rw [hread, ih, List.map_cons]

end SechatClient

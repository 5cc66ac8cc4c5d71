import SechatClient.BlobHandling
import SechatClient.OnlineCache

/-!
# Messages from the relay server

`handle_message`, the handler of the dispatch loop: what each server message
does to the stores and the presence cache, which event it reports to
`orchestrate`, and what it answers.
-/

namespace SechatClient

open ByteStrings

structure HandlerState where
  peers : PeersDir
  cache : List OnlinePeer
  myAddress : Option String

/-- What one call reads from outside: the environment of `process_blob`,
which has the clock, and the clock of the answer. -/
structure HandlerEnv where
  blob : BlobEnv
  answerNow : Int64

structure HandlerResult where
  state : HandlerState
  event : Option ServerEvent
  answer : Except ClientErrors (Option ClientToServer)

def RequestDeniedReason.text : RequestDeniedReason → String
  | .peerDeclined => "Peer declined your p2p request"
  | .timeout => "Request timed out try again later"

variable (P : Primitives) (messages : Codec Message)
  (blobs : Codec BlobPayload)

def handleMessage (privkey : KeyType) (env : HandlerEnv)
    (state : HandlerState) : ServerMessage → HandlerResult
  | .pendingBlob blobId blob _ =>
      -- acknowledged whether or not it could be processed
      let result :=
        processBlob P messages blobs state.peers privkey env.blob blob
      { state := { state with peers := result.peers }
        event := result.event
        answer := .ok (some
          (.new (generateAckBlob blobId) none env.answerNow)) }
  | .pendingBlobsEnd => ⟨state, none, .ok none⟩
  | .peerOnline hash ipPort =>
      match appendOnlinePeer P state.peers state.cache hash ipPort
          env.blob.now with
      | .error e => ⟨state, none, .error e⟩
      | .ok cache => ⟨{ state with cache := cache }, none, .ok none⟩
  | .peerOffline hash =>
      ⟨{ state with cache := removeOnlinePeer P state.cache hash }, none,
        .ok none⟩
  | .punchHole token peerHash ipPort punchtimestamp =>
      ⟨state, some (.punchHole token peerHash ipPort punchtimestamp),
        .ok none⟩
  | .authOk observedAddress =>
      ⟨{ state with myAddress := some observedAddress }, none, .ok none⟩
  | .authFailed reason => ⟨state, none, .error (.authFailed reason)⟩
  | .error reason => ⟨state, none, .error (.serverError reason)⟩
  | .requestHolePunch pubKey token =>
      let response :=
        match loadPeerData P state.peers pubKey with
        | .ok _ => ClientMessage.requestAccepted token
        | .error _ => ClientMessage.requestDenied token
      ⟨state, none, .ok (some (.new response none env.answerNow))⟩
  | .requestDenied _ pubKey reason =>
      ⟨state, some (.holePunchDenied pubKey reason.text), .ok none⟩
  | .relayData senderHash payload =>
      ⟨state, some (.relayData senderHash payload), .ok none⟩

end SechatClient

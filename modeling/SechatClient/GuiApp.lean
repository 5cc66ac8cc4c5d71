import SechatClient.ConnectIntents
import SechatClient.OnlineCache
import SechatClient.Orchestrate

/-!
# The desktop client

The state of the desktop client, `update` for every message and `apply_event`
for every event of the client library.  The files which a call of the library
reads belong to the environment: other tasks write them at any time.
-/

namespace SechatClient

open ByteStrings

/-! ## The client handle -/

structure ChatLine where
  fromMe : Bool
  text : String
  timestamp : Int64
  deriving DecidableEq

structure Contact where
  id : KeyType
  fingerprint : String
  online : Bool
  address : Option String
  aliasName : Option String
  deriving DecidableEq

structure Client where
  keys : Keys

/-- What a call finds: the contacts, the presence cache with the clock, the
aliases, and whether another task has the chat database open. -/
structure StoreView where
  peers : PeersDir
  online : List OnlinePeer
  now : Int64
  aliases : KeyType → Option String
  locked : Bool

def fingerprint (id : KeyType) : String :=
  String.ofList (hexEncode (id.toList.take 6))

def Message.line (message : Message) : ChatLine :=
  ⟨decide (message.author = .you), message.text, message.timestamp⟩

def Client.myKeysHex (client : Client) : String × String :=
  (String.ofList (hexEncode client.keys.x25519Pub.toList),
    String.ofList (hexEncode client.keys.ed25519Verifying.toList))

section Calls

variable (P : Primitives) (messages : Codec Message)

/-- The address of a contact: the last cache entry wins. -/
def onlineAddress (view : StoreView) (id : KeyType) : Option String :=
  ((loadOnlinePeers view.now view.online).reverse.find? fun online =>
    online.keys.hash P = id).map OnlinePeer.address

def Client.contacts (view : StoreView) : List Contact :=
  ((loadPeers P view.peers).toOption.getD []).map fun peer =>
    { id := peer.hash P
      fingerprint := fingerprint (peer.hash P)
      online := (onlineAddress P view (peer.hash P)).isSome
      address := onlineAddress P view (peer.hash P)
      aliasName := view.aliases (peer.hash P) }

def Client.history (client : Client) (view : StoreView) (peer : KeyType) :
    Except String (List ChatLine) :=
  match loadPeerData P view.peers peer with
  | .error e => .error ("unknown peer: " ++ e.display)
  | .ok peerPub =>
      match loadPeerChatFile view.locked view.peers (peerPub.hash P) with
      | .error e => .error ("failed to read history: " ++ e.display)
      | .ok (_, db) =>
          .ok ((loadPeerChatMessages P messages
            (loadStorageKey P peerPub.publicKey client.keys.x25519Priv)
            db).1.map Message.line)

/-- `add_peer`; the error is that of `initialize_peer`. -/
def Client.addPeer (x25519 verifying : KeyType)
    (stored : Except CryptoErrors Unit) : Except String KeyType :=
  if P.isVerifyingKey verifying then
    match stored with
    | .error e => .error ("failed to add peer: " ++ e.display)
    | .ok () => .ok (identityHash P x25519 verifying)
  else
    .error "invalid ed25519 key"

/-- `set_alias` up to the file, whose error is given. -/
def setAlias (name : String) (written : Except String Unit) :
    Except String Unit :=
  if (trim name).isEmpty ∨ 32 < (trim name).length then
    .error "alias must be 1-32 characters"
  else
    written

end Calls

/-! ## The state -/

inductive RailTab where
  | contacts
  | chat
  deriving DecidableEq

inductive Screen where
  | unlock (password server : String) (error : Option String)
  | main

/-- An event of the library, with what its handling will find. -/
abbrev QueuedEvent := AppEvent × StoreView

structure App where
  settingsId : Option ℕ
  dark : Bool
  screen : Screen
  hasIdentity : Bool
  client : Option Client
  rx : Option (List QueuedEvent)
  contacts : List Contact
  selected : Option KeyType
  history : List ChatLine
  draft : String
  status : String
  addX25519 : String
  addVerifying : String
  serverField : String
  myKeys : Option (String × String)
  unread : KeyType → Option ℕ
  aliasInput : String
  railTab : RailTab

def defaultServer : String := "localhost:3000"

def App.boot (resolvedServer : Option String) (identityExists : Bool) : App where
  settingsId := none
  dark := true
  screen := .unlock "" (resolvedServer.getD defaultServer) none
  hasIdentity := identityExists
  client := none
  rx := none
  contacts := []
  selected := none
  history := []
  draft := ""
  status := "Not connected"
  addX25519 := ""
  addVerifying := ""
  serverField := ""
  myKeys := none
  unread := fun _ => none
  aliasInput := ""
  railTab := .contacts

/-- The application with the commands it has sent, and the last call of
`client.history` that succeeded: its peer and the lines it returned. -/
structure Gui extends App where
  commands : List Command
  lastRead : Option (KeyType × List ChatLine)

def Gui.boot (resolvedServer : Option String) (identityExists : Bool) : Gui :=
  ⟨.boot resolvedServer identityExists, [], none⟩

def Gui.send (gui : Gui) (command : Command) : Gui :=
  { gui with commands := gui.commands ++ [command] }

def Gui.setStatus (gui : Gui) (status : String) : Gui :=
  { gui with status := status }

/-! ## Events -/

section Events

variable (P : Primitives) (messages : Codec Message)

def Gui.refreshContacts (view : StoreView) (gui : Gui) : Gui :=
  match gui.client with
  | none => gui
  | some _ => { gui with contacts := Client.contacts P view }

def Gui.reloadHistory (view : StoreView) (peer : KeyType) (gui : Gui) : Gui :=
  match gui.client with
  | none => gui
  | some client =>
      match client.history P messages view peer with
      | .ok history =>
          { gui with history := history, lastRead := some (peer, history) }
      | .error e => gui.setStatus ("Failed to load history: " ++ e)

def Gui.applyEvent (gui : Gui) : QueuedEvent → Gui
  | (.connected observedAddress, _) =>
      gui.setStatus ("Connected · seen as " ++ observedAddress)
  | (.peerOnline _, view) => gui.refreshContacts P view
  | (.peerOffline _, view) => gui.refreshContacts P view
  | (.messageArrived peer fromMe, view) =>
      if gui.selected = some peer then
        gui.reloadHistory P messages view peer
      else if !fromMe then
        { gui with
          unread := Function.update gui.unread peer
            (some ((gui.unread peer).getD 0 + 1)) }
      else
        gui
  | (.holePunchDenied peer reason, _) =>
      gui.setStatus
        ("Hole punch denied by " ++ fingerprint peer ++ ": " ++ reason)
  | (.sessionUp peer direct, _) =>
      gui.setStatus ("Connected to " ++ fingerprint peer ++ " (" ++
        (if direct then "direct P2P" else "relay") ++ ")")
  | (.sessionDown _, _) => gui
  | (.connectRetrying peer attempt delaySecs, _) =>
      gui.setStatus ("Connecting to " ++ fingerprint peer ++ "… (attempt " ++
        toString attempt ++ ", next in " ++ toString delaySecs ++ "s)")
  | (.connectGaveUp peer, _) =>
      gui.setStatus ("Could not reach " ++ fingerprint peer ++
        "; will retry when it comes online")
  | (.disconnected, _) => gui.setStatus "Disconnected from server"
  | (.error e, _) => gui.setStatus ("Error: " ++ e)

/-- All queued events are taken before the first one is applied. -/
def Gui.drainEvents (gui : Gui) : Gui :=
  match gui.rx with
  | none => gui
  | some events =>
      events.foldl (Gui.applyEvent P messages) { gui with rx := some [] }

end Events

/-! ## Messages -/

inductive GuiMessage where
  | passwordChanged (password : String)
  | serverChanged (server : String)
  | submitPassword
  | started (result : Except String (Client × Option (List QueuedEvent)))
  | tick
  | selectPeer (id : KeyType)
  | draftChanged (draft : String)
  | sendDraft
  | addPeerX25519Changed (value : String)
  | addPeerVerifyingChanged (value : String)
  | addPeer
  | serverFieldChanged (value : String)
  | changeServer
  | openSettings
  | toggleTheme
  | aliasChanged (value : String)
  | setAlias
  | purgeSelected
  | removeSelected
  | selectRail (tab : RailTab)
  | windowClose (id : ℕ)
  | doExit
  | ignored

/-- What `update` hands to the runtime. -/
inductive GuiTask where
  | none
  | openWindow
  | closeWindow (id : ℕ)
  | startClient (keys : Keys) (server : String)
  | exitLater
  | exit

/-- What one call of `update` finds outside: the store, the results of
`unlock` and `create_identity`, of `save_server`, of the writes behind
`set_alias` and `add_peer`, and the id of a new window. -/
structure UpdateEnv where
  view : StoreView
  unlocked : Except String Keys
  created : Except String Keys
  serverSaved : Except String Unit
  aliasWritten : Except String Unit
  peerStored : Except CryptoErrors Unit
  windowId : ℕ

section Update

variable (P : Primitives) (messages : Codec Message)
  (hexDecode : String → Except String Bytes)

def parseKeyHex (input label : String) : Except String KeyType :=
  match hexDecode (trim input) with
  | .error e => .error ("Invalid " ++ label ++ " key hex: " ++ e)
  | .ok bytes =>
      if bytes.length = 32 then
        .ok (arrayOfBytes 32 bytes)
      else
        .error (label ++ " key must be 32 bytes, got " ++
          toString bytes.length ++ " bytes")

def Gui.submitPassword (env : UpdateEnv) (gui : Gui) : Gui × GuiTask :=
  match gui.screen with
  | .main => (gui, .none)
  | .unlock password server _ =>
      if password.isEmpty then
        ({ gui with
            screen := .unlock password server
              (some "Password must not be empty") }, .none)
      else
        let chosen :=
          if (trim server).isEmpty then defaultServer else trim server
        let keysResult := if gui.hasIdentity then env.unlocked else env.created
        match keysResult with
        | .error e =>
            ({ gui with screen := .unlock password server (some e) }, .none)
        | .ok keys =>
            match env.serverSaved with
            | .error e =>
                ({ gui with
                    screen := .unlock password server
                      (some ("Failed to save server address: " ++ e)) },
                  .none)
            | .ok () =>
                ({ gui with
                    screen := .unlock password server none
                    serverField := chosen }, .startClient keys chosen)

def Gui.onStarted (view : StoreView) (gui : Gui) :
    Except String (Client × Option (List QueuedEvent)) → Gui
  | .ok (client, rx) =>
      { gui with
        rx := rx
        contacts := Client.contacts P view
        myKeys := some client.myKeysHex
        status := "Connecting to server…"
        client := some client
        screen := .main }
  | .error e =>
      match gui.screen with
      | .unlock password server _ =>
          { gui with
            screen := .unlock password server
              (some ("Failed to start client: " ++ e)) }
      | .main => gui.setStatus ("Failed to start client: " ++ e)

def Gui.selectPeer (view : StoreView) (id : KeyType) (gui : Gui) : Gui :=
  let chosen : Gui :=
    { gui with
      selected := some id
      unread := Function.update gui.unread id none
      aliasInput := ((gui.contacts.find? fun contact =>
        contact.id = id).bind Contact.aliasName).getD "" }
  let connecting :=
    match gui.client with
    | none => chosen
    | some _ => chosen.send (.connect id)
  connecting.reloadHistory P messages view id

def Gui.setAlias (env : UpdateEnv) (gui : Gui) : Gui :=
  match gui.client, gui.selected with
  | some _, some _ =>
      match SechatClient.setAlias gui.aliasInput env.aliasWritten with
      | .ok () =>
          (gui.setStatus ("Alias set to '" ++ trim gui.aliasInput ++
            "'")).refreshContacts P env.view
      | .error e => gui.setStatus ("Alias failed: " ++ e)
  | _, _ => gui.setStatus "Select a peer first"

def Gui.sendDraft (gui : Gui) : Gui :=
  if (trim gui.draft).isEmpty then
    gui
  else
    match gui.client, gui.selected with
    | some _, some peer =>
        { gui.send (.send peer (trim gui.draft)) with draft := "" }
    | _, _ => gui

def Gui.addPeer (env : UpdateEnv) (gui : Gui) : Gui :=
  match parseKeyHex hexDecode gui.addX25519 "x25519" with
  | .error e => gui.setStatus e
  | .ok x25519 =>
      match parseKeyHex hexDecode gui.addVerifying "verifying" with
      | .error e => gui.setStatus e
      | .ok verifying =>
          match gui.client with
          | none => gui.setStatus "Client not started yet"
          | some _ =>
              match Client.addPeer P x25519 verifying env.peerStored with
              | .error e => gui.setStatus ("Failed to add peer: " ++ e)
              | .ok id =>
                  Gui.refreshContacts P env.view
                    { gui.send .announceNow with
                      status := "Added peer " ++ fingerprint id
                      addX25519 := ""
                      addVerifying := "" }

def Gui.changeServer (gui : Gui) : Gui :=
  if (trim gui.serverField).isEmpty then
    gui.setStatus "Server address must not be empty"
  else
    match gui.client with
    | none => gui.setStatus "Client not started yet"
    | some _ =>
        { gui.send (.setServer (trim gui.serverField)) with
          serverField := trim gui.serverField
          status := "Reconnecting to " ++ trim gui.serverField ++ "…" }

def Gui.purgeSelected (gui : Gui) : Gui :=
  match gui.client, gui.selected with
  | some _, some peer =>
      { gui.send (.purge peer) with
        history := []
        status := "Conversation purged" }
  | _, _ => gui

def Gui.removeSelected (view : StoreView) (gui : Gui) : Gui :=
  match gui.client, gui.selected with
  | some _, some peer =>
      Gui.refreshContacts P view
        { gui.send (.removePeer peer) with
          selected := none
          history := []
          unread := Function.update gui.unread peer none
          status := "Removed " ++ fingerprint peer }
  | _, _ => gui

def Gui.openSettings (windowId : ℕ) (gui : Gui) : Gui × GuiTask :=
  match gui.settingsId with
  | some _ => (gui, .none)
  | none => ({ gui with settingsId := some windowId }, .openWindow)

def Gui.windowClose (id : ℕ) (gui : Gui) : Gui × GuiTask :=
  if gui.settingsId = some id then
    ({ gui with settingsId := none }, .closeWindow id)
  else
    match gui.client with
    | none => (gui, .exitLater)
    | some _ => (gui.send .shutdown, .exitLater)

def Gui.update (env : UpdateEnv) (gui : Gui) : GuiMessage → Gui × GuiTask
  | .passwordChanged newPassword =>
      match gui.screen with
      | .unlock _ server error =>
          ({ gui with screen := .unlock newPassword server error }, .none)
      | .main => (gui, .none)
  | .serverChanged newServer =>
      match gui.screen with
      | .unlock password _ error =>
          ({ gui with screen := .unlock password newServer error }, .none)
      | .main => (gui, .none)
  | .submitPassword => gui.submitPassword env
  | .started result => (gui.onStarted P env.view result, .none)
  | .tick => (gui.drainEvents P messages, .none)
  | .selectPeer id =>
      ({ gui.selectPeer P messages env.view id with railTab := .chat }, .none)
  | .draftChanged draft => ({ gui with draft := draft }, .none)
  | .sendDraft => (gui.sendDraft, .none)
  | .addPeerX25519Changed value => ({ gui with addX25519 := value }, .none)
  | .addPeerVerifyingChanged value =>
      ({ gui with addVerifying := value }, .none)
  | .addPeer => (gui.addPeer P hexDecode env, .none)
  | .serverFieldChanged value => ({ gui with serverField := value }, .none)
  | .changeServer => (gui.changeServer, .none)
  | .openSettings => gui.openSettings env.windowId
  | .toggleTheme => ({ gui with dark := !gui.dark }, .none)
  | .aliasChanged value => ({ gui with aliasInput := value }, .none)
  | .setAlias => (gui.setAlias P env, .none)
  | .purgeSelected => (gui.purgeSelected, .none)
  | .removeSelected => (gui.removeSelected P env.view, .none)
  | .selectRail tab => ({ gui with railTab := tab }, .none)
  | .windowClose id => gui.windowClose id
  | .doExit => (gui, .exit)
  | .ignored => (gui, .none)

end Update

end SechatClient

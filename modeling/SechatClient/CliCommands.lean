import SechatClient.PeerInsertion
import SechatClient.PeerLookup
import SechatClient.SessionSafety
import SechatClient.StepSystem
import SechatClient.TextFields

/-!
# The terminal client

`sechat-cli` reads lines from the terminal, turns them into calls of the
client library and prints the events.  The commands that reach the library
are exactly those which the typed lines name, and the keys which one terminal
prints pair the two clients when they are typed into the other.
-/

namespace SechatClient

open ByteStrings InterruptedWrites StepSystem

/-! ## The state -/

/-- What a line finds: the store, `resolve_server`, and the results of the
writes behind `set_alias` and `add_peer`. -/
structure LineEnv where
  view : StoreView
  resolvedServer : Option String
  aliasWritten : Except String Unit
  peerStored : Except CryptoErrors Unit

inductive TerminalPhase where
  | reading
  /-- `quit` was typed, the last 300 milliseconds -/
  | quitting
  | exited
  deriving DecidableEq

structure Terminal where
  phase : TerminalPhase
  signalled : Bool
  commands : List Command
  printed : List String

def Terminal.print (terminal : Terminal) (text : String) : Terminal :=
  { terminal with printed := terminal.printed ++ [text] }

def Terminal.printAll (terminal : Terminal) (texts : List String) :
    Terminal :=
  { terminal with printed := terminal.printed ++ texts }

def Terminal.send (terminal : Terminal) (command : Command) : Terminal :=
  { terminal with commands := terminal.commands ++ [command] }

@[simp] theorem commands_print (terminal : Terminal) (text : String) :
    (terminal.print text).commands = terminal.commands := rfl

@[simp] theorem commands_printAll (terminal : Terminal) (texts : List String) :
    (terminal.printAll texts).commands = terminal.commands := rfl

@[simp] theorem commands_send (terminal : Terminal) (command : Command) :
    (terminal.send command).commands = terminal.commands ++ [command] := rfl

def Contact.label (contact : Contact) : String :=
  contact.aliasName.getD contact.fingerprint

def helpLines : List String :=
  ["Available commands:",
    "  peers                           list known contacts + online status",
    "  mykeys                          print your two public keys to share with peers",
    "  server [host:port]              show, or change + persist, the relay address",
    "  add <x25519_hex> <verif_hex>    trust a peer by their two 32-byte keys",
    "  alias <peer> <name>             set a local name for a peer",
    "  connect <peer>                  ask the relay to broker a P2P hole-punch",
    "  msg <peer> <text>               send a message (P2P if live, else offline)",
    "  history <peer>                  print the stored conversation",
    "  purge <peer>                    delete the conversation (both sides)",
    "  remove <peer>                   remove the peer entirely (keys + chat + alias)",
    "  (<peer> = alias, alias prefix, or fingerprint prefix)",
    "  help, ?                         show this help message",
    "  quit, exit                      exit the application"]

def parse32 (hexStr : String) : Option KeyType :=
  (hexDecode hexStr.toList).bind fun bytes =>
    if bytes.length = 32 then some (arrayOfBytes 32 bytes) else none

/-! ## Lines -/

section Lines

variable (P : Primitives) (messages : Codec Message) (client : Client)

/-- `find_peer`, which is `resolve_peer`, and what follows it. -/
def Terminal.withPeer (env : LineEnv) (terminal : Terminal) (query : String)
    (go : KeyType → Terminal) : Terminal :=
  match Client.resolvePeer P env.view query with
  | some id => go id
  | none => terminal.print "no such peer"

def Terminal.peers (env : LineEnv) (terminal : Terminal) : Terminal :=
  terminal.printAll ((Client.contacts P env.view).map fun c =>
    "  " ++ (if c.online then "🟢" else "⚪") ++ " " ++ c.label ++ " (" ++
      c.fingerprint ++ ") " ++ c.address.getD "")

def Terminal.aliasCommand (env : LineEnv) (terminal : Terminal) :
    List String → Terminal
  | p :: name :: _ =>
      terminal.withPeer P env p fun _ =>
        match setAlias name env.aliasWritten with
        | .ok () => terminal.print ("alias set: " ++ name)
        | .error e => terminal.print ("alias failed: " ++ e)
  | _ => terminal.print "usage: alias <peer> <name>"

def Terminal.mykeys (terminal : Terminal) : Terminal :=
  terminal.printAll
    ["share these two keys with your peer so they can add you:",
      "  x25519:   " ++ client.myKeysHex.1,
      "  verifying:" ++ client.myKeysHex.2]

def Terminal.server (env : LineEnv) (terminal : Terminal) :
    List String → Terminal
  | [] => terminal.print
      ("current server: " ++ env.resolvedServer.getD "(unset)")
  | addr :: _ =>
      (terminal.send (.setServer addr)).print
        ("switching to " ++ addr ++ " …")

def Terminal.add (env : LineEnv) (terminal : Terminal) :
    List String → Terminal
  | x :: v :: _ =>
      match parse32 x, parse32 v with
      | some x, some v =>
          match Client.addPeer P x v env.peerStored with
          | .ok id =>
              -- `add_peer` asks for an announcement when it has succeeded
              (terminal.send .announceNow).print ("added " ++ fingerprint id)
          | .error e => terminal.print ("add failed: " ++ e)
      | _, _ => terminal.print "both keys must be 32-byte hex"
  | _ => terminal.print "usage: add <x25519_hex> <verif_hex>"

def Terminal.connect (env : LineEnv) (terminal : Terminal) :
    List String → Terminal
  | fp :: _ => terminal.withPeer P env fp fun id =>
      terminal.send (.connect id)
  | [] => terminal.print "usage: connect <fingerprint>"

def Terminal.msg (env : LineEnv) (terminal : Terminal) :
    List String → Terminal
  | fp :: text :: _ => terminal.withPeer P env fp fun id =>
      terminal.send (.send id text)
  | _ => terminal.print "usage: msg <fingerprint> <text>"

def Terminal.purge (env : LineEnv) (terminal : Terminal) :
    List String → Terminal
  | fp :: _ => terminal.withPeer P env fp fun id =>
      (terminal.send (.purge id)).print
        ("purged conversation with " ++ fingerprint id)
  | [] => terminal.print "usage: purge <peer>"

def Terminal.remove (env : LineEnv) (terminal : Terminal) :
    List String → Terminal
  | fp :: _ => terminal.withPeer P env fp fun id =>
      (terminal.send (.removePeer id)).print
        ("removed peer " ++ fingerprint id)
  | [] => terminal.print "usage: remove <peer>"

def Terminal.history (env : LineEnv) (terminal : Terminal) :
    List String → Terminal
  | fp :: _ => terminal.withPeer P env fp fun id =>
      match client.history P messages env.view id with
      | .ok lines =>
          terminal.printAll (lines.map fun l =>
            "  " ++ (if l.fromMe then "you" else "peer") ++ ": " ++ l.text)
      | .error e => terminal.print ("history failed: " ++ e)
  | [] => terminal.print "usage: history <fingerprint>"

def Terminal.quit (terminal : Terminal) : Terminal :=
  { terminal.send .shutdown with phase := .quitting }

/-- The first word of a line with those behind it. -/
def Terminal.runWords (env : LineEnv) (terminal : Terminal)
    (arguments : List String) : String → Terminal
  | "peers" => terminal.peers P env
  | "alias" => terminal.aliasCommand P env arguments
  | "mykeys" => terminal.mykeys client
  | "server" => terminal.server env arguments
  | "add" => terminal.add P env arguments
  | "connect" => terminal.connect P env arguments
  | "msg" => terminal.msg P env arguments
  | "purge" => terminal.purge P env arguments
  | "remove" => terminal.remove P env arguments
  | "history" => terminal.history P messages client env arguments
  | "help" => terminal.printAll helpLines
  | "?" => terminal.printAll helpLines
  | "quit" => terminal.quit
  | "exit" => terminal.quit
  | "" => terminal
  | other => terminal.print
      ("unknown command: " ++ other ++ " (try `help`)")

def lineWords (line : String) : List String :=
  (splitn 3 ' ' (trim line).toList).map String.ofList

def Terminal.runLine (env : LineEnv) (terminal : Terminal) (line : String) :
    Terminal :=
  match lineWords line with
  | [] => terminal
  | verb :: arguments => terminal.runWords P messages client env arguments verb

/-- The line which the task behind the event channel prints. -/
def eventLine (view : StoreView) : AppEvent → Option String
  | .connected observedAddress =>
      some ("[connected] observed as " ++ observedAddress)
  | .peerOnline _ => none
  | .peerOffline _ => none
  | .messageArrived peer _ =>
      match client.history P messages view peer with
      | .error _ => none
      | .ok lines => lines.getLast?.map fun last =>
          "[msg] " ++ (if last.fromMe then "you" else fingerprint peer) ++
            ": " ++ last.text
  | .holePunchDenied peer reason =>
      some ("[denied] " ++ fingerprint peer ++ ": " ++ reason)
  | .sessionUp peer direct =>
      some ("[session] " ++ fingerprint peer ++ " connected (" ++
        (if direct then "direct" else "relay") ++ ")")
  | .sessionDown peer => some ("[session] " ++ fingerprint peer ++ " ended")
  | .connectRetrying peer attempt delaySecs =>
      some ("[retry] " ++ fingerprint peer ++ " attempt " ++
        toString attempt ++ " (next in " ++ toString delaySecs ++ "s)")
  | .connectGaveUp peer =>
      some ("[gave up] " ++ fingerprint peer ++
        " — will retry when it comes online")
  | .disconnected => some "[disconnected]"
  | .error e => some ("[error] " ++ e)

inductive TerminalLabel where
  | line (typed : String) (env : LineEnv)
  | event (event : AppEvent) (view : StoreView)
  /-- `shutdown_signal` resolves -/
  | signal
  | endOfInput
  /-- the sleep before the end is over -/
  | exit

def terminalStep (terminal : Terminal) : TerminalLabel → Option Terminal
  | .line typed env =>
      if terminal.phase = .reading then
        some (terminal.runLine P messages client env typed)
      else none
  | .event event view =>
      if terminal.phase = .exited then none
      else some
        (terminal.printAll (eventLine P messages client view event).toList)
  | .signal =>
      if terminal.phase = .exited ∨ terminal.signalled then none
      else some
        { (terminal.print "\nshutting down…").send .shutdown with
          signalled := true }
  | .endOfInput =>
      if terminal.phase = .reading then
        some { terminal with phase := .exited }
      else none
  | .exit =>
      if terminal.phase = .quitting ∨ terminal.signalled then
        some { terminal with phase := .exited }
      else none

def Terminal.start (server : String) : Terminal where
  phase := .reading
  signalled := false
  commands := []
  printed := ["identity " ++
    fingerprint (identityHash P client.keys.x25519Pub
      client.keys.ed25519Verifying) ++
    " — connecting to " ++ server]

end Lines

/-! ## What the lines ask for -/

/-- The words of a line, up to the first blank and up to the second. -/
def typedWords (line : String) : String × Option (String × Option String) :=
  match splitOnce ' ' (trim line).toList with
  | none => (trim line, none)
  | some (verb, rest) =>
      match splitOnce ' ' rest with
      | none => (String.ofList verb, some (String.ofList rest, none))
      | some (operand, text) =>
          (String.ofList verb,
            some (String.ofList operand, some (String.ofList text)))

/-- The query and the text of a line `msg <query> <text>`. -/
def typedMessage (line : String) : Option (String × String) :=
  if (typedWords line).1 = "msg" then
    (typedWords line).2.bind fun words =>
      words.2.map fun text => (words.1, text)
  else none

/-- The two keys of a line `add <x25519_hex> <verif_hex>`. -/
def typedKeys (line : String) : Option (KeyType × KeyType) :=
  if (typedWords line).1 = "add" then
    (typedWords line).2.bind fun words => words.2.bind fun second =>
      (parse32 words.1).bind fun x => (parse32 second).map fun v => (x, v)
  else none

/-- The verb and the query of a line which names one peer. -/
def typedOrder (line : String) : Option (String × String) :=
  if (typedWords line).1 ∈ ["connect", "purge", "remove"] then
    (typedWords line).2.map fun words => ((typedWords line).1, words.1)
  else none

def Command.textTo (id : KeyType) : Command → Option String
  | .send peer text => if peer = id then some text else none
  | _ => none

def Command.order : Command → Option (String × KeyType)
  | .connect peer => some ("connect", peer)
  | .purge peer => some ("purge", peer)
  | .removePeer peer => some ("remove", peer)
  | _ => none

section Asked

variable (P : Primitives)

/-- The command of a line which names one peer. -/
def orderCommand (env : LineEnv) (rest : Option (String × Option String))
    (command : KeyType → Command) : Option Command :=
  rest.bind fun words =>
    (Client.resolvePeer P env.view words.1).map command

def messageCommand (env : LineEnv) (rest : Option (String × Option String)) :
    Option Command :=
  rest.bind fun words => words.2.bind fun text =>
    (Client.resolvePeer P env.view words.1).map fun id => .send id text

/-- An announcement, when both keys are read and the contact is stored. -/
def addCommand (env : LineEnv) (rest : Option (String × Option String)) :
    Option Command :=
  rest.bind fun words => words.2.bind fun second =>
    (parse32 words.1).bind fun x => (parse32 second).bind fun v =>
      (Client.addPeer P x v env.peerStored).toOption.map fun _ => .announceNow

/-- The command which the words of a line stand for. -/
def wordCommand (env : LineEnv) (rest : Option (String × Option String)) :
    String → Option Command
  | "server" => rest.map fun words => .setServer words.1
  | "add" => addCommand P env rest
  | "connect" => orderCommand P env rest .connect
  | "msg" => messageCommand P env rest
  | "purge" => orderCommand P env rest .purge
  | "remove" => orderCommand P env rest .removePeer
  | "quit" => some .shutdown
  | "exit" => some .shutdown
  | _ => none

def TerminalLabel.asked : TerminalLabel → Option Command
  | .line typed env => wordCommand P env (typedWords typed).2 (typedWords typed).1
  | .signal => some .shutdown
  | _ => none

/-- The text which a label sends to a peer. -/
def TerminalLabel.textTo (id : KeyType) : TerminalLabel → Option String
  | .line typed env =>
      (typedMessage typed).bind fun message =>
        if Client.resolvePeer P env.view message.1 = some id then
          some message.2
        else none
  | _ => none

def TerminalLabel.order : TerminalLabel → Option (String × KeyType)
  | .line typed env =>
      (typedOrder typed).bind fun order =>
        (Client.resolvePeer P env.view order.2).map fun id => (order.1, id)
  | _ => none

end Asked

/-- The arguments which are left behind the first word. -/
def wordArguments (rest : Option (String × Option String)) : List String :=
  rest.elim [] fun words => words.1 :: words.2.toList

theorem lineWords_eq (line : String) :
    lineWords line =
      (typedWords line).1 :: wordArguments (typedWords line).2 := by
  unfold lineWords typedWords wordArguments
  cases hfirst : splitOnce ' ' (trim line).toList with
  | none =>
      rw [splitn_of_notMem (splitOnce_eq_none_iff.mp hfirst)]
      simp
  | some fields =>
      obtain ⟨verb, rest⟩ := fields
      obtain ⟨htext, hverb⟩ := splitOnce_eq_some_iff.mp hfirst
      rw [htext, splitn_append hverb]
      cases hsecond : splitOnce ' ' rest with
      | none =>
          rw [splitn_of_notMem (splitOnce_eq_none_iff.mp hsecond)]
          simp [hsecond]
      | some fields =>
          obtain ⟨operand, text⟩ := fields
          obtain ⟨rfl, hoperand⟩ := splitOnce_eq_some_iff.mp hsecond
          rw [splitn_append hoperand]
          simp [hsecond, splitn]

/-- What the text of a message is to its line. -/
theorem typedMessage_eq_some_iff {line query text : String} :
    typedMessage line = some (query, text) ↔
      (trim line).toList =
          "msg".toList ++ ' ' :: (query.toList ++ ' ' :: text.toList) ∧
        ' ' ∉ query.toList := by
  have hverb : ' ' ∉ "msg".toList := by decide
  constructor
  · intro htyped
    unfold typedMessage typedWords at htyped
    cases hfirst : splitOnce ' ' (trim line).toList with
    | none => simp [hfirst] at htyped
    | some fields =>
        obtain ⟨verb, rest⟩ := fields
        obtain ⟨htext, -⟩ := splitOnce_eq_some_iff.mp hfirst
        cases hsecond : splitOnce ' ' rest with
        | none => simp [hfirst, hsecond] at htyped
        | some fields =>
            obtain ⟨operand, tail⟩ := fields
            obtain ⟨rfl, hoperand⟩ := splitOnce_eq_some_iff.mp hsecond
            simp only [hfirst, hsecond] at htyped
            split at htyped
            next hmsg =>
              cases htyped
              have hlist : verb = "msg".toList := by
                rw [← hmsg, String.toList_ofList]
              subst hlist
              simpa using ⟨htext, hoperand⟩
            next => cases htyped
  · rintro ⟨htext, hquery⟩
    have hfirst : splitOnce ' ' (trim line).toList =
        some ("msg".toList, query.toList ++ ' ' :: text.toList) := by
      rw [htext]
      exact splitOnce_append hverb _
    have hsecond := splitOnce_append hquery text.toList
    simp [typedMessage, typedWords, hfirst, hsecond]

/-- The text of a message ends where its line does, in no white space. -/
theorem typedMessage_not_blank {line query text : String}
    (htyped : typedMessage line = some (query, text)) : trim text ≠ "" := by
  obtain ⟨htext, -⟩ := typedMessage_eq_some_iff.mp htyped
  have htrimmed := trimmed_trim line
  rw [htext] at htrimmed
  intro hblank
  cases hlast : text.toList.reverse with
  | nil =>
      have hempty : text.toList = [] := by simpa using hlast
      rw [hempty] at htrimmed
      have hlast := htrimmed.last
        ("msg".toList ++ ' ' :: query.toList) ' ' (by simp)
      have hwhite : isWhiteSpace ' ' = true := by decide
      rw [hwhite] at hlast
      exact absurd hlast (by decide)
  | cons char rest =>
      have hsplit : text.toList = rest.reverse ++ [char] := by
        rw [← List.reverse_reverse text.toList, hlast, List.reverse_cons]
      have hchar : isWhiteSpace char = false := by
        apply htrimmed.last
          ("msg".toList ++ ' ' :: (query.toList ++ ' ' :: rest.reverse)) char
        simp [hsplit]
      have hwhite := trim_eq_empty_iff.mp hblank char (by simp [hsplit])
      rw [hchar] at hwhite
      exact absurd hwhite (by decide)

/-! ## One line -/

section Steps

variable {P : Primitives} {messages : Codec Message} {client : Client}

theorem commands_withPeer (env : LineEnv) (terminal : Terminal)
    (query : String) (go : KeyType → Terminal) :
    (terminal.withPeer P env query go).commands =
      ((Client.resolvePeer P env.view query).map fun id =>
        (go id).commands).getD terminal.commands := by
  unfold Terminal.withPeer
  cases Client.resolvePeer P env.view query <;> rfl

theorem commands_withPeer_order (env : LineEnv) (terminal : Terminal)
    (query : String) (text : Option String) {go : KeyType → Terminal}
    {command : KeyType → Command}
    (hgo : ∀ id, (go id).commands = terminal.commands ++ [command id]) :
    (terminal.withPeer P env query go).commands =
      terminal.commands ++
        (orderCommand P env (some (query, text)) command).toList := by
  rw [commands_withPeer, orderCommand, Option.bind_some]
  cases Client.resolvePeer P env.view query with
  | none => simp
  | some id => simp [hgo]

theorem commands_withPeer_silent (env : LineEnv) (terminal : Terminal)
    (query : String) {go : KeyType → Terminal}
    (hgo : ∀ id, (go id).commands = terminal.commands) :
    (terminal.withPeer P env query go).commands = terminal.commands := by
  rw [commands_withPeer]
  cases Client.resolvePeer P env.view query with
  | none => rfl
  | some id => exact hgo id

variable (env : LineEnv) (terminal : Terminal)
  (rest : Option (String × Option String))

theorem commands_aliasCommand :
    (terminal.aliasCommand P env (wordArguments rest)).commands =
      terminal.commands := by
  obtain _ | ⟨query, _ | name⟩ := rest
  · rfl
  · rfl
  · simp only [Terminal.aliasCommand, wordArguments, Option.elim_some,
      Option.toList_some]
    apply commands_withPeer_silent
    intro id
    cases setAlias name env.aliasWritten <;> rfl

theorem commands_server :
    (terminal.server env (wordArguments rest)).commands =
      terminal.commands ++
        (rest.map fun words => Command.setServer words.1).toList := by
  cases rest <;> simp [Terminal.server, wordArguments]

theorem commands_add :
    (terminal.add P env (wordArguments rest)).commands =
      terminal.commands ++ (addCommand P env rest).toList := by
  obtain _ | ⟨x, _ | v⟩ := rest
  · simp [Terminal.add, wordArguments, addCommand]
  · simp [Terminal.add, wordArguments, addCommand]
  · simp only [Terminal.add, wordArguments, addCommand, Option.elim_some,
      Option.toList_some, Option.bind_some]
    cases parse32 x with
    | none => simp
    | some x =>
        cases parse32 v with
        | none => simp
        | some v =>
            cases hstored : Client.addPeer P x v env.peerStored <;>
              simp [hstored, Except.toOption]

theorem commands_connect :
    (terminal.connect P env (wordArguments rest)).commands =
      terminal.commands ++ (orderCommand P env rest .connect).toList := by
  obtain _ | ⟨query, text⟩ := rest
  · simp [Terminal.connect, wordArguments, orderCommand]
  · simp only [Terminal.connect, wordArguments, Option.elim_some]
    exact commands_withPeer_order env terminal query text fun id => rfl

theorem commands_purge :
    (terminal.purge P env (wordArguments rest)).commands =
      terminal.commands ++ (orderCommand P env rest .purge).toList := by
  obtain _ | ⟨query, text⟩ := rest
  · simp [Terminal.purge, wordArguments, orderCommand]
  · simp only [Terminal.purge, wordArguments, Option.elim_some]
    exact commands_withPeer_order env terminal query text fun id => rfl

theorem commands_remove :
    (terminal.remove P env (wordArguments rest)).commands =
      terminal.commands ++ (orderCommand P env rest .removePeer).toList := by
  obtain _ | ⟨query, text⟩ := rest
  · simp [Terminal.remove, wordArguments, orderCommand]
  · simp only [Terminal.remove, wordArguments, Option.elim_some]
    exact commands_withPeer_order env terminal query text fun id => rfl

theorem commands_msg :
    (terminal.msg P env (wordArguments rest)).commands =
      terminal.commands ++ (messageCommand P env rest).toList := by
  obtain _ | ⟨query, _ | text⟩ := rest
  · simp [Terminal.msg, wordArguments, messageCommand]
  · simp [Terminal.msg, wordArguments, messageCommand]
  · simp only [Terminal.msg, wordArguments, messageCommand, Option.elim_some,
      Option.toList_some, Option.bind_some, commands_withPeer]
    cases Client.resolvePeer P env.view query <;> simp

theorem commands_history :
    (terminal.history P messages client env (wordArguments rest)).commands =
      terminal.commands := by
  obtain _ | ⟨query, text⟩ := rest
  · rfl
  · simp only [Terminal.history, wordArguments, Option.elim_some]
    apply commands_withPeer_silent
    intro id
    cases client.history P messages env.view id <;> rfl

/-- What a line adds to the commands. -/
theorem commands_runWords (verb : String) :
    (terminal.runWords P messages client env (wordArguments rest)
        verb).commands =
      terminal.commands ++ (wordCommand P env rest verb).toList := by
  unfold Terminal.runWords
  split
  case h_2 => simp [commands_aliasCommand, wordCommand]
  case h_4 => exact commands_server env terminal rest
  case h_5 => exact commands_add env terminal rest
  case h_6 => exact commands_connect env terminal rest
  case h_7 => exact commands_msg env terminal rest
  case h_8 => exact commands_purge env terminal rest
  case h_9 => exact commands_remove env terminal rest
  case h_10 => simp [commands_history, wordCommand]
  all_goals simp [wordCommand, Terminal.peers, Terminal.mykeys,
    Terminal.quit, *]

theorem commands_step {terminal next : Terminal} {label : TerminalLabel}
    (hstep : terminalStep P messages client terminal label = some next) :
    next.commands = terminal.commands ++ (label.asked P).toList := by
  cases label with
  | line typed env =>
      simp only [terminalStep] at hstep
      split at hstep
      next =>
        rw [Option.some.injEq] at hstep
        subst hstep
        rw [Terminal.runLine, lineWords_eq]
        exact commands_runWords env terminal _ _
      next => contradiction
  | event event view =>
      simp only [terminalStep] at hstep
      split at hstep
      next => contradiction
      next =>
        cases hstep
        simp [TerminalLabel.asked]
  | signal =>
      simp only [terminalStep] at hstep
      split at hstep
      next => contradiction
      next =>
        cases hstep
        rfl
  | endOfInput | exit =>
      simp only [terminalStep] at hstep
      split at hstep
      next =>
        cases hstep
        simp [TerminalLabel.asked]
      next => contradiction

theorem commands_of_run {terminal final : Terminal}
    {labels : List TerminalLabel}
    (hrun : runFrom (terminalStep P messages client) terminal labels =
      some final) :
    final.commands =
      terminal.commands ++ labels.filterMap (TerminalLabel.asked P) := by
  induction labels generalizing terminal with
  | nil =>
      cases hrun
      simp
  | cons label rest ih =>
      obtain ⟨next, hstep, hrest⟩ := runFrom_cons_eq_some.mp hrun
      rw [ih hrest, commands_step hstep, List.append_assoc]
      cases hasked : label.asked P <;> simp [hasked]

/-! ## Messages and orders -/

theorem addCommand_eq (env : LineEnv) (rest : Option (String × Option String)) :
    addCommand P env rest = none ∨
      addCommand P env rest = some .announceNow := by
  cases hadd : addCommand P env rest with
  | none => exact .inl rfl
  | some command =>
      simp only [addCommand, Option.bind_eq_some_iff,
        Option.map_eq_some_iff] at hadd
      obtain ⟨_, _, _, _, _, _, _, _, _, _, rfl⟩ := hadd
      exact .inr rfl

/-- Only a line `msg` sends a text. -/
theorem textTo_wordCommand (id : KeyType) (env : LineEnv)
    (rest : Option (String × Option String)) {verb : String}
    (hverb : verb ≠ "msg") :
    (wordCommand P env rest verb).bind (Command.textTo id) = none := by
  have horder (command : KeyType → Command)
      (hcommand : ∀ peer, (command peer).textTo id = none) :
      (orderCommand P env rest command).bind (Command.textTo id) = none := by
    simp only [orderCommand, Option.bind_eq_none_iff, Option.bind_eq_some_iff,
      Option.map_eq_some_iff]
    rintro _ ⟨_, _, _, _, rfl⟩
    exact hcommand _
  unfold wordCommand
  split
  next => cases rest <;> rfl
  next =>
    rcases addCommand_eq (P := P) env rest with hadd | hadd <;>
      rw [hadd] <;> rfl
  next => exact horder _ fun _ => rfl
  next => exact absurd rfl hverb
  next => exact horder _ fun _ => rfl
  next => exact horder _ fun _ => rfl
  next => rfl
  next => rfl
  next => rfl

theorem textTo_asked (id : KeyType) (label : TerminalLabel) :
    (label.asked P).bind (Command.textTo id) = label.textTo P id := by
  cases label with
  | line typed env =>
      simp only [TerminalLabel.asked, TerminalLabel.textTo, typedMessage]
      generalize typedWords typed = words
      obtain ⟨verb, rest⟩ := words
      by_cases hverb : verb = "msg"
      · subst hverb
        rw [if_pos rfl]
        obtain _ | ⟨query, _ | text⟩ := rest
        · rfl
        · rfl
        · simp only [wordCommand, messageCommand, Option.bind_some,
            Option.map_some]
          cases Client.resolvePeer P env.view query with
          | none => rfl
          | some peer =>
              by_cases hpeer : peer = id <;> simp [Command.textTo, hpeer]
      · rw [if_neg hverb, textTo_wordCommand id env rest hverb]
        rfl
  | signal | event | endOfInput | exit => rfl

/-- Only a line which names one peer gives an order. -/
theorem order_wordCommand (env : LineEnv)
    (rest : Option (String × Option String)) {verb : String}
    (hverb : verb ∉ ["connect", "purge", "remove"]) :
    (wordCommand P env rest verb).bind Command.order = none := by
  unfold wordCommand
  split
  next => cases rest <;> rfl
  next =>
    rcases addCommand_eq (P := P) env rest with hadd | hadd <;>
      rw [hadd] <;> rfl
  next => exact absurd (by simp) hverb
  next =>
    simp only [messageCommand, Option.bind_eq_none_iff,
      Option.bind_eq_some_iff, Option.map_eq_some_iff]
    rintro _ ⟨_, _, _, _, _, _, rfl⟩
    rfl
  next => exact absurd (by simp) hverb
  next => exact absurd (by simp) hverb
  next => rfl
  next => rfl
  next => rfl

theorem order_orderCommand (env : LineEnv)
    (rest : Option (String × Option String)) {name : String}
    {command : KeyType → Command}
    (hcommand : ∀ peer, (command peer).order = some (name, peer)) :
    (orderCommand P env rest command).bind Command.order =
      (rest.map fun words => (name, words.1)).bind fun order =>
        (Client.resolvePeer P env.view order.2).map fun id =>
          (order.1, id) := by
  cases rest with
  | none => rfl
  | some words =>
      simp only [orderCommand, Option.bind_some, Option.map_some]
      cases Client.resolvePeer P env.view words.1 with
      | none => rfl
      | some peer => exact hcommand peer

theorem order_asked (label : TerminalLabel) :
    (label.asked P).bind Command.order = label.order P := by
  cases label with
  | line typed env =>
      simp only [TerminalLabel.asked, TerminalLabel.order, typedOrder]
      generalize typedWords typed = words
      obtain ⟨verb, rest⟩ := words
      by_cases hverb : verb ∈ ["connect", "purge", "remove"]
      · rw [if_pos hverb]
        simp only [List.mem_cons, List.not_mem_nil, or_false] at hverb
        rcases hverb with rfl | rfl | rfl <;>
          exact order_orderCommand env rest fun _ => rfl
      · rw [if_neg hverb, order_wordCommand env rest hverb]
        rfl
  | signal | event | endOfInput | exit => rfl

end Steps

/-- In a run of the terminal client the texts sent to a peer are those of the
lines `msg <query> <text>` whose query finds the peer, in their order and
unchanged, none of them blank; and a peer is connected to, purged or removed
exactly where a line of that verb finds it. -/
theorem terminal_sends_typed (P : Primitives) (messages : Codec Message)
    (client : Client) (server : String) {labels : List TerminalLabel}
    {final : Terminal}
    (hrun : runFrom (terminalStep P messages client) (.start P client server)
      labels = some final) :
    (∀ id, final.commands.filterMap (Command.textTo id) =
      labels.filterMap (TerminalLabel.textTo P id)) ∧
    (∀ id, ∀ text ∈ final.commands.filterMap (Command.textTo id),
      trim text ≠ "") ∧
    final.commands.filterMap Command.order =
      labels.filterMap (TerminalLabel.order P) := by
  have hcommands : final.commands =
      labels.filterMap (TerminalLabel.asked P) := commands_of_run hrun
  have htexts (id : KeyType) :
      final.commands.filterMap (Command.textTo id) =
        labels.filterMap (TerminalLabel.textTo P id) := by
    rw [hcommands, List.filterMap_filterMap]
    exact List.filterMap_congr fun label _ => textTo_asked id label
  refine ⟨htexts, ?_, ?_⟩
  · intro id text htext
    rw [htexts id, List.mem_filterMap] at htext
    obtain ⟨label, -, hlabel⟩ := htext
    cases label with
    | line typed env =>
        simp only [TerminalLabel.textTo] at hlabel
        obtain ⟨⟨query, said⟩, htyped, hsaid⟩ :=
          Option.bind_eq_some_iff.mp hlabel
        split at hsaid
        next =>
          cases hsaid
          exact typedMessage_not_blank htyped
        next => cases hsaid
    | signal | event | endOfInput | exit => cases hlabel
  · rw [hcommands, List.filterMap_filterMap]
    exact List.filterMap_congr fun label _ => order_asked label

/-- One contact, known as `bob`. -/
def sampleLineEnv : LineEnv where
  view := ⟨samplePeers (sampleKeys 2), [], 1000,
    fun id => if id = (sampleKeys 2).id .transparent then some "bob" else none,
    false⟩
  resolvedServer := none
  aliasWritten := .ok ()
  peerStored := .ok ()

def sampleLines : List TerminalLabel :=
  [.line " msg bob  see you " sampleLineEnv,
    .line "msg alice hello" sampleLineEnv,
    .line "purge bo" sampleLineEnv,
    .line "quit" sampleLineEnv]

theorem sampleLines_printed :
    ∃ final, runFrom (terminalStep .transparent transparentMessages
        ⟨sampleKeys 1⟩)
        (.start .transparent ⟨sampleKeys 1⟩ "localhost:3000") sampleLines =
          some final ∧
      sampleLines.filterMap (TerminalLabel.textTo .transparent
        ((sampleKeys 2).id .transparent)) = [" see you"] :=
  ⟨_, rfl, rfl⟩

theorem sample_lines_sent :
    ∃ final, runFrom (terminalStep .transparent transparentMessages
        ⟨sampleKeys 1⟩)
        (.start .transparent ⟨sampleKeys 1⟩ "localhost:3000") sampleLines =
          some final ∧
      final.commands.filterMap
        (Command.textTo ((sampleKeys 2).id .transparent)) = [" see you"] := by
  obtain ⟨final, hrun, htyped⟩ := sampleLines_printed
  have hsent := terminal_sends_typed .transparent transparentMessages
    ⟨sampleKeys 1⟩ "localhost:3000" hrun
  exact ⟨final, hrun, (hsent.1 _).trans htyped⟩

/-! ## Pairing by typed keys -/

theorem isWhiteSpace_of_mem_hexEncode {bytes : Bytes} {char : Char}
    (hchar : char ∈ hexEncode bytes) : isWhiteSpace char = false := by
  have hdigit (nibble : Fin 16) : isWhiteSpace (hexDigit nibble) = false := by
    revert nibble
    decide
  simp only [hexEncode, List.mem_flatMap, List.mem_cons, List.not_mem_nil,
    or_false] at hchar
  obtain ⟨byte, -, rfl | rfl⟩ := hchar
  · have hlt : byte.toNat / 16 < 16 := by
      have hbyte := byte.toNat_lt
      omega
    exact hdigit ⟨byte.toNat / 16, hlt⟩
  · exact hdigit ⟨byte.toNat % 16, Nat.mod_lt _ (by decide)⟩

theorem blank_notMem_hexEncode (bytes : Bytes) : ' ' ∉ hexEncode bytes := by
  intro hmem
  have hwhite := isWhiteSpace_of_mem_hexEncode hmem
  exact absurd hwhite (by decide)

theorem parse32_hexEncode (key : KeyType) :
    parse32 (String.ofList (hexEncode key.toList)) = some key := by
  simp [parse32, hexDecode_hexEncode]

theorem typedWords_add {line x v : String} (hx : ' ' ∉ x.toList)
    (htyped : trim line = "add " ++ x ++ " " ++ v) :
    typedWords line = ("add", some (x, some v)) := by
  have hverb : ' ' ∉ "add".toList := by decide
  have htext : (trim line).toList =
      "add".toList ++ ' ' :: (x.toList ++ ' ' :: v.toList) := by
    simp [htyped]
  have hfirst : splitOnce ' ' (trim line).toList =
      some ("add".toList, x.toList ++ ' ' :: v.toList) := by
    rw [htext]
    exact splitOnce_append hverb _
  have hsecond := splitOnce_append hx v.toList
  simp [typedWords, hfirst, hsecond]

/-- The keys which one terminal prints are read back from the line. -/
theorem typedKeys_of_myKeysHex {keys : Keys} {line : String}
    (htyped : trim line = "add " ++ (Client.myKeysHex ⟨keys⟩).1 ++ " " ++
      (Client.myKeysHex ⟨keys⟩).2) :
    typedKeys line = some (keys.x25519Pub, keys.ed25519Verifying) := by
  have hwords := typedWords_add
    (by simpa [Client.myKeysHex] using blank_notMem_hexEncode _) htyped
  have hx : parse32 (Client.myKeysHex ⟨keys⟩).1 = some keys.x25519Pub :=
    parse32_hexEncode keys.x25519Pub
  have hv : parse32 (Client.myKeysHex ⟨keys⟩).2 = some keys.ed25519Verifying :=
    parse32_hexEncode keys.ed25519Verifying
  simp [typedKeys, hwords, hx, hv]

/-- A line with both keys does what `add_peer` does with them. -/
theorem runLine_of_typedKeys {P : Primitives} {messages : Codec Message}
    {client : Client} {env : LineEnv} {line : String} {x v : KeyType}
    (hkeys : typedKeys line = some (x, v)) {root : PeersRoot}
    {fault : Option (Fault String)}
    (hstored : env.peerStored = (initializePeerSteps P root ⟨x, v⟩ fault).2)
    (terminal : Terminal) :
    terminal.runLine P messages client env line =
      match (addPeerSteps P root x v fault).2 with
      | .ok id => (terminal.send .announceNow).print ("added " ++ fingerprint id)
      | .error e => terminal.print ("add failed: " ++ e) := by
  have hpeer : Client.addPeer P x v env.peerStored =
      (addPeerSteps P root x v fault).2 := by
    rw [hstored]
    unfold addPeerSteps
    split
    next => rfl
    next hinvalid => simp [Client.addPeer, hinvalid]
  rw [Terminal.runLine, lineWords_eq]
  unfold typedKeys at hkeys
  generalize typedWords line = words at hkeys ⊢
  obtain ⟨verb, rest⟩ := words
  split at hkeys
  next hverb =>
    simp only at hverb
    subst hverb
    obtain ⟨⟨first, second⟩, rfl, hsecond⟩ := Option.bind_eq_some_iff.mp hkeys
    obtain ⟨last, rfl, hparsed⟩ := Option.bind_eq_some_iff.mp hsecond
    obtain ⟨read, hx, hread⟩ := Option.bind_eq_some_iff.mp hparsed
    obtain ⟨verifying, hv, hpair⟩ := Option.map_eq_some_iff.mp hread
    cases hpair
    change terminal.add P env [first, last] = _
    simp only [Terminal.add, hx, hv, hpeer]
  next => contradiction

/-- The keys which one terminal prints, typed into the other with any blanks
around them, are read back, and `add_peer` stores them: the first client is
listed under its own id and the other contacts are as they were.  The two
clients then agree on their presence tokens and on who comes first in a
session. -/
theorem typed_keys_pair {P : Primitives} (hdh : P.DhCommutes)
    {mine theirs : Keys} (hmine : mine.Genuine P) (htheirs : theirs.Genuine P)
    (hvalid : P.isVerifyingKey mine.ed25519Verifying = true)
    (hother : mine.x25519Pub ≠ theirs.x25519Pub)
    (messages : Codec Message) {line : String}
    (htyped : trim line =
      "add " ++ (Client.myKeysHex ⟨mine⟩).1 ++ " " ++
        (Client.myKeysHex ⟨mine⟩).2) (root : PeersRoot) (terminal : Terminal) :
    ∃ x v, typedKeys line = some (x, v) ∧
      (∀ env : LineEnv,
        env.peerStored = (initializePeerSteps P root ⟨x, v⟩ none).2 →
        let added := terminal.runLine P messages ⟨theirs⟩ env line
        added.commands = terminal.commands ++ [Command.announceNow] ∧
          added.printed =
            terminal.printed ++ ["added " ++ fingerprint (mine.id P)]) ∧
      (let stored := addPeerSteps P root x v none
       stored.2 = .ok (mine.id P) ∧
         loadPeerDataAt P stored.1 (mine.id P) = .ok mine.publicPart ∧
         ∀ name, name ≠ peerDirName (mine.id P) →
           (stored.1.getD ∅).lookup name = (root.getD ∅).lookup name) ∧
      (∀ timestamp,
        presenceToken P theirs.x25519Priv x timestamp =
          presenceToken P mine.x25519Priv theirs.x25519Pub timestamp) ∧
      amIFirst theirs.x25519Pub x = !amIFirst mine.x25519Pub theirs.x25519Pub := by
  have hkeys := typedKeys_of_myKeysHex htyped
  have hadded : (addPeerSteps P root mine.x25519Pub mine.ed25519Verifying
      none).2 = .ok (mine.id P) := by
    simp only [addPeerSteps, if_pos hvalid, Client.addPeer]
    rfl
  have hleft : (addPeerSteps P root mine.x25519Pub mine.ed25519Verifying
      none).1 = (initializePeerSteps P root mine.publicPart none).1 := by
    simp only [addPeerSteps, if_pos hvalid]
    rfl
  refine ⟨_, _, hkeys, ?_, ⟨hadded, ?_, ?_⟩, ?_, amIFirst_swap hother⟩
  · intro env hstored
    have hline : terminal.runLine P messages ⟨theirs⟩ env line =
        (terminal.send .announceNow).print
          ("added " ++ fingerprint (mine.id P)) := by
      rw [runLine_of_typedKeys hkeys hstored, hadded]
    exact ⟨by rw [hline]; rfl, by rw [hline]; rfl⟩
  · obtain ⟨added, hsteps, hlookup⟩ :=
      lookup_initializePeerSteps root mine.publicPart
    rw [hleft, hsteps]
    have hload := loadPeerData_initializePeer P (root.getD ∅) mine.publicPart
      hvalid
    simp only [loadPeerDataAt]
    unfold loadPeerData at hload ⊢
    rw [hlookup]
    exact hload
  · intro name hname
    rw [hleft]
    exact lookup_initializePeerSteps_ne root mine.publicPart none hname
  · intro timestamp
    have hshared : P.diffieHellman theirs.x25519Priv mine.x25519Pub =
        P.diffieHellman mine.x25519Priv theirs.x25519Pub := by
      rw [hmine.x25519, htheirs.x25519]
      exact hdh theirs.x25519Priv mine.x25519Priv
    simp only [presenceToken, hshared]

/-- What the second client types to add the first. -/
def samplePairingLine : String :=
  " add " ++ (Client.myKeysHex ⟨sampleKeys 1⟩).1 ++ " " ++
    (Client.myKeysHex ⟨sampleKeys 1⟩).2 ++ " "

theorem sample_keys_pair :
    ∃ x v, typedKeys samplePairingLine = some (x, v) ∧
      (Terminal.runLine .transparent transparentMessages ⟨sampleKeys 2⟩
        sampleLineEnv (.start .transparent ⟨sampleKeys 2⟩ "localhost:3000")
        samplePairingLine).commands = [.announceNow] ∧
      loadPeerDataAt .transparent
          (addPeerSteps .transparent (some sampleLineEnv.view.peers) x v none).1
          ((sampleKeys 1).id .transparent) = .ok (sampleKeys 1).publicPart := by
  have htyped : trim samplePairingLine =
      "add " ++ (Client.myKeysHex ⟨sampleKeys 1⟩).1 ++ " " ++
        (Client.myKeysHex ⟨sampleKeys 1⟩).2 := by decide +kernel
  obtain ⟨x, v, hkeys, hadded, ⟨-, hload, -⟩, -⟩ := typed_keys_pair
    transparent_dhCommutes (sampleKeys_genuine 1) (sampleKeys_genuine 2) rfl
    (by decide) transparentMessages htyped (some sampleLineEnv.view.peers)
    (.start .transparent ⟨sampleKeys 2⟩ "localhost:3000")
  exact ⟨x, v, hkeys, (hadded sampleLineEnv rfl).1, hload⟩

end SechatClient

import SechatClient.StepSystem
import SechatClient.OrderedStore
import SechatClient.SigningContexts
import SechatClient.SessionSend
import SechatClient.SessionSafety
import SechatClient.ServerMessages
import SechatClient.BlobRewrap
import SechatClient.RelayRouting
import SechatClient.MailboxDrain
import SechatClient.ChatStoreContention
import SechatClient.PeersDirectory
import SechatClient.PresenceFlow
import SechatClient.SharedSocket
import SechatClient.ChatRefinement
import SechatClient.BlobChanges
import SechatClient.BlobAgreement
import SechatClient.BlobRedelivery
import SechatClient.SendCommand
import SechatClient.HandshakeAttempts
import SechatClient.NonceUse
import SechatClient.RelayExactness
import SechatClient.SessionTeardown
import SechatClient.RetryLadder
import SechatClient.ConnectReservations
import SechatClient.FrameReplay
import SechatClient.TransportAgreement
import SechatClient.DispatchLoop
import SechatClient.MailboxEntryPoints
import SechatClient.PunchedAddress
import SechatClient.Orchestrate
import SechatClient.Announcements
import SechatClient.DrainPhase
import SechatClient.GuiApp
import SechatClient.ShownConversation
import SechatClient.FirstMatch
import SechatClient.PeerLookup
import SechatClient.RetryDiscipline
import SechatClient.BrokeredPunch
import SechatClient.CacheRefinement
import SechatClient.IdentityFile
import SechatClient.AliasFile
import SechatClient.PeerInsertion
import SechatClient.PresenceTokens
import SechatClient.ReplayWindows
import SechatClient.ConnectionPipeline
import SechatClient.PipelineExactness
import SechatClient.PipelineProgress
import SechatClient.UnreadCounters
import SechatClient.CliCommands
import SechatClient.SessionTimers
import SechatClient.CommandHandling
import SechatClient.MirroredConversations
import SechatClient.InnerLoop
import SechatClient.InnerLoopRefinement
import SechatClient.InnerLoopSafety
import SechatClient.TaggedLists
import SechatClient.TextPaths
import SechatClient.TwoClientsInvariant
import SechatClient.TwoClientsSteps
import SechatClient.TwoClientsSessions
import SechatClient.TwoClientsSafety

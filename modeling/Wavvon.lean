import Wavvon.Alliances.VoiceGrants
import Wavvon.Alliances.Vouched
import Wavvon.Apps.Polling
import Wavvon.Apps.Resume
import Wavvon.Apps.Subscriptions
import Wavvon.Attachments.Inline
import Wavvon.Attachments.Muxing
import Wavvon.Auth.EarnedOnce
import Wavvon.Auth.FirstUser
import Wavvon.Auth.PasskeyDoor
import Wavvon.Certs.CaughtUp
import Wavvon.Channels.Chains
import Wavvon.Channels.Details
import Wavvon.Chat.Breaker
import Wavvon.Chat.Privacy
import Wavvon.Chat.Views
import Wavvon.Dms.Attribution
import Wavvon.Dms.Convergence
import Wavvon.Dms.Fanout
import Wavvon.Dms.HomeHubs
import Wavvon.Dms.Leftovers
import Wavvon.Dms.Retries
import Wavvon.Events.Calendar
import Wavvon.Events.Claims
import Wavvon.Events.Deletion
import Wavvon.Events.Listing
import Wavvon.Events.Punctual
import Wavvon.Events.Silence
import Wavvon.Events.Tallies
import Wavvon.Farm.Forwarding
import Wavvon.Farm.PortsApart
import Wavvon.Farm.Recognition
import Wavvon.Farm.ResponseHead
import Wavvon.Farm.SecondFactor
import Wavvon.Farm.Serials
import Wavvon.Farm.SlugRuns
import Wavvon.Farm.Supervised
import Wavvon.Forum.Counts
import Wavvon.Hub.Ownership
import Wavvon.Hub.RateLimit
import Wavvon.Identity.Devices
import Wavvon.Identity.PairingRuns
import Wavvon.Identity.PersonalState
import Wavvon.Identity.Retention
import Wavvon.Invites.Limits
import Wavvon.Invites.StaleGrants
import Wavvon.Moderation.BanlistLaws
import Wavvon.Moderation.Outlasting
import Wavvon.Moderation.Spellings
import Wavvon.Outbound.Attributes
import Wavvon.Outbound.PreviewImages
import Wavvon.Outbound.Webhooks
import Wavvon.Paging.Walks
import Wavvon.Presence.Online
import Wavvon.Recovery.Thresholds
import Wavvon.Search.Current
import Wavvon.Socket.Delivery
import Wavvon.Socket.MiniApp
import Wavvon.Socket.ScreenShare
import Wavvon.Soundboard.Clips
import Wavvon.Surveys.Refused
import Wavvon.Voice.Admission
import Wavvon.Voice.Devices
import Wavvon.Voice.Loss
import Wavvon.Voice.Sealing
import Wavvon.Voice.SenderIds
import Wavvon.Voice.SessionSlots
import Wavvon.Voice.TempRooms

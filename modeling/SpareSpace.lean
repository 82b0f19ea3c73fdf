import SpareSpace.AccountObservations
import SpareSpace.ActiveSearch
import SpareSpace.AdminAuthority
import SpareSpace.AvailabilityTexts
import SpareSpace.Base64Texts
import SpareSpace.BookingAtomicity
import SpareSpace.BookingCallsAlone
import SpareSpace.BookingLists
import SpareSpace.BookingStatusMachine
import SpareSpace.BookingTerms
import SpareSpace.CacheKeyFamilies
import SpareSpace.CachePatterns
import SpareSpace.ChatAccess
import SpareSpace.ChatGateway
import SpareSpace.ChatOutcomes
import SpareSpace.ChatService
import SpareSpace.CompletionRetries
import SpareSpace.ConversationCalls
import SpareSpace.ConversationPreviews
import SpareSpace.ConversationRequests
import SpareSpace.DoubleBooking
import SpareSpace.EntityCaches
import SpareSpace.EntityClasses
import SpareSpace.EscrowProgress
import SpareSpace.EscrowSettlement
import SpareSpace.FreeTime
import SpareSpace.GlobPatterns
import SpareSpace.LatestUpdates
import SpareSpace.ListFilters
import SpareSpace.ListingAvailability
import SpareSpace.ListingSearch
import SpareSpace.ListingShowcase
import SpareSpace.ListingUpdates
import SpareSpace.MessageBulkChecks
import SpareSpace.MessageCalls
import SpareSpace.MoneyConservation
import SpareSpace.NamedRows
import SpareSpace.NotificationDeliveries
import SpareSpace.NotificationInbox
import SpareSpace.NotificationRoutes
import SpareSpace.NotificationsService
import SpareSpace.OwnerSpends
import SpareSpace.PagedQueries
import SpareSpace.PhoneProof
import SpareSpace.PhoneSpellings
import SpareSpace.PlanCaches
import SpareSpace.PresenceGateway
import SpareSpace.ProfileConflicts
import SpareSpace.PushTokens
import SpareSpace.RatingAggregates
import SpareSpace.RecoveryRaces
import SpareSpace.RefreshCalls
import SpareSpace.RefreshCallsAlone
import SpareSpace.RelatedCalls
import SpareSpace.RentalEnds
import SpareSpace.ReviewCaches
import SpareSpace.ReviewCalls
import SpareSpace.ReviewsService
import SpareSpace.SecondFactor
import SpareSpace.SecondFactorRegister
import SpareSpace.SecretEnvelope
import SpareSpace.ServiceTraces
import SpareSpace.ShowcaseAccess
import SpareSpace.ShowcaseViews
import SpareSpace.SocketAuthentication
import SpareSpace.StartRetries
import SpareSpace.SubscriptionCalls
import SpareSpace.SubscriptionPlans
import SpareSpace.TelegramAuthority
import SpareSpace.TelegramBot
import SpareSpace.TelegramButtons
import SpareSpace.TelegramLinks
import SpareSpace.TelegramPagination
import SpareSpace.TelegramReactions
import SpareSpace.TelegramRelinking
import SpareSpace.TelegramTokens
import SpareSpace.UserCallsAlone
import SpareSpace.UserEndpoints
import SpareSpace.UserUpdates
import SpareSpace.WalletOverflow
import SpareSpace.WalletStatement
import SpareSpace.WalletUniqueness

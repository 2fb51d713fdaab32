import NewsCentral.EventLoop.Program
import NewsCentral.Dart.Heap
import NewsCentral.Dart.Json
import NewsCentral.Dart.JsonText
import NewsCentral.Dart.JsonRead
import NewsCentral.Dart.JsonRoundTrip
import NewsCentral.Models.BlogNews
import NewsCentral.Models.User
import NewsCentral.Services.WordPress
import NewsCentral.Services.LocalStorage
import NewsCentral.Services.Logins
import NewsCentral.Session.Program
import NewsCentral.Session.Restart
import NewsCentral.Session.Turns
import NewsCentral.Session.Flag
import NewsCentral.Session.Credentials
import NewsCentral.Session.Token
import NewsCentral.EventLoop.WriteBehind
import NewsCentral.Session.Stores
import NewsCentral.Wishlist.Program
import NewsCentral.Wishlist.Durability
import NewsCentral.EventLoop.Compose
import NewsCentral.Wishlist.Isolation
import NewsCentral.Models.Notification
import NewsCentral.Lists.Keyed
import NewsCentral.Notifications.Program
import NewsCentral.Notifications.Stored
import NewsCentral.Notifications.Kept
import NewsCentral.Notifications.Shown
import NewsCentral.Posts.Program
import NewsCentral.Posts.Gapless
import NewsCentral.Posts.Selection
import NewsCentral.Search.Program
import NewsCentral.Search.Latest
import NewsCentral.Lists.Recent
import NewsCentral.Search.Keywords
import NewsCentral.Lists.Digits
import NewsCentral.Dart.DateTime
import NewsCentral.EventLoop.Outbox
import NewsCentral.Chat.Program
import NewsCentral.Chat.Rooms
import NewsCentral.Chat.Typing
import NewsCentral.Chat.Preview
import NewsCentral.Dart.Calendar
import NewsCentral.Lists.Sorted
import NewsCentral.Chat.Transcript
import NewsCentral.Chat.Device
import NewsCentral.Chat.Identity
import NewsCentral.Login.Program
import NewsCentral.Login.Ends
import NewsCentral.EventLoop.Restart
import NewsCentral.Launch.Program
import NewsCentral.Launch.Onboarding
import NewsCentral.Launch.Welcome
import NewsCentral.Launch.Gate
import NewsCentral.Launch.Gated
import NewsCentral.Language.Program
import NewsCentral.Language.Together
import NewsCentral.Language.Restart
import NewsCentral.Home.Sections
import NewsCentral.Lists.Pages
import NewsCentral.Videos.Program
import NewsCentral.Videos.Prefix
import NewsCentral.Home.Vertical
import NewsCentral.Blogs.ListView
import NewsCentral.Search.Results
import NewsCentral.Wishlist.Restart
import NewsCentral.Dart.Members
import NewsCentral.Videos.Codec
import NewsCentral.Categories.Program
import NewsCentral.Categories.Reach
import NewsCentral.Lists.Written
import NewsCentral.Categories.Latest
import NewsCentral.Wishlist.Hearts
import NewsCentral.EventLoop.Rest
import NewsCentral.Screens.Rest
import NewsCentral.Text.Pattern
import NewsCentral.Dart.Uri
import NewsCentral.Common.VideoLink
import NewsCentral.Dart.UriComponent
import NewsCentral.Dart.UriQuery
import NewsCentral.Login.Sent
import NewsCentral.Text.AllMatches
import NewsCentral.Services.QueryString
import NewsCentral.Search.Sent
import NewsCentral.Lists.Units
import NewsCentral.Common.TimeAgo
import NewsCentral.Lists.Bounded
import NewsCentral.Blogs.Recent
import NewsCentral.Lists.Insertions
import NewsCentral.Wishlist.Ordered
import NewsCentral.Blogs.Sliders
import NewsCentral.Categories.TabView
import NewsCentral.Categories.Menu
import NewsCentral.Models.Decoded
import NewsCentral.Home.SectionPosts
import NewsCentral.Posts.Submission
import NewsCentral.Login.Registration
import NewsCentral.Language.Loads
import NewsCentral.Home.Instagram
import NewsCentral.Dart.Integers
import NewsCentral.Home.DeepLinks
import NewsCentral.Home.MainTabs
import NewsCentral.Chat.Delivery
import NewsCentral.Search.Screen
import NewsCentral.Search.Delegate
import NewsCentral.EventLoop.Durable
import NewsCentral.Session.Crash
import NewsCentral.Posts.Exhaustion
import NewsCentral.Videos.Channel
import NewsCentral.Categories.FilterPanel
import NewsCentral.Wishlist.Crash
import NewsCentral.Videos.Exhaustion
import NewsCentral.EventLoop.Animation
import NewsCentral.Login.Phone
import NewsCentral.Search.Crash
import NewsCentral.Chat.Indicator
import NewsCentral.Chat.Seen
import NewsCentral.Chat.Bubbles
import NewsCentral.Notifications.Crash
import NewsCentral.Lists.Follows
import NewsCentral.Login.Buttons

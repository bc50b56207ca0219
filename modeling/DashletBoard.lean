import DashletBoard.Backend
import DashletBoard.Board
import DashletBoard.Board.Tab
import DashletBoard.BuildServer.Client
import DashletBoard.BuildServer.Crumb
import DashletBoard.BuildServer.Exchange
import DashletBoard.BuildServer.Wire
import DashletBoard.Chart
import DashletBoard.Dashlet
import DashletBoard.Dashlet.Record
import DashletBoard.EditForm
import DashletBoard.EditForm.Record
import DashletBoard.Grid
import DashletBoard.Http.Address
import DashletBoard.Http.HostNumber
import DashletBoard.Http.MediaType
import DashletBoard.Http.Message
import DashletBoard.Http.SocketAddress
import DashletBoard.Http.Status
import DashletBoard.Http.Wire
import DashletBoard.Json.Draft
import DashletBoard.Json.Number
import DashletBoard.Json.Record
import DashletBoard.Json.Value
import DashletBoard.Main
import DashletBoard.Navigator
import DashletBoard.Number.Binary64
import DashletBoard.Number.FloatText
import DashletBoard.Number.Power
import DashletBoard.Number.Shortest
import DashletBoard.Overview
import DashletBoard.Position
import DashletBoard.Proofs.FreeCell
import DashletBoard.Proofs.BandRoom
import DashletBoard.Proofs.ServerAddresses
import DashletBoard.Proofs.Endpoints
import DashletBoard.Proofs.CrumbProtocol
import DashletBoard.Proofs.JsonSpelling
import DashletBoard.Proofs.JsonGrammar
import DashletBoard.Proofs.JsonReading
import DashletBoard.Proofs.RecordReading
import DashletBoard.Proofs.PositionOrder
import DashletBoard.Service
import DashletBoard.Service.Route
import DashletBoard.Settings
import DashletBoard.Settings.Setting
import DashletBoard.Settings.Toml.Document
import DashletBoard.Settings.Toml.Scalar
import DashletBoard.Startup
import DashletBoard.Text.Base64
import DashletBoard.Text.Blank
import DashletBoard.Text.Dictionary
import DashletBoard.Text.Digits
import DashletBoard.Text.Form
import DashletBoard.Text.Percent
import DashletBoard.Text.Pieces
import DashletBoard.Text.Utf8
import DashletBoard.Proofs.GridCells
import DashletBoard.Proofs.BoardRuns
import DashletBoard.Proofs.TabEffects
import DashletBoard.Proofs.TabLoading
import DashletBoard.Proofs.BoardSoundness
import DashletBoard.Proofs.RecordStores
import DashletBoard.Proofs.SaveReload
import DashletBoard.Proofs.LoadedRecords
import DashletBoard.Proofs.UntouchedSave
import DashletBoard.Proofs.FailedOperations
import DashletBoard.Proofs.LatestLoads
import DashletBoard.Proofs.CancelledEdits
import DashletBoard.Proofs.ModeDiscipline
import DashletBoard.Proofs.SeparateParts
import DashletBoard.Proofs.TabIsolation
import DashletBoard.Proofs.RecordTexts
import DashletBoard.Proofs.EndingCommands
import DashletBoard.Proofs.ServiceRequests
import DashletBoard.Proofs.TransparentRequests
import DashletBoard.Proofs.ServiceRefinement
import DashletBoard.Proofs.TabSelection
import DashletBoard.Proofs.DeepLinks
import DashletBoard.Proofs.MeasureLists
import DashletBoard.Proofs.EscapedTexts
import DashletBoard.Proofs.ServerQuestions
import DashletBoard.Proofs.CallPaths
import DashletBoard.Proofs.KnownTabs
import DashletBoard.Proofs.BandScan
import DashletBoard.Proofs.ConcurrentLoads
import DashletBoard.Proofs.SettingTables
import DashletBoard.Proofs.SettingLeaves
import DashletBoard.Proofs.SettingPaths
import DashletBoard.Proofs.SettingOrders
import DashletBoard.Proofs.SettingLayers
import DashletBoard.Proofs.SettingTexts
import DashletBoard.Proofs.ByteOrder
import DashletBoard.Proofs.FormUpdates
import DashletBoard.Proofs.RepeatedRequests
import DashletBoard.Proofs.EditStarts
import DashletBoard.Proofs.ContestedCells
import DashletBoard.Proofs.AddedWidgets
import DashletBoard.Proofs.ChartUrls
import DashletBoard.Proofs.WidgetKinds
import DashletBoard.Proofs.StableOrder
import DashletBoard.Proofs.UndoneMoves
import DashletBoard.Proofs.TabAddresses
import DashletBoard.Proofs.FirstOccurrences
import DashletBoard.Proofs.CarouselFragments

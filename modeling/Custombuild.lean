import Custombuild.Api.FurnitureProduction
import Custombuild.Cam.DepthLevels
import Custombuild.Cam.Partition
import Custombuild.Cam.SafeLap
import Custombuild.Cam.Tabs
import Custombuild.Domain.GrooveFit
import Custombuild.Domain.Insertion
import Custombuild.Domain.OpenDrawers
import Custombuild.Jobs.Outbox
import Custombuild.Leases.Agreement
import Custombuild.Manufacturing.PublishedSchemas
import Custombuild.Manufacturing.Registration
import Custombuild.Manufacturing.StockAssignment
import Custombuild.Manufacturing.StockPlanning
import Custombuild.Package.ExactArchive
import Custombuild.Postprocessors.Emitted
import Custombuild.Postprocessors.ProfileRoundTrip
import Custombuild.Release.ContentBinding
import Custombuild.Release.SourceManifest
import Custombuild.Retention.Resolution
import Custombuild.Rules.Alignment
import Custombuild.Rules.Improving
import Custombuild.Rules.RowLoad
import Custombuild.Storage.Gate
import Custombuild.Storage.ReapWorld
import Custombuild.Storage.Retirement
import Custombuild.Web.AutomaticFix
import Custombuild.Web.ModulePlanExact
import Custombuild.Web.SheetNesting
import Custombuild.Web.WorkshopContract
import Custombuild.Worker.NotePages
import Custombuild.Workshop.Trust

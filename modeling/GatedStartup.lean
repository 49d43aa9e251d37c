import GatedStartup.Json.Access
import GatedStartup.Json.Ordered
import GatedStartup.Main
import GatedStartup.Proofs.DryRun
import GatedStartup.Proofs.LiveRealms
import GatedStartup.Proofs.Rollback
import GatedStartup.Proofs.Shutdown
import GatedStartup.Proofs.Standing
import GatedStartup.Property.Edit
import GatedStartup.Scripted.Answers
import GatedStartup.Scripted.Files
import GatedStartup.Scripted.Session
import GatedStartup.Proofs.SharedSlot
import GatedStartup.Proofs.IndexHistory
import GatedStartup.Proofs.Crowd
import GatedStartup.Proofs.SharedIndex
import GatedStartup.Proofs.Repetition
import GatedStartup.Proofs.Enforcement
import GatedStartup.Proofs.StagePass
import GatedStartup.Proofs.StageTally
import GatedStartup.Proofs.Leftovers
import GatedStartup.Proofs.PropertiesReader
import GatedStartup.Proofs.ReadBack
import GatedStartup.Proofs.RealmHistory
import GatedStartup.Proofs.Consultation
import GatedStartup.Proofs.Secrets
import GatedStartup.Proofs.EngineMemory
import GatedStartup.Proofs.HistoryFree
import GatedStartup.Proofs.Preview
import GatedStartup.Proofs.CatalogueHistory
import GatedStartup.Proofs.Interchange
import GatedStartup.Proofs.RegionPaths
import GatedStartup.Proofs.WholeCatalogue
import GatedStartup.Proofs.Authentication
import GatedStartup.Proofs.RegionHistory
import GatedStartup.Proofs.StoreHistory
import GatedStartup.Proofs.TidyNames
import GatedStartup.Proofs.SecurityProperties
import GatedStartup.Proofs.TextLines
import GatedStartup.Proofs.Integrations
import GatedStartup.Proofs.ChainQueries
import GatedStartup.Proofs.Registrations
import GatedStartup.Proofs.EditHistory
import GatedStartup.Proofs.PropertyJson
import GatedStartup.Proofs.DocumentReading
import GatedStartup.Proofs.WrittenAttributes

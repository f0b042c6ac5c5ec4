import LearnExport.Config.DatabaseUrl
import LearnExport.Http.Service
import LearnExport.Json.Reader
import LearnExport.Label.Input
import LearnExport.Proofs.Format.Parameter
import LearnExport.Proofs.Format.Quality
import LearnExport.Proofs.Format.Rewriting
import LearnExport.Proofs.Http.Bundle
import LearnExport.Proofs.Http.Faults
import LearnExport.Proofs.Http.NonInterference
import LearnExport.Proofs.Http.Precedence
import LearnExport.Proofs.Http.Retrieval
import LearnExport.Proofs.Label.RoundTrip
import LearnExport.Proofs.Number.NearestDouble
import LearnExport.Proofs.Render.EventRows
import LearnExport.Proofs.Render.Faults
import LearnExport.Proofs.Render.SheetGrid
import LearnExport.Proofs.Schema.History
import LearnExport.Proofs.Store.Agreement
import LearnExport.Proofs.Store.Completeness
import LearnExport.Proofs.Store.Credits
import LearnExport.Proofs.Store.EntryOrder
import LearnExport.Proofs.Store.Erasure
import LearnExport.Proofs.Store.JoinedListing
import LearnExport.Proofs.Store.RelationColumns
import LearnExport.Store.Memory
import LearnExport.Store.Relational

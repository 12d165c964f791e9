import RecordSchema.Main
import RecordSchema.Proofs.ArenaTree
import RecordSchema.Proofs.CheckedValues
import RecordSchema.Proofs.ColumnNames
import RecordSchema.Proofs.DefaultInsert
import RecordSchema.Proofs.DistinctColumns
import RecordSchema.Proofs.DocumentFields
import RecordSchema.Proofs.ErrorPhases
import RecordSchema.Proofs.Independence
import RecordSchema.Proofs.ItemChecks
import RecordSchema.Proofs.LeafListing
import RecordSchema.Proofs.LeafOrder
import RecordSchema.Proofs.Mirror
import RecordSchema.Proofs.NullParameters
import RecordSchema.Proofs.PathKinds
import RecordSchema.Proofs.PathParts
import RecordSchema.Proofs.ProducerRuns
import RecordSchema.Proofs.ProgramRuns
import RecordSchema.Proofs.RecordSpelling
import RecordSchema.Proofs.Reports
import RecordSchema.Proofs.SavedConfig
import RecordSchema.Proofs.Shorthands
import RecordSchema.Proofs.StableValues
import RecordSchema.Proofs.StorageForms
import RecordSchema.Settings

import FilterQuery.Main
import FilterQuery.ParseTree.Builder
import FilterQuery.ParseTree.Reading
import FilterQuery.Proofs.AfterFailure
import FilterQuery.Proofs.Blame
import FilterQuery.Proofs.Clauses
import FilterQuery.Proofs.Commands
import FilterQuery.Proofs.ExactLiterals
import FilterQuery.Proofs.InclusiveRange
import FilterQuery.Proofs.Isolation
import FilterQuery.Proofs.Json.Schema
import FilterQuery.Proofs.LastChange
import FilterQuery.Proofs.MembershipSets
import FilterQuery.Proofs.Places
import FilterQuery.Proofs.Queues
import FilterQuery.Proofs.Schedule
import FilterQuery.Proofs.SchemaGrowth
import FilterQuery.Proofs.Surplus
import FilterQuery.Proofs.WrittenValues

import QueryTemplate.Main
import QueryTemplate.Query.Session
import QueryTemplate.Service.Answer
import QueryTemplate.Proofs.Editing
import QueryTemplate.Proofs.Escaping
import QueryTemplate.Proofs.Scanning
import QueryTemplate.Proofs.Passes
import QueryTemplate.Proofs.Substitution
import QueryTemplate.Proofs.Splitting
import QueryTemplate.Proofs.Identifiers
import QueryTemplate.Proofs.Arrays
import QueryTemplate.Proofs.Scalars
import QueryTemplate.Proofs.Blocks
import QueryTemplate.Proofs.Characters
import QueryTemplate.Proofs.TemplateBlocks
import QueryTemplate.Proofs.Survivors
import QueryTemplate.Proofs.Candidates
import QueryTemplate.Proofs.Runs
import QueryTemplate.Proofs.Marks
import QueryTemplate.Proofs.Literals
import QueryTemplate.Proofs.Acceptance
import QueryTemplate.Proofs.Names
import QueryTemplate.Proofs.Recording
import QueryTemplate.Proofs.Outcomes
import QueryTemplate.Proofs.Surplus
import QueryTemplate.Proofs.TwoRuns
import QueryTemplate.Proofs.MissingValues
import QueryTemplate.Proofs.Discretion
import QueryTemplate.Proofs.Reordering
import QueryTemplate.Proofs.Seams
import QueryTemplate.Proofs.Concatenation
import QueryTemplate.Proofs.Registration
import QueryTemplate.Proofs.Caching
import QueryTemplate.Proofs.Loggers
import QueryTemplate.Proofs.Programs
import QueryTemplate.Proofs.Commands
import QueryTemplate.Proofs.Agreement
import QueryTemplate.Proofs.Registered
import QueryTemplate.Proofs.Resolution
import QueryTemplate.Proofs.Objects
import QueryTemplate.Proofs.Sessions

import Screening.Main
import Screening.Predicate.Encoding
import Screening.Proofs.Accounting
import Screening.Proofs.Groups
import Screening.Proofs.Salvage
import Screening.Worker
import Screening.Proofs.Layout
import Screening.Proofs.Sorted
import Screening.Proofs.Responses
import Screening.Proofs.Depth
import Screening.Proofs.Encoded
import Screening.Proofs.Compiled
import Screening.Proofs.Fields
import Screening.Proofs.Exchange
import Screening.Proofs.Refiltering
import Screening.Proofs.Conjunction
import Screening.Proofs.Batches
import Screening.Proofs.Lists
import Screening.Proofs.Schedules
import Screening.Proofs.Independence
import Screening.Proofs.Thresholds
import Screening.Proofs.Alternatives
import Screening.Proofs.Faults
import Screening.Proofs.NormalForms
import Screening.Proofs.WholeNumbers
import Screening.Proofs.Overflow
import Screening.Proofs.IndexKeys
import Screening.Proofs.Names
import Screening.Proofs.Tickets

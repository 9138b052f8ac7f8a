import Strata.Execution
import Strata.Predicate.Sql
import Strata.Predicate.Wire
import Strata.Proofs.Folding
import Strata.Proofs.Connectives
import Strata.Proofs.Criteria
import Strata.Proofs.Narrowing
import Strata.Proofs.Approximation
import Strata.Proofs.Exactness
import Strata.Proofs.Planning
import Strata.Proofs.Answers
import Strata.Proofs.Executing
import Strata.Proofs.StoreAnswers
import Strata.Proofs.Ties
import Strata.Proofs.Rewriting
import Strata.Proofs.Tightening
import Strata.Proofs.Walking
import Strata.Proofs.Indifference
import Strata.Proofs.Occurrence
import Strata.Proofs.RankedForm
import Strata.Proofs.Division
import Strata.Proofs.StoreLookups
import Strata.Proofs.Storage
import Strata.Proofs.Insertion
import Strata.Proofs.Scopes
import Strata.Proofs.Identities
import Strata.Proofs.Constants
import Strata.Proofs.EmptyLists
import Strata.Proofs.Unambiguous
import Strata.Proofs.PredicateTexts
import Strata.Proofs.StoreTexts
import Strata.Proofs.Exclusion
import Strata.Proofs.Splitting

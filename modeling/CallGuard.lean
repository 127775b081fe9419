import CallGuard.Catalog.Samples
import CallGuard.Condition
import CallGuard.Guard
import CallGuard.Invocation
import CallGuard.Proofs.Breaker.Effects
import CallGuard.Proofs.Breaker.Interleaving
import CallGuard.Proofs.Breaker.LateOutcomes
import CallGuard.Proofs.Breaker.Opening
import CallGuard.Proofs.Breaker.Permits
import CallGuard.Proofs.Breaker.Resets
import CallGuard.Proofs.Breaker.Traffic
import CallGuard.Proofs.Breaker.Transitions
import CallGuard.Proofs.Breaker.Verdicts
import CallGuard.Proofs.Bulkhead.Deadlines
import CallGuard.Proofs.Bulkhead.Interleaving
import CallGuard.Proofs.Bulkhead.Queueing
import CallGuard.Proofs.Bulkhead.Reports
import CallGuard.Proofs.Chain.Declarations
import CallGuard.Proofs.Chain.Law
import CallGuard.Proofs.Context.Fetching
import CallGuard.Proofs.Context.Requests
import CallGuard.Proofs.Context.Series
import CallGuard.Proofs.Context.Sharing
import CallGuard.Proofs.Exceptions.Mapping
import CallGuard.Proofs.Fallback.Answers
import CallGuard.Proofs.Limiter.Filling
import CallGuard.Proofs.Limiter.Reading
import CallGuard.Proofs.Limiter.Waiting
import CallGuard.Proofs.Limiter.Words
import CallGuard.Proofs.Parity.Shapes
import CallGuard.Proofs.Proxy.Caching
import CallGuard.Proofs.Proxy.Scheduling
import CallGuard.Proofs.Proxy.Signatures
import CallGuard.Proofs.Proxy.Visibility
import CallGuard.Proofs.Registry.Lookups
import CallGuard.Proofs.Retry.Attempts
import CallGuard.Proofs.Retry.Counters
import CallGuard.Session.Solo
